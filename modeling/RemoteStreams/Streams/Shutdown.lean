import RemoteStreams.Streams.Operations

/-!
# Shutdown

A shutdown closes all cached streams and disconnects the session. No stream is
left out because another one failed. If the session cannot be disconnected, that
is the error of the shutdown, else it is the first error of a stream.
-/

namespace RemoteStreams

namespace Streams

/-- Closes up to `count` cached streams, lowest ids first, and delivers the first error. -/
def closeLowest : (count : Nat) → StreamsAction (Option StreamError)
  | 0 => pure none
  | count + 1 => do
      let streams ← .get
      match streams.table.lowest? with
      | none => pure none
      | some (stream, entry) => do
          .set (streams.withTable (streams.table.release stream))
          let answer ← (onRemote entry.close).attempt
          match answer with
          | .ok () => closeLowest count
          | .error cause => do
              note (.closeFailed stream cause)
              let _ ← closeLowest count
              pure (some cause)

/-- Closes every cached stream and disconnects the session. -/
def shutdown : StreamsAction Unit := do
  let streams ← .get
  let first ← closeLowest streams.table.capacity
  ask Link.disconnect
  match first with
  | some cause => .fail cause
  | none => pure ()

/-- The streams of a program that is gone: every cached stream has gone away without
being closed, lowest ids first. -/
def gone (streams : Streams) : Streams :=
  { streams with
    table := .create streams.table.capacity
    remote := streams.table.slots.foldl
      (fun remote slot => slot.elim remote (·.dropped remote)) streams.remote }

/-- Shuts down and delivers the exit status that `code` leaves. -/
def finish (code : Int) : Action Streams Empty Nat := do
  note (.terminating code)
  let answer ← shutdown.attempt
  match answer with
  | .ok () => pure ()
  | .error cause => note (.shutdownFailed cause)
  pure (code % 256).toNat

/-- Ends a program with `code` after a shutdown. If a check fails on the way, the
program is gone with the streams that were not closed yet. -/
def terminate (code : Int) : Action Streams Empty Nat := fun streams =>
  match finish code streams with
  | (.broken breach, streams) => (.broken breach, streams.gone)
  | ended => ended

/-- The exit status of a program whose end had this outcome. A program that is
abandoned by a breach leaves a status of its own. -/
def exitStatus : Outcome Empty Nat → Nat
  | .ok status => status
  | .error never => nomatch never
  | .broken _ => 101

end Streams

end RemoteStreams
