import RemoteStreams.CachedStream.Flush

/-!
# Seeking

A seek within the window moves its cursor only. Any other writes the window back
and moves the object. The object may be ahead of the stream, so a seek relative
to the current position is resolved here before the object is asked to move.
-/

namespace RemoteStreams

namespace CachedStream

/-- The shift of the cursor that leads to `target`, if that lies in the window. -/
def localShift (target : SeekTarget) : StreamAction (Option Int) := do
  let stream ← current
  match target with
  | .start position => do
      let stop ← Word.add stream.base stream.window.extent
      if stream.base ≤ position ∧ position < stop then
        pure (some ((position - stream.base : Nat) - (stream.window.cursor : Int)))
      else
        pure none
  | .current offset =>
      if offset = 0 then
        pure (some 0)
      else if 0 < offset then
        pure (if stream.window.canShift offset then some offset else none)
      else if 0 < offset + stream.window.cursor ∧ stream.window.canShift offset then
        pure (some offset)
      else
        pure none
  | .ending _ => pure none

/-- The same target as `target`, with an offset from the current position made absolute. -/
def resolve (target : SeekTarget) : StreamAction SeekTarget :=
  match target with
  | .current offset => do
      let position ← tell
      match Word.ofInt? (position + offset) with
      | some absolute => pure (.start absolute)
      | none => .fail (.invalidSeek (position + offset))
  | .start position => pure (.start position)
  | .ending offset => pure (.ending offset)

/-- Moves out of the window. -/
def seekObject (target : SeekTarget) : StreamAction Nat := do
  let goal ← resolve target
  flush
  let stream ← current
  let position ← ask (Link.seekObject stream.object goal)
  anchor position
  note (.sought stream.path target position)
  pure position

/-- Moves the position in the stream and delivers it. -/
def seek (target : SeekTarget) : StreamAction Nat := do
  let shift ← localShift target
  match shift with
  | some delta => do
      onWindow (Window.shift delta)
      tell
  | none => seekObject target

end CachedStream

end RemoteStreams
