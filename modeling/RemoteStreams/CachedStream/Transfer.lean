import RemoteStreams.CachedStream.Flush

/-!
# Reading and writing

Reads are served from the window as far as it goes. For the rest the window is
refilled, grown first if it is small for the request, or, if no window may grow
that large, the bytes are read straight into the caller's buffer. Writes go into
the window; when it is full it is written back, and the rest goes into the empty
window or, if that may not grow so large, straight to the object.

Bytes that the window has delivered or accepted count even if what follows
fails. The failure is then left for the next request.
-/

namespace RemoteStreams

namespace CachedStream

/-- Lets the empty window begin where the object is after `moved` bytes went
around it. If the object does not tell, they are added to where it began. -/
def anchorAfterDirect (moved : Nat) : StreamAction Unit := do
  let stream ← current
  let answer ← (onRemote (Link.position stream.object)).attempt
  match answer with
  | .ok position => modify fun stream => { stream with base := position }
  | .error cause => do
      note (.positionUnknown stream.path moved cause)
      let base ← Word.add stream.base moved
      modify fun stream => { stream with base }

/-- Refills the used-up window from where the object is. -/
def fill : StreamAction Unit := do
  requireSettled
  let stream ← current
  let position ← ask (Link.position stream.object)
  anchor position
  let (count, filled) ← ask (Link.readObject stream.object stream.window.data)
  onWindow (Window.accept filled count)
  modify fun stream => { stream with synced := count }

/-- Reads around the used-up window. -/
def readDirect (buffer : Bytes) : StreamAction (Nat × Bytes) := do
  let stream ← current
  note (.readBypasses stream.path buffer.length)
  requireSettled
  let base ← tell
  anchor base
  let (count, filled) ← ask (Link.readObject stream.object buffer)
  anchorAfterDirect count
  pure (count, filled)

/-- Reads once the window is used up. -/
def fetch (buffer : Bytes) : StreamAction (Nat × Bytes) := do
  let stream ← current
  if stream.window.limit < roomFor buffer.length then
    readDirect buffer
  else do
    grow (roomFor buffer.length)
    fill
    let taken ← onWindow (Window.take buffer.length)
    pure (taken.length, buffer.overlay 0 taken)

/-- Fetches the rest of a read of which the window delivered `cached` bytes. If
that fails it is an error only if the window delivered none. -/
def fetchRest (cached : Nat) (buffer : Bytes) : StreamAction (Nat × Bytes) := do
  let answer ← (fetch buffer).attempt
  match answer with
  | .ok fetched => pure fetched
  | .error cause =>
      if cached = 0 then
        .fail cause
      else do
        let stream ← current
        note (.fetchFailed stream.path cached cause)
        pure (0, buffer)

/-- Reads into `buffer`. Delivers the number of bytes read and the buffer with
them at its front; the number is smaller than the buffer only at the end of the
object, or if the rest could not be fetched. -/
def read (buffer : Bytes) : StreamAction (Nat × Bytes) :=
  if buffer = [] then
    pure (0, buffer)
  else do
    flush
    let cached ← onWindow (Window.take buffer.length)
    if cached.length = buffer.length then
      pure (cached.length, cached)
    else do
      let (fetched, rest) ← fetchRest cached.length (buffer.drop cached.length)
      let stream ← current
      note (.readServed stream.path cached.length fetched)
      let count ← Word.add cached.length fetched
      pure (count, cached ++ rest)

/-- Empties the clean window and lets it begin where the object is. -/
def rebase : StreamAction Unit := do
  requireClean
  let stream ← current
  let position ← ask (Link.position stream.object)
  anchor position

/-- Makes the window large enough for `count` bytes, which its limit allows. -/
def makeRoom (count : Nat) : StreamAction Unit := do
  let stream ← current
  if stream.window.capacity < count then
    grow (min (roomFor count) stream.window.limit)
  else
    pure ()

/-- Writes the full window back and then takes `rest`. -/
def writePastWindow (rest : Bytes) : StreamAction Nat := do
  flush
  rebase
  let stream ← current
  if stream.window.limit < rest.length then do
    note (.writeBypasses stream.path rest.length)
    let count ← ask (Link.writeObject stream.object rest)
    anchorAfterDirect count
    pure count
  else do
    makeRoom rest.length
    modify fun stream => { stream with dirty := true }
    let count ← onWindow (Window.put rest)
    .ensure (count = rest.length) .windowTooSmall
    pure count

/-- Writes the rest of what did not fit into the window, of which it took
`cached` bytes. If that fails it is an error only if the window took none. -/
def writeRest (cached : Nat) (rest : Bytes) : StreamAction Nat := do
  let answer ← (writePastWindow rest).attempt
  match answer with
  | .ok written => Word.add cached written
  | .error cause =>
      if cached = 0 then
        .fail cause
      else do
        let stream ← current
        note (.overflowFailed stream.path cached cause)
        pure cached

/-- Writes `data` and delivers the number of bytes that were accepted. -/
def write (data : Bytes) : StreamAction Nat :=
  if data = [] then
    pure 0
  else do
    let cached ← onWindow (Window.put data)
    modify fun stream => { stream with dirty := stream.dirty || cached ≠ 0 }
    if cached = data.length then
      pure cached
    else
      writeRest cached (data.drop cached)

/-- Writes one byte and delivers it. -/
def putByte (byte : UInt8) : StreamAction UInt8 := do
  let _ ← write [byte]
  pure byte

/-- Reads one byte; there is none at the end of the object. -/
def getByte : StreamAction (Option UInt8) := do
  let (count, buffer) ← read [0]
  if count = 0 then pure none else pure buffer.head?

end CachedStream

end RemoteStreams
