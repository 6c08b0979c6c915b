import RemoteStreams.CachedStream.Flush

/-!
# Opening and closing

A cached stream is opened on an object, which is created if it is to be written
and does not exist. Closing writes the window back and closes the object, even
if the window could not be written back; the first error is reported.
-/

namespace RemoteStreams

namespace CachedStream

/-- Opens an object; for writing, it is created if there is none. -/
def openOrCreate (path : String) (mode : OpenMode) : RemoteAction ObjectId := do
  let answer ← (Link.openObject path mode).attempt
  match answer with
  | .ok object => pure object
  | .error (.notFound missing reason) =>
      if mode = .write then Link.createObject path else .fail (.notFound missing reason)
  | .error cause => .fail cause

/-- Closes an object that got no window. A failure is reported and nothing more. -/
def abandonObject (path : String) (object : ObjectId) : Action Remote StreamError Unit := do
  let answer ← (Link.closeObject object).attempt
  match answer with
  | .ok () => pure ()
  | .error cause => Remote.note (.orphaned path cause)

/-- Opens a stream on the object that `path` spells. -/
def openStream (path : String) (mode : OpenMode) (sizes : BufferSizes) :
    Action Remote StreamError CachedStream := do
  Remote.note (.openingCached path mode)
  let object ← (openOrCreate path mode).mapError .remote
  let granted ← Remote.request sizes.initial
  match Window.create sizes.initial sizes.max granted with
  | .ok window => pure { object, path, base := 0, window, synced := 0, dirty := false }
  | .error cause => do
      abandonObject path object
      .fail cause
  | .broken breach => .abandon breach

/-- The remote side after the stream has gone away. -/
def dropped (stream : CachedStream) (remote : Remote) : Remote :=
  if stream.dirty then remote.noting (.droppedDirty stream.path stream.window.extent) else remote

/-- Writes the window back and closes the object. -/
def settle : StreamAction Unit := do
  let stream ← current
  note (.closingCached stream.path)
  let flushed ← flush.attempt
  let closed ← (ask (Link.closeObject stream.object)).attempt
  match flushed, closed with
  | .error cause, _ => .fail cause
  | .ok (), .error cause => .fail cause
  | .ok (), .ok () => pure ()

/-- Closes the stream, which is gone afterwards. -/
def close (stream : CachedStream) : Action Remote StreamError Unit := fun remote =>
  let (outcome, attached) := settle ⟨stream, remote⟩
  (outcome, attached.stream.dropped attached.remote)

end CachedStream

end RemoteStreams
