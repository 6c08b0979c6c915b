import RemoteStreams.CachedStream.Basic

/-!
# Writing windows back

A flush writes the occupied part of a dirty window to the object, at the place
where the window begins. It leaves cursor and window alone, so that a flush that
fails can be repeated.
-/

namespace RemoteStreams

namespace CachedStream

/-- Moves the object back to where the window begins, unless it is there. -/
def rewindObject : StreamAction Unit := do
  let stream ← current
  if stream.synced = 0 then
    pure ()
  else do
    let _ ← ask (Link.seekObject stream.object (.start stream.base))
    modify fun stream => { stream with synced := 0 }

/-- Writes the occupied part of the window to the object, all of it or it is an error. -/
def writeBack : StreamAction Unit := do
  let stream ← current
  let data := stream.window.occupied
  let written ← ask (Link.writeObject stream.object data)
  modify fun stream => { stream with synced := written }
  if written = data.length then do
    note (.flushed stream.path written stream.base)
    modify fun stream => { stream with dirty := false }
  else
    .fail (.remote (.generic (.shortWrite stream.path written data.length)))

/-- Writes the window back if it is dirty. -/
def flush : StreamAction Unit := do
  let stream ← current
  if stream.dirty then do
    rewindObject
    writeBack
  else
    pure ()

end CachedStream

end RemoteStreams
