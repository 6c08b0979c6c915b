import RemoteStreams.Session.Operations

/-!
# The link

Streams reach the session over a link. Its calls are those of the session, but
each is counted among the calls of the remote side and may meet a fault.
-/

namespace RemoteStreams

namespace Link

/-- Connects the session. -/
def connect : RemoteAction Unit := do
  let _ ← Remote.announce .connect
  Session.connect

/-- Opens an object. -/
def openObject (path : String) (mode : OpenMode) : RemoteAction ObjectId := do
  let _ ← Remote.announce (.openObject path mode)
  Session.openObject path mode

/-- Creates an object. -/
def createObject (path : String) : RemoteAction ObjectId := do
  let _ ← Remote.announce (.createObject path)
  Session.createObject path

/-- Reads into `buffer`. -/
def readObject (object : ObjectId) (buffer : Bytes) : RemoteAction (Nat × Bytes) := do
  let fault ← Remote.announce (.readObject object buffer.length)
  let (count, filled) ← Session.readObject object (Fault.travelling fault buffer)
  pure (Fault.reported fault count, buffer.overlay 0 filled)

/-- Writes `data`. -/
def writeObject (object : ObjectId) (data : Bytes) : RemoteAction Nat := do
  let fault ← Remote.announce (.writeObject object data)
  let count ← Session.writeObject object (Fault.travelling fault data)
  pure (Fault.reported fault count)

/-- Moves the position of an object. -/
def seekObject (object : ObjectId) (target : SeekTarget) : RemoteAction Nat := do
  let fault ← Remote.announce (.seekObject object target)
  let position ← Session.seekObject object target
  pure (Fault.reported fault position)

/-- The position of an object. -/
def position (object : ObjectId) : RemoteAction Nat := do
  let fault ← Remote.announce (.position object)
  let position ← Session.position object
  pure (Fault.reported fault position)

/-- Closes an object. -/
def closeObject (object : ObjectId) : RemoteAction Unit := do
  let _ ← Remote.announce (.closeObject object)
  Session.closeObject object

/-- Disconnects the session. -/
def disconnect : RemoteAction Unit := do
  let _ ← Remote.announce .disconnect
  Session.disconnect

end Link

end RemoteStreams
