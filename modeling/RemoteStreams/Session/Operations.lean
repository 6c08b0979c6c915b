import RemoteStreams.Remote

/-!
# Work on a session

Objects are opened by path and then read, written and moved in by id until they
are closed. What was written to an object reaches the store in one piece when
the object is closed; a close that cannot store it leaves the object open, so
that it can be tried again.
-/

namespace RemoteStreams

namespace Session

/-- Connects the session unless it is connected. -/
def connect : RemoteAction Unit := do
  let remote ← .get
  if remote.session.connected then
    pure ()
  else do
    Remote.modifySession fun session => { session with connected := true }
    Remote.note .connected

/-- Fails unless the session is connected. -/
def requireConnection : RemoteAction Unit := do
  let remote ← .get
  if remote.session.connected then pure () else .fail (.generic .notConnected)

/-- The descriptor of an open object. -/
def descriptor (object : ObjectId) : RemoteAction Descriptor := do
  requireConnection
  let remote ← .get
  match remote.session.descriptors.find? object with
  | some descriptor => pure descriptor
  | none => .fail (.generic (.notOpen object))

/-- The location that a path spells. -/
def locate (path : String) : RemoteAction ObjectPath :=
  match ObjectPath.parse path with
  | .ok location => pure location
  | .error fault => .fail (.invalidPath fault)

/-- The size of the object at `location`, asked for only if it is not remembered. -/
def sizeOf (location : ObjectPath) : RemoteAction Nat := do
  let remote ← .get
  match remote.session.sizes.find? location with
  | some size => pure size
  | none => do
      let size ← Remote.size location
      Remote.modifySession (·.remember location size)
      pure size

/-- The content that an object opened in `mode` starts with. -/
def contentFor (location : ObjectPath) (mode : OpenMode) : RemoteAction Content :=
  if mode.writable then do
    let data ← Remote.fetch location
    pure (.staged data false)
  else do
    let size ← sizeOf location
    pure (.recorded size)

/-- Gives a descriptor an id. -/
def register (descriptor : Descriptor) : RemoteAction ObjectId := do
  let remote ← .get
  Remote.modifySession (·.add descriptor)
  pure remote.session.nextObject

/-- Opens the object that `path` spells, which must exist. -/
def openObject (path : String) (mode : OpenMode) : RemoteAction ObjectId := do
  Remote.note (.openingObject path mode)
  let location ← locate path
  requireConnection
  let content ← contentFor location mode
  register { location, mode, position := 0, content }

/-- Stores `data` at `location`, so that a size remembered for it is outdated. -/
def upload (location : ObjectPath) (data : Bytes) : RemoteAction Unit := do
  Remote.put location data
  Remote.modifySession (·.forget location)

/-- Creates an empty object, or empties it, and opens it for writing. -/
def createObject (path : String) : RemoteAction ObjectId := do
  Remote.note (.creatingObject path)
  let location ← locate path
  requireConnection
  upload location []
  register { location, mode := .write, position := 0, content := .staged [] false }

/-- Bytes `start` to `stop` of an open object; more or fewer if its store answers so. -/
def bytesOf (descriptor : Descriptor) (start stop : Nat) : RemoteAction Bytes :=
  match descriptor.content with
  | .recorded _ => Remote.fetchRange descriptor.location start stop
  | .staged data _ => pure (data.slice start stop)

/-- Reads into `buffer` at the position of an open object and moves the position
behind what was read. Delivers the number of bytes read and the buffer with them
at its front; the number is zero at the end of the object. -/
def readObject (object : ObjectId) (buffer : Bytes) : RemoteAction (Nat × Bytes) := do
  let descriptor ← descriptor object
  if !descriptor.mode.readable then
    .fail (.generic (.notReadable object))
  else if descriptor.content.length ≤ descriptor.position ∨ buffer = [] then
    pure (0, buffer)
  else do
    let start := descriptor.position
    let reach ← Word.add start buffer.length
    let answer ← bytesOf descriptor start (min reach descriptor.content.length)
    let read := answer.take buffer.length
    Remote.modifySession (·.update object { descriptor with position := start + read.length })
    Remote.note (.objectRead object read.length start)
    pure (read.length, buffer.overlay 0 read)

/-- Writes `data` at the position of an open object and moves the position behind it. A
write whose end no content can reach is a breach; if its start is in reach, the content
has been touched by then. -/
def writeObject (object : ObjectId) (data : Bytes) : RemoteAction Nat := do
  let descriptor ← descriptor object
  if !descriptor.mode.writable then
    .fail (.generic (.notWritable object))
  else
    match descriptor.content with
    | .recorded _ => .fail (.generic (.nothingStaged object))
    | .staged staged modified =>
        if data = [] then
          pure 0
        else do
          let start := descriptor.position
          .ensure (start < Word.signedBound) .contentTooLarge
          if start + data.length < Word.signedBound then do
            Remote.modifySession (·.update object (descriptor.write staged data))
            Remote.note (.objectWritten object data.length start)
            pure data.length
          else do
            Remote.modifySession (·.update object (descriptor.spilled staged modified data))
            .abandon .contentTooLarge

/-- Moves the position of an open object and delivers it. -/
def seekObject (object : ObjectId) (target : SeekTarget) : RemoteAction Nat := do
  let descriptor ← descriptor object
  match Word.ofInt? (descriptor.target target) with
  | some position => do
      Remote.modifySession (·.update object { descriptor with position })
      pure position
  | none => .fail (.generic (.seekOutOfRange object (descriptor.target target)))

/-- The position of an open object. -/
def position (object : ObjectId) : RemoteAction Nat := seekObject object (.current 0)

/-- Closes an open object, once what was written to it is stored. -/
def closeObject (object : ObjectId) : RemoteAction Unit := do
  Remote.note (.closingObject object)
  let descriptor ← descriptor object
  match descriptor.upload? with
  | some data => upload descriptor.location data
  | none => pure ()
  Remote.modifySession (·.remove object)

/-- Ends the connection. Objects that are still open are dropped. -/
def disconnect : RemoteAction Unit := do
  let remote ← .get
  if remote.session.openObjects = 0 then
    pure ()
  else
    Remote.note (.objectsAbandoned remote.session.openObjects)
  Remote.modifySession (·.disconnected)
  if remote.session.connected then
    Remote.note .disconnected
  else
    pure ()

end Session

end RemoteStreams
