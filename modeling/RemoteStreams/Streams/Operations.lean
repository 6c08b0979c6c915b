import RemoteStreams.Streams.Basic

/-!
# Work on streams

Streams are opened, read, written, moved in and closed by the same calls,
whichever kind they are. Reads and writes count items of a given size.
-/

namespace RemoteStreams

namespace Streams

/-- Opens the stream that `path` names. Connects the session for a remote one,
unless the table has no room for it. -/
def openStream (path mode : String) : StreamsAction Stream := do
  note (.openingStream path mode)
  let streams ← .get
  match streams.settings.objectPath? path with
  | none => do
      let file ← onDisk (Disk.openFile path (.parse mode))
      pure (.file file)
  | some name =>
      if streams.table.isFull then
        .fail (.tableFull streams.table.capacity)
      else do
        ask Link.connect
        let entry ← onRemote (CachedStream.openStream name (.parse mode) streams.settings.sizes)
        let stream ← register entry
        pure (.cached stream)

/-- The number of bytes in `count` items of `size` bytes, if a buffer of `length`
bytes has that many. -/
def bytesOfItems (length size count : Nat) : Except StreamError Nat :=
  if size * count ≤ length then .ok (size * count)
  else .error (.shortBuffer (Word.saturate (size * count)) length)

/-- Reads into `buffer`, from either kind of stream. -/
def readBytes (stream : Stream) (buffer : Bytes) : StreamsAction (Nat × Bytes) :=
  match stream with
  | .cached stream => onCached stream (CachedStream.read buffer)
  | .file file => do
      let bytes ← onDisk (Disk.read file buffer.length)
      pure (bytes.length, buffer.overlay 0 bytes)

/-- Writes `data` to either kind of stream. -/
def writeBytes (stream : Stream) (data : Bytes) : StreamsAction Nat :=
  match stream with
  | .cached stream => onCached stream (CachedStream.write data)
  | .file file => do
      onDisk (Disk.write file data)
      pure data.length

/-- Reads up to `count` items of `size` bytes into `buffer`. Delivers the number of
whole items read and the buffer. -/
def read (stream : Stream) (buffer : Bytes) (size count : Nat) : StreamsAction (Nat × Bytes) :=
  if size = 0 then
    pure (0, buffer)
  else
    match bytesOfItems buffer.length size count with
    | .error cause => .fail cause
    | .ok needed => do
        let (moved, filled) ← readBytes stream (buffer.take needed)
        pure (moved / size, filled ++ buffer.drop needed)

/-- Writes `count` items of `size` bytes from `data` and delivers the number of
whole items written. -/
def write (stream : Stream) (data : Bytes) (size count : Nat) : StreamsAction Nat :=
  if size = 0 then
    pure 0
  else
    match bytesOfItems data.length size count with
    | .error cause => .fail cause
    | .ok needed => do
        let moved ← writeBytes stream (data.take needed)
        pure (moved / size)

/-- Moves the position in a stream. -/
def seek (stream : Stream) (target : SeekTarget) : StreamsAction Unit := do
  let _ ←
    match stream with
    | .cached stream => onCached stream (CachedStream.seek target)
    | .file file => onDisk (Disk.seek file target)
  pure ()

/-- The position in a stream. -/
def tell (stream : Stream) : StreamsAction Nat :=
  match stream with
  | .cached stream => onCached stream CachedStream.tell
  | .file file => onDisk (Disk.tell file)

/-- Writes back what a stream holds back. -/
def flush (stream : Stream) : StreamsAction Unit :=
  match stream with
  | .cached stream => onCached stream CachedStream.flush
  | .file _ => pure ()

/-- Writes one byte and delivers it. -/
def putByte (stream : Stream) (byte : UInt8) : StreamsAction UInt8 :=
  match stream with
  | .cached stream => onCached stream (CachedStream.putByte byte)
  | .file file => do
      onDisk (Disk.write file [byte])
      pure byte

/-- Reads one byte; there is none at the end of the stream. -/
def getByte (stream : Stream) : StreamsAction (Option UInt8) :=
  match stream with
  | .cached stream => onCached stream CachedStream.getByte
  | .file file => do
      let bytes ← onDisk (Disk.read file 1)
      pure bytes.head?

/-- Takes a cached stream out of the table. -/
def release (stream : StreamId) : StreamsAction CachedStream := do
  let streams ← .get
  match streams.table.find? stream with
  | none => .fail (.badHandle stream)
  | some entry => do
      .set (streams.withTable (streams.table.release stream))
      pure entry

/-- Closes a stream. -/
def close (stream : Stream) : StreamsAction Unit :=
  match stream with
  | .cached stream => do
      let entry ← release stream
      onRemote entry.close
  | .file file => onDisk (Disk.close file)

end Streams

end RemoteStreams
