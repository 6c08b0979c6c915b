import RemoteStreams.CachedStream.Lifetime
import RemoteStreams.CachedStream.Seek
import RemoteStreams.CachedStream.Transfer
import RemoteStreams.Disk
import RemoteStreams.SlotTable

/-!
# Streams

One set of calls serves two kinds of streams. A path that begins with a marker
names a remote object, which is opened as a cached stream and kept in a table of
limited size; every other path names a file on the local disk.
-/

namespace RemoteStreams

/-- How streams are told apart, how many remote ones there may be, and how large
their windows are. -/
structure Settings where
  /-- What the paths of remote objects begin with. -/
  marker : String
  /-- How many remote streams may be open at once. -/
  maxStreams : Nat
  sizes : BufferSizes
deriving DecidableEq, Repr

namespace Settings

/-- The settings used where nothing else is asked for. -/
def standard : Settings := ⟨"remote:", 20, .standard⟩

/-- The path of the object that a path names, if it names one. -/
def objectPath? (settings : Settings) (path : String) : Option String :=
  (settings.marker.toList.isPrefixOf? path.toList).map String.ofList

end Settings

/-- An open stream. -/
inductive Stream where
  /-- A remote object behind an entry of the table. -/
  | cached (stream : StreamId)
  /-- A file on the local disk. -/
  | file (file : FileId)
deriving DecidableEq, Repr

/-- All streams of a program with what they work on. -/
structure Streams where
  settings : Settings
  table : SlotTable CachedStream
  remote : Remote
  disk : Disk

/-- A step of the streams. -/
abbrev StreamsAction (α : Type) : Type := Action Streams StreamError α

namespace Streams

variable {ε α : Type}

/-- No open streams yet. The size of a window must not be zero, nor start out
larger than it may grow. -/
def create (settings : Settings) (remote : Remote) (disk : Disk) : Except Breach Streams :=
  if 0 < settings.sizes.initial ∧ settings.sizes.initial ≤ settings.sizes.max then
    .ok { settings, table := .create settings.maxStreams, remote, disk }
  else
    .error (.bufferSizes settings.sizes.initial settings.sizes.max)

/-- The number of open remote streams. -/
def openStreams (streams : Streams) : Nat := streams.table.size

/-- The same streams on another state of the remote side. -/
def withRemote (remote : Remote) (streams : Streams) : Streams := { streams with remote }

/-- The same streams on another state of the disk. -/
def withDisk (disk : Disk) (streams : Streams) : Streams := { streams with disk }

/-- The same streams with another table. -/
def withTable (table : SlotTable CachedStream) (streams : Streams) : Streams :=
  { streams with table }

/-- A step of the remote side. -/
def onRemote (body : Action Remote ε α) : Action Streams ε α := body.within (·.remote) withRemote

/-- A step of the disk; its errors are errors of the stream. -/
def onDisk (body : DiskAction α) : StreamsAction α :=
  (body.within (·.disk) withDisk).mapError .io

/-- Asks the remote side; its errors are errors of the stream. -/
def ask (request : RemoteAction α) : StreamsAction α := (onRemote request).mapError .remote

/-- Reports an event. -/
def note (event : Event) : Action Streams ε Unit := onRemote (Remote.note event)

/-- A step of one cached stream of the table. -/
def onCached (stream : StreamId) (body : StreamAction α) : StreamsAction α := fun streams =>
  match streams.table.find? stream with
  | none => (.error (.badHandle stream), streams)
  | some entry =>
      let (outcome, attached) := body ⟨entry, streams.remote⟩
      (outcome, { streams with
        table := streams.table.assign stream (some attached.stream)
        remote := attached.remote })

/-- Gives a cached stream an entry in the table. -/
def register (entry : CachedStream) : StreamsAction StreamId := do
  let streams ← .get
  match streams.table.register? entry with
  | none => .fail (.tableFull streams.table.capacity)
  | some (stream, table) => do
      .set (streams.withTable table)
      pure stream

end Streams

end RemoteStreams
