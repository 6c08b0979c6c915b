import RemoteStreams.Link
import RemoteStreams.Window

/-!
# Cached streams

A cached stream stands in front of one open object with a single window, which
serves reads ahead and collects writes. The window begins at `base` in the
object. While it is dirty it holds bytes that the object has not seen yet. The
position of the object runs `synced` bytes ahead of `base`: after a refill it is
at the end of the window, after the window was moved at its start.
-/

namespace RemoteStreams

/-- The sizes of the windows of cached streams. -/
structure BufferSizes where
  /-- The size of a window when its stream is opened. -/
  initial : Nat
  /-- The size up to which a window may grow; larger transfers go around it. -/
  max : Nat
deriving DecidableEq, Repr

/-- Windows start with 64 kilobytes and grow up to 2 megabytes. -/
def BufferSizes.standard : BufferSizes := ⟨64 * 1024, 2 * 1024 * 1024⟩

/-- A stream with a window on an open object. -/
structure CachedStream where
  object : ObjectId
  path : String
  /-- Where in the object the window begins. -/
  base : Nat
  window : Window
  /-- How far behind `base` the position of the object is. -/
  synced : Nat
  /-- Whether the window holds bytes that the object has not seen. -/
  dirty : Bool
deriving DecidableEq, Repr

/-- A cached stream at work on the remote side. -/
structure Attached where
  stream : CachedStream
  remote : Remote

/-- A step of a cached stream. -/
abbrev StreamAction (α : Type) : Type := Action Attached StreamError α

namespace Attached

/-- The same remote side with another state of the stream. -/
def withStream (stream : CachedStream) (attached : Attached) : Attached :=
  { attached with stream }

/-- The same state of the stream with another window. -/
def withWindow (window : Window) (attached : Attached) : Attached :=
  { attached with stream := { attached.stream with window } }

/-- The same stream on another state of the remote side. -/
def withRemote (remote : Remote) (attached : Attached) : Attached :=
  { attached with remote }

end Attached

namespace CachedStream

variable {ε α : Type}

/-- The stream. -/
def current : Action Attached ε CachedStream := fun attached => (.ok attached.stream, attached)

/-- Changes the stream. -/
def modify (change : CachedStream → CachedStream) : Action Attached ε Unit :=
  .modify fun attached => attached.withStream (change attached.stream)

/-- A step of the window of the stream. -/
def onWindow (body : Action Window ε α) : Action Attached ε α :=
  body.within (·.stream.window) Attached.withWindow

/-- A step of the remote side. -/
def onRemote (body : Action Remote ε α) : Action Attached ε α :=
  body.within (·.remote) Attached.withRemote

/-- Asks the remote side; its errors are errors of the stream. -/
def ask (request : RemoteAction α) : StreamAction α := (onRemote request).mapError .remote

/-- Reports an event. -/
def note (event : Event) : Action Attached ε Unit := onRemote (Remote.note event)

/-- The position in the stream. -/
def tell : Action Attached ε Nat := do
  let stream ← current
  Word.add stream.base stream.window.cursor

/-- The position of the object behind the stream. -/
def remotePosition : StreamAction Nat := do
  let stream ← current
  ask (Link.position stream.object)

/-- Makes the window at least `capacity` bytes large, if there is memory for that. -/
def grow (capacity : Nat) : StreamAction Unit := do
  let granted ← onRemote (Remote.request capacity)
  onWindow (Window.grow capacity granted)

/-- Ends in a breach unless the window is clean and used up. -/
def requireSettled : Action Attached ε Unit := do
  let stream ← current
  .ensure (stream.dirty = false ∧ stream.window.unread = 0) .windowInUse

/-- Ends in a breach unless the window is clean. -/
def requireClean : Action Attached ε Unit := do
  let stream ← current
  .ensure (stream.dirty = false) .windowInUse

/-- Empties the window and lets it begin at `base`, where the object is. -/
def anchor (base : Nat) : Action Attached ε Unit :=
  modify fun stream => { stream with window := stream.window.cleared, base, synced := 0 }

/-- The size to which a window grows for a transfer of `count` bytes. -/
def roomFor (count : Nat) : Nat := Word.saturate (2 * count + 8)

end CachedStream

end RemoteStreams
