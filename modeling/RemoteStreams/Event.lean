import RemoteStreams.Error
import RemoteStreams.OpenMode

/-!
# Events

What the session and the streams report about their work, each with a level.
-/

namespace RemoteStreams

/-- How important an event is. -/
inductive Level where
  | debug
  | info
  | warn
  | error
deriving DecidableEq, Repr

/-- A level as it appears in a log. -/
def Level.text : Level → String
  | .debug => "DEBUG"
  | .info => "INFO"
  | .warn => "WARN"
  | .error => "ERROR"

/-- Something worth a line in the log. -/
inductive Event where
  /-- The session connected to its store. -/
  | connected
  /-- The session disconnected from its store. -/
  | disconnected
  /-- A disconnect drops objects that are still open. -/
  | objectsAbandoned (count : Nat)
  /-- An object is about to be opened. -/
  | openingObject (path : String) (mode : OpenMode)
  /-- An object is about to be created. -/
  | creatingObject (path : String)
  /-- Bytes of an object were read. -/
  | objectRead (object : ObjectId) (count start : Nat)
  /-- Bytes of an object were written. -/
  | objectWritten (object : ObjectId) (count start : Nat)
  /-- An object is about to be closed. -/
  | closingObject (object : ObjectId)
  /-- A cached stream is about to be opened. -/
  | openingCached (path : String) (mode : OpenMode)
  /-- An object could not be closed after its window could not be allocated. -/
  | orphaned (path : String) (cause : RemoteError)
  /-- A read delivers what the window had although fetching the rest failed. -/
  | fetchFailed (path : String) (cached : Nat) (cause : StreamError)
  /-- A read was served by the window and by the object. -/
  | readServed (path : String) (cached fetched : Nat)
  /-- A read goes around the window. -/
  | readBypasses (path : String) (count : Nat)
  /-- A write was accepted in part although the rest failed. -/
  | overflowFailed (path : String) (cached : Nat) (cause : StreamError)
  /-- A write goes around the window. -/
  | writeBypasses (path : String) (count : Nat)
  /-- The position after a transfer around the window is not known. -/
  | positionUnknown (path : String) (moved : Nat) (cause : RemoteError)
  /-- The window was written back. -/
  | flushed (path : String) (count base : Nat)
  /-- A stream moved out of its window. -/
  | sought (path : String) (target : SeekTarget) (position : Nat)
  /-- A cached stream is about to be closed. -/
  | closingCached (path : String)
  /-- A cached stream went away with bytes that were never written back. -/
  | droppedDirty (path : String) (count : Nat)
  /-- A stream of either kind is about to be opened. -/
  | openingStream (path mode : String)
  /-- A stream could not be closed during a shutdown. -/
  | closeFailed (stream : StreamId) (cause : StreamError)
  /-- The program is about to end. -/
  | terminating (code : Int)
  /-- The shutdown before the end of the program failed. -/
  | shutdownFailed (cause : StreamError)
deriving DecidableEq, Repr

namespace Event

/-- The level of an event. -/
def level : Event → Level
  | .connected | .disconnected => .info
  | .objectsAbandoned _ | .orphaned _ _ | .positionUnknown _ _ _ | .droppedDirty _ _
  | .closeFailed _ _ => .warn
  | .shutdownFailed _ => .error
  | _ => .debug

/-- The text of an event. -/
def message : Event → String
  | .connected => "Connected to InMemory"
  | .disconnected => "Disconnected from InMemory"
  | .objectsAbandoned count =>
      s!"Disconnecting with {count} objects still open, unsaved writes are lost"
  | .openingObject path mode => s!"open_object: {path} {mode.text}"
  | .creatingObject path => s!"create_object: {path}"
  | .objectRead object count start => s!"read_object: {object.text} {count}@{start}"
  | .objectWritten object count start => s!"write_object: {object.text} {count}@{start}"
  | .closingObject object => s!"close_object: {object.text}"
  | .openingCached path mode => s!"open: {path} {mode.text}"
  | .orphaned path cause => s!"Failed to close {path} after allocation failure: {cause.message}"
  | .fetchFailed path cached cause =>
      s!"read: {path} returning {cached} cached bytes, fetch failed: {cause.message}"
  | .readServed path cached fetched => s!"read: {path} {cached} cached + {fetched} fetched"
  | .readBypasses path count => s!"read: {path} bypassing window for {count} bytes"
  | .overflowFailed path cached cause =>
      s!"write: {path} accepted {cached} bytes, overflow failed: {cause.message}"
  | .writeBypasses path count => s!"write: {path} bypassing window for {count} bytes"
  | .positionUnknown path moved cause =>
      s!"position of {path} unavailable after direct transfer, " ++
        s!"advancing by {moved}: {cause.message}"
  | .flushed path count base => s!"flush: {path} {count}@{base}"
  | .sought path target position => s!"seek: {path} {target.text} -> {position}"
  | .closingCached path => s!"close: {path}"
  | .droppedDirty path count => s!"{path} dropped with {count} unflushed bytes"
  | .openingStream path mode => s!"open: {path} {mode}"
  | .closeFailed stream cause => s!"Failed to close {stream.text}: {cause.message}"
  | .terminating code => s!"terminate: {code}"
  | .shutdownFailed cause => s!"Shutdown before exit failed: {cause.message}"

/-- The line of an event in a log. -/
def line (event : Event) : String := s!"{event.level.text} {event.message}"

end Event

end RemoteStreams
