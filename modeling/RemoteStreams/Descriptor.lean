import RemoteStreams.Bytes
import RemoteStreams.ObjectPath
import RemoteStreams.OpenMode
import RemoteStreams.Word

/-!
# Descriptors

A descriptor is an open object as its session sees it: where the object is
stored, what it was opened for, a position, and its content. An object opened
for reading only stays in the store and its descriptor records the size it had;
the content of any other is staged in the descriptor until it is closed.
-/

namespace RemoteStreams

/-- The content of an open object. -/
inductive Content where
  /-- Read from the store when needed, up to the size it had when it was opened. -/
  | recorded (size : Nat)
  /-- Held here; `modified` once something was written to it. -/
  | staged (data : Bytes) (modified : Bool)
deriving DecidableEq, Repr

/-- The size of an open object. -/
def Content.length : Content → Nat
  | .recorded size => size
  | .staged data _ => data.length

/-- An open object. -/
structure Descriptor where
  location : ObjectPath
  mode : OpenMode
  position : Nat
  content : Content
deriving DecidableEq, Repr

namespace Descriptor

/-- The position a seek asks for, in any range. -/
def target (descriptor : Descriptor) : SeekTarget → Int
  | .start position => position
  | .current offset => descriptor.position + offset
  | .ending offset => descriptor.content.length + offset

/-- The descriptor with `data` laid over its staged content at its position, and
the position behind it. -/
def write (descriptor : Descriptor) (staged data : Bytes) : Descriptor :=
  { descriptor with
    position := descriptor.position + data.length
    content := .staged (staged.overlay descriptor.position data) true }

/-- The descriptor after a write of `data` found its content to become too large: as much
of `data` as does not extend the content is laid over it, and a gap before it is filled. -/
def spilled (descriptor : Descriptor) (staged : Bytes) (modified : Bool) (data : Bytes) :
    Descriptor :=
  { descriptor with
    content := .staged (staged.overlay descriptor.position
      (data.take (staged.length - descriptor.position))) modified }

/-- What has to be stored when the descriptor is closed, if anything. -/
def upload? (descriptor : Descriptor) : Option Bytes :=
  match descriptor.content with
  | .staged data true => some data
  | .staged _ false | .recorded _ => none

end Descriptor

end RemoteStreams
