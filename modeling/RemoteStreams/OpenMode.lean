/-!
# Modes and seek targets

How an object is opened, and where a seek goes.
-/

namespace RemoteStreams

/-- What a remote object is opened for. -/
inductive OpenMode where
  | read
  | write
  | readWrite
deriving DecidableEq, Repr

namespace OpenMode

/-- The mode meant by a mode string: `r+` at the start asks for both directions
and `w` for writing; everything else opens for reading. -/
def parse (mode : String) : OpenMode :=
  match mode.toList with
  | 'r' :: '+' :: _ => .readWrite
  | 'w' :: _ => .write
  | _ => .read

/-- Whether bytes may be read in this mode. -/
def readable : OpenMode → Bool
  | .read | .readWrite => true
  | .write => false

/-- Whether bytes may be written in this mode. -/
def writable : OpenMode → Bool
  | .write | .readWrite => true
  | .read => false

/-- A mode as it appears in messages. -/
def text : OpenMode → String
  | .read => "Read"
  | .write => "Write"
  | .readWrite => "ReadWrite"

end OpenMode

/-- Where a seek goes. -/
inductive SeekTarget where
  /-- To an absolute position. -/
  | start (position : Nat)
  /-- By an offset from the current position. -/
  | current (offset : Int)
  /-- By an offset from the end. -/
  | ending (offset : Int)
deriving DecidableEq, Repr

/-- A seek target as it appears in messages. -/
def SeekTarget.text : SeekTarget → String
  | .start position => s!"Start({position})"
  | .current offset => s!"Current({offset})"
  | .ending offset => s!"End({offset})"

end RemoteStreams
