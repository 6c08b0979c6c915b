import RemoteStreams.Action
import RemoteStreams.Bytes
import RemoteStreams.Error
import RemoteStreams.FiniteMap
import RemoteStreams.OpenMode
import RemoteStreams.Word

/-!
# The local disk

A disk is a tree of directories and files below one root, with a table of open
files. An open file has a position of its own; the content belongs to the disk,
so that two open files on one path see each other's writes. A path leads from
the root if it begins with a slash, and else from the working directory.
-/

namespace RemoteStreams

/-- What a disk has at a place. -/
inductive Node where
  | file (content : Bytes)
  | directory
deriving DecidableEq, Repr

/-- The names on the way from the root to a place. -/
abbrev Place := List String

/-- The name of an open file. -/
structure FileId where
  number : Nat
deriving DecidableEq, Repr, Inhabited

/-- What a file is opened for. -/
structure FileOptions where
  readable : Bool
  writable : Bool
  /-- Every write goes to the end. -/
  appends : Bool
  /-- A file that does not exist is created. -/
  creates : Bool
  /-- What is in the file is dropped. -/
  truncates : Bool
deriving DecidableEq, Repr

/-- The options meant by a mode string: `w` empties, `a` appends, and a plus sign
anywhere asks for both directions, after `r`, `w` or `a`. Everything else reads. -/
def FileOptions.parse (mode : String) : FileOptions :=
  let update := mode.toList.contains '+'
  match mode.toList with
  | 'w' :: _ => ⟨update, true, false, true, true⟩
  | 'a' :: _ => ⟨update, true, true, true, false⟩
  | 'r' :: _ => ⟨true, update, false, false, false⟩
  | _ => ⟨true, false, false, false, false⟩

/-- A file that is open. -/
structure OpenFile where
  place : Place
  position : Nat
  options : FileOptions
deriving DecidableEq, Repr

/-- A tree of files and the files that are open. -/
structure Disk where
  /-- The working directory. -/
  home : Place
  /-- What is at each place, apart from the working directory and those above it. -/
  nodes : FiniteMap Place Node
  openFiles : FiniteMap FileId OpenFile
  /-- The number of the file that was opened last. -/
  lastNumber : Nat

/-- A step of the disk. -/
abbrev DiskAction (α : Type) : Type := Action Disk IoError α

namespace Disk

/-- A disk with this working directory, these files and directories and no open files. -/
def create (home : Place) (nodes : FiniteMap Place Node) : Disk := ⟨home, nodes, ∅, 0⟩

/-- What is at a place. All places on the way to the working directory are directories,
the root among them. -/
def node? (disk : Disk) (place : Place) : Option Node :=
  if place.isPrefixOf disk.home then some .directory else disk.nodes.find? place

/-- The disk with `node` at a place. -/
def assign (disk : Disk) (place : Place) (node : Node) : Disk :=
  { disk with nodes := disk.nodes.insert place node }

/-- The most bytes that a name may have. -/
def nameLimit : Nat := 255

/-- The most bytes that a path may have. -/
def pathLimit : Nat := 4095

/-- Why there is nothing at a place. A name over the limit is found out when it is looked
up: before that, the directory that should hold it has to be there. -/
def absence (place : Place) : IoError :=
  match place.getLast? with
  | some name => if nameLimit < name.utf8ByteSize then .nameTooLong else .noSuchFile
  | none => .noSuchFile

/-- The names in a path, in order. -/
def names : List Char → List String
  | [] => [""]
  | '/' :: rest => "" :: names rest
  | char :: rest =>
      match names rest with
      | [] => [char.toString]
      | first :: others => (char.toString ++ first) :: others

/-- The place that names lead to from `place`. All but the last step must lead to
directories. The root is above itself. -/
def walk (disk : Disk) (place : Place) : List String → Except IoError Place
  | [] => .ok place
  | name :: rest =>
      match disk.node? place with
      | none => .error (absence place)
      | some (.file _) => .error .notDirectory
      | some .directory =>
          if name = "" ∨ name = "." then disk.walk place rest
          else if name = ".." then disk.walk place.dropLast rest
          else disk.walk (place ++ [name]) rest

/-- The place that a path leads to. -/
def locate (disk : Disk) (path : String) : Except IoError Place :=
  if '\x00' ∈ path.toList then .error .nulInPath
  else if pathLimit < path.utf8ByteSize then .error .nameTooLong
  else
    match path.toList with
    | [] => .error .noSuchFile
    | char :: rest =>
        disk.walk (if char = '/' then [] else disk.home)
          ((names (char :: rest)).filter (· ≠ ""))

/-- The path can only name a directory. -/
def NamesDirectory (path : String) : Prop := path.toList.getLast? = some '/'

instance (path : String) : Decidable (NamesDirectory path) :=
  inferInstanceAs (Decidable (path.toList.getLast? = some '/'))

/-- The disk, with the node at its place, after opening a path with `options`. -/
def prepare (disk : Disk) (path : String) (options : FileOptions) :
    Except IoError (Place × Disk) := do
  let place ← disk.locate path
  if options.creates ∧ NamesDirectory path then
    throw .isDirectory
  match disk.node? place with
  | some .directory =>
      if options.writable then throw .isDirectory
      pure (place, disk)
  | some (.file _) =>
      if NamesDirectory path then throw .notDirectory
      pure (place, if options.truncates then disk.assign place (.file []) else disk)
  | none =>
      if options.creates ∧ absence place = .noSuchFile then
        pure (place, disk.assign place (.file []))
      else throw (absence place)

/-- Opens the file that `path` leads to. -/
def openFile (path : String) (options : FileOptions) : DiskAction FileId := do
  let disk ← .get
  match disk.prepare path options with
  | .error cause => .fail cause
  | .ok (place, disk) => do
      let file : FileId := ⟨disk.lastNumber + 1⟩
      .set { disk with
        openFiles := disk.openFiles.insert file { place, position := 0, options }
        lastNumber := disk.lastNumber + 1 }
      pure file

/-- The state of an open file. -/
def find (file : FileId) : DiskAction OpenFile := do
  let disk ← .get
  match disk.openFiles.find? file with
  | some openFile => pure openFile
  | none => .fail .badDescriptor

/-- Moves the position of an open file. -/
def moveTo (file : FileId) (openFile : OpenFile) (position : Nat) : DiskAction Unit :=
  .modify fun disk =>
    { disk with openFiles := disk.openFiles.insert file { openFile with position } }

/-- The content of the file at a place. -/
def content (place : Place) : DiskAction Bytes := do
  let disk ← .get
  match disk.node? place with
  | some (.file content) => pure content
  | some .directory => .fail .isDirectory
  | none => .fail .noSuchFile

/-- Reads up to `count` bytes, fewer only at the end of the file. -/
def read (file : FileId) (count : Nat) : DiskAction Bytes := do
  let openFile ← find file
  if count = 0 then
    pure []
  else if !openFile.options.readable then
    .fail .badDescriptor
  else do
    let content ← content openFile.place
    let bytes := content.slice openFile.position (openFile.position + count)
    moveTo file openFile (openFile.position + bytes.length)
    pure bytes

/-- Writes all of `data`, at the end if the file was opened to append. -/
def write (file : FileId) (data : Bytes) : DiskAction Unit := do
  let openFile ← find file
  if data = [] then
    pure ()
  else if !openFile.options.writable then
    .fail .badDescriptor
  else do
    let content ← content openFile.place
    let start := if openFile.options.appends then content.length else openFile.position
    if Word.signedBound ≤ start + data.length then
      .fail .tooLarge
    else do
      .modify fun disk => disk.assign openFile.place (.file (content.overlay start data))
      moveTo file openFile (start + data.length)

/-- The number of bytes at a place. -/
def length (disk : Disk) (place : Place) : Nat :=
  match disk.node? place with
  | some (.file content) => content.length
  | some .directory | none => 0

/-- Moves the position of an open file and delivers it. -/
def seek (file : FileId) (target : SeekTarget) : DiskAction Nat := do
  let openFile ← find file
  let disk ← .get
  let position : Int :=
    match target with
    | .start position => position
    | .current offset => openFile.position + offset
    | .ending offset => disk.length openFile.place + offset
  if 0 ≤ position ∧ position < (Word.signedBound : Int) then do
    moveTo file openFile position.toNat
    pure position.toNat
  else
    .fail .invalidArgument

/-- The position of an open file. -/
def tell (file : FileId) : DiskAction Nat := seek file (.current 0)

/-- Closes an open file. -/
def close (file : FileId) : DiskAction Unit :=
  .modify fun disk => { disk with openFiles := disk.openFiles.erase file }

/-- All bytes of the file that a path leads to. -/
def contentAt (path : String) : DiskAction Bytes := do
  let disk ← .get
  match disk.prepare path (.parse "r") with
  | .error cause => .fail cause
  | .ok (place, _) => content place

end Disk

end RemoteStreams
