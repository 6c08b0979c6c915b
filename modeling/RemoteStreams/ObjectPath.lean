/-!
# Object paths

Objects are stored under paths of non-empty segments divided by slashes. A
slash before the first segment and one after the last are ignored, so several
spellings lead to the same object. A segment may not be a dot or two dots and
holds no control characters.
-/

namespace RemoteStreams

/-- Why a text is not an object path. -/
inductive PathError where
  /-- Two slashes follow each other. -/
  | emptySegment (path : String)
  /-- A segment is, or holds, something that is not allowed. -/
  | illegalSegment (path segment illegal : String)
deriving DecidableEq, Repr

/-- The text of a path error. -/
def PathError.message : PathError → String
  | .emptySegment path => s!"Path \"{path}\" contained empty path segment"
  | .illegalSegment path segment illegal =>
      s!"Error parsing Path \"{path}\": Encountered illegal character sequence " ++
        s!"\"{illegal}\" whilst parsing path segment \"{segment}\""

/-- A path of an object, in its one normal spelling. -/
structure ObjectPath where
  text : String
deriving DecidableEq, Repr, Inhabited

namespace ObjectPath

/-- The text `chars` without a slash at the front. -/
def dropSlash : List Char → List Char
  | '/' :: rest => rest
  | chars => chars

/-- The text `chars` without a slash at the back. -/
def dropFinalSlash (chars : List Char) : List Char := (dropSlash chars.reverse).reverse

/-- The pieces of `chars` between the slashes. -/
def segments : List Char → List (List Char)
  | [] => [[]]
  | '/' :: rest => [] :: segments rest
  | char :: rest =>
      match segments rest with
      | [] => [[char]]
      | first :: others => (char :: first) :: others

/-- The characters that no segment may hold. -/
def isControl (char : Char) : Bool := char.toNat < 32 || char.toNat = 127

/-- What is wrong with a segment of the path `path`, if anything. -/
def segmentError? (path : String) (segment : List Char) : Option PathError :=
  if segment = [] then some (.emptySegment path)
  else if segment = ['.'] ∨ segment = ['.', '.'] then
    some (.illegalSegment path (String.ofList segment) (String.ofList segment))
  else
    (segment.find? isControl).map fun char =>
      .illegalSegment path (String.ofList segment) (String.ofList [char])

/-- The object path that `path` spells. The first segment at fault decides the error. -/
def parse (path : String) : Except PathError ObjectPath :=
  match dropSlash path.toList with
  | [] => .ok ⟨""⟩
  | bare =>
      let chars := dropFinalSlash bare
      match (segments chars).findSome? (segmentError? path) with
      | some fault => .error fault
      | none => .ok ⟨String.ofList chars⟩

end ObjectPath

end RemoteStreams
