/-!
# Identifiers

An `ObjectId` names an object that a session has open, a `StreamId` an entry in
the table of open streams. Stream ids are numbered from one, so that zero never
names a stream.
-/

namespace RemoteStreams

/-- The name of an object opened through a session. -/
structure ObjectId where
  number : Nat
deriving DecidableEq, Repr, Inhabited

/-- An object id as it appears in messages. -/
def ObjectId.text (object : ObjectId) : String := s!"object#{object.number}"

/-- The name of an entry in the table of open streams, by the place of the entry. -/
structure StreamId where
  slot : Nat
deriving DecidableEq, Repr, Inhabited

namespace StreamId

/-- The number that stands for the id outside the library. -/
def number (stream : StreamId) : Nat := stream.slot + 1

/-- The id with a given number; zero is not the number of an id. -/
def ofNumber? : Nat → Option StreamId
  | 0 => none
  | slot + 1 => some ⟨slot⟩

/-- A stream id as it appears in messages. -/
def text (stream : StreamId) : String := s!"handle#{stream.number}"

@[simp] theorem ofNumber?_number (stream : StreamId) : ofNumber? stream.number = some stream := rfl

/-- A number is that of at most one stream. -/
theorem ofNumber?_eq_some_iff {number : Nat} {stream : StreamId} :
    ofNumber? number = some stream ↔ number = stream.number := by
  cases number with
  | zero => simp [ofNumber?, StreamId.number]
  | succ slot => cases stream; simp [ofNumber?, StreamId.number]

end StreamId

end RemoteStreams
