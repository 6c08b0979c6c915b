import RemoteStreams.Identifier

/-!
# Slot tables

A slot table keeps a fixed number of entries under stream ids. A new entry gets
the lowest id that is free, and entries are drained in ascending order of their
ids.
-/

namespace RemoteStreams

/-- Entries under stream ids; the place of a slot is its id. -/
structure SlotTable (α : Type) where
  slots : List (Option α)
deriving DecidableEq, Repr

namespace SlotTable

variable {α : Type}

/-- A table of `capacity` free slots. -/
def create (capacity : Nat) : SlotTable α := ⟨List.replicate capacity none⟩

/-- The number of slots. -/
def capacity (table : SlotTable α) : Nat := table.slots.length

/-- The number of entries. -/
def size (table : SlotTable α) : Nat := table.slots.countP Option.isSome

/-- Whether there is no entry. -/
def isEmpty (table : SlotTable α) : Bool := table.size = 0

/-- Whether there is no free slot. -/
def isFull (table : SlotTable α) : Bool := table.slots.all Option.isSome

/-- The entry of `stream`, if it has one. -/
def find? (table : SlotTable α) (stream : StreamId) : Option α :=
  (table.slots[stream.slot]?).join

/-- The table with the slot of `stream`, if it is one of its slots, holding `entry`. -/
def assign (table : SlotTable α) (stream : StreamId) (entry : Option α) : SlotTable α :=
  ⟨table.slots.set stream.slot entry⟩

/-- The table with `value` as the entry of `stream`, if it has one already. -/
def replace (table : SlotTable α) (stream : StreamId) (value : α) : SlotTable α :=
  match table.find? stream with
  | some _ => table.assign stream (some value)
  | none => table

/-- The table without an entry for `stream`. -/
def release (table : SlotTable α) (stream : StreamId) : SlotTable α := table.assign stream none

/-- The lowest id without an entry. -/
def lowestFree? (table : SlotTable α) : Option StreamId :=
  (table.slots.findIdx? Option.isNone).map StreamId.mk

/-- The table with `value` in its lowest free slot, and the id of that slot. -/
def register? (table : SlotTable α) (value : α) : Option (StreamId × SlotTable α) :=
  table.lowestFree?.map fun stream => (stream, table.assign stream (some value))

/-- The lowest id with an entry. -/
def lowest? (table : SlotTable α) : Option (StreamId × α) :=
  match table.slots.findIdx? Option.isSome with
  | none => none
  | some slot => (table.find? ⟨slot⟩).map fun value => (⟨slot⟩, value)

/-- Takes up to `count` entries, lowest ids first. -/
def drain (table : SlotTable α) : (count : Nat) → List (StreamId × α) × SlotTable α
  | 0 => ([], table)
  | count + 1 =>
      match table.lowest? with
      | none => ([], table)
      | some (stream, value) =>
          let (others, left) := (table.release stream).drain count
          ((stream, value) :: others, left)

@[simp] theorem capacity_create (capacity : Nat) :
    (create capacity : SlotTable α).capacity = capacity := by
  simp [create, SlotTable.capacity]

/-- Whatever is put into a slot or taken from it, the slots stay as many as they are. -/
@[simp] theorem capacity_assign (table : SlotTable α) (stream : StreamId) (entry : Option α) :
    (table.assign stream entry).capacity = table.capacity := by
  simp [assign, capacity]

@[simp] theorem find?_create (capacity : Nat) (stream : StreamId) :
    (create capacity : SlotTable α).find? stream = none := by
  by_cases inside : stream.slot < capacity <;> simp [create, find?, inside]

/-- A slot holds what was put into it last. -/
theorem find?_assign_self {table : SlotTable α} {stream : StreamId}
    (inside : stream.slot < table.capacity) (entry : Option α) :
    (table.assign stream entry).find? stream = entry := by
  simp only [capacity] at inside
  simp [assign, find?, inside]

/-- Other slots are not affected. -/
theorem find?_assign_of_ne (table : SlotTable α) {stream other : StreamId}
    (differs : other ≠ stream) (entry : Option α) :
    (table.assign stream entry).find? other = table.find? other := by
  have apart : stream.slot ≠ other.slot := by
    intro same
    exact differs (by cases stream; cases other; simp_all)
  simp [assign, find?, List.getElem?_set_ne apart]

/-- Only the slots of a table have entries. -/
theorem slot_lt_capacity {table : SlotTable α} {stream : StreamId} {entry : α}
    (found : table.find? stream = some entry) : stream.slot < table.capacity := by
  by_cases inside : stream.slot < table.slots.length
  · exact inside
  · simp [find?, List.getElem?_eq_none (Nat.not_lt.mp inside)] at found

end SlotTable

end RemoteStreams
