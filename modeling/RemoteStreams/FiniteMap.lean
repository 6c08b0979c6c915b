/-!
# Finite maps

A finite map is a list of entries in which no key occurs twice. It is read with
`find?` and changed with `insert` and `erase`, and the lemmas of this module say
what either change does to every look-up.
-/

namespace RemoteStreams

/-- A finite map from keys to values. -/
structure FiniteMap (κ α : Type) where
  entries : List (κ × α)
  distinct : entries.Pairwise (fun first second => first.1 ≠ second.1)

namespace FiniteMap

variable {κ α : Type}

/-- The map without entries. -/
def empty : FiniteMap κ α := ⟨[], .nil⟩

instance : EmptyCollection (FiniteMap κ α) := ⟨empty⟩

instance : Inhabited (FiniteMap κ α) := ⟨empty⟩

/-- The number of entries. -/
def size (map : FiniteMap κ α) : Nat := map.entries.length

/-- That the keys are distinct is a proposition, so maps are the same if their entries are. -/
@[ext] theorem ext_entries {first second : FiniteMap κ α}
    (same : first.entries = second.entries) : first = second := by
  cases first
  cases second
  cases same
  rfl

variable [DecidableEq κ]

/-- The value of `key`, if it has one. -/
def find? (map : FiniteMap κ α) (key : κ) : Option α :=
  (map.entries.find? (fun entry => entry.1 = key)).map Prod.snd

/-- The map without a value for `key`. -/
def erase (map : FiniteMap κ α) (key : κ) : FiniteMap κ α where
  entries := map.entries.filter (fun entry => entry.1 ≠ key)
  distinct := map.distinct.sublist List.filter_sublist

/-- Gives `key` the value `value`, in its old place if it has one and else at the end. -/
def insertEntry (key : κ) (value : α) : List (κ × α) → List (κ × α)
  | [] => [(key, value)]
  | entry :: rest =>
      if entry.1 = key then (key, value) :: rest else entry :: insertEntry key value rest

/-- No keys but the old ones and the new one are in an extended list. -/
theorem mem_insertEntry_keys {key : κ} {value : α} {entries : List (κ × α)} {entry : κ × α}
    (member : entry ∈ insertEntry key value entries) :
    entry.1 = key ∨ ∃ old ∈ entries, old.1 = entry.1 := by
  induction entries with
  | nil => simp_all [insertEntry]
  | cons first rest ih =>
      unfold insertEntry at member
      split at member
      · rcases List.mem_cons.mp member with rfl | later
        · exact .inl rfl
        · exact .inr ⟨entry, List.mem_cons_of_mem _ later, rfl⟩
      · rcases List.mem_cons.mp member with rfl | later
        · exact .inr ⟨entry, List.mem_cons_self, rfl⟩
        · rcases ih later with same | ⟨old, present, same⟩
          · exact .inl same
          · exact .inr ⟨old, List.mem_cons_of_mem _ present, same⟩

/-- Keys stay distinct when an entry is put in, as the old entry of the key goes. -/
theorem pairwise_insertEntry (key : κ) (value : α) {entries : List (κ × α)}
    (distinct : entries.Pairwise (fun first second => first.1 ≠ second.1)) :
    (insertEntry key value entries).Pairwise (fun first second => first.1 ≠ second.1) := by
  induction entries with
  | nil => simp [insertEntry]
  | cons first rest ih =>
      obtain ⟨apart, others⟩ := List.pairwise_cons.mp distinct
      unfold insertEntry
      split
      · next same => exact List.pairwise_cons.mpr ⟨by simpa [← same] using apart, others⟩
      · next differs =>
          refine List.pairwise_cons.mpr ⟨fun entry member => ?_, ih others⟩
          rcases mem_insertEntry_keys member with same | ⟨old, present, same⟩
          · exact same ▸ differs
          · exact same ▸ apart old present

/-- The map with `value` as the value of `key`. -/
def insert (map : FiniteMap κ α) (key : κ) (value : α) : FiniteMap κ α where
  entries := insertEntry key value map.entries
  distinct := pairwise_insertEntry key value map.distinct

@[simp] theorem find?_empty (key : κ) : (∅ : FiniteMap κ α).find? key = none := rfl

@[simp] theorem find?_erase_self (map : FiniteMap κ α) (key : κ) :
    (map.erase key).find? key = none := by
  simp [find?, erase]

/-- Other keys are not affected by an erased one. -/
theorem find?_erase_of_ne (map : FiniteMap κ α) {key other : κ} (differs : other ≠ key) :
    (map.erase key).find? other = map.find? other := by
  simp only [find?, erase, List.find?_filter]
  congr 2
  funext entry
  by_cases found : entry.1 = other
  · simp [found, differs]
  · simp [found]

/-- What is found after a key was erased, by cases. -/
theorem find?_erase (map : FiniteMap κ α) (key other : κ) :
    (map.erase key).find? other = if other = key then none else map.find? other := by
  by_cases same : other = key
  · subst same
    simp
  · simp [same, find?_erase_of_ne]

/-- The list of entries finds a new entry under its key, and the old ones under theirs. -/
theorem find?_insertEntry (key other : κ) (value : α) (entries : List (κ × α)) :
    (insertEntry key value entries).find? (fun entry => entry.1 = other) =
      if other = key then some (key, value) else entries.find? (fun entry => entry.1 = other) := by
  induction entries with
  | nil => by_cases same : other = key <;> simp [insertEntry, same, eq_comm]
  | cons first rest ih =>
      unfold insertEntry
      by_cases found : first.1 = key
      · by_cases same : other = key
        · simp [found, same]
        · simp [found, same, Ne.symm same]
      · by_cases same : other = key
        · subst same
          simp [found, ih]
        · by_cases here : first.1 = other <;> simp [found, same, here, ih]

/-- What is found after an insertion, by cases. -/
theorem find?_insert (map : FiniteMap κ α) (key other : κ) (value : α) :
    (map.insert key value).find? other =
      if other = key then some value else map.find? other := by
  simp only [find?, insert, find?_insertEntry]
  split <;> rfl

@[simp] theorem find?_insert_self (map : FiniteMap κ α) (key : κ) (value : α) :
    (map.insert key value).find? key = some value := by
  simp [find?_insert]

theorem find?_insert_of_ne (map : FiniteMap κ α) {key other : κ} (value : α)
    (differs : other ≠ key) : (map.insert key value).find? other = map.find? other := by
  simp [find?_insert, differs]

/-- Giving a key the value that it has changes nothing. -/
theorem insert_eq_self {map : FiniteMap κ α} {key : κ} {value : α}
    (found : map.find? key = some value) : map.insert key value = map := by
  apply ext_entries
  obtain ⟨entries, distinct⟩ := map
  simp only [find?, insert] at found ⊢
  clear distinct
  induction entries with
  | nil => simp at found
  | cons first rest ih =>
      unfold insertEntry
      by_cases here : first.1 = key
      · subst here
        obtain rfl : first.2 = value := by simpa using found
        simp
      · simp only [here, ↓reduceIte, List.cons.injEq, true_and]
        exact ih (by simpa [here] using found)

/-- A value that is found belongs to one of the entries. -/
theorem exists_entry {map : FiniteMap κ α} {key : κ} {value : α}
    (found : map.find? key = some value) :
    ∃ entry ∈ map.entries, entry.2 = value := by
  obtain ⟨entry, held, rfl⟩ := Option.map_eq_some_iff.mp found
  exact ⟨entry, List.mem_of_find?_eq_some held, rfl⟩

end FiniteMap

end RemoteStreams
