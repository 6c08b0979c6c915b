import Mathlib.Data.List.Basic
import RemoteStreams.Proofs.Draining

/-! # Slot tables as directories

A directory is a finite map from numbers to values, together with the numbers that it has to give
away: those from one up to its capacity. It gives away the smallest number that has no value, and
hands out its entries in the order of their numbers. A slot table is a directory. Whatever is asked
of it in whatever order, it answers as the directory does, and it has a value under an id exactly if
the directory has that value under the number of the id
(`RemoteStreams.SlotTable.run_eq_directory`).
-/

namespace RemoteStreams

namespace FiniteMap

variable {κ α : Type} [DecidableEq κ] {map : FiniteMap κ α} {key : κ} {value : α}

/-- The map without values for any of `keys`. -/
def without (map : FiniteMap κ α) (keys : List κ) : FiniteMap κ α where
  entries := map.entries.filter fun entry => entry.1 ∉ keys
  distinct := map.distinct.sublist List.filter_sublist

/-- What is found once some keys are taken out, by cases. -/
theorem find?_without (map : FiniteMap κ α) (keys : List κ) (key : κ) :
    (map.without keys).find? key = if key ∈ keys then none else map.find? key := by
  simp only [find?, without, List.find?_filter]
  by_cases gone : key ∈ keys
  · rw [if_pos gone, Option.map_eq_none_iff, List.find?_eq_none]
    intro entry _
    by_cases found : entry.1 = key
    · simp [found, gone]
    · simp [found]
  · rw [if_neg gone]
    congr 2
    funext entry
    by_cases found : entry.1 = key
    · simp [found, gone]
    · simp [found]

theorem without_nil (map : FiniteMap κ α) : map.without [] = map := by
  apply ext_entries
  simp [without]

/-- Keys are taken out one after another. -/
theorem without_cons (map : FiniteMap κ α) (key : κ) (keys : List κ) :
    map.without (key :: keys) = (map.without [key]).without keys := by
  apply ext_entries
  simp only [without, List.filter_filter]
  congr 1
  funext entry
  simp [Bool.and_comm]

/-- A key that is not there need not be taken out. -/
theorem without_of_absent (absent : map.find? key = none) : map.without [key] = map := by
  apply ext_entries
  rw [find?, Option.map_eq_none_iff, List.find?_eq_none] at absent
  rw [without, List.filter_eq_self]
  intro entry member
  simpa using absent entry member

/-- A new key makes the list of entries longer by one. -/
theorem length_insertEntry (key : κ) (value : α) (entries : List (κ × α)) :
    (insertEntry key value entries).length =
      if (entries.find? fun entry => entry.1 = key).isSome then entries.length
      else entries.length + 1 := by
  induction entries with
  | nil => rfl
  | cons first rest ih =>
      unfold insertEntry
      by_cases here : first.1 = key
      · simp [here]
      · simp only [here, ↓reduceIte, List.length_cons, ih, List.find?_cons, decide_false]
        split <;> rfl

/-- A new key makes the map larger by one, a known one does not. -/
theorem size_insert (map : FiniteMap κ α) (key : κ) (value : α) :
    (map.insert key value).size =
      if (map.find? key).isSome then map.size else map.size + 1 := by
  rw [find?, Option.isSome_map]
  exact length_insertEntry key value map.entries

/-- A key that is taken out makes the map smaller by one, if it was there. -/
theorem size_without (found : map.find? key = some value) :
    (map.without [key]).size + 1 = map.size := by
  obtain ⟨entries, distinct⟩ := map
  simp only [find?, without, size, List.mem_singleton] at found ⊢
  induction entries with
  | nil => contradiction
  | cons first rest ih =>
      obtain ⟨apart, others⟩ := List.pairwise_cons.mp distinct
      by_cases here : first.1 = key
      · -- The key does not occur again.
        have kept : rest.filter (fun entry => ¬entry.1 = key) = rest := by
          rw [List.filter_eq_self]
          intro entry member
          have differs := apart entry member
          rw [here] at differs
          simpa using differs.symm
        rw [List.filter_cons_of_neg (by simp [here]), kept, List.length_cons]
      · simp only [here, List.find?_cons, decide_false] at found
        have shorter := ih others found
        simpa [here] using shorter

end FiniteMap

/-- Numbers with values, and how many numbers there are to give away. -/
structure Directory (α : Type) where
  capacity : Nat
  values : FiniteMap Nat α
  inside : ∀ number value, values.find? number = some value → 1 ≤ number ∧ number ≤ capacity

/-- What a slot table is asked for. -/
inductive TableOperation (α : Type) where
  /-- To keep a value under a new id. -/
  | register (value : α)
  /-- To show the value under an id, which is then changed where it is. -/
  | lookup (id : StreamId) (change : α → α)
  /-- To hand out the value under an id. -/
  | release (id : StreamId)
  /-- To hand out values one by one, until `count` of them were taken or none is left. -/
  | drain (count : Nat)

/-- What a slot table answers. Ids are told by their numbers. -/
inductive TableAnswer (α : Type) where
  | registered (outcome : Outcome StreamError Nat)
  | value (value : Option α)
  | entries (entries : List (Nat × α))
deriving DecidableEq, Repr

/-- What is seen of a slot table after an operation. -/
structure TableReport (α : Type) where
  answer : TableAnswer α
  capacity : Nat
  size : Nat
  isEmpty : Bool
  isFull : Bool

namespace Directory

variable {α : Type}

/-- No number of `capacity` many has a value. -/
def create (capacity : Nat) : Directory α where
  capacity := capacity
  values := ∅
  inside := by
    intro number value found
    contradiction

/-- All numbers, in order. -/
def numbers (directory : Directory α) : List Nat := List.range' 1 directory.capacity

/-- The smallest number without a value. -/
def lowestFree? (directory : Directory α) : Option Nat :=
  directory.numbers.find? fun number => (directory.values.find? number).isNone

/-- The entries in the order of their numbers. -/
def entries (directory : Directory α) : List (Nat × α) :=
  directory.numbers.filterMap fun number =>
    (directory.values.find? number).map fun value => (number, value)

/-- The numbers run from one to the capacity. -/
theorem mem_numbers {directory : Directory α} {number : Nat} :
    number ∈ directory.numbers ↔ 1 ≤ number ∧ number ≤ directory.capacity := by
  rw [numbers, List.mem_range'_1]
  omega

/-- The numbers below and above one of them. -/
theorem numbers_eq_append {directory : Directory α} {number : Nat} (least : 1 ≤ number)
    (most : number ≤ directory.capacity) :
    directory.numbers = List.range' 1 (number - 1) ++
      number :: List.range' (number + 1) (directory.capacity - number) := by
  have start : 1 + (number - 1) = number := by omega
  have total : number - 1 + (directory.capacity - number + 1) = directory.capacity := by omega
  have joined := @List.range'_append_1 1 (number - 1) (directory.capacity - number + 1)
  rw [start, total] at joined
  rw [← List.range'_succ, numbers]
  exact joined.symm

/-- The directory with a value for one of its numbers. -/
def insert (directory : Directory α) (number : Nat) (value : α)
    (member : number ∈ directory.numbers) : Directory α where
  capacity := directory.capacity
  values := directory.values.insert number value
  inside := by
    intro other stored found
    rw [FiniteMap.find?_insert] at found
    split at found
    · next same => exact same ▸ mem_numbers.mp member
    · exact directory.inside other stored found

/-- The directory without values for any of `numbers`. -/
def without (directory : Directory α) (numbers : List Nat) : Directory α where
  capacity := directory.capacity
  values := directory.values.without numbers
  inside := by
    intro number value found
    rw [FiniteMap.find?_without] at found
    split at found
    · contradiction
    · exact directory.inside number value found

@[simp] theorem values_without (directory : Directory α) (numbers : List Nat) :
    (directory.without numbers).values = directory.values.without numbers := rfl

@[simp] theorem numbers_without (directory : Directory α) (numbers : List Nat) :
    (directory.without numbers).numbers = directory.numbers := rfl

/-- Directories of one capacity are the same if their values are. -/
@[ext] theorem ext_values {first second : Directory α} (capacity : first.capacity = second.capacity)
    (values : first.values = second.values) : first = second := by
  cases first
  cases second
  cases capacity
  cases values
  rfl

theorem without_cons (directory : Directory α) (number : Nat) (numbers : List Nat) :
    directory.without (number :: numbers) = (directory.without [number]).without numbers :=
  ext_values rfl (FiniteMap.without_cons _ _ _)

theorem without_nil (directory : Directory α) : directory.without [] = directory :=
  ext_values rfl (FiniteMap.without_nil _)

/-- A directory without values has no entries. -/
theorem entries_eq_nil {directory : Directory α}
    (empty : ∀ number ∈ directory.numbers, directory.values.find? number = none) :
    directory.entries = [] := by
  rw [entries, List.filterMap_eq_nil_iff]
  intro number member
  rw [empty number member, Option.map_none]

/-- The entry with the smallest number is handed out first. -/
theorem entries_eq_cons {directory : Directory α} {number : Nat} {value : α}
    (found : directory.values.find? number = some value)
    (below : ∀ lower, 1 ≤ lower → lower < number → directory.values.find? lower = none) :
    directory.entries = (number, value) :: (directory.without [number]).entries := by
  obtain ⟨least, most⟩ := directory.inside number value found
  have front (values : FiniteMap Nat α)
      (idle : ∀ lower, 1 ≤ lower → lower < number → values.find? lower = none) :
      (List.range' 1 (number - 1)).filterMap
        (fun other => (values.find? other).map fun value => (other, value)) = [] := by
    rw [List.filterMap_eq_nil_iff]
    intro other member
    rw [List.mem_range'_1] at member
    rw [idle other member.1 (by omega), Option.map_none]
  have gone : (directory.values.without [number]).find? number = none := by
    rw [FiniteMap.find?_without, if_pos (List.mem_singleton.mpr rfl)]
  have kept (other : Nat) (differs : other ≠ number) :
      (directory.values.without [number]).find? other = directory.values.find? other := by
    rw [FiniteMap.find?_without, if_neg (mt List.mem_singleton.mp differs)]
  rw [entries, entries, numbers_without, values_without, numbers_eq_append least most,
    List.filterMap_append, List.filterMap_append, front _ below, front, List.filterMap_cons,
    List.filterMap_cons]
  · simp only [found, gone, Option.map_some, Option.map_none, List.nil_append]
    congr 1
    apply List.filterMap_congr
    intro other member
    rw [List.mem_range'_1] at member
    rw [kept other (by omega)]
  · intro lower least less
    rw [kept lower (by omega), below lower least less]

/-- What a directory does. -/
def perform (directory : Directory α) : TableOperation α → TableAnswer α × Directory α
  | .register value =>
      match lowest : directory.lowestFree? with
      | some number =>
          (.registered (.ok number),
            directory.insert number value (List.mem_of_find?_eq_some lowest))
      | none => (.registered (.error (.tableFull directory.capacity)), directory)
  | .lookup id change =>
      match found : directory.values.find? id.number with
      | some value =>
          (.value (some value), directory.insert id.number (change value)
            (mem_numbers.mpr (directory.inside id.number value found)))
      | none => (.value none, directory)
  | .release id => (.value (directory.values.find? id.number), directory.without [id.number])
  | .drain count =>
      let taken := directory.entries.take count
      (.entries taken, directory.without (taken.map Prod.fst))

/-- A value is registered under the lowest number that is free. -/
theorem register_of_free {directory : Directory α} {number : Nat}
    (lowest : directory.lowestFree? = some number) (value : α) :
    directory.perform (.register value) = (.registered (.ok number),
      directory.insert number value (List.mem_of_find?_eq_some lowest)) := by
  simp only [perform]
  split
  · next other first =>
      obtain rfl := Option.some.inj (lowest.symm.trans first)
      rfl
  · next full =>
      rw [lowest] at full
      contradiction

/-- It is refused if there is none. -/
theorem register_of_full {directory : Directory α} (full : directory.lowestFree? = none)
    (value : α) :
    directory.perform (.register value) =
      (.registered (.error (.tableFull directory.capacity)), directory) := by
  simp only [perform]
  split
  · next other first =>
      rw [full] at first
      contradiction
  · rfl

/-- A value that is found may be changed in its place. -/
theorem lookup_of_found {directory : Directory α} {id : StreamId} {value : α}
    (found : directory.values.find? id.number = some value) (change : α → α) :
    directory.perform (.lookup id change) = (.value (some value),
      directory.insert id.number (change value)
        (mem_numbers.mpr (directory.inside id.number value found))) := by
  simp only [perform]
  split
  · next other held =>
      obtain rfl := Option.some.inj (found.symm.trans held)
      rfl
  · next absent =>
      rw [found] at absent
      contradiction

/-- A number without a value changes nothing. -/
theorem lookup_of_absent {directory : Directory α} {id : StreamId}
    (absent : directory.values.find? id.number = none) (change : α → α) :
    directory.perform (.lookup id change) = (.value none, directory) := by
  simp only [perform]
  split
  · next other held =>
      rw [absent] at held
      contradiction
  · rfl

/-- An answer, with what is seen of the directory afterwards. -/
def report (answer : TableAnswer α) (directory : Directory α) : TableReport α where
  answer := answer
  capacity := directory.capacity
  size := directory.values.size
  isEmpty := directory.values.size = 0
  isFull := directory.numbers.all fun number => (directory.values.find? number).isSome

/-- The reports of a sequence of operations, and the directory after them. -/
def run : List (TableOperation α) → Directory α → List (TableReport α) × Directory α
  | [], directory => ([], directory)
  | operation :: rest, directory =>
      let (answer, after) := directory.perform operation
      let (reports, final) := run rest after
      (after.report answer :: reports, final)

end Directory

namespace SlotTable

variable {α : Type}

/-- What a slot table does. -/
def perform (table : SlotTable α) : TableOperation α → TableAnswer α × SlotTable α
  | .register value =>
      match table.register? value with
      | some (id, after) => (.registered (.ok id.number), after)
      | none => (.registered (.error (.tableFull table.capacity)), table)
  | .lookup id change =>
      match table.find? id with
      | some value => (.value (some value), table.replace id (change value))
      | none => (.value none, table)
  | .release id => (.value (table.find? id), table.release id)
  | .drain count =>
      (.entries ((table.drain count).1.map fun entry => (entry.1.number, entry.2)),
        (table.drain count).2)

/-- An answer, with what is seen of the table afterwards. -/
def report (answer : TableAnswer α) (table : SlotTable α) : TableReport α where
  answer := answer
  capacity := table.capacity
  size := table.size
  isEmpty := table.isEmpty
  isFull := table.isFull

/-- The reports of a sequence of operations, and the table after them. -/
def run : List (TableOperation α) → SlotTable α → List (TableReport α) × SlotTable α
  | [], table => ([], table)
  | operation :: rest, table =>
      let (answer, after) := table.perform operation
      let (reports, final) := run rest after
      (after.report answer :: reports, final)

/-- The table has a value under an id exactly if the directory has it under its number. -/
structure Represents (table : SlotTable α) (directory : Directory α) : Prop where
  capacity : table.capacity = directory.capacity
  find : ∀ id, table.find? id = directory.values.find? id.number
  size : table.size = directory.values.size

variable {table : SlotTable α} {directory : Directory α} {id : StreamId} {value : α}

/-- The lowest free slot is free, and all slots below it are taken. -/
theorem lowestFree?_spec (lowest : table.lowestFree? = some id) :
    table.find? id = none ∧ id.slot < table.capacity ∧
      ∀ other, other.slot < id.slot → table.find? other ≠ none := by
  obtain ⟨slot, first, rfl⟩ := Option.map_eq_some_iff.mp lowest
  obtain ⟨inside, free, taken⟩ := List.findIdx?_eq_some_iff_getElem.mp first
  refine ⟨?_, inside, ?_⟩
  · simpa [find?, List.getElem?_eq_getElem inside] using free
  · intro other lower
    have held := taken other.slot lower
    simpa [find?, List.getElem?_eq_getElem (Nat.lt_trans lower inside)] using held

/-- If there is none, all slots are taken. -/
theorem find?_ne_none_of_lowestFree? (full : table.lowestFree? = none)
    (inside : id.slot < table.capacity) : table.find? id ≠ none := by
  rw [lowestFree?, Option.map_eq_none_iff, List.findIdx?_eq_none_iff] at full
  have held := full _ (List.getElem_mem inside)
  simpa [find?, List.getElem?_eq_getElem inside, Option.isSome_iff_ne_none] using held

/-- A value in a free slot is one more entry. -/
theorem size_assign_of_free (free : table.find? id = none) (inside : id.slot < table.capacity)
    (value : α) : (table.assign id (some value)).size = table.size + 1 := by
  have inside' : id.slot < table.slots.length := inside
  have empty : table.slots[id.slot] = none := by
    simpa [find?, List.getElem?_eq_getElem inside'] using free
  simp [assign, size, List.countP_set inside', empty]

/-- Another value in a slot that has one is no other entry. -/
theorem size_assign_of_found (found : table.find? id = some value) (other : α) :
    (table.assign id (some other)).size = table.size := by
  have inside : id.slot < table.slots.length := slot_lt_capacity found
  have held : table.slots[id.slot] = some value := by
    simpa [find?, List.getElem?_eq_getElem inside] using found
  have present : 0 < table.slots.countP Option.isSome :=
    List.countP_pos_iff.mpr ⟨_, List.getElem_mem inside, by rw [held]; rfl⟩
  simp only [assign, size, List.countP_set inside, held, Option.isSome_some, ↓reduceIte]
  omega

/-- A free slot may be released again. -/
theorem release_of_free (free : table.find? id = none) : table.release id = table := by
  by_cases inside : id.slot < table.slots.length
  · have empty : table.slots[id.slot] = none := by
      simpa [find?, List.getElem?_eq_getElem inside] using free
    rw [release, assign, ← empty, List.set_getElem_self]
  · rw [release, assign, List.set_eq_of_length_le (Nat.not_lt.mp inside)]

namespace Represents

variable (represents : Represents table directory)

include represents

theorem mem_numbers (inside : id.slot < table.capacity) : id.number ∈ directory.numbers := by
  rw [Directory.mem_numbers, ← represents.capacity, StreamId.number]
  omega

/-- What is asked of the slots of a table is asked of the numbers of the directory. -/
theorem forall_numbers (holds : Option α → Prop) :
    (∀ number ∈ directory.numbers, holds (directory.values.find? number)) ↔
      ∀ id, id.slot < table.capacity → holds (table.find? id) := by
  constructor
  · intro all id inside
    rw [represents.find]
    exact all _ (represents.mem_numbers inside)
  · intro all number member
    obtain ⟨least, most⟩ := Directory.mem_numbers.mp member
    have same : (⟨number - 1⟩ : StreamId).number = number := Nat.sub_add_cancel least
    have held := all ⟨number - 1⟩ (by rw [represents.capacity]; dsimp only; omega)
    rwa [represents.find, same] at held

/-- Table and directory agree on the lowest number that is free. -/
theorem lowestFree? : directory.lowestFree? = table.lowestFree?.map StreamId.number := by
  cases lowest : table.lowestFree? with
  | none =>
      have full : ∀ number ∈ directory.numbers, directory.values.find? number ≠ none := by
        apply (represents.forall_numbers (· ≠ none)).mpr
        intro id inside
        exact find?_ne_none_of_lowestFree? lowest inside
      rw [Option.map_none, Directory.lowestFree?, List.find?_eq_none]
      intro number member
      simpa using full number member
  | some id =>
      obtain ⟨free, inside, taken⟩ := lowestFree?_spec lowest
      rw [Option.map_some, Directory.lowestFree?, Directory.numbers, List.find?_range'_eq_some]
      refine ⟨?_, represents.mem_numbers inside, ?_⟩
      · rw [← represents.find, free]
        rfl
      · intro number least lower
        rw [StreamId.number] at lower
        have held := taken ⟨number - 1⟩ (by dsimp only; omega)
        have same : (⟨number - 1⟩ : StreamId).number = number := Nat.sub_add_cancel least
        rw [represents.find, same] at held
        simpa [Option.isSome_iff_ne_none] using held

/-- The same change on both sides, for a slot of the table. -/
theorem assign (inside : id.slot < table.capacity) (value : α)
    (member : id.number ∈ directory.numbers) :
    Represents (table.assign id (some value)) (directory.insert id.number value member) where
  capacity := (capacity_assign table id _).trans represents.capacity
  find := by
    intro other
    rw [Directory.insert, FiniteMap.find?_insert]
    by_cases same : other = id
    · subst same
      rw [find?_assign_self inside, if_pos rfl]
    · have differs : other.number ≠ id.number := by
        intro equal
        exact same (congrArg StreamId.mk (Nat.succ.inj equal))
      rw [find?_assign_of_ne table same, if_neg differs, represents.find]
  size := by
    rw [Directory.insert, FiniteMap.size_insert, ← represents.find, ← represents.size]
    cases found : table.find? id with
    | none => exact size_assign_of_free found inside value
    | some old => exact size_assign_of_found found value

/-- A slot that is released is a number that is taken out. -/
theorem release (id : StreamId) :
    Represents (table.release id) (directory.without [id.number]) where
  capacity := (capacity_assign table id _).trans represents.capacity
  find := by
    intro other
    rw [Directory.without, FiniteMap.find?_without]
    by_cases same : other = id
    · subst same
      rw [find?_release_self, if_pos (List.mem_singleton.mpr rfl)]
    · have differs : other.number ∉ [id.number] := by
        intro member
        exact same (congrArg StreamId.mk (Nat.succ.inj (List.mem_singleton.mp member)))
      rw [SlotTable.release, find?_assign_of_ne table same, if_neg differs, represents.find]
  size := by
    cases found : table.find? id with
    | some old =>
        have shrinks := size_release found
        rw [represents.find] at found
        have without := FiniteMap.size_without found
        rw [represents.size] at shrinks
        exact Nat.succ.inj (shrinks.trans without.symm)
    | none =>
        rw [release_of_free found, represents.size]
        rw [represents.find] at found
        exact congrArg FiniteMap.size (FiniteMap.without_of_absent found).symm

omit represents in
/-- A drain hands out the entries with the smallest numbers, and the others stay. -/
theorem drain (represents : Represents table directory) (count : Nat) :
    (table.drain count).1.map (fun entry => (entry.1.number, entry.2)) =
        directory.entries.take count ∧
      Represents (table.drain count).2
        (directory.without ((directory.entries.take count).map Prod.fst)) := by
  induction count generalizing table directory with
  | zero =>
      rw [List.take_zero, List.map_nil, Directory.without_nil]
      exact ⟨rfl, represents⟩
  | succ count ih =>
      cases lowest : table.lowest? with
      | none =>
          have empty : directory.entries = [] := by
            apply Directory.entries_eq_nil
            apply (represents.forall_numbers (· = none)).mpr
            intro id _
            exact find?_eq_none_of_lowest? lowest id
          have stays : table.drain (count + 1) = ([], table) := by
            rw [SlotTable.drain, lowest]
          rw [stays, empty, List.take_nil, List.map_nil, List.map_nil, Directory.without_nil]
          exact ⟨rfl, represents⟩
      | some first =>
          obtain ⟨id, value⟩ := first
          obtain ⟨found, below⟩ := lowest?_spec lowest
          have entries : directory.entries =
              (id.number, value) :: (directory.without [id.number]).entries := by
            apply Directory.entries_eq_cons
            · rw [← represents.find, found]
            · intro lower least less
              rw [StreamId.number] at less
              have idle := below ⟨lower - 1⟩ (by dsimp only; omega)
              have same : (⟨lower - 1⟩ : StreamId).number = lower := Nat.sub_add_cancel least
              rwa [represents.find, same] at idle
          have takes : table.drain (count + 1) =
              ((id, value) :: ((table.release id).drain count).1,
                ((table.release id).drain count).2) := by
            rw [SlotTable.drain, lowest]
          obtain ⟨handed, left⟩ := ih (represents.release id)
          rw [takes, entries, List.take_succ_cons, List.map_cons, List.map_cons, handed]
          refine ⟨rfl, ?_⟩
          rwa [← Directory.without_cons] at left

/-- Table and directory agree on whether they are full. -/
theorem isFull : table.isFull =
    directory.numbers.all fun number => (directory.values.find? number).isSome := by
  rw [Bool.eq_iff_iff, SlotTable.isFull, List.all_eq_true, List.all_eq_true,
    represents.forall_numbers (fun held => held.isSome = true)]
  constructor
  · intro all id inside
    have held := all _ (List.getElem_mem inside)
    rwa [find?, List.getElem?_eq_getElem inside, Option.join_some]
  · intro all slot member
    obtain ⟨index, inside, rfl⟩ := List.getElem_of_mem member
    have held := all ⟨index⟩ inside
    rwa [find?, List.getElem?_eq_getElem inside, Option.join_some] at held

theorem report (answer : TableAnswer α) : table.report answer = directory.report answer := by
  rw [SlotTable.report, Directory.report, represents.capacity, represents.isFull,
    SlotTable.isEmpty, represents.size]

/-- Whatever it is asked for, the table answers as the directory does. -/
theorem perform (operation : TableOperation α) :
    (table.perform operation).1 = (directory.perform operation).1 ∧
      Represents (table.perform operation).2 (directory.perform operation).2 := by
  cases operation with
  | register value =>
      have both := represents.lowestFree?
      cases lowest : table.lowestFree? with
      | some id =>
          obtain ⟨-, inside, -⟩ := lowestFree?_spec lowest
          rw [lowest] at both
          simp only [SlotTable.perform, register?, lowest, Option.map_some,
            Directory.register_of_free both]
          exact ⟨trivial, represents.assign inside value _⟩
      | none =>
          rw [lowest] at both
          simp only [SlotTable.perform, register?, lowest, Option.map_none,
            Directory.register_of_full both, represents.capacity]
          exact ⟨trivial, represents⟩
  | lookup id change =>
      have both := represents.find id
      cases held : table.find? id with
      | some value =>
          rw [held] at both
          simp only [SlotTable.perform, held, replace, Directory.lookup_of_found both.symm]
          exact ⟨trivial, represents.assign (slot_lt_capacity held) (change value) _⟩
      | none =>
          rw [held] at both
          simp only [SlotTable.perform, held, Directory.lookup_of_absent both.symm]
          exact ⟨trivial, represents⟩
  | release id =>
      refine ⟨?_, represents.release id⟩
      exact congrArg TableAnswer.value (represents.find id)
  | drain count =>
      obtain ⟨handed, left⟩ := represents.drain count
      exact ⟨congrArg TableAnswer.entries handed, left⟩

end Represents

/-- A new table represents a new directory. -/
theorem represents_create (capacity : Nat) :
    Represents (create capacity : SlotTable α) (Directory.create capacity) where
  capacity := capacity_create capacity
  find := by
    intro id
    rw [find?_create]
    rfl
  size := by
    simp [create, SlotTable.size, List.countP_replicate]
    rfl

/-- By induction on the operations, the table represents the directory after any of them, and both
answer the same. -/
theorem Represents.run (represents : Represents table directory)
    (operations : List (TableOperation α)) :
    (run operations table).1 = (Directory.run operations directory).1 ∧
      Represents (run operations table).2 (Directory.run operations directory).2 := by
  induction operations generalizing table directory with
  | nil => exact ⟨rfl, represents⟩
  | cons operation rest ih =>
      obtain ⟨answers, after⟩ := represents.perform operation
      obtain ⟨reports, final⟩ := ih after
      refine ⟨?_, final⟩
      simp only [SlotTable.run, Directory.run, answers, after.report, reports]

/-- A slot table of any capacity is a directory of that capacity: whatever it is asked for in
whatever order, it answers as the directory does, it counts the entries that the directory has, and
under each id it has the value that the directory has under its number. -/
theorem run_eq_directory (capacity : Nat) (operations : List (TableOperation α)) :
    (run operations (create capacity)).1 = (Directory.run operations (.create capacity)).1 ∧
      Represents (run operations (create capacity)).2
        (Directory.run operations (.create capacity)).2 :=
  (represents_create capacity).run operations

/-- The lowest id is given away again, and a drain that stops leaves what it did not come to. -/
example :
    (run [.register "a", .register "b", .register "c", .release ⟨0⟩, .lookup ⟨1⟩ (· ++ "!"),
        .register "d", .drain 1, .release ⟨1⟩] (create 2)).1.map TableReport.answer =
      [.registered (.ok 1), .registered (.ok 2), .registered (.error (.tableFull 2)),
        .value (some "a"), .value (some "b"), .registered (.ok 1), .entries [(1, "d")],
        .value (some "b!")] := by
  decide

end SlotTable

namespace Streams

/-- Streams are registered as values of a slot table. -/
theorem register_apply (entry : CachedStream) (streams : Streams) :
    ∃ outcome, (streams.table.perform (.register entry)).1 =
        .registered (outcome.map StreamId.number) ∧
      register entry streams =
        (outcome, streams.withTable (streams.table.perform (.register entry)).2) := by
  simp only [register, Action.bind_apply, Action.get_apply, SlotTable.perform]
  cases streams.table.register? entry with
  | none => exact ⟨.error (.tableFull streams.table.capacity), rfl, rfl⟩
  | some registered => exact ⟨.ok registered.1, rfl, rfl⟩

end Streams

end RemoteStreams
