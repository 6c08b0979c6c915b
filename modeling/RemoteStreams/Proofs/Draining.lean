import RemoteStreams.Proofs.TableSteps
import RemoteStreams.Streams.Shutdown

/-! # Draining the table

A shutdown takes the streams out of the table, each of them once and in the order of their ids
(`RemoteStreams.SlotTable.mem_entries`, `RemoteStreams.SlotTable.pairwise_entries`). Nothing is left
of the table, and what becomes of the remote side is that each stream in turn was closed
(`RemoteStreams.Streams.shutdown_apply`).
-/

namespace RemoteStreams

open Remote

namespace SlotTable

variable {α : Type} {table : SlotTable α} {id : StreamId} {entry : α}

/-- The entries in the order of their ids. -/
def entries (table : SlotTable α) : List (StreamId × α) := (table.drain table.capacity).1

/-- A table without a lowest entry is empty. -/
theorem find?_eq_none_of_lowest? (empty : table.lowest? = none) (id : StreamId) :
    table.find? id = none := by
  unfold lowest? at empty
  split at empty
  · next vacant =>
      rw [List.findIdx?_eq_none_iff] at vacant
      cases held : table.slots[id.slot]? with
      | none => simp [find?, held]
      | some slot =>
          have idle := vacant slot (List.mem_of_getElem? held)
          simpa [find?, held] using idle
  · next slot first =>
      obtain ⟨inside, held, -⟩ := List.findIdx?_eq_some_iff_getElem.mp first
      obtain ⟨entry, held⟩ := Option.isSome_iff_exists.mp held
      simp [find?, List.getElem?_eq_getElem inside, held] at empty

/-- The lowest entry is in the table, and nothing is below it. -/
theorem lowest?_spec (lowest : table.lowest? = some (id, entry)) :
    table.find? id = some entry ∧
      ∀ other, other.slot < id.slot → table.find? other = none := by
  unfold lowest? at lowest
  split at lowest
  · contradiction
  · next slot first =>
      obtain ⟨inside, -, below⟩ := List.findIdx?_eq_some_iff_getElem.mp first
      obtain ⟨value, found, made⟩ := Option.map_eq_some_iff.mp lowest
      obtain ⟨rfl, rfl⟩ := Prod.mk.inj made
      refine ⟨found, fun other lower => ?_⟩
      have idle := below other.slot lower
      simpa [find?, List.getElem?_eq_getElem (Nat.lt_trans lower inside)] using idle

/-- A slot that was released is free. -/
theorem find?_release_self (id : StreamId) : (table.release id).find? id = none := by
  by_cases inside : id.slot < table.capacity
  · exact find?_assign_self inside none
  · have absent : (table.release id).slots.length ≤ id.slot :=
      Nat.le_trans (Nat.le_of_eq (capacity_assign table id none)) (Nat.not_lt.mp inside)
    simp [find?, List.getElem?_eq_none absent]

/-- An entry that leaves makes the table smaller by one. -/
theorem size_release (found : table.find? id = some entry) :
    (table.release id).size + 1 = table.size := by
  have inside : id.slot < table.slots.length := slot_lt_capacity found
  have held : table.slots[id.slot] = some entry := by
    simpa [find?, List.getElem?_eq_getElem inside] using found
  have present : 0 < table.slots.countP Option.isSome :=
    List.countP_pos_iff.mpr ⟨_, List.getElem_mem inside, by rw [held]; rfl⟩
  simp only [release, assign, size, List.countP_set inside, held]
  simp
  omega

theorem size_le_capacity (table : SlotTable α) : table.size ≤ table.capacity :=
  List.countP_le_length

/-- A table without entries is one that was just created. -/
theorem eq_create (empty : ∀ id, table.find? id = none) : table = create table.capacity := by
  obtain ⟨slots⟩ := table
  refine congrArg SlotTable.mk (List.eq_replicate_of_mem fun slot member => ?_)
  obtain ⟨index, inside, rfl⟩ := List.getElem_of_mem member
  simpa [find?, List.getElem?_eq_getElem inside] using empty ⟨index⟩

/-- With as many turns as there are entries, a drain takes each of them and no other. -/
theorem mem_drain {count : Nat} (enough : table.size ≤ count) (id : StreamId) (entry : α) :
    (id, entry) ∈ (table.drain count).1 ↔ table.find? id = some entry := by
  induction count generalizing table with
  | zero =>
      simp only [drain, List.not_mem_nil, false_iff]
      intro found
      have taken := size_release found
      omega
  | succ count others =>
      unfold drain
      split
      · next idle => simp [find?_eq_none_of_lowest? idle]
      · next first value lowest =>
          have found := (lowest?_spec lowest).1
          have taken := size_release found
          rw [List.mem_cons, others (by omega)]
          by_cases same : id = first
          · subst same
            simp [find?_release_self, found, eq_comm]
          · simp [same, release, find?_assign_of_ne _ same]

/-- A drain takes the entries in the order of their slots. -/
theorem pairwise_drain {count : Nat} (enough : table.size ≤ count) :
    (table.drain count).1.Pairwise fun first second => first.1.slot < second.1.slot := by
  induction count generalizing table with
  | zero => exact .nil
  | succ count others =>
      unfold drain
      split
      · exact .nil
      · next first value lowest =>
          obtain ⟨found, below⟩ := lowest?_spec lowest
          have taken := size_release found
          refine .cons (fun taken member => ?_) (others (by omega))
          obtain ⟨other, entry⟩ := taken
          have later := (mem_drain (by omega) other entry).mp member
          have differs : other ≠ first := by
            rintro rfl
            rw [find?_release_self] at later
            contradiction
          rw [release, find?_assign_of_ne _ differs] at later
          have apart : other.slot ≠ first.slot := fun same => differs (congrArg StreamId.mk same)
          have above : ¬other.slot < first.slot := fun lower => by
            rw [below other lower] at later
            contradiction
          show first.slot < other.slot
          omega

/-- A drain that takes all entries leaves an empty table. -/
theorem drain_left {count : Nat} (enough : table.size ≤ count) :
    (table.drain count).2 = create table.capacity := by
  induction count generalizing table with
  | zero =>
      refine eq_create fun id => ?_
      cases found : table.find? id with
      | none => exact found
      | some entry =>
          have taken := size_release found
          omega
  | succ count others =>
      unfold drain
      split
      · next idle => exact eq_create (find?_eq_none_of_lowest? idle)
      · next first value lowest =>
          have taken := size_release (lowest?_spec lowest).1
          dsimp only
          rw [others (by omega), release, capacity_assign]

theorem isFull_iff (table : SlotTable α) : table.isFull = true ↔ table.size = table.capacity := by
  simp [isFull, size, capacity, List.countP_eq_length]

theorem mem_entries : (id, entry) ∈ table.entries ↔ table.find? id = some entry :=
  mem_drain table.size_le_capacity id entry

theorem pairwise_entries (table : SlotTable α) :
    table.entries.Pairwise fun first second => first.1.slot < second.1.slot :=
  pairwise_drain table.size_le_capacity

/-- So no stream is listed twice. -/
theorem nodup_entries (table : SlotTable α) : (table.entries.map Prod.fst).Nodup := by
  rw [List.Nodup, List.pairwise_map]
  refine table.pairwise_entries.imp fun {first second} lower (same : first.1 = second.1) => ?_
  rw [same] at lower
  exact Nat.lt_irrefl _ lower

end SlotTable

/-- The remote side after it was said how closing a stream of the table ended. -/
def Remote.reporting (remote : Remote) (id : StreamId) : Outcome StreamError Unit → Remote
  | .error cause => remote.noting (.closeFailed id cause)
  | .ok () | .broken _ => remote

/-- A session that is not refused its end has no objects left. -/
theorem Link.disconnect_ends (before : Remote) :
    (∃ cause, disconnect before = (.error cause, before.calling .disconnect)) ∨
    ∃ after, disconnect before = (.ok (), after) ∧
      after.session = before.session.disconnected ∧ after.objects = before.objects ∧
      after.calls = before.calls ++ [.disconnect] := by
  rcases announce_ends .disconnect before with ⟨cause, refused⟩ | ⟨fault, passed⟩
  · exact .inl ⟨cause, by simp only [disconnect, Action.bind_apply, refused]⟩
  · obtain ⟨answered, session, objects, calls⟩ :=
      Session.disconnect_ends (before.calling .disconnect)
    refine .inr ⟨_, ?_, session, objects, calls⟩
    simp only [disconnect, Action.bind_apply, passed]
    exact Prod.ext answered rfl

/-- To disconnect stores nothing, and it is one call, whether it is refused or not. -/
theorem Link.disconnect_traces (before : Remote) :
    (disconnect before).2.objects = before.objects ∧
      (disconnect before).2.calls = before.calls ++ [.disconnect] := by
  rcases disconnect_ends before with ⟨cause, refused⟩ | ⟨after, left, -, objects, calls⟩
  · rw [refused]
    exact ⟨rfl, rfl⟩
  · rw [left]
    exact ⟨objects, calls⟩

namespace Streams

/-- Closes streams one after the other, with how that ended for each of them. -/
def closeEach : List (StreamId × CachedStream) → Remote →
    List (StreamId × Outcome StreamError Unit) × Remote
  | [], remote => ([], remote)
  | (id, entry) :: rest, remote =>
      let (outcome, closed) := entry.close remote
      let (others, after) := closeEach rest (closed.reporting id outcome)
      ((id, outcome) :: others, after)

/-- The first error among those of several streams. -/
def firstError (results : List (StreamId × Outcome StreamError Unit)) : Option StreamError :=
  results.findSome? fun
    | (_, .error cause) => some cause
    | (_, .ok ()) | (_, .broken _) => none

/-- No check failed when streams were closed. -/
def Whole (results : List (StreamId × Outcome StreamError Unit)) : Prop :=
  ∀ result ∈ results, ∀ breach, result.2 ≠ .broken breach

/-- Streams are closed one list after the other. -/
theorem closeEach_append (earlier later : List (StreamId × CachedStream)) (remote : Remote) :
    closeEach (earlier ++ later) remote =
      ((closeEach earlier remote).1 ++ (closeEach later (closeEach earlier remote).2).1,
        (closeEach later (closeEach earlier remote).2).2) := by
  induction earlier generalizing remote with
  | nil => rfl
  | cons first earlier others => simp only [List.cons_append, closeEach, others]

/-- The loop that closes the lowest stream each time closes the entries of a drain in their order,
by induction on how many may be left. -/
theorem closeLowest_apply (count : Nat) (streams : Streams)
    (whole : Whole (closeEach (streams.table.drain count).1 streams.remote).1) :
    closeLowest count streams =
      (.ok (firstError (closeEach (streams.table.drain count).1 streams.remote).1),
        (streams.withTable (streams.table.drain count).2).withRemote
          (closeEach (streams.table.drain count).1 streams.remote).2) := by
  induction count generalizing streams with
  | zero => rfl
  | succ count others =>
      unfold SlotTable.drain at whole ⊢
      cases lowest : streams.table.lowest? with
      | none => simp [closeLowest, Action.bind_apply, lowest, closeEach, firstError, withTable,
          withRemote]
      | some first =>
          obtain ⟨id, entry⟩ := first
          simp only [lowest, closeEach] at whole ⊢
          generalize closes : entry.close streams.remote = ended at whole ⊢
          obtain ⟨outcome, closed⟩ := ended
          have next := others ((streams.withTable (streams.table.release id)).withRemote
            (closed.reporting id outcome)) fun result member => whole result (.tail _ member)
          cases outcome with
          | ok done =>
              simpa [closeLowest, Action.bind_apply, lowest, Action.attempt, onRemote_apply,
                closes, withTable, withRemote, firstError, Remote.reporting] using next
          | error cause =>
              simp only [withTable, withRemote, Remote.reporting] at next
              simp [closeLowest, Action.bind_apply, lowest, Action.attempt, onRemote_apply,
                closes, withTable, withRemote, firstError, Remote.reporting, note, Remote.note,
                Action.map_apply, next]
          | broken breach => exact (whole _ (.head _) breach rfl).elim

/-- How a shutdown ends: with what the session says to its end, else with the first error of a
stream. -/
def farewell (results : List (StreamId × Outcome StreamError Unit)) :
    Outcome RemoteError Unit → Outcome StreamError Unit
  | .ok () => (firstError results).elim (.ok ()) .error
  | .error cause => .error (.remote cause)
  | .broken breach => .broken breach

/-- A shutdown closes each stream in turn and then disconnects. -/
theorem shutdown_apply (streams : Streams)
    (whole : Whole (closeEach streams.table.entries streams.remote).1) :
    shutdown streams =
      (farewell (closeEach streams.table.entries streams.remote).1
        (Link.disconnect (closeEach streams.table.entries streams.remote).2).1,
        (streams.withTable (.create streams.table.capacity)).withRemote
          (Link.disconnect (closeEach streams.table.entries streams.remote).2).2) := by
  have closes := closeLowest_apply streams.table.capacity streams whole
  rw [SlotTable.drain_left streams.table.size_le_capacity] at closes
  change closeLowest streams.table.capacity streams =
    (.ok (firstError (closeEach streams.table.entries streams.remote).1),
      (streams.withTable (.create streams.table.capacity)).withRemote
        (closeEach streams.table.entries streams.remote).2) at closes
  generalize closeEach streams.table.entries streams.remote = closed at closes
  obtain ⟨results, remote⟩ := closed
  simp only [shutdown, Action.bind_apply, Action.get_apply, closes, ask, Action.mapError,
    onRemote_apply]
  generalize disconnects : Link.disconnect remote = ended
  obtain ⟨_ | _ | _, after⟩ := ended
  · cases first : firstError results <;>
      simp [withRemote, withTable, disconnects, farewell, first]
  · simp [withRemote, withTable, disconnects, farewell]
  · simp [withRemote, withTable, disconnects, farewell]

end Streams

end RemoteStreams
