import RemoteStreams.Proofs.Draining
import RemoteStreams.Proofs.Opening
import RemoteStreams.Proofs.StreamClosing

/-! # Closing stream after stream

Several streams are closed one after the other, whatever fails (`RemoteStreams.Streams.Shut`). None
of them stands in the way of another, so that each is closed as if it were the only one
(`RemoteStreams.Streams.Held.saved`).
-/

namespace RemoteStreams

open Remote

namespace Streams

variable {entries earlier later : List (StreamId × CachedStream)} {id : StreamId}
  {entry : CachedStream} {remote : Remote} {descriptor : Descriptor}

/-- Streams with an open object each, not too far into it. -/
structure Held (entries : List (StreamId × CachedStream)) (remote : Remote) : Prop where
  sound : ∀ member ∈ entries, ∃ descriptor, Attached.Sound ⟨member.2, remote⟩ descriptor
  near : ∀ member ∈ entries, member.2.here < PlainFile.positionBound
  apart : entries.Pairwise fun first second => first.2.object ≠ second.2.object

/-- The object belongs to one of the streams. -/
def Has (entries : List (StreamId × CachedStream)) (object : ObjectId) : Prop :=
  ∃ member ∈ entries, member.2.object = object

/-- What closing each of several streams comes to. -/
structure Shut (entries : List (StreamId × CachedStream)) (before : Remote)
    (ended : List (StreamId × Outcome StreamError Unit) × Remote) : Prop where
  whole : Whole ended.1
  frames : Frames (Has entries) before ended.2
  elsewhere : ∀ place, (∀ member ∈ entries, ∀ descriptor,
      before.session.descriptors.find? member.2.object = some descriptor →
        descriptor.location ≠ place) →
    ended.2.objects.find? place = before.objects.find? place
  calls : ended.2.calls.filter Call.Ends = before.calls.filter Call.Ends ++
    entries.map fun member => .closeObject member.2.object
  spared : before.faults.Spares .closeObject → before.faults.Spares .storePut →
    ∀ object, Has entries object → ended.2.session.descriptors.find? object = none

theorem session_reporting (remote : Remote) (id : StreamId) (outcome : Outcome StreamError Unit) :
    (remote.reporting id outcome).session = remote.session := by
  rcases outcome with _ | _ | _ <;> rfl

theorem objects_reporting (remote : Remote) (id : StreamId) (outcome : Outcome StreamError Unit) :
    (remote.reporting id outcome).objects = remote.objects := by
  rcases outcome with _ | _ | _ <;> rfl

theorem calls_reporting (remote : Remote) (id : StreamId) (outcome : Outcome StreamError Unit) :
    (remote.reporting id outcome).calls = remote.calls := by
  rcases outcome with _ | _ | _ <;> rfl

theorem faults_reporting (remote : Remote) (id : StreamId) (outcome : Outcome StreamError Unit) :
    (remote.reporting id outcome).faults = remote.faults := by
  rcases outcome with _ | _ | _ <;> rfl

/-- What is reported about a stream touches no object. -/
theorem frames_reporting {touched : ObjectId → Prop} (remote : Remote) (id : StreamId)
    (outcome : Outcome StreamError Unit) : Frames touched remote (remote.reporting id outcome) :=
  .same (by rw [faults_reporting]; exact fun honest => honest) (session_reporting _ _ _)

/-- Nothing happens if there are no streams to close. -/
theorem shut_nil (remote : Remote) : Shut [] remote ([], remote) where
  whole := by simp [Whole]
  frames := .same id rfl
  elsewhere := fun _ _ => rfl
  calls := (List.append_nil _).symm
  spared := by simp [Has]

/-- Each stream is closed whatever the others come to. The induction is on the list of streams; what
is known about those that are left is not affected by the one that is closed, as they have other
objects. -/
theorem Held.shut (held : Held entries remote) :
    Shut entries remote (closeEach entries remote) := by
  induction entries generalizing remote with
  | nil => exact shut_nil remote
  | cons first rest others =>
      obtain ⟨id, entry⟩ := first
      obtain ⟨apart, apart'⟩ := List.pairwise_cons.mp held.apart
      obtain ⟨descriptor, sound⟩ := held.sound _ (.head rest)
      have shuts := sound.shuts (held.near _ (.head rest))
      have sparing (primitive : Primitive) (spares : remote.faults.Spares primitive) :
          (entry.close remote).2.faults.Spares primitive :=
        CachedStream.maintains_close (lasting_spares primitive) entry remote spares
      simp only [closeEach]
      generalize entry.close remote = ended at shuts sparing
      obtain ⟨outcome, closed⟩ := ended
      have frames : Frames (· = entry.object) remote (closed.reporting id outcome) :=
        shuts.frames.trans (frames_reporting closed id outcome)
      have after : Shut rest (closed.reporting id outcome)
          (closeEach rest (closed.reporting id outcome)) := by
        refine others ⟨fun member inside => ?_, fun member inside => held.near _ (.tail _ inside),
          apart'⟩
        obtain ⟨descriptor, sound⟩ := held.sound _ (.tail _ inside)
        exact ⟨descriptor, sound.framed (apart member inside).symm frames⟩
      refine ⟨?_, ?_, ?_, ?_, ?_⟩
      · intro result member
        rcases List.mem_cons.mp member with rfl | member
        · exact shuts.lasts
        · exact after.whole result member
      · refine (frames.mono fun object same => ?_).trans (after.frames.mono fun object has => ?_)
        · exact ⟨_, .head rest, same.symm⟩
        · exact has.imp fun _ => And.imp_left (.tail _)
      · intro place free
        rw [after.elsewhere place fun member inside other found => ?_, objects_reporting,
          shuts.elsewhere place (Ne.symm (free _ (.head rest) _ sound.serves.found))]
        rw [frames.others _ (Ne.symm (apart _ inside))] at found
        exact free _ (.tail _ inside) other found
      · rw [after.calls, calls_reporting, shuts.calls, List.append_assoc]
        rfl
      · intro closing putting object has
        by_cases later : Has rest object
        · have same := faults_reporting closed id outcome
          exact after.spared (same ▸ sparing _ closing) (same ▸ sparing _ putting) object later
        · rw [after.frames.others object later, session_reporting]
          obtain ⟨member, inside, rfl⟩ := has
          rcases List.mem_cons.mp inside with rfl | inside
          · exact shuts.spared closing putting
          · exact (later ⟨member, inside, rfl⟩).elim

/-- The objects that the streams have open are stored at places of their own. -/
def Scattered (entries : List (StreamId × CachedStream)) (remote : Remote) : Prop :=
  entries.Pairwise fun first second =>
    ∀ descriptor ∈ remote.session.descriptors.find? first.2.object,
      ∀ other ∈ remote.session.descriptors.find? second.2.object,
        descriptor.location ≠ other.location

instance (entries : List (StreamId × CachedStream)) (remote : Remote) :
    Decidable (Scattered entries remote) :=
  inferInstanceAs (Decidable (List.Pairwise _ entries))

/-- Streams that are closed leave the ones behind them as they are. -/
theorem Held.split (held : Held (earlier ++ later) remote) :
    Held earlier remote ∧ Held later (closeEach earlier remote).2 := by
  obtain ⟨apart, apart', between⟩ := List.pairwise_append.mp held.apart
  have first : Held earlier remote :=
    ⟨fun member inside => held.sound _ (List.mem_append_left _ inside),
      fun member inside => held.near _ (List.mem_append_left _ inside), apart⟩
  refine ⟨first, fun member inside => ?_,
    fun member inside => held.near _ (List.mem_append_right _ inside), apart'⟩
  obtain ⟨descriptor, sound⟩ := held.sound _ (List.mem_append_right _ inside)
  refine ⟨descriptor, sound.framed ?_ first.shut.frames⟩
  rintro ⟨other, before, same⟩
  exact between _ before _ inside same

/-- Each stream is closed as if it were the only one. -/
theorem Held.saved (held : Held (earlier ++ (id, entry) :: later) remote)
    (scattered : Scattered (earlier ++ (id, entry) :: later) remote)
    (sound : Attached.Sound ⟨entry, remote⟩ descriptor) (writable : descriptor.mode.writable = true)
    (ok : (entry.close (closeEach earlier remote).2).1 = .ok ()) :
    Attached.Saved ⟨entry, remote⟩ descriptor.location
      (closeEach (earlier ++ (id, entry) :: later) remote).2.objects := by
  obtain ⟨first, rest⟩ := held.split
  obtain ⟨-, -, between⟩ := List.pairwise_append.mp held.apart
  obtain ⟨-, places, across⟩ := List.pairwise_append.mp scattered
  have together : Held ([(id, entry)] ++ later) (closeEach earlier remote).2 := rest
  obtain ⟨own, last⟩ := together.split
  have before := first.shut
  have untouched : ¬Has earlier entry.object := by
    rintro ⟨other, inside, same⟩
    exact between _ inside _ (.head later) same
  have arrived := sound.framed untouched before.frames
  have shuts := arrived.shuts (held.near _ (List.mem_append_right _ (.head later)))
  have after := last.shut
  -- The streams in front leave the store of this one alone, and so do those behind it.
  have reached : (closeEach earlier remote).2.objects.find? descriptor.location =
      remote.objects.find? descriptor.location := by
    refine before.elsewhere _ fun member inside other found => ?_
    exact across _ inside _ (.head later) _ found _ sound.serves.found
  have left : (closeEach (earlier ++ (id, entry) :: later) remote).2.objects.find?
      descriptor.location =
        (entry.close (closeEach earlier remote).2).2.objects.find? descriptor.location := by
    rw [closeEach_append, ← List.singleton_append, closeEach_append, after.elsewhere, closeEach]
    · exact congrArg (·.find? descriptor.location) (objects_reporting _ _ _)
    · intro member inside other found
      have behind := (List.pairwise_cons.mp (List.pairwise_append.mp held.apart).2.1).1 _ inside
      have fresh : ¬Has [(id, entry)] member.2.object := by simpa [Has] using behind
      have fresh' : ¬Has earlier member.2.object := by
        rintro ⟨_, inner, same⟩
        exact between _ inner _ (.tail _ inside) same
      rw [own.shut.frames.others _ fresh, before.frames.others _ fresh'] at found
      exact Ne.symm ((List.pairwise_cons.mp places).1 _ inside _ sound.serves.found _ found)
  obtain ⟨content, unchanged⟩ := (shuts.saved ok writable).earlier sound writable arrived.serves
    reached
  exact ⟨left ▸ content, left ▸ unchanged⟩

/-- Each stream has one result, in the order of the streams. -/
theorem ids_closeEach (entries : List (StreamId × CachedStream)) (remote : Remote) :
    (closeEach entries remote).1.map Prod.fst = entries.map Prod.fst := by
  induction entries generalizing remote with
  | nil => rfl
  | cons first rest others => exact congrArg (first.1 :: ·) (others _)

/-- The outcome reported for a stream is that of closing it in its turn. -/
theorem closeEach_outcome {outcome : Outcome StreamError Unit}
    (once : ((earlier ++ (id, entry) :: later).map Prod.fst).Nodup)
    (result : (id, outcome) ∈ (closeEach (earlier ++ (id, entry) :: later) remote).1) :
    (entry.close (closeEach earlier remote).2).1 = outcome := by
  have absent : id ∉ earlier.map Prod.fst ∧ id ∉ later.map Prod.fst := by
    simp only [List.map_append, List.map_cons, List.nodup_append, List.nodup_cons] at once
    exact ⟨fun inside => once.2.2 id inside id (.head _) rfl, once.2.1.1⟩
  rw [closeEach_append, closeEach, List.mem_append, List.mem_cons, Prod.mk.injEq] at result
  rcases result with before | ⟨-, own⟩ | after
  · have inside := List.mem_map_of_mem (f := Prod.fst) before
    rw [ids_closeEach] at inside
    exact (absent.1 inside).elim
  · exact own.symm
  · have inside := List.mem_map_of_mem (f := Prod.fst) after
    rw [ids_closeEach] at inside
    exact (absent.2 inside).elim

end Streams

end RemoteStreams
