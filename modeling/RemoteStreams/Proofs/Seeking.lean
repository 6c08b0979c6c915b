import RemoteStreams.CachedStream.Seek
import RemoteStreams.Proofs.WindowSteps
import RemoteStreams.Proofs.WriteBack

/-! # Seeking

A seek goes where it was asked to go, by moving the cursor or by moving the
object, and leaves the file alone, wherever the stream is
(`RemoteStreams.CachedStream.seek_seeks`). Unless a fault is in the way, only
targets are refused that are no positions. The cursor is moved if the window
contains the target (`RemoteStreams.CachedStream.seek_of_contains`), and else the
object is (`RemoteStreams.CachedStream.seek_of_not_contains`).
-/

namespace RemoteStreams

/-- A number is a word exactly if it is not negative and below the bound. -/
theorem Word.ofInt?_eq_some_iff {number : Int} {word : Nat} :
    ofInt? number = some word ↔ number = word ∧ word < bound := by
  simp only [ofInt?]
  constructor
  · intro fits
    split at fits
    · obtain rfl := Option.some.inj fits
      omega
    · simp at fits
  · rintro ⟨rfl, fits⟩
    exact ofInt?_natCast fits

namespace Attached

/-- A step that moves the user of the stream to `position`. -/
structure Repositions (before : Attached) (descriptor : Descriptor) (position : Nat)
    (after : Attached) (moved : Descriptor) : Prop where
  advances : before.Advances descriptor after moved
  here : after.stream.here = position
  content : after.content? = before.content?
  dirty : after.stream.dirty = true → before.stream.dirty = true

/-- How a seek to `target` ends: where it was to end, or where it began. -/
def SeekEnds (before : Attached) (descriptor : Descriptor) (target : SeekTarget)
    (ended : Outcome StreamError Nat × Attached) : Prop :=
  (∃ position after moved, ended = (.ok position, after) ∧
    before.Repositions descriptor position after moved ∧
    ∀ content, before.content? = some content →
      PlainFile.target ⟨content, before.stream.here⟩ target = position) ∨
  ∃ cause after moved, ended = (.error cause, after) ∧ before.Keeps descriptor after moved ∧
    (before.Steady descriptor → ∀ content, before.content? = some content →
      Word.ofInt? (PlainFile.target ⟨content, before.stream.here⟩ target) = none)

/-- How a seek to `target` ends if the window is in reach: the end of the window is a machine word
again, and a dirty window stays where it is. -/
def Seeks (before : Attached) (descriptor : Descriptor) (target : SeekTarget)
    (ended : Outcome StreamError Nat × Attached) : Prop :=
  (∃ position after moved, ended = (.ok position, after) ∧
    before.Repositions descriptor position after moved ∧
    after.stream.base + after.stream.window.extent < Word.bound ∧
    (after.stream.dirty = true → after.stream.base + after.stream.window.extent =
      before.stream.base + before.stream.window.extent) ∧
    ∀ content, before.content? = some content →
      PlainFile.target ⟨content, before.stream.here⟩ target = position) ∨
  ∃ cause after moved, ended = (.error cause, after) ∧ before.Keeps descriptor after moved ∧
    (before.Calm descriptor → ∀ content, before.content? = some content →
      Word.ofInt? (PlainFile.target ⟨content, before.stream.here⟩ target) = none)

variable {before middle after : Attached} {descriptor between moved : Descriptor}

/-- A stream that goes elsewhere stays calm. -/
theorem Repositions.calm {position : Nat}
    (repositions : before.Repositions descriptor position after moved)
    (calm : before.Calm descriptor) : after.Calm moved :=
  repositions.advances.calm calm fun dirty => calm.writable (repositions.dirty dirty)

/-- A seek that goes through, or is refused for a reason, is one of the ways in which seeks end. -/
theorem Seeks.seekEnds {target : SeekTarget} {ended : Outcome StreamError Nat × Attached}
    (seeks : before.Seeks descriptor target ended) : before.SeekEnds descriptor target ended := by
  rcases seeks with ⟨position, after, moved, ended, repositions, -, -, goes⟩ |
    ⟨cause, after, moved, ended, keeps, excuse⟩
  · exact .inl ⟨position, after, moved, ended, repositions, goes⟩
  · exact .inr ⟨cause, after, moved, ended, keeps, fun steady => excuse steady.calm⟩

/-- A stream that goes elsewhere stays steady. -/
theorem Repositions.steady {position : Nat}
    (repositions : before.Repositions descriptor position after moved)
    (steady : before.Steady descriptor) : after.Steady moved :=
  repositions.advances.steady steady fun dirty => steady.writable (repositions.dirty dirty)

end Attached

namespace CachedStream

open Attached

variable {attached : Attached} {descriptor : Descriptor}

/-- The window contains `target`, so that moving the cursor leads there. Of the absolute targets the
start of the window is one of these and its end is not; of the relative ones it is the other way
round. -/
def Contains (stream : CachedStream) : SeekTarget → Prop
  | .start position => stream.base ≤ position ∧ position < stream.base + stream.window.extent
  | .current offset => offset = 0 ∨ 0 < offset ∧ offset ≤ stream.window.unread ∨
      offset < 0 ∧ 0 < stream.window.cursor + offset
  | .ending _ => False

instance (stream : CachedStream) : (target : SeekTarget) → Decidable (stream.Contains target)
  | .start _ => inferInstanceAs (Decidable (_ ∧ _))
  | .current _ => inferInstanceAs (Decidable (_ ∨ _))
  | .ending _ => inferInstanceAs (Decidable False)

/-- A shift leads to a target that the window contains. -/
theorem localShift_of_contains
    (word : attached.stream.base + attached.stream.window.extent < Word.bound)
    {target : SeekTarget} (contains : attached.stream.Contains target) :
    ∃ delta, localShift target attached = (.ok (some delta), attached) ∧
      attached.stream.window.canShift delta = true ∧
      ∀ content, PlainFile.target ⟨content, attached.stream.here⟩ target =
        attached.stream.here + delta := by
  cases target with
  | start position =>
      obtain ⟨lower, upper⟩ := contains
      refine ⟨(position - attached.stream.base : Nat) - (attached.stream.window.cursor : Int),
        ?_, ?_, fun content => ?_⟩
      · simp only [localShift, Action.bind_apply, current_apply, Word.add_apply word, lower, upper,
          and_self, ↓reduceIte, Action.pure_apply]
      · simp only [Window.canShift, Window.extent] at *
        split <;> simp only [decide_eq_true_eq] <;> omega
      · simp only [PlainFile.target, here]
        omega
  | current offset =>
      have room : attached.stream.window.canShift offset = true := by
        simp only [Contains] at contains
        simp only [Window.canShift]
        split <;> simp only [decide_eq_true_eq] <;> omega
      refine ⟨offset, ?_, room, fun content => rfl⟩
      rcases contains with rfl | ⟨forward, -⟩ | ⟨backward, inside⟩
      · simp [localShift, Action.bind_apply]
      · have moves : offset ≠ 0 := Int.ne_of_gt forward
        simp [localShift, Action.bind_apply, moves, forward, room]
      · have moves : offset ≠ 0 := Int.ne_of_lt backward
        have stays : 0 < offset + attached.stream.window.cursor := by omega
        simp [localShift, Action.bind_apply, moves, Int.not_lt.mpr (Int.le_of_lt backward), stays,
          room]
  | ending offset => exact contains.elim

/-- A target outside the window is not reached within it. -/
theorem localShift_of_not_contains
    (word : attached.stream.base + attached.stream.window.extent < Word.bound)
    {target : SeekTarget} (outside : ¬attached.stream.Contains target) :
    localShift target attached = (.ok none, attached) := by
  cases target with
  | start position =>
      simp only [Contains] at outside
      simp only [localShift, Action.bind_apply, current_apply, Word.add_apply word, outside,
        ↓reduceIte, Action.pure_apply]
  | current offset =>
      simp only [Contains, not_or] at outside
      obtain ⟨moves, ahead, behind⟩ := outside
      simp only [localShift, Action.bind_apply, current_apply, moves, ↓reduceIte]
      by_cases forward : 0 < offset
      · have narrow : ¬attached.stream.window.canShift offset = true := by
          simp only [Window.canShift, Int.le_of_lt forward, ↓reduceIte, decide_eq_true_eq]
          omega
        simp only [forward, ↓reduceIte, narrow, Bool.false_eq_true, Action.pure_apply]
      · have narrow : ¬(0 < offset + attached.stream.window.cursor ∧
            attached.stream.window.canShift offset = true) := by
          omega
        simp only [forward, ↓reduceIte, narrow, Action.pure_apply]
  | ending offset => rfl

/-- A shift within the window moves the cursor and nothing else. -/
theorem shift_cases (coherent : attached.Coherent descriptor) {delta : Int}
    (inside : attached.stream.window.canShift delta = true) :
    ∃ window, onWindow (ε := StreamError) (Window.shift delta) attached =
        (.ok (), ⟨attached.stream.withWindow window, attached.remote⟩) ∧
      window.extent = attached.stream.window.extent ∧
      ∃ position : Nat, attached.stream.here + delta = position ∧
        attached.Repositions descriptor position ⟨attached.stream.withWindow window, attached.remote⟩
          descriptor := by
  have shifted := Window.shift_apply (ε := StreamError) coherent.bounded inside
  by_cases forward : 0 ≤ delta
  · have room : delta.natAbs ≤ attached.stream.window.unread := by
      simpa [Window.canShift, forward] using inside
    have extent : (attached.stream.window.consumed delta.natAbs).extent =
        attached.stream.window.extent := by
      simp only [Window.consumed, Window.extent]
      omega
    obtain ⟨advances, content⟩ := coherent.moveCursor
      (attached.stream.window.consumed delta.natAbs) rfl extent rfl
    refine ⟨_, ?_, extent, attached.stream.here + delta.natAbs, by omega, advances, ?_, content, id⟩
    · rw [onWindow_apply, shifted, if_pos forward]
    · exact (Nat.add_assoc _ _ _).symm
  · have room : delta.natAbs ≤ attached.stream.window.cursor := by
      simpa [Window.canShift, forward] using inside
    have extent : (attached.stream.window.returned delta.natAbs).extent =
        attached.stream.window.extent := by
      simp only [Window.returned, Window.extent]
      omega
    obtain ⟨advances, content⟩ := coherent.moveCursor
      (attached.stream.window.returned delta.natAbs) rfl extent rfl
    refine ⟨_, ?_, extent, attached.stream.here - delta.natAbs, ?_, advances, ?_, content, id⟩
    · rw [onWindow_apply, shifted, if_neg forward]
    · simp only [here]
      omega
    · exact (Nat.add_sub_assoc room _).symm

/-- The object is asked for the target that the stream is asked for. -/
theorem resolve_cases (addressable : attached.stream.here < Word.bound) (target : SeekTarget) :
    (∃ goal, resolve target attached = (.ok goal, attached) ∧
      ∀ (moved : Descriptor) (content : Bytes), content.length = moved.content.length →
        moved.target goal = PlainFile.target ⟨content, attached.stream.here⟩ target) ∨
    ∃ cause, resolve target attached = (.error cause, attached) ∧
      ∀ content, Word.ofInt? (PlainFile.target ⟨content, attached.stream.here⟩ target) = none := by
  cases target with
  | start position => exact .inl ⟨.start position, rfl, fun _ _ _ => rfl⟩
  | ending offset =>
      refine .inl ⟨.ending offset, rfl, fun moved content same => ?_⟩
      simp only [Descriptor.target, PlainFile.target, same]
  | current offset =>
      cases fits : Word.ofInt? (attached.stream.here + offset) with
      | some absolute =>
          obtain ⟨exact, -⟩ := Word.ofInt?_eq_some_iff.mp fits
          refine .inl ⟨.start absolute, ?_, fun _ _ _ => exact.symm⟩
          simp only [resolve, Action.bind_apply, tell_apply addressable, fits, Action.pure_apply]
      | none =>
          refine .inr ⟨.invalidSeek (attached.stream.here + offset), ?_, fun _ => fits⟩
          simp only [resolve, Action.bind_apply, tell_apply addressable, fits, Action.fail_apply]

/-- A seek out of the window writes it back and moves the object. -/
theorem seekObject_seeks (coherent : attached.Coherent descriptor)
    (inReach : attached.InReach descriptor) (target : SeekTarget) :
    attached.Seeks descriptor target (seekObject target attached) := by
  rcases resolve_cases (here_lt inReach.word) target with
    ⟨goal, resolved, same⟩ | ⟨cause, failed, refused⟩
  · rcases flush_inReach coherent inReach with
      ⟨remote, between, wrote, kept, -⟩ |
        ⟨cause, synced, remote, moved, failed, kept, dirty, excuse⟩
    · have flushed := kept.advances.coherent
      have goes : ∀ content, attached.content? = some content →
          between.target goal = PlainFile.target ⟨content, attached.stream.here⟩ target := by
        intro content shown
        rw [← kept.content, flushed.content?_of_clean rfl] at shown
        exact same between content (Descriptor.length_of_backing? shown)
      rcases Link.seekObject_cases flushed.serves goal with
        ⟨position, asked, answered, reached, moves⟩ | ⟨cause, asked, failed, moves, excuse⟩
      · obtain ⟨exact, word⟩ := Word.ofInt?_eq_some_iff.mp reached
        have noted := moves.trans (moves.serves.noting
          (.sought attached.stream.flushed.path target position))
        have advances := flushed.anchor rfl noted rfl
        refine .inl ⟨position, _, _, ?_, ⟨kept.advances.trans advances, rfl, ?_, fun dirty => ?_⟩,
          word, fun dirty => ?_, fun content shown => ?_⟩
        · simp only [seekObject, Action.bind_apply, resolved, wrote, current_apply, ask_apply,
            answered, Outcome.mapError_ok, anchor_apply, note_apply, Action.pure_apply]
        · rw [advances.coherent.content?_of_clean rfl, ← kept.content,
            flushed.content?_of_clean rfl, noted.objects]
          rfl
        · simp [anchored, CachedStream.flushed] at dirty
        · simp [anchored, CachedStream.flushed] at dirty
        · rw [← goes content shown, exact]
      · refine .inr ⟨.remote cause, _, between, ?_, kept.trans (flushed.keeps_remote moves),
          fun calm content shown => ?_⟩
        · simp only [seekObject, Action.bind_apply, resolved, wrote, current_apply, ask_apply,
            failed, Outcome.mapError_error]
        · rw [← goes content shown]
          exact excuse (kept.calm calm).quiet
    · refine .inr ⟨cause, _, moved, ?_, kept, fun calm => ?_⟩
      · simp only [seekObject, Action.bind_apply, resolved, failed]
      · exact (calm.no_refusal dirty excuse).elim
  · refine .inr ⟨cause, attached, descriptor, ?_, .refl coherent, fun _ content _ =>
      refused content⟩
    simp only [seekObject, Action.bind_apply, failed]

/-- A seek to a target that the window contains moves the cursor only. -/
theorem seek_of_contains (coherent : attached.Coherent descriptor)
    (inReach : attached.InReach descriptor) {target : SeekTarget}
    (contains : attached.stream.Contains target) :
    ∃ position after, seek target attached = (.ok position, after) ∧
      after.remote = attached.remote ∧
      attached.Repositions descriptor position after descriptor ∧
      after.stream.base + after.stream.window.extent =
        attached.stream.base + attached.stream.window.extent ∧
      ∀ content, PlainFile.target ⟨content, attached.stream.here⟩ target = position := by
  obtain ⟨delta, tried, possible, goes⟩ := localShift_of_contains inReach.word contains
  obtain ⟨window, shifted, extent, position, sum, repositions⟩ := shift_cases coherent possible
  have same : attached.stream.base + window.extent =
      attached.stream.base + attached.stream.window.extent := by
    rw [extent]
  refine ⟨position, ⟨attached.stream.withWindow window, attached.remote⟩, ?_, rfl, repositions,
    same, fun content => ?_⟩
  · have told : (tell : StreamAction Nat)
        ⟨attached.stream.withWindow window, attached.remote⟩ = _ :=
      tell_apply (here_lt (same ▸ inReach.word))
    simp only [seek, Action.bind_apply, tried, shifted, told, repositions.here]
  · rw [goes content, sum]

/-- Any other seek moves the object. -/
theorem seek_of_not_contains (inReach : attached.InReach descriptor) {target : SeekTarget}
    (outside : ¬attached.stream.Contains target) :
    seek target attached = seekObject target attached := by
  simp only [seek, Action.bind_apply, localShift_of_not_contains inReach.word outside]

/-- Wherever the stream is, a seek ends where it was to end, or it leaves the file as it was. -/
theorem seek_seeks (coherent : attached.Coherent descriptor)
    (inReach : attached.InReach descriptor) (target : SeekTarget) :
    attached.Seeks descriptor target (seek target attached) := by
  by_cases contains : attached.stream.Contains target
  · obtain ⟨position, after, ended, -, repositions, same, goes⟩ :=
      seek_of_contains coherent inReach contains
    exact .inl ⟨position, after, descriptor, ended, repositions, same ▸ inReach.word, fun _ => same,
      fun content _ => goes content⟩
  · rw [seek_of_not_contains inReach contains]
    exact seekObject_seeks coherent inReach target

/-- A seek ends where it was to end, or it leaves the file as it was. -/
theorem seek_cases (coherent : attached.Coherent descriptor)
    (near : attached.stream.here < PlainFile.positionBound) (target : SeekTarget) :
    attached.SeekEnds descriptor target (seek target attached) :=
  (seek_seeks coherent (inReach_of_lt (coherent.reach_lt near)) target).seekEnds

end CachedStream

end RemoteStreams
