import RemoteStreams.Proofs.Coherence

/-! # Steps of the window

What a stream may do to its window without losing coherence: move the cursor
within the occupied part, grow the buffer, and, when the window is clean, start
over where the object stands.
-/

namespace RemoteStreams

namespace Window

/-- The window with room for at least `capacity` bytes. -/
def grown (window : Window) (capacity : Nat) : Window :=
  if capacity ≤ window.capacity then window else window.enlarged capacity

variable (window : Window) (capacity : Nat)

@[simp] theorem cursor_grown : (window.grown capacity).cursor = window.cursor := by
  unfold grown
  split <;> rfl

@[simp] theorem unread_grown : (window.grown capacity).unread = window.unread := by
  unfold grown
  split <;> rfl

@[simp] theorem limit_grown : (window.grown capacity).limit = window.limit := by
  unfold grown
  split <;> rfl

@[simp] theorem extent_grown : (window.grown capacity).extent = window.extent := by
  simp [extent]

/-- A window grows to the size that is asked for, if it is smaller. -/
theorem capacity_grown : (window.grown capacity).capacity = max window.capacity capacity := by
  unfold grown
  split
  · omega
  · simp only [Window.capacity, enlarged, List.length_append, Bytes.length_zeros] at *
    omega

/-- A window that has grown holds what it held. -/
theorem occupied_grown {window : Window} (bounded : window.InBounds) :
    (window.grown capacity).occupied = window.occupied := by
  have inside := inBounds_iff.mp bounded
  unfold occupied
  rw [extent_grown]
  unfold grown
  split
  · rfl
  · exact List.take_append_of_le_length inside

end Window

namespace Attached

open CachedStream

variable {attached : Attached} {descriptor moved : Descriptor} {remote : Remote}

/-- Another window that occupies the same bytes is as good as the old one. -/
theorem Coherent.rewindow (coherent : attached.Coherent descriptor) {window : Window}
    (occupied : window.occupied = attached.stream.window.occupied)
    (extent : window.extent = attached.stream.window.extent)
    (limit : window.limit = attached.stream.window.limit)
    (larger : attached.stream.window.capacity ≤ window.capacity)
    (limited : window.capacity ≤ window.limit)
    (allocated : window.capacity < Window.allocationBound) :
    attached.Advances descriptor ⟨attached.stream.withWindow window, attached.remote⟩ descriptor ∧
      content? ⟨attached.stream.withWindow window, attached.remote⟩ = attached.content? := by
  have inside : window.extent ≤ window.capacity := by
    rw [extent]
    exact Nat.le_trans coherent.extent_le larger
  have after : Coherent ⟨attached.stream.withWindow window, attached.remote⟩ descriptor :=
    { serves := coherent.serves
      position := coherent.position
      bounded := Window.inBounds_iff.mpr inside
      limited := limited
      allocated := allocated
      reached := Nat.le_trans coherent.reached (Nat.le_of_eq extent.symm)
      settled := fun clean => (coherent.settled clean).trans extent.symm
      pending := fun dirty => Nat.lt_of_lt_of_eq (coherent.pending dirty) extent.symm
      mirrored := fun clean backing backed => by
        have same := coherent.mirrored clean backing backed
        rw [← occupied, ← extent] at same
        exact same }
  refine ⟨⟨coherent.serves.refl, rfl, limit, larger, after⟩, ?_⟩
  rw [after.content?_eq, coherent.content?_eq]
  congr 1
  funext backing
  simp only [overlaid, CachedStream.withWindow, occupied]

/-- The cursor may move anywhere in the occupied part. -/
theorem Coherent.moveCursor (coherent : attached.Coherent descriptor) (window : Window)
    (data : window.data = attached.stream.window.data)
    (extent : window.extent = attached.stream.window.extent)
    (limit : window.limit = attached.stream.window.limit) :
    attached.Advances descriptor ⟨attached.stream.withWindow window, attached.remote⟩ descriptor ∧
      content? ⟨attached.stream.withWindow window, attached.remote⟩ = attached.content? := by
  have capacity : window.capacity = attached.stream.window.capacity := congrArg List.length data
  apply coherent.rewindow _ extent limit (Nat.le_of_eq capacity.symm)
  · rw [capacity, limit]
    exact coherent.limited
  · rw [capacity]
    exact coherent.allocated
  · simp only [Window.occupied, data, extent]

/-- A larger buffer changes nothing for the user of the stream. -/
theorem Coherent.keeps_grown (coherent : attached.Coherent descriptor) {capacity : Nat}
    (allowed : capacity ≤ attached.stream.window.limit)
    (allocatable : (attached.stream.window.grown capacity).capacity < Window.allocationBound) :
    attached.Keeps descriptor ⟨attached.stream.withWindow (attached.stream.window.grown capacity),
      attached.remote.requesting⟩ descriptor := by
  have asked := coherent.keeps_remote coherent.serves.requesting
  have size := attached.stream.window.capacity_grown capacity
  have limited : (attached.stream.window.grown capacity).capacity ≤
      (attached.stream.window.grown capacity).limit := by
    rw [size, Window.limit_grown]
    exact Nat.max_le.mpr ⟨coherent.limited, allowed⟩
  obtain ⟨advances, shown⟩ := asked.advances.coherent.rewindow
    (Window.occupied_grown capacity coherent.bounded) (Window.extent_grown _ _)
    (Window.limit_grown _ _) (size ▸ Nat.le_max_left _ _) limited allocatable
  refine asked.trans ⟨advances, ?_, shown, id⟩
  simp [here, CachedStream.withWindow]

/-- Growing the window changes nothing for the user of the stream, whether or not there is
memory. -/
theorem Coherent.grow_cases (coherent : attached.Coherent descriptor) {capacity : Nat}
    (allowed : capacity ≤ attached.stream.window.limit) :
    (grow capacity attached =
        (.ok (), ⟨attached.stream.withWindow (attached.stream.window.grown capacity),
          attached.remote.requesting⟩) ∧
      attached.Keeps descriptor
        ⟨attached.stream.withWindow (attached.stream.window.grown capacity),
          attached.remote.requesting⟩ descriptor) ∨
    grow capacity attached =
        (.error (.allocation capacity), ⟨attached.stream, attached.remote.requesting⟩) ∧
      attached.Keeps descriptor ⟨attached.stream, attached.remote.requesting⟩ descriptor ∧
      (attached.remote.faults = ∅ → Window.allocationBound ≤ capacity) := by
  have allocated := coherent.allocated
  rw [grow_apply, onWindow_apply]
  by_cases large : capacity ≤ attached.stream.window.capacity
  · have same : attached.stream.window.grown capacity = attached.stream.window := if_pos large
    have allocatable : (attached.stream.window.grown capacity).capacity <
        Window.allocationBound := by rwa [same]
    refine .inl ⟨?_, coherent.keeps_grown allowed allocatable⟩
    rw [Window.grow_of_le _ allowed large, same]
  · have small := Nat.not_le.mp large
    have enlarged : attached.stream.window.grown capacity =
        attached.stream.window.enlarged capacity := if_neg large
    cases granted : attached.remote.affords capacity with
    | true =>
        have allocatable : (attached.stream.window.grown capacity).capacity <
            Window.allocationBound := by
          rw [Window.capacity_grown]
          exact Nat.max_lt.mpr ⟨allocated, Remote.lt_of_affords granted⟩
        refine .inl ⟨?_, coherent.keeps_grown allowed allocatable⟩
        rw [Window.grow_apply coherent.bounded allowed small, enlarged]
    | false =>
        refine .inr ⟨?_, coherent.keeps_remote coherent.serves.requesting, fun quiet => ?_⟩
        · rw [Window.grow_refused allowed small]
          rfl
        · apply Nat.not_lt.mp
          intro allocatable
          rw [Remote.affords_of_quiet quiet allocatable] at granted
          contradiction

/-- An empty window that begins where the object stands is coherent with it. -/
theorem Coherent.anchored (coherent : attached.Coherent descriptor)
    (clean : attached.stream.dirty = false) {base : Nat}
    (serves : remote.Serves attached.stream.object moved) (position : moved.position = base) :
    Coherent ⟨attached.stream.anchored base, remote⟩ moved where
  serves := serves
  position := position
  bounded := Window.inBounds_cleared _
  limited := coherent.limited
  allocated := coherent.allocated
  reached := Nat.le_refl _
  settled := fun _ => rfl
  pending := fun dirty => by simp [CachedStream.anchored, clean] at dirty
  mirrored := fun _ backing _ => by
    simp [CachedStream.anchored, Window.cleared, Window.occupied, Window.extent]

/-- A clean window may start over where the object stands. -/
theorem Coherent.anchor (coherent : attached.Coherent descriptor)
    (clean : attached.stream.dirty = false) {base : Nat}
    (moves : Remote.Moves attached.stream.object attached.remote descriptor remote moved)
    (position : moved.position = base) :
    attached.Advances descriptor ⟨attached.stream.anchored base, remote⟩ moved where
  moves := moves
  object := rfl
  limit := rfl
  capacity := Nat.le_refl _
  coherent := coherent.anchored clean moves.serves position

end Attached

namespace CachedStream

open Attached

variable {attached : Attached} {descriptor : Descriptor}

/-- A stream tells its position if that is a word. -/
theorem tell_apply {ε : Type} (addressable : attached.stream.here < Word.bound) :
    (tell : Action Attached ε Nat) attached = (.ok attached.stream.here, attached) := by
  simp only [tell, Action.bind_apply, current_apply]
  exact Word.add_apply addressable attached

/-- A position that is not a word cannot be told. -/
theorem tell_far {ε : Type} (far : ¬attached.stream.here < Word.bound) :
    (tell : Action Attached ε Nat) attached = (.broken .additionOverflow, attached) := by
  simp only [tell, Action.bind_apply, current_apply, Word.add]
  exact congrFun (if_neg far) attached

/-- There is room for as many bytes as there are. -/
theorem le_roomFor {count : Nat} (small : count < Word.signedBound) : count ≤ roomFor count := by
  simp only [roomFor, Word.saturate, Word.bound, Word.signedBound] at *
  omega

/-- There is not much more room than for twice as many. -/
theorem roomFor_le (count : Nat) : roomFor count ≤ 2 * count + 8 := Nat.min_le_left _ _

/-- A window that is clean and used up ends where the stream and the object stand. -/
theorem position_of_settled (coherent : attached.Coherent descriptor)
    (clean : attached.stream.dirty = false) (used : attached.stream.window.unread = 0) :
    descriptor.position = attached.stream.here := by
  rw [coherent.position, coherent.settled clean, here, Window.extent, used, Nat.add_zero]

/-- A settled stream may let its window begin at its position. -/
theorem keeps_anchored (coherent : attached.Coherent descriptor)
    (clean : attached.stream.dirty = false) {remote : Remote}
    (position : descriptor.position = attached.stream.here)
    (moves : Remote.Moves attached.stream.object attached.remote descriptor remote descriptor) :
    attached.Keeps descriptor ⟨attached.stream.anchored attached.stream.here, remote⟩ descriptor := by
  have advances := coherent.anchor clean moves position
  refine ⟨advances, ?_, ?_, id⟩
  · simp [here, anchored, Window.cleared]
  · rw [advances.coherent.content?_of_clean clean, coherent.content?_of_clean clean, moves.objects]

/-- After a transfer around the window the stream finds its object, which was moved on by
`count` bytes, whether or not it answers. -/
theorem anchorAfterDirect_ends (stream : CachedStream) {remote : Remote} {base count : Nat}
    (serves : remote.Serves stream.object descriptor) (position : descriptor.position = base + count)
    (word : count = 0 ∨ base + count < Word.bound) :
    ∃ outcome after, anchorAfterDirect count ⟨stream.anchored base, remote⟩ =
        (outcome, ⟨stream.anchored (base + count), after⟩) ∧
      Remote.Moves stream.object remote descriptor after descriptor ∧
      (base + count < Word.bound → outcome = .ok ()) := by
  rcases Link.position_ends serves with
    ⟨after, answered, moves⟩ | ⟨cause, after, failed, moves, far⟩
  · refine ⟨.ok (), after, ?_, moves, fun _ => rfl⟩
    simp [anchorAfterDirect, Action.bind_apply, Action.attempt, onRemote_apply, answered, anchored,
      position]
  · have noted := moves.trans (moves.serves.noting (.positionUnknown stream.path count cause))
    by_cases fits : base + count < Word.bound
    · refine ⟨.ok (), _, ?_, noted, fun _ => rfl⟩
      simp [anchorAfterDirect, Action.bind_apply, Action.attempt, onRemote_apply, failed, anchored,
        Word.add, fits]
    · obtain rfl := word.resolve_right fits
      refine ⟨.broken .additionOverflow, _, ?_, noted, fun inRange => (fits inRange).elim⟩
      have beyond : ¬base < Word.bound := fits
      simp [anchorAfterDirect, Action.bind_apply, Action.attempt, onRemote_apply, failed, anchored,
        Word.add, beyond]

/-- After a transfer around the window, the window is anchored where the transfer ended. -/
theorem anchorAfterDirect_apply (stream : CachedStream) {remote : Remote} {base count : Nat}
    (serves : remote.Serves stream.object descriptor) (position : descriptor.position = base + count)
    (fits : base + count < Word.bound) :
    ∃ after, anchorAfterDirect count ⟨stream.anchored base, remote⟩ =
        (.ok (), ⟨stream.anchored (base + count), after⟩) ∧
      Remote.Moves stream.object remote descriptor after descriptor := by
  obtain ⟨outcome, after, ended, moves, counts⟩ :=
    anchorAfterDirect_ends stream serves position (.inr fits)
  obtain rfl := counts fits
  exact ⟨after, ended, moves⟩

end CachedStream

end RemoteStreams
