import RemoteStreams.Proofs.WindowSteps
import RemoteStreams.Proofs.WriteBack

/-! # Writing

A write puts a front part of its data into the file at the position and says how
much, whether the data went into the window, into the window after that was
written back, or around it (`RemoteStreams.CachedStream.write_cases`). It stops
early only because of a fault. A write that leads as far as no content reaches may be
abandoned as well (`RemoteStreams.CachedStream.write_ends`).
-/

namespace RemoteStreams

namespace Attached

/-- A step that takes all of `data` from the user of the stream. -/
structure Accepts (before : Attached) (descriptor : Descriptor) (data : Bytes) (after : Attached)
    (moved : Descriptor) : Prop where
  advances : before.Advances descriptor after moved
  here : after.stream.here = before.stream.here + data.length
  content : after.content? = before.content?.map fun content =>
    (PlainFile.written ⟨content, before.stream.here⟩ data).content

/-- How a write of `data` ends: a front part of the data is taken, which is all of it if
nothing stands in the way and not nothing if a window could hold it, or the write fails and
the user of the stream notices nothing else. -/
def WriteEnds (before : Attached) (descriptor : Descriptor) (data : Bytes)
    (ended : Outcome StreamError Nat × Attached) : Prop :=
  (∃ count after moved, ended = (.ok count, after) ∧ count ≤ data.length ∧
    before.Accepts descriptor (data.take count) after moved ∧
    (0 < data.length → data.length ≤ before.stream.window.limit → 0 < count) ∧
    (before.Steady descriptor → descriptor.mode.writable = true → count = data.length)) ∨
  ∃ cause after moved, ended = (.error cause, after) ∧ before.Keeps descriptor after moved ∧
    (before.Steady descriptor → descriptor.mode.writable = false)

variable {before middle after : Attached} {descriptor between moved : Descriptor}

/-- What the user does not notice takes no bytes. -/
theorem Keeps.accepts (keeps : before.Keeps descriptor after moved) :
    before.Accepts descriptor [] after moved where
  advances := keeps.advances
  here := keeps.here
  content := by
    simp only [keeps.content, PlainFile.written_nil, Option.map_id']

/-- Bytes that are taken one after the other are taken together. -/
theorem Accepts.trans {first second : Bytes}
    (earlier : before.Accepts descriptor first middle between)
    (later : middle.Accepts between second after moved) :
    before.Accepts descriptor (first ++ second) after moved where
  advances := earlier.advances.trans later.advances
  here := by
    rw [later.here, earlier.here, List.length_append, Nat.add_assoc]
  content := by
    rw [later.content, earlier.content, Option.map_map]
    congr 1
    funext content
    rw [PlainFile.written_append, Function.comp_apply, earlier.here]
    rfl

/-- A write may begin with steps that are not noticed. -/
theorem Keeps.accept {data : Bytes} (keeps : before.Keeps descriptor middle between)
    (accepts : middle.Accepts between data after moved) :
    before.Accepts descriptor data after moved :=
  keeps.accepts.trans accepts

/-- So may every ending of a write. -/
theorem Keeps.writeEnds (keeps : before.Keeps descriptor middle between) {data : Bytes}
    {ended : Outcome StreamError Nat × Attached}
    (ends : middle.WriteEnds between data ended) : before.WriteEnds descriptor data ended := by
  have mode := keeps.advances.moves.evolved.mode
  rcases ends with ⟨count, after, moved, ended, room, accepts, progress, whole⟩ |
    ⟨cause, after, moved, ended, kept, excuse⟩
  · refine .inl ⟨count, after, moved, ended, room, keeps.accept accepts, ?_, fun steady writable =>
      whole (keeps.steady steady) (mode ▸ writable)⟩
    rw [← keeps.advances.limit]
    exact progress
  · exact .inr ⟨cause, after, moved, ended, keeps.trans kept, fun steady =>
      mode ▸ excuse (keeps.steady steady)⟩

end Attached

namespace CachedStream

open Attached

variable {attached : Attached} {descriptor : Descriptor}

/-- The stream after `patch` was put into its window. -/
def putting (stream : CachedStream) (patch : Bytes) : CachedStream :=
  { stream with
    window := stream.window.patched patch
    dirty := stream.dirty || patch.length ≠ 0 }

/-- Putting no bytes into the window leaves the stream as it is. -/
theorem putting_nil {stream : CachedStream} (bounded : stream.window.InBounds) :
    stream.putting [] = stream := by
  obtain ⟨inside, -⟩ := bounded
  simp [putting, Window.patched, Bytes.overlay_nil_of_le inside]

/-- A patch lets the window extend as far as the patch, if that is further. -/
theorem extent_patched (window : Window) (patch : Bytes) :
    (window.patched patch).extent = max window.extent (window.cursor + patch.length) := by
  simp only [Window.patched, Window.extent]
  omega

/-- A patch lies over what the window held. -/
theorem occupied_patched {window : Window} (bounded : window.InBounds) (patch : Bytes) :
    (window.patched patch).occupied = window.occupied.overlay window.cursor patch := by
  rw [Window.occupied, extent_patched]
  exact Bytes.take_overlay (Nat.le_add_right _ _) (Window.inBounds_iff.mp bounded)

/-- A dirty window that covers a patch of the file takes it. -/
theorem overlaid_putting (coherent : attached.Coherent descriptor) {patch backing : Bytes}
    (present : patch ≠ []) (backed : descriptor.backing? attached.remote.objects = some backing) :
    (attached.stream.putting patch).overlaid backing =
      (attached.stream.overlaid backing).overlay attached.stream.here patch := by
  have dirty : (attached.stream.putting patch).dirty = true := by
    simp [putting, present]
  have inside : attached.stream.window.cursor ≤ attached.stream.window.occupied.length := by
    rw [coherent.length_occupied]
    exact attached.stream.window.cursor_le_extent
  rw [overlaid_of_dirty dirty]
  simp only [putting, occupied_patched coherent.bounded]
  by_cases was : attached.stream.dirty = true
  · rw [overlaid_of_dirty was, here, Bytes.overlay_within _ _ _ inside]
  · have clean : attached.stream.dirty = false := by simpa using was
    have mirrored := coherent.mirrored clean backing backed
    rw [← coherent.length_occupied] at mirrored
    rw [overlaid_of_clean clean, here, Bytes.overlay_mirrored mirrored inside present]

/-- A patch that fits into the window goes into it. -/
theorem accepts_putting (coherent : attached.Coherent descriptor) (patch : Bytes)
    (fits : patch.length ≤ attached.stream.window.spare) :
    attached.Accepts descriptor patch ⟨attached.stream.putting patch, attached.remote⟩
      descriptor := by
  by_cases empty : patch = []
  · subst empty
    rw [putting_nil coherent.bounded]
    exact (Keeps.refl coherent).accepts
  · have capacity := Window.capacity_patched coherent.bounded fits
    have extent := extent_patched attached.stream.window patch
    have dirty : (attached.stream.putting patch).dirty = true := by
      simp [putting, empty]
    have after : Coherent ⟨attached.stream.putting patch, attached.remote⟩ descriptor :=
      { serves := coherent.serves
        position := coherent.position
        bounded := Window.inBounds_patched coherent.bounded patch
        limited := by
          simp only [putting, capacity]
          exact coherent.limited
        allocated := by
          simp only [putting, capacity]
          exact coherent.allocated
        reached := by
          have reached := coherent.reached
          simp only [putting, extent]
          omega
        settled := fun clean => by simp [dirty] at clean
        pending := fun _ => by
          have present := List.length_pos_iff.mpr empty
          simp only [putting, extent]
          omega
        mirrored := fun clean => by simp [dirty] at clean }
    refine ⟨⟨coherent.serves.refl, rfl, rfl, ?_, after⟩, ?_, ?_⟩
    · exact Nat.le_of_eq capacity.symm
    · exact (Nat.add_assoc _ _ _).symm
    · rw [after.content?_eq, coherent.content?_eq]
      cases backed : descriptor.backing? attached.remote.objects with
      | none => rfl
      | some backing =>
          simp only [Option.map_some, overlaid_putting coherent empty backed, PlainFile.written,
            empty, ↓reduceIte]

/-- A clean window is emptied and begins where the object is, if that can be told. -/
theorem rebase_ends (coherent : attached.Coherent descriptor)
    (clean : attached.stream.dirty = false) :
    (∃ remote, rebase attached =
        (.ok (), ⟨attached.stream.anchored descriptor.position, remote⟩) ∧
      Remote.Moves attached.stream.object attached.remote descriptor remote descriptor) ∨
    ∃ cause remote, rebase attached = (.error cause, ⟨attached.stream, remote⟩) ∧
      attached.Keeps descriptor ⟨attached.stream, remote⟩ descriptor ∧
      (attached.remote.faults = ∅ → Word.bound ≤ descriptor.position) := by
  rcases Link.position_ends coherent.serves with
    ⟨remote, answered, stays⟩ | ⟨cause, remote, failed, stays, far⟩
  · refine .inl ⟨remote, ?_, stays⟩
    simp [rebase, requireClean, Action.bind_apply, Action.ensure, clean, ask_apply, answered]
  · refine .inr ⟨.remote cause, remote, ?_, coherent.keeps_remote stays, far⟩
    simp [rebase, requireClean, Action.bind_apply, Action.ensure, clean, ask_apply, failed]

/-- A clean window that is used up is moved to where the stream is, or that fails and nothing
changes. -/
theorem rebase_cases (coherent : attached.Coherent descriptor)
    (clean : attached.stream.dirty = false) (used : attached.stream.window.unread = 0)
    (addressable : attached.stream.here < Word.signedBound) :
    (∃ remote, rebase attached =
        (.ok (), ⟨attached.stream.anchored attached.stream.here, remote⟩) ∧
      attached.Keeps descriptor ⟨attached.stream.anchored attached.stream.here, remote⟩
        descriptor) ∨
    ∃ cause remote, rebase attached = (.error cause, ⟨attached.stream, remote⟩) ∧
      attached.Keeps descriptor ⟨attached.stream, remote⟩ descriptor ∧
      attached.remote.faults ≠ ∅ := by
  have twice := Word.signedBound_add_signedBound
  have position := position_of_settled coherent clean used
  rcases rebase_ends coherent clean with
    ⟨remote, rebased, stays⟩ | ⟨cause, remote, failed, kept, far⟩
  · rw [position] at rebased
    exact .inl ⟨remote, rebased, keeps_anchored coherent clean position stays⟩
  · refine .inr ⟨cause, remote, failed, kept, fun quiet => ?_⟩
    have outside := far quiet
    omega

/-- A window that may grow to `count` bytes does so, if the memory is granted. -/
theorem makeRoom_cases (coherent : attached.Coherent descriptor) {count : Nat}
    (allowed : count ≤ attached.stream.window.limit) (small : count < Word.signedBound) :
    (∃ after, makeRoom count attached = (.ok (), after) ∧
      attached.Keeps descriptor after descriptor ∧
      after.stream.window.cursor = attached.stream.window.cursor ∧
      count ≤ after.stream.window.capacity) ∨
    ∃ cause, makeRoom count attached =
        (.error cause, ⟨attached.stream, attached.remote.requesting⟩) ∧
      attached.Keeps descriptor ⟨attached.stream, attached.remote.requesting⟩ descriptor ∧
      (attached.remote.faults = ∅ →
        Window.allocationBound ≤ min attached.stream.window.limit (roomFor count)) := by
  have enough := le_roomFor small
  by_cases short : attached.stream.window.capacity < count
  · rcases coherent.grow_cases
        (Nat.min_le_right (roomFor count) attached.stream.window.limit) with
      ⟨grew, grown⟩ | ⟨failed, kept, scarce⟩
    · refine .inl ⟨_, ?_, grown, Window.cursor_grown _ _, ?_⟩
      · simp only [makeRoom, Action.bind_apply, current_apply, short, ↓reduceIte, grew]
      · have size := attached.stream.window.capacity_grown
          (min (roomFor count) attached.stream.window.limit)
        simp only [CachedStream.withWindow]
        omega
    · rw [Nat.min_comm] at scarce
      refine .inr ⟨.allocation (min (roomFor count) attached.stream.window.limit), ?_, kept,
        scarce⟩
      simp only [makeRoom, Action.bind_apply, current_apply, short, ↓reduceIte, failed]
  · refine .inl ⟨attached, ?_, .refl coherent, rfl, Nat.not_lt.mp short⟩
    simp only [makeRoom, Action.bind_apply, current_apply, short, ↓reduceIte, Action.pure_apply]

/-- A write past the window that goes through took all of the data into the window that was written
back, or it went around that. -/
theorem writePastWindow_eq_ok {after : Attached} {rest : Bytes} {count : Nat}
    (wrote : writePastWindow rest attached = (.ok count, after)) :
    ∃ flushed rebased, flush attached = (.ok (), flushed) ∧ rebase flushed = (.ok (), rebased) ∧
      (count = rest.length ∨ rebased.stream.window.limit < rest.length ∧
        ∃ around, ask (Link.writeObject rebased.stream.object rest) ⟨rebased.stream,
          rebased.remote.noting (.writeBypasses rebased.stream.path rest.length)⟩ =
            (.ok count, around)) := by
  obtain ⟨_, flushed, flushes, wrote⟩ := Action.bind_eq_ok_iff.mp wrote
  obtain ⟨_, rebased, rebases, wrote⟩ := Action.bind_eq_ok_iff.mp wrote
  refine ⟨flushed, rebased, flushes, rebases, ?_⟩
  rw [Action.bind_apply, current_apply] at wrote
  dsimp only at wrote
  rw [Action.ite_apply] at wrote
  split at wrote
  · next large =>
      rw [Action.bind_apply, note_apply] at wrote
      dsimp only at wrote
      obtain ⟨written, around, asks, wrote⟩ := Action.bind_eq_ok_iff.mp wrote
      obtain ⟨_, anchored, -, wrote⟩ := Action.bind_eq_ok_iff.mp wrote
      obtain ⟨rfl, -⟩ : written = count ∧ anchored = after := by simpa using wrote
      exact .inr ⟨large, around, asks⟩
  · obtain ⟨_, roomy, -, wrote⟩ := Action.bind_eq_ok_iff.mp wrote
    rw [Action.bind_apply, modify_apply] at wrote
    dsimp only at wrote
    obtain ⟨taken, filled, -, wrote⟩ := Action.bind_eq_ok_iff.mp wrote
    obtain ⟨_, ensured, ensures, wrote⟩ := Action.bind_eq_ok_iff.mp wrote
    obtain ⟨rfl, -⟩ : taken = count ∧ ensured = after := by simpa using wrote
    by_cases whole : taken = rest.length
    · exact .inl whole
    · simp [Action.ensure, whole] at ensures

/-- Data for which a window has room goes into it as it is. -/
theorem putDirty_apply {stream : CachedStream} (remote : Remote) (bounded : stream.window.InBounds)
    {data : Bytes} (present : data ≠ []) (fits : data.length ≤ stream.window.spare) :
    onWindow (ε := StreamError) (Window.put data) ⟨{ stream with dirty := true }, remote⟩ =
      (.ok data.length, ⟨stream.putting data, remote⟩) := by
  have put := Window.put_apply (ε := StreamError) bounded data
  rw [List.take_of_length_le fits] at put
  simp [onWindow_apply, put, putting, CachedStream.withWindow, present]

section Rebased

variable {flushed : Attached} {data : Bytes}

/-- Data may go around an empty window into the object, as far as a content can reach. -/
theorem writePastWindow_direct {stream : CachedStream} {base : Nat} {remote : Remote}
    (wrote : flush attached = (.ok (), flushed))
    (rebased : rebase flushed = (.ok (), ⟨stream.anchored base, remote⟩))
    (coherent : Coherent ⟨stream.anchored base, remote⟩ descriptor)
    (clean : stream.dirty = false) (addressable : base < Word.signedBound)
    (large : stream.window.limit < data.length) :
    WriteEnds ⟨stream.anchored base, remote⟩ descriptor data (writePastWindow data attached) ∨
      (∃ breach after, writePastWindow data attached = (.broken breach, after)) ∧
        Word.signedBound ≤ base + data.length := by
  have twice := Word.signedBound_add_signedBound
  have position : descriptor.position = base := coherent.position
  have serves : remote.Serves (stream.anchored base).object descriptor := coherent.serves
  have noted := serves.noting (.writeBypasses (stream.anchored base).path data.length)
  have limit : (stream.anchored base).window.limit < data.length := large
  rcases Link.writeObject_ends noted.serves data with
    ⟨count, staged, modified, written, answered, content, moves, room, place, whole⟩ |
      ⟨cause, refused, failed, moves, excuse⟩ | ⟨breach, broken, moved, abandoned, -, outside⟩
  · have reach : base + count < Word.bound := by
      simp only [Descriptor.Holds] at place
      omega
    have length : (data.take count).length = count := List.length_take_of_le room
    have moved := Descriptor.position_extended descriptor staged (data.take count)
    rw [position, length] at moved
    obtain ⟨asked, finished, stays⟩ := anchorAfterDirect_apply stream moves.serves moved reach
    have advances : Advances ⟨stream.anchored base, remote⟩ descriptor
        ⟨stream.anchored (base + count), asked⟩ _ :=
      coherent.anchor clean ((noted.trans moves).trans stays) moved
    refine .inl (.inl ⟨count, ⟨stream.anchored (base + count), asked⟩, _, ?_, room,
      ⟨advances, ?_, ?_⟩, fun _ fits => (Nat.not_lt.mpr fits large).elim,
      fun steady _ => whole steady.quiet⟩)
    · simp only [writePastWindow, Action.bind_apply, wrote, rebased, current_apply, limit,
        ↓reduceIte, note_apply, ask_apply, answered, Outcome.mapError_ok, finished,
        Action.pure_apply]
    · rw [length]
      rfl
    · have backed := Descriptor.backing?_extended content (data.take count) remote.objects
      rw [advances.coherent.content?_of_clean clean, coherent.content?_of_clean clean,
        advances.moves.objects, backed]
      simp only [Descriptor.backing?, content, Option.map_some, PlainFile.written, position]
      rfl
  · refine .inl (.inr ⟨.remote cause, ⟨stream.anchored base, refused⟩, descriptor, ?_,
      coherent.keeps_remote (noted.trans moves), fun steady => excuse steady.quiet⟩)
    simp only [writePastWindow, Action.bind_apply, wrote, rebased, current_apply, limit,
      ↓reduceIte, note_apply, ask_apply, failed, Outcome.mapError_error]
  · refine .inr ⟨⟨breach, ⟨stream.anchored base, broken⟩, ?_⟩, ?_⟩
    · simp only [writePastWindow, Action.bind_apply, wrote, rebased, current_apply, limit,
        ↓reduceIte, note_apply, ask_apply, abandoned, Outcome.mapError_broken]
    · rw [Descriptor.Holds, position] at outside
      exact Nat.not_lt.mp outside

/-- Data that the empty window has room for, or may have room for, goes into the window, if the room
can be had. -/
theorem writePastWindow_roomy {rebased : Attached}
    (wrote : flush attached = (.ok (), flushed)) (moved : rebase flushed = (.ok (), rebased))
    (coherent : rebased.Coherent descriptor) (start : rebased.stream.window.cursor = 0)
    (present : data ≠ []) (small : data.length < Word.signedBound)
    (limit : ¬rebased.stream.window.limit < data.length) :
    (∃ after, writePastWindow data attached = (.ok data.length, after) ∧
      rebased.Accepts descriptor data after descriptor) ∨
    ∃ cause, writePastWindow data attached =
        (.error cause, ⟨rebased.stream, rebased.remote.requesting⟩) ∧
      rebased.Keeps descriptor ⟨rebased.stream, rebased.remote.requesting⟩ descriptor ∧
      (rebased.remote.faults = ∅ →
        Window.allocationBound ≤ min rebased.stream.window.limit (roomFor data.length)) := by
  rcases makeRoom_cases coherent (Nat.not_lt.mp limit) small with
    ⟨roomy, made, kept, cursor, enough⟩ | ⟨cause, failed, kept, scarce⟩
  · have fits : data.length ≤ roomy.stream.window.spare := by
      rw [Window.spare, cursor, start]
      exact enough
    have taken := putDirty_apply roomy.remote kept.advances.coherent.bounded present fits
    refine .inl ⟨⟨roomy.stream.putting data, roomy.remote⟩, ?_,
      kept.accept (accepts_putting kept.advances.coherent data fits)⟩
    simp [writePastWindow, Action.bind_apply, wrote, moved, limit, made, taken, Action.ensure]
  · refine .inr ⟨cause, ?_, kept, scarce⟩
    simp only [writePastWindow, Action.bind_apply, wrote, moved, current_apply, limit,
      ↓reduceIte, failed]

/-- Data that may go into the window is taken completely, or the write fails and the user does not
notice. -/
theorem writePastWindow_windowed {rebased : Attached}
    (wrote : flush attached = (.ok (), flushed)) (moved : rebase flushed = (.ok (), rebased))
    (coherent : rebased.Coherent descriptor) (start : rebased.stream.window.cursor = 0)
    (present : data ≠ []) (small : data.length < Word.signedBound)
    (limit : ¬rebased.stream.window.limit < data.length) :
    rebased.WriteEnds descriptor data (writePastWindow data attached) := by
  rcases writePastWindow_roomy wrote moved coherent start present small limit with
    ⟨after, ended, accepts⟩ | ⟨cause, ended, kept, scarce⟩
  · rw [← List.take_length (l := data)] at accepts
    exact .inl ⟨data.length, after, descriptor, ended, Nat.le_refl _, accepts,
      fun present _ => present, fun _ _ => rfl⟩
  · refine .inr ⟨cause, _, descriptor, ended, kept, fun steady => ?_⟩
    have wanted := scarce steady.quiet
    have allocatable := steady.allocatable
    omega

end Rebased

/-- Data that the window did not take goes into the window once that is written back, or
around it as far as a content can reach. -/
theorem writePastWindow_ends (coherent : attached.Coherent descriptor)
    (used : attached.stream.window.unread = 0)
    (reach : attached.stream.base + attached.stream.window.extent < Word.signedBound)
    {data : Bytes} (present : data ≠ []) (small : data.length < Word.signedBound) :
    attached.WriteEnds descriptor data (writePastWindow data attached) ∨
      (∃ breach after, writePastWindow data attached = (.broken breach, after)) ∧
        Word.signedBound ≤ attached.stream.here + data.length := by
  rcases flush_cases coherent reach with
    ⟨remote, between, wrote, kept⟩ | ⟨cause, synced, remote, moved, failed, kept, dirty, excuse⟩
  · have addressable : attached.stream.here < Word.signedBound := here_lt reach
    rcases rebase_cases kept.advances.coherent rfl used (kept.here ▸ addressable) with
      ⟨asked, rebased, stays⟩ | ⟨cause, asked, failed, stays, armed⟩
    · by_cases large : attached.stream.window.limit < data.length
      · rw [← kept.here] at addressable ⊢
        exact (writePastWindow_direct wrote rebased stays.advances.coherent rfl addressable
          large).imp_left (kept.trans stays).writeEnds
      · exact .inl ((kept.trans stays).writeEnds (writePastWindow_windowed wrote rebased
          stays.advances.coherent rfl present small large))
    · refine .inl (.inr ⟨cause, _, between, ?_, kept.trans stays, fun steady => ?_⟩)
      · simp only [writePastWindow, Action.bind_apply, wrote, failed]
      · exact (armed (kept.steady steady).quiet).elim
  · refine .inl (.inr ⟨cause, _, moved, ?_, kept, fun steady => excuse steady.quiet⟩)
    simp only [writePastWindow, Action.bind_apply, failed]

/-- Once bytes were taken, the failure to take more is not an error. -/
theorem writeRest_cases (coherent : attached.Coherent descriptor)
    (used : attached.stream.window.unread = 0)
    (reach : attached.stream.base + attached.stream.window.extent < Word.signedBound)
    {data : Bytes} (present : data ≠ []) (small : data.length < Word.signedBound) (cached : Nat)
    (fits : cached + data.length < Word.bound) :
    (∃ count after moved, writeRest cached data attached = (.ok (cached + count), after) ∧
      count ≤ data.length ∧ attached.Accepts descriptor (data.take count) after moved ∧
      (data.length ≤ attached.stream.window.limit → 0 < cached + count) ∧
      (attached.Steady descriptor → descriptor.mode.writable = true → count = data.length)) ∨
    (∃ cause after moved, writeRest cached data attached = (.error cause, after) ∧ cached = 0 ∧
      attached.Keeps descriptor after moved ∧
      (attached.Steady descriptor → descriptor.mode.writable = false)) ∨
    (∃ breach after, writeRest cached data attached = (.broken breach, after)) ∧
      Word.signedBound ≤ attached.stream.here + data.length := by
  rcases writePastWindow_ends coherent used reach present small with
    (⟨count, after, moved, wrote, room, accepts, progress, whole⟩ |
      ⟨cause, after, moved, failed, keeps, excuse⟩) | ⟨⟨breach, after, abandoned⟩, outside⟩
  · refine .inl ⟨count, after, moved, ?_, room, accepts, fun fits => ?_, whole⟩
    · have sum : cached + count < Word.bound := by omega
      simp only [writeRest, Action.bind_apply, Action.attempt, wrote, Word.add_apply sum]
    · have some := progress (List.length_pos_iff.mpr present) fits
      omega
  · by_cases start : cached = 0
    · refine .inr (.inl ⟨cause, after, moved, ?_, start, keeps, excuse⟩)
      simp only [writeRest, Action.bind_apply, Action.attempt, failed, start, ↓reduceIte,
        Action.fail_apply]
    · have noted := keeps.advances.coherent.keeps_remote
        (keeps.advances.coherent.serves.noting (.overflowFailed after.stream.path cached cause))
      refine .inl ⟨0, _, moved, ?_, Nat.zero_le _, (keeps.trans noted).accepts,
        fun _ => Nat.pos_of_ne_zero start, fun steady writable => ?_⟩
      · simp only [writeRest, Action.bind_apply, Action.attempt, failed, start, ↓reduceIte,
          current_apply, note_apply, Action.pure_apply, Nat.add_zero]
      · rw [excuse steady] at writable
        contradiction
  · refine .inr (.inr ⟨⟨breach, after, ?_⟩, outside⟩)
    simp only [writeRest, Action.bind_apply, Action.attempt, abandoned]

/-- The part of some data that fits into the window goes into it. -/
theorem accepts_fitting (coherent : attached.Coherent descriptor) {data : Bytes} {count : Nat}
    (count_eq : count = min attached.stream.window.spare data.length) :
    attached.Accepts descriptor (data.take count)
      ⟨attached.stream.putting (data.take count), attached.remote⟩ descriptor := by
  apply accepts_putting coherent
  rw [List.length_take_of_le (count_eq ▸ Nat.min_le_right _ _), count_eq]
  exact Nat.min_le_left _ _

/-- A write puts as much as fits into the window and then sees to the rest. -/
theorem write_put (coherent : attached.Coherent descriptor) {data : Bytes} (present : data ≠ [])
    {count : Nat} (count_eq : count = min attached.stream.window.spare data.length) :
    write data attached =
      if count = data.length then
        (.ok count, ⟨attached.stream.putting (data.take count), attached.remote⟩)
      else writeRest count (data.drop count)
        ⟨attached.stream.putting (data.take count), attached.remote⟩ := by
  have length : (data.take count).length = count :=
    List.length_take_of_le (count_eq ▸ Nat.min_le_right _ _)
  have put := Window.put_apply (ε := StreamError) coherent.bounded data
  rw [List.take_eq_take_min, ← count_eq, length] at put
  simp only [write, present, ↓reduceIte, Action.bind_apply, onWindow_apply, put, modify_apply,
    Action.ite_apply, Action.pure_apply, putting, CachedStream.withWindow, length]

/-- A window that did not take all of the data is full, and all of it is in range. -/
theorem putting_fills (coherent : attached.Coherent descriptor)
    (near : attached.stream.here < PlainFile.positionBound) {data : Bytes} {count : Nat}
    (count_eq : count = min attached.stream.window.spare data.length)
    (partly : count ≠ data.length) :
    (attached.stream.putting (data.take count)).window.unread = 0 ∧
      attached.stream.base + (attached.stream.putting (data.take count)).window.extent <
        Word.signedBound := by
  have length : (data.take count).length = count :=
    List.length_take_of_le (count_eq ▸ Nat.min_le_right _ _)
  have later := (accepts_fitting coherent count_eq).advances.coherent
  have inside := later.extent_le
  have allocated := later.allocated
  have bounded := coherent.bounded
  constructor
  · simp only [Window.InBounds, Window.spare, putting, Window.patched] at *
    omega
  · simp only [here, PlainFile.positionBound, Window.allocationBound, Word.signedBound] at *
    omega

/-- A window that is written back and let begin elsewhere may grow as large as before. -/
theorem limit_of_rebased {flushed rebased : Attached} (coherent : attached.Coherent descriptor)
    (used : attached.stream.window.unread = 0)
    (reach : attached.stream.base + attached.stream.window.extent < Word.signedBound)
    (flushes : flush attached = (.ok (), flushed)) (rebases : rebase flushed = (.ok (), rebased)) :
    rebased.stream.window.limit = attached.stream.window.limit := by
  rcases flush_cases coherent reach with ⟨remote, between, wrote, kept⟩ | ⟨_, _, _, _, failed, -⟩
  · obtain rfl := (Prod.mk.inj (flushes.symm.trans wrote)).2
    have addressable : attached.stream.flushed.here < Word.signedBound := kept.here ▸ here_lt reach
    rcases rebase_cases kept.advances.coherent rfl used addressable with
      ⟨asked, moved, stays⟩ | ⟨_, _, failed, -⟩
    · obtain rfl := (Prod.mk.inj (rebases.symm.trans moved)).2
      exact (kept.trans stays).advances.limit
    · simp [failed] at rebases
  · simp [failed] at flushes

/-- A write that goes through takes all of its data, or what fits into the window, unless the rest
goes around the window. -/
theorem write_stops (coherent : attached.Coherent descriptor)
    (near : attached.stream.here < PlainFile.positionBound) {data : Bytes} {count : Nat}
    {after : Attached} (wrote : write data attached = (.ok count, after)) :
    count = data.length ∨ count = min attached.stream.window.spare data.length ∨
      attached.stream.window.limit < data.length - attached.stream.window.spare := by
  by_cases empty : data = []
  · subst empty
    refine .inl ?_
    simpa [write] using (congrArg Prod.fst wrote).symm
  · obtain ⟨cached, count_eq⟩ : ∃ cached, cached = min attached.stream.window.spare data.length :=
      ⟨_, rfl⟩
    rw [write_put coherent empty count_eq] at wrote
    by_cases full : cached = data.length
    · rw [if_pos full] at wrote
      obtain rfl := Outcome.ok.inj (Prod.mk.inj wrote).1
      exact .inl full
    · rw [if_neg full] at wrote
      obtain ⟨used, reach⟩ := putting_fills coherent near count_eq full
      have later := (accepts_fitting coherent count_eq).advances.coherent
      have rest : (data.drop cached).length = data.length - cached := List.length_drop
      simp only [writeRest, Action.bind_apply, Action.attempt] at wrote
      generalize past : writePastWindow (data.drop cached)
        ⟨attached.stream.putting (data.take cached), attached.remote⟩ = ended at wrote
      obtain ⟨written | cause | breach, between⟩ := ended
      · obtain ⟨flushed, rebased, flushes, rebases, ends⟩ := writePastWindow_eq_ok past
        rcases ends with whole | ⟨large, -⟩
        · refine .inl ?_
          simp only [Word.add] at wrote
          split at wrote
          · obtain rfl := Outcome.ok.inj (Prod.mk.inj wrote).1
            omega
          · simp at wrote
        · rw [limit_of_rebased later used reach flushes rebases, rest] at large
          have limit : (attached.stream.putting (data.take cached)).window.limit =
              attached.stream.window.limit := rfl
          rw [limit] at large
          exact .inr (.inr (by omega))
      · refine .inr (.inl ?_)
        by_cases start : cached = 0
        · simp [start] at wrote
        · simp only [start, ↓reduceIte, current_apply, note_apply, Action.bind_apply,
            Action.pure_apply] at wrote
          exact (Outcome.ok.inj (Prod.mk.inj wrote).1).symm.trans count_eq
      · simp at wrote

/-- A write puts a front part of the data into the file, or it leaves the file as it was. It is
abandoned at most if the data end where no content reaches. -/
theorem write_ends (coherent : attached.Coherent descriptor)
    (near : attached.stream.here < PlainFile.positionBound) {data : Bytes}
    (small : data.length < Word.signedBound) :
    attached.WriteEnds descriptor data (write data attached) ∨
      (∃ breach after, write data attached = (.broken breach, after)) ∧
        Word.signedBound ≤ attached.stream.here + data.length := by
  by_cases empty : data = []
  · refine .inl (.inl
      ⟨0, attached, descriptor, ?_, Nat.zero_le _, (Keeps.refl coherent).accepts, ?_, ?_⟩)
    · simp [write, empty]
    · simp [empty]
    · simp [empty]
  · obtain ⟨count, count_eq⟩ : ∃ count, count = min attached.stream.window.spare data.length :=
      ⟨_, rfl⟩
    have length : (data.take count).length = count :=
      List.length_take_of_le (count_eq ▸ Nat.min_le_right _ _)
    have accepts := accepts_fitting coherent count_eq
    have later := accepts.advances.coherent
    have put := write_put coherent empty count_eq
    by_cases full : count = data.length
    · refine .inl (.inl ⟨count, _, descriptor, ?_, Nat.le_of_eq full, accepts,
        fun present _ => full ▸ present, fun _ _ => full⟩)
      rw [put, if_pos full]
    · obtain ⟨used, reach⟩ := putting_fills coherent near count_eq full
      have rest : (data.drop count).length = data.length - count := List.length_drop
      have present : data.drop count ≠ [] := mt List.drop_eq_nil_iff.mp (by omega)
      have twice := Word.signedBound_add_signedBound
      have here := accepts.here
      rcases writeRest_cases later used reach present (by omega) count (by omega) with
        ⟨more, after, moved, wrote, room, second, progress, whole⟩ |
          ⟨cause, after, moved, failed, start, kept, excuse⟩ | ⟨⟨breach, after, broken⟩, outside⟩
      · refine .inl (.inl ⟨count + more, after, moved, ?_, by omega, ?_, fun _ fits => ?_,
          fun steady writable => ?_⟩)
        · rw [put, if_neg full, wrote]
        · rw [List.take_add]
          exact accepts.trans second
        · apply progress
          rw [rest]
          exact Nat.le_trans (Nat.sub_le _ _) fits
        · have complete := whole (accepts.advances.steady steady fun _ => writable) writable
          omega
      · -- The window took nothing, so that the stream is still the one that was there before.
        subst start
        rw [List.take_zero, putting_nil coherent.bounded] at kept excuse
        refine .inl (.inr ⟨cause, after, moved, ?_, kept, excuse⟩)
        rw [put, if_neg full, failed]
      · refine .inr ⟨⟨breach, after, ?_⟩, by omega⟩
        rw [put, if_neg full, broken]

/-- A write that ends where objects can reach is never abandoned. -/
theorem write_cases (coherent : attached.Coherent descriptor)
    (near : attached.stream.here < PlainFile.positionBound) {data : Bytes}
    (within : attached.stream.here + data.length < Word.signedBound) :
    attached.WriteEnds descriptor data (write data attached) := by
  have small : data.length < Word.signedBound := by omega
  rcases write_ends coherent near small with ends | ⟨-, outside⟩
  · exact ends
  · exact (Nat.not_lt.mpr outside within).elim

end CachedStream

end RemoteStreams
