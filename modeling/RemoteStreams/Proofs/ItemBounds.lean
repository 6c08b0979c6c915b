import RemoteStreams.Proofs.Items

/-! # Items and buffers

A transfer of items is checked against its buffer before anything else happens. It is refused as too
long for the buffer exactly if its items have more bytes than that, however many they are
(`RemoteStreams.Streams.read_shortBuffer_iff`, `RemoteStreams.Streams.write_shortBuffer_iff`).
Nothing that comes later fails in this way, since a transfer that was begun fails only for want of
memory, of a stream, or of luck (`RemoteStreams.StreamError.OfTransfer`). What is not refused is
confined to its items: no other byte of the buffer is touched, and the items that are counted are
those that the bytes fill (`RemoteStreams.Streams.items_within_buffer`).
-/

namespace RemoteStreams

namespace Action

variable {σ τ ε ε' α β : Type} {kind : ε → Prop}

/-- Whatever it fails with is of this kind, in every state. -/
structure FailsAs (kind : ε → Prop) (body : Action σ ε α) : Prop where
  of_error : ∀ before cause, (body before).1 = .error cause → kind cause

namespace FailsAs

theorem pure (value : α) : FailsAs kind (Pure.pure value : Action σ ε α) := by
  constructor
  intro before cause failed
  contradiction

theorem get : FailsAs kind (Action.get : Action σ ε σ) := by
  constructor
  intro before cause failed
  contradiction

theorem set (state : σ) : FailsAs kind (Action.set state : Action σ ε Unit) := by
  constructor
  intro before cause failed
  contradiction

theorem modify (change : σ → σ) : FailsAs kind (Action.modify change : Action σ ε Unit) := by
  constructor
  intro before cause failed
  contradiction

/-- A breach is not an error. -/
theorem abandon (breach : Breach) : FailsAs kind (Action.abandon breach : Action σ ε α) := by
  constructor
  intro before cause failed
  contradiction

theorem fail {cause : ε} (right : kind cause) :
    FailsAs kind (Action.fail cause : Action σ ε α) := by
  constructor
  intro before other failed
  obtain rfl := Outcome.error.inj failed
  exact right

/-- A choice fails in the right way if both branches do. -/
theorem ite {condition : Prop} [Decidable condition] {first second : Action σ ε α}
    (left : FailsAs kind first) (right : FailsAs kind second) :
    FailsAs kind (if condition then first else second) := by
  split
  · exact left
  · exact right

theorem ensure {condition : Prop} [Decidable condition] (breach : Breach) :
    FailsAs kind (Action.ensure condition breach : Action σ ε Unit) :=
  ite (pure ()) (abandon breach)

/-- What is done in a row fails as its parts do. -/
theorem bind {first : Action σ ε α} {next : α → Action σ ε β} (begins : FailsAs kind first)
    (goesOn : ∀ value, FailsAs kind (next value)) : FailsAs kind (first >>= next) := by
  constructor
  intro before cause failed
  have began := begins.of_error before
  rw [bind_apply] at failed
  generalize first before = ended at began failed
  obtain ⟨_ | _ | _, after⟩ := ended
  · exact (goesOn _).of_error after cause failed
  · obtain rfl := Outcome.error.inj failed
    exact began _ rfl
  · contradiction

/-- What follows an error that was looked at knows of which kind it is. -/
theorem inspect {given : ε' → Prop} {body : Action σ ε' α}
    {next : Except ε' α → Action σ ε β} (fails : FailsAs given body)
    (goesOn : ∀ value, FailsAs kind (next (.ok value)))
    (handles : ∀ cause, given cause → FailsAs kind (next (.error cause))) :
    FailsAs kind (Action.attempt body >>= next) := by
  constructor
  intro before cause failed
  have ended := fails.of_error before
  rw [bind_apply] at failed
  unfold Action.attempt at failed
  generalize body before = result at ended failed
  obtain ⟨_ | other | _, after⟩ := result
  · exact (goesOn _).of_error after cause failed
  · exact (handles other (ended other rfl)).of_error after cause failed
  · contradiction

/-- Every action fails in some way. -/
theorem any (body : Action σ ε α) : FailsAs (fun _ => True) body := by
  constructor
  intro before cause failed
  trivial

/-- A conversion that leads to one kind of errors makes any action fail with these. -/
theorem mapError {convert : ε' → ε} (converts : ∀ cause, kind (convert cause))
    (body : Action σ ε' α) : FailsAs kind (Action.mapError convert body) := by
  constructor
  intro before cause failed
  unfold Action.mapError at failed
  generalize body before = ended at failed
  obtain ⟨_ | other | _, after⟩ := ended
  · contradiction
  · obtain rfl := Outcome.error.inj failed
    exact converts other
  · contradiction

/-- An action on a part of a state fails as it does on the part. -/
theorem within {part : τ → σ} {replace : σ → τ → τ} {body : Action σ ε α}
    (fails : FailsAs kind body) : FailsAs kind (Action.within part replace body) := by
  constructor
  intro before cause failed
  exact fails.of_error (part before) cause failed

end FailsAs

end Action

namespace StreamError

/-- What a transfer that was begun may fail with. -/
def OfTransfer : StreamError → Prop
  | allocation _ | remote _ | badHandle _ | io _ => True
  | tableFull _ | invalidSeek _ | shortBuffer _ _ => False

end StreamError

section Failing

open RemoteStreams.Action (FailsAs)

theorem Word.add_fails {σ ε : Type} {kind : ε → Prop} (first second : Nat) :
    FailsAs kind (Word.add first second : Action σ ε Nat) :=
  .ite (.pure _) (.abandon _)

namespace Window

variable {ε : Type} {kind : ε → Prop}

theorem checkBounds_fails : FailsAs kind (checkBounds : Action Window ε Unit) := by
  apply FailsAs.bind .get
  intro window
  exact .ensure _

/-- A window fails to grow for want of memory only. -/
theorem grow_fails (capacity : Nat) (granted : Bool) :
    FailsAs StreamError.OfTransfer (grow capacity granted) := by
  apply FailsAs.bind .get
  intro window
  apply FailsAs.bind (.ensure _)
  intro _
  apply FailsAs.ite (.pure _)
  exact .ite (.bind (.set _) fun _ => checkBounds_fails) (.fail trivial)

theorem take_fails (count : Nat) : FailsAs kind (take count : Action Window ε Bytes) :=
  .bind .get fun _ => .bind (.set _) fun _ => .bind checkBounds_fails fun _ => .pure _

theorem put_fails (source : Bytes) : FailsAs kind (put source : Action Window ε Nat) :=
  .bind .get fun _ => .bind (.set _) fun _ => .bind checkBounds_fails fun _ => .pure _

theorem accept_fails (filled : Bytes) (count : Nat) :
    FailsAs kind (accept filled count : Action Window ε Unit) := by
  apply FailsAs.bind (.modify _)
  intro _
  apply FailsAs.bind .get
  intro window
  apply FailsAs.bind (.ensure _)
  intro _
  exact .bind (.set _) fun _ => checkBounds_fails

end Window

namespace CachedStream

variable {ε : Type} {kind : ε → Prop}

theorem current_fails : FailsAs kind (current : Action Attached ε CachedStream) := by
  constructor
  intro before cause failed
  contradiction

theorem modify_fails (change : CachedStream → CachedStream) :
    FailsAs kind (modify change : Action Attached ε Unit) :=
  .modify _

theorem note_fails (event : Event) : FailsAs kind (note event : Action Attached ε Unit) := by
  constructor
  intro before cause failed
  contradiction

theorem anchor_fails (base : Nat) : FailsAs kind (anchor base : Action Attached ε Unit) :=
  .modify _

theorem ask_fails {α : Type} (request : RemoteAction α) :
    FailsAs StreamError.OfTransfer (ask request) :=
  .mapError (fun _ => trivial) _

/-- The position of a stream may not fit into a word, but that is not an error. -/
theorem tell_fails : FailsAs kind (tell : Action Attached ε Nat) :=
  .bind current_fails fun _ => Word.add_fails _ _

theorem requireSettled_fails : FailsAs kind (requireSettled : Action Attached ε Unit) := by
  apply FailsAs.bind current_fails
  intro stream
  exact .ensure _

theorem requireClean_fails : FailsAs kind (requireClean : Action Attached ε Unit) := by
  apply FailsAs.bind current_fails
  intro stream
  exact .ensure _

/-- A flush fails with what a transfer may fail with. -/
theorem flush_fails : FailsAs StreamError.OfTransfer flush := by
  have rewinds : FailsAs StreamError.OfTransfer rewindObject := by
    apply FailsAs.bind current_fails
    intro stream
    apply FailsAs.ite (.pure _)
    exact .bind (ask_fails _) fun _ => modify_fails _
  have writes : FailsAs StreamError.OfTransfer writeBack := by
    apply FailsAs.bind current_fails
    intro stream
    apply FailsAs.bind (ask_fails _)
    intro written
    apply FailsAs.bind (modify_fails _)
    intro _
    apply FailsAs.ite
    · exact .bind (note_fails _) fun _ => modify_fails _
    · exact .fail trivial
  apply FailsAs.bind current_fails
  intro stream
  exact .ite (.bind rewinds fun _ => writes) (.pure _)

theorem anchorAfterDirect_fails (moved : Nat) :
    FailsAs StreamError.OfTransfer (anchorAfterDirect moved) := by
  apply FailsAs.bind current_fails
  intro stream
  apply FailsAs.inspect (.any _)
  · intro position
    exact modify_fails _
  · intro cause _
    apply FailsAs.bind (note_fails _)
    intro _
    exact .bind (Word.add_fails _ _) fun _ => modify_fails _

/-- Filling the window fails with what a transfer may fail with. -/
theorem fill_fails : FailsAs StreamError.OfTransfer fill := by
  apply FailsAs.bind requireSettled_fails
  intro _
  apply FailsAs.bind current_fails
  intro stream
  apply FailsAs.bind (ask_fails _)
  intro position
  apply FailsAs.bind (anchor_fails _)
  intro _
  apply FailsAs.bind (ask_fails _)
  intro answer
  exact .bind (.within (Window.accept_fails _ _)) fun _ => modify_fails _

/-- A read around the window fails with what a transfer may fail with. -/
theorem readDirect_fails (buffer : Bytes) :
    FailsAs StreamError.OfTransfer (readDirect buffer) := by
  apply FailsAs.bind current_fails
  intro stream
  apply FailsAs.bind (note_fails _)
  intro _
  apply FailsAs.bind requireSettled_fails
  intro _
  apply FailsAs.bind tell_fails
  intro base
  apply FailsAs.bind (anchor_fails _)
  intro _
  apply FailsAs.bind (ask_fails _)
  intro answer
  exact .bind (anchorAfterDirect_fails _) fun _ => .pure _

theorem grow_fails (capacity : Nat) : FailsAs StreamError.OfTransfer (grow capacity) :=
  .bind (.within (.bind .get fun _ => .bind (.set _) fun _ => .pure _))
    fun granted => .within (Window.grow_fails capacity granted)

/-- However bytes are fetched, that fails with what a transfer may fail with. -/
theorem fetch_fails (buffer : Bytes) : FailsAs StreamError.OfTransfer (fetch buffer) := by
  apply FailsAs.bind current_fails
  intro stream
  apply FailsAs.ite (readDirect_fails buffer)
  apply FailsAs.bind (grow_fails _)
  intro _
  apply FailsAs.bind fill_fails
  intro _
  exact .bind (.within (Window.take_fails _)) fun _ => .pure _

theorem fetchRest_fails (cached : Nat) (buffer : Bytes) :
    FailsAs StreamError.OfTransfer (fetchRest cached buffer) := by
  apply FailsAs.inspect (fetch_fails buffer)
  · intro fetched
    exact .pure _
  · intro cause right
    apply FailsAs.ite (.fail right)
    apply FailsAs.bind current_fails
    intro stream
    exact .bind (note_fails _) fun _ => .pure _

/-- A read of a cached stream fails with what a transfer may fail with. -/
theorem read_fails (buffer : Bytes) : FailsAs StreamError.OfTransfer (read buffer) := by
  apply FailsAs.ite (.pure _)
  apply FailsAs.bind flush_fails
  intro _
  apply FailsAs.bind (.within (Window.take_fails _))
  intro cached
  apply FailsAs.ite (.pure _)
  apply FailsAs.bind (fetchRest_fails _ _)
  intro fetched
  apply FailsAs.bind current_fails
  intro stream
  apply FailsAs.bind (note_fails _)
  intro _
  exact .bind (Word.add_fails _ _) fun _ => .pure _

/-- Making room fails for want of memory only. -/
theorem makeRoom_fails (count : Nat) : FailsAs StreamError.OfTransfer (makeRoom count) := by
  apply FailsAs.bind current_fails
  intro stream
  exact .ite (grow_fails _) (.pure _)

/-- What goes past the window fails with what a transfer may fail with. -/
theorem writePastWindow_fails (rest : Bytes) :
    FailsAs StreamError.OfTransfer (writePastWindow rest) := by
  have rebases : FailsAs StreamError.OfTransfer rebase := by
    apply FailsAs.bind requireClean_fails
    intro _
    apply FailsAs.bind current_fails
    intro stream
    exact .bind (ask_fails _) fun _ => anchor_fails _
  apply FailsAs.bind flush_fails
  intro _
  apply FailsAs.bind rebases
  intro _
  apply FailsAs.bind current_fails
  intro stream
  apply FailsAs.ite
  · apply FailsAs.bind (note_fails _)
    intro _
    apply FailsAs.bind (ask_fails _)
    intro count
    exact .bind (anchorAfterDirect_fails _) fun _ => .pure _
  · apply FailsAs.bind (makeRoom_fails _)
    intro _
    apply FailsAs.bind (modify_fails _)
    intro _
    apply FailsAs.bind (.within (Window.put_fails _))
    intro count
    exact .bind (.ensure _) fun _ => .pure _

theorem writeRest_fails (cached : Nat) (rest : Bytes) :
    FailsAs StreamError.OfTransfer (writeRest cached rest) := by
  apply FailsAs.inspect (writePastWindow_fails rest)
  · intro written
    exact Word.add_fails _ _
  · intro cause right
    apply FailsAs.ite (.fail right)
    apply FailsAs.bind current_fails
    intro stream
    exact .bind (note_fails _) fun _ => .pure _

/-- A write of a cached stream fails with what a transfer may fail with. -/
theorem write_fails (data : Bytes) : FailsAs StreamError.OfTransfer (write data) := by
  apply FailsAs.ite (.pure _)
  apply FailsAs.bind (.within (Window.put_fails _))
  intro cached
  apply FailsAs.bind (modify_fails _)
  intro _
  exact .ite (.pure _) (writeRest_fails _ _)

end CachedStream

namespace Streams

/-- An error of the disk is one of a transfer. -/
theorem onDisk_fails {α : Type} (body : DiskAction α) :
    FailsAs StreamError.OfTransfer (onDisk body) :=
  .mapError (fun _ => trivial) _

/-- A cached stream that is not there is a bad handle, and else fails as it does by itself. -/
theorem onCached_fails {α : Type} {id : StreamId} {body : StreamAction α}
    (fails : FailsAs StreamError.OfTransfer body) :
    FailsAs StreamError.OfTransfer (onCached id body) := by
  constructor
  intro before cause failed
  unfold onCached at failed
  split at failed
  · obtain rfl := Outcome.error.inj failed
    trivial
  · exact fails.of_error _ cause failed

/-- Streams of all kinds read with errors of a transfer only. -/
theorem readBytes_fails (stream : Stream) (buffer : Bytes) :
    FailsAs StreamError.OfTransfer (readBytes stream buffer) := by
  cases stream with
  | cached id => exact onCached_fails (CachedStream.read_fails buffer)
  | file file => exact .bind (onDisk_fails _) fun _ => .pure _

/-- Streams of all kinds write with errors of a transfer only. -/
theorem writeBytes_fails (stream : Stream) (data : Bytes) :
    FailsAs StreamError.OfTransfer (writeBytes stream data) := by
  cases stream with
  | cached id => exact onCached_fails (CachedStream.write_fails data)
  | file file => exact .bind (onDisk_fails _) fun _ => .pure _

end Streams

end Failing

namespace Streams

open Attached

section Short

variable {stream : Stream} {buffer data : Bytes} {size count : Nat}

/-- A read of more bytes than its buffer has is refused, and nothing happens. -/
theorem read_oversized (sized : size ≠ 0) (beyond : buffer.length < size * count)
    (streams : Streams) :
    read stream buffer size count streams =
      (.error (.shortBuffer (Word.saturate (size * count)) buffer.length), streams) := by
  simp only [read, sized, bytesOfItems, Nat.not_le.mpr beyond, ↓reduceIte, Action.fail_apply]

/-- A write of more bytes than there are is refused, and nothing happens. -/
theorem write_oversized (sized : size ≠ 0) (beyond : data.length < size * count)
    (streams : Streams) :
    write stream data size count streams =
      (.error (.shortBuffer (Word.saturate (size * count)) data.length), streams) := by
  simp only [write, sized, bytesOfItems, Nat.not_le.mpr beyond, ↓reduceIte, Action.fail_apply]

/-- A read that fits its buffer is never refused as too long. -/
theorem read_fitting (sized : size ≠ 0) (fits : size * count ≤ buffer.length) :
    Action.FailsAs StreamError.OfTransfer (read stream buffer size count) := by
  simp only [read, sized, bytesOfItems, fits, ↓reduceIte]
  exact .bind (readBytes_fails _ _) fun _ => .pure _

/-- A write that fits its data is never refused as too long. -/
theorem write_fitting (sized : size ≠ 0) (fits : size * count ≤ data.length) :
    Action.FailsAs StreamError.OfTransfer (write stream data size count) := by
  simp only [write, sized, bytesOfItems, fits, ↓reduceIte]
  exact .bind (writeBytes_fails _ _) fun _ => .pure _

/-- What is checked for its length first, and then fails otherwise, fails for its length exactly if
it is too long. -/
theorem shortBuffer_iff {α : Type} {outcome : Outcome StreamError α} {bytes length : Nat}
    (oversized : length < bytes →
      outcome = .error (.shortBuffer (Word.saturate bytes) length))
    (fitting : bytes ≤ length → ∀ cause, outcome = .error cause → cause.OfTransfer)
    (needed given : Nat) :
    outcome = .error (.shortBuffer needed given) ↔
      length < bytes ∧ needed = Word.saturate bytes ∧ given = length := by
  constructor
  · intro refused
    have beyond : length < bytes := by
      apply Nat.not_le.mp
      intro fits
      exact fitting fits _ refused
    obtain ⟨rfl, rfl⟩ :=
      StreamError.shortBuffer.inj (Outcome.error.inj (refused.symm.trans (oversized beyond)))
    exact ⟨beyond, rfl, rfl⟩
  · rintro ⟨beyond, rfl, rfl⟩
    exact oversized beyond

/-- A read is refused as too long for its buffer exactly if it is. -/
theorem read_shortBuffer_iff (sized : size ≠ 0) (streams : Streams) (needed given : Nat) :
    (read stream buffer size count streams).1 = .error (.shortBuffer needed given) ↔
      buffer.length < size * count ∧ needed = Word.saturate (size * count) ∧
        given = buffer.length := by
  apply shortBuffer_iff
  · intro beyond
    rw [read_oversized sized beyond]
  · intro fits cause failed
    exact (read_fitting sized fits).of_error streams cause failed

/-- A write is refused as longer than its data exactly if it is. -/
theorem write_shortBuffer_iff (sized : size ≠ 0) (streams : Streams) (needed given : Nat) :
    (write stream data size count streams).1 = .error (.shortBuffer needed given) ↔
      data.length < size * count ∧ needed = Word.saturate (size * count) ∧
        given = data.length := by
  apply shortBuffer_iff
  · intro beyond
    rw [write_oversized sized beyond]
  · intro fits cause failed
    exact (write_fitting sized fits).of_error streams cause failed

end Short

end Streams

namespace CachedStream

open Attached

variable {attached : Attached} {descriptor : Descriptor} {data : Bytes}

/-- Data that may go into the window does so once that is written back, if nothing stands in the
way. -/
theorem writePastWindow_ready (coherent : attached.Coherent descriptor)
    (used : attached.stream.window.unread = 0)
    (reach : attached.stream.base + attached.stream.window.extent < Word.signedBound)
    (present : data ≠ []) (small : data.length < Word.signedBound)
    (limit : data.length ≤ attached.stream.window.limit)
    (ready : attached.Ready descriptor data.length) :
    ∃ after, writePastWindow data attached = (.ok data.length, after) := by
  obtain ⟨remote, moved, flushed, kept⟩ :=
    flush_calm coherent (inReach_of_lt reach) ready.toCalm
  have addressable : attached.stream.flushed.here < Word.signedBound := kept.here ▸ here_lt reach
  rcases rebase_cases kept.advances.coherent rfl used addressable with
    ⟨asked, rebased, stays⟩ | ⟨cause, asked, failed, stays, armed⟩
  · have same := (kept.trans stays).advances.limit
    have fits := Nat.not_lt.mpr (same ▸ limit)
    rcases writePastWindow_roomy flushed rebased stays.advances.coherent rfl present small fits with
      ⟨after, ended, -⟩ | ⟨cause, ended, -, scarce⟩
    · exact ⟨after, ended⟩
    · have allocatable := ready.allocatable
      have large := scarce ((kept.trans stays).calm ready.toCalm).quiet
      rw [same] at large
      omega
  · exact (armed (kept.calm ready.toCalm).quiet).elim

/-- A write takes all of its data if nothing stands in its way. -/
theorem write_ready (coherent : attached.Coherent descriptor)
    (near : attached.stream.here < PlainFile.positionBound)
    (within : attached.stream.here + data.length < Word.signedBound)
    (ready : attached.Ready descriptor data.length) (writable : descriptor.mode.writable = true) :
    (write data attached).1 = .ok data.length := by
  have small : data.length < Word.signedBound := by omega
  by_cases scarce : attached.stream.window.limit < Window.allocationBound
  · have steady : attached.Steady descriptor := ⟨ready.quiet, scarce, ready.writable⟩
    rcases write_cases coherent near within with
      ⟨count, after, moved, wrote, -, -, -, whole⟩ | ⟨cause, after, moved, -, -, excuse⟩
    · rw [wrote, whole steady writable]
    · rw [excuse steady] at writable
      contradiction
  -- Nothing goes around a window that may be larger than any memory.
  have enough := le_roomFor small
  have allocatable := ready.allocatable
  have limit : data.length ≤ attached.stream.window.limit := by omega
  by_cases empty : data = []
  · subst empty
    simp [write]
  obtain ⟨count, count_eq⟩ : ∃ count, count = min attached.stream.window.spare data.length :=
    ⟨_, rfl⟩
  rw [write_put coherent empty count_eq]
  by_cases full : count = data.length
  · rw [if_pos full, full]
  obtain ⟨used, reach⟩ := putting_fills coherent near count_eq full
  have rest : (data.drop count).length = data.length - count := List.length_drop
  have later := (accepts_fitting coherent count_eq).advances.coherent
  have present : data.drop count ≠ [] := mt List.drop_eq_nil_iff.mp (by omega)
  have calm : Calm ⟨attached.stream.putting (data.take count), attached.remote⟩ descriptor :=
    ⟨ready.quiet, fun _ => writable⟩
  have still : Ready ⟨attached.stream.putting (data.take count), attached.remote⟩ descriptor
      data.length := ⟨calm, ready.allocatable⟩
  obtain ⟨after, wrote⟩ := writePastWindow_ready later used reach present (by omega)
    (by rw [rest]; exact Nat.le_trans (Nat.sub_le _ _) limit) (still.fewer (by omega))
  have twice := Word.signedBound_add_signedBound
  have sum : count + (data.drop count).length < Word.bound := by omega
  simp only [if_neg full, writeRest, Action.bind_apply, Action.attempt, wrote, Word.add_apply sum]
  congr 1
  omega

end CachedStream

namespace PlainFile

/-- `items` items of the file were put at the front of a buffer, and perhaps a part of one more.
Together these are `moved` bytes, which is all there are of the items that were asked for. -/
structure FillsItems (file : PlainFile) (buffer : Bytes) (size count moved items : Nat)
    (filled : Bytes) : Prop where
  moved_eq : moved = min (size * count) (file.content.length - file.position)
  most : items ≤ count
  whole : items * size ≤ moved
  partly : moved < (items + 1) * size
  front : filled.take moved = file.ahead moved
  rest : filled.drop moved = buffer.drop moved
  same : filled.length = buffer.length

variable {file : PlainFile} {buffer filled : Bytes} {size count moved items : Nat}

/-- What a file has ahead fills its items completely, up to the last one. -/
theorem fillsItems (file : PlainFile) (sized : 0 < size) (fits : size * count ≤ buffer.length) :
    file.FillsItems buffer size count (file.ahead (size * count)).length
      ((file.ahead (size * count)).length / size)
      (buffer.overlay 0 (file.ahead (size * count))) := by
  have length := length_ahead file (size * count)
  have short : (file.ahead (size * count)).length ≤ size * count := by omega
  exact {
    moved_eq := length
    most := Nat.div_le_of_le_mul short
    whole := Nat.div_mul_le_self _ _
    partly := Nat.lt_mul_of_div_lt (Nat.lt_succ_self _) sized
    front := by
      rw [Bytes.overlay_zero, List.take_left, ahead_length_ahead]
    rest := by
      rw [Bytes.overlay_zero, List.drop_left]
    same := by
      rw [Bytes.length_overlay]
      omega }

/-- No byte behind the items is touched. -/
theorem FillsItems.untouched (fills : file.FillsItems buffer size count moved items filled) :
    filled.drop (size * count) = buffer.drop (size * count) := by
  have short : moved ≤ size * count := by
    rw [fills.moved_eq]
    exact Nat.min_le_left _ _
  obtain ⟨further, more⟩ := Nat.exists_eq_add_of_le short
  rw [more, ← List.drop_drop, ← List.drop_drop, fills.rest]

end PlainFile

namespace Streams

open Attached

variable {streams : Streams} {id : StreamId} {entry : CachedStream} {descriptor : Descriptor}
  {size count : Nat}

section Ready

variable (found : streams.table.find? id = some entry)
  (coherent : Coherent ⟨entry, streams.remote⟩ descriptor) (sized : size ≠ 0)
  (near : entry.here < PlainFile.positionBound) {buffer : Bytes}
  (fits : size * count ≤ buffer.length) (small : buffer.length < Word.signedBound)
  (ready : Ready ⟨entry, streams.remote⟩ descriptor (size * count))
  {file : PlainFile} (seen : streams.shown? id = some file)

include found coherent sized near fits small ready seen

/-- A read of items gives all that there are of them, if nothing stands in its way. -/
theorem read_items_ready (readable : descriptor.mode.readable = true) :
    ∃ moved items filled later,
      read (.cached id) buffer size count streams = (.ok (items, filled), later) ∧
      file.FillsItems buffer size count moved items filled ∧
      (tell (.cached id) later).1 = .ok (entry.here + moved) ∧
      later.shown? id = some (file.skip moved) := by
  obtain ⟨shown, here⟩ := file?_eq_some_iff.mp ((shown?_of_found found).symm.trans seen)
  rcases read_in_items_ready found coherent sized near fits small with
    ⟨fails, excused⟩ | ⟨bytes, gives, whole⟩
  · have present : content? ⟨entry, streams.remote⟩ ≠ none := by simp [shown]
    rw [excused ready present] at readable
    contradiction
  · have all := whole ready readable _ shown
    rw [here] at all
    obtain ⟨moves, faithful⟩ := gives.shows file seen
    obtain rfl := PlainFile.ahead_min faithful all
    exact ⟨_, _, _, _, Prod.ext gives.reports rfl,
      file.fillsItems (Nat.pos_of_ne_zero sized) fits, gives.tells, moves⟩

/-- A write of items takes all of them, if nothing stands in its way. -/
theorem write_items_ready (writable : descriptor.mode.writable = true)
    (within : entry.here + size * count < Word.signedBound) :
    ∃ later, write (.cached id) buffer size count streams = (.ok count, later) ∧
      (tell (.cached id) later).1 = .ok (entry.here + size * count) ∧
      later.shown? id = some (file.written (buffer.take (size * count))) := by
  have length : (buffer.take (size * count)).length = size * count := List.length_take_of_le fits
  have positive := Nat.pos_of_ne_zero sized
  have taken : (CachedStream.write (buffer.take (size * count)) ⟨entry, streams.remote⟩).1 =
      .ok (size * count) := by
    have inside : entry.here + (buffer.take (size * count)).length < Word.signedBound := by omega
    rw [CachedStream.write_ready coherent near inside (length.symm ▸ ready) writable, length]
  have wrote : (write (.cached id) buffer size count streams).1 = .ok count := by
    rw [write_apply found sized fits, taken, Outcome.map_ok, Nat.mul_div_cancel_left _ positive]
  rcases write_in_items found coherent sized near fits small with
    ⟨⟨⟨cause, failed⟩, -⟩, -⟩ | ⟨-, outside⟩ | ⟨moved, _, _, takes, -⟩
  · rw [wrote] at failed
    contradiction
  · exact (Nat.not_lt.mpr outside within).elim
  · obtain rfl : moved = size * count := by
      have items : count = moved / size := Outcome.ok.inj (wrote.symm.trans takes.reports)
      have most := takes.room
      have least := Nat.div_mul_le_self moved size
      rw [← items, Nat.mul_comm] at least
      omega
    exact ⟨_, Prod.ext wrote rfl, takes.tells, takes.shows file seen⟩

end Ready

/-- A transfer of items is refused as too long for its buffer exactly if the items have more bytes,
and then nothing happens. -/
structure Bounded (streams : Streams) (stream : Stream) (buffer : Bytes) (size count : Nat) :
    Prop where
  /-- The exact product of size and count decides about a read. -/
  read_iff : ∀ needed given,
    (read stream buffer size count streams).1 = .error (.shortBuffer needed given) ↔
      buffer.length < size * count ∧ needed = Word.saturate (size * count) ∧ given = buffer.length
  /-- It decides about a write. -/
  write_iff : ∀ needed given,
    (write stream buffer size count streams).1 = .error (.shortBuffer needed given) ↔
      buffer.length < size * count ∧ needed = Word.saturate (size * count) ∧ given = buffer.length
  /-- What is refused asks nothing of the remote side and changes no stream. -/
  unchanged : buffer.length < size * count →
    (read stream buffer size count streams).2 = streams ∧
    (write stream buffer size count streams).2 = streams

/-- Transfers of items on a stream that shows `file` are confined to the items, as long as no call
fails. -/
structure Confined (streams : Streams) (id : StreamId) (entry : CachedStream) (file : PlainFile)
    (buffer : Bytes) (size count : Nat) : Prop where
  /-- A read puts what the file has of the items at the front of the buffer, touches nothing else,
  and counts the items that are complete. -/
  reads : ∃ moved items filled later,
    read (.cached id) buffer size count (streams.armed ∅) = (.ok (items, filled), later) ∧
    file.FillsItems buffer size count moved items filled ∧
    filled.drop (size * count) = buffer.drop (size * count) ∧
    (tell (.cached id) later).1 = .ok (entry.here + moved) ∧
    later.shown? id = some (file.skip moved)
  /-- A write takes all items, if they do not end where no object can reach. -/
  writes : entry.here + size * count < Word.signedBound →
    ∃ later, write (.cached id) buffer size count (streams.armed ∅) = (.ok count, later) ∧
      (tell (.cached id) later).1 = .ok (entry.here + size * count) ∧
      later.shown? id = some (file.written (buffer.take (size * count)))

/-- Whatever state the streams are in, a transfer of items is refused as too long for its buffer
exactly if the items have more bytes, and then nothing happens. Any other transfer on a stream for
both directions, as long as no call fails and memory lasts, is confined to its items. -/
theorem items_within_buffer (sized : size ≠ 0) :
    (∀ (streams : Streams) (stream : Stream) (buffer : Bytes),
      Bounded streams stream buffer size count) ∧
    ∀ {streams : Streams} {id : StreamId} {entry : CachedStream} {descriptor : Descriptor},
      streams.Attainable → streams.table.find? id = some entry →
      streams.remote.session.descriptors.find? entry.object = some descriptor →
      descriptor.mode = .readWrite →
      ∃ file, streams.shown? id = some file ∧ file.position = entry.here ∧
        ∀ buffer : Bytes, size * count ≤ buffer.length → buffer.length < Word.signedBound →
          min entry.window.limit (CachedStream.roomFor (size * count)) < Window.allocationBound →
          Confined streams id entry file buffer size count := by
  constructor
  · intro streams stream buffer
    refine ⟨read_shortBuffer_iff sized streams, write_shortBuffer_iff sized streams, ?_⟩
    intro beyond
    rw [read_oversized sized beyond, write_oversized sized beyond]
    exact ⟨rfl, rfl⟩
  · intro streams id entry descriptor attainable found opened both
    obtain ⟨-, near, settings, past, orderly⟩ := attainable.orderly
    have writable : descriptor.mode.writable = true := by
      rw [both]
      rfl
    have readable : descriptor.mode.readable = true := by
      rw [both]
      rfl
    obtain ⟨other, coherent⟩ := (orderly.bears found).known (.inl ⟨descriptor, opened, writable⟩)
    obtain rfl := Option.some.inj (coherent.serves.found.symm.trans opened)
    obtain ⟨file, seen, -⟩ := CachedStream.exists_file coherent writable
    rw [← shown?_of_found found] at seen
    obtain ⟨-, here⟩ := file?_eq_some_iff.mp ((shown?_of_found found).symm.trans seen)
    refine ⟨file, seen, here.symm, ?_⟩
    intro buffer fits small allocatable
    have close : entry.here < PlainFile.positionBound := near id entry found
    have armed := coherent.armed FaultPlan.honest_empty
    have found' : (streams.armed ∅).table.find? id = some entry := found
    have seen' : (streams.armed ∅).shown? id = some file := seen
    have calm : Calm ⟨entry, (streams.armed ∅).remote⟩ other := ⟨rfl, fun _ => writable⟩
    have ready : Ready ⟨entry, (streams.armed ∅).remote⟩ other (size * count) :=
      ⟨calm, allocatable⟩
    constructor
    · obtain ⟨moved, items, filled, later, gave, fills, tells, shows⟩ :=
        read_items_ready found' armed sized close fits small ready seen' readable
      exact ⟨moved, items, filled, later, gave, fills, fills.untouched, tells, shows⟩
    · exact write_items_ready found' armed sized close fits small ready seen' writable

/-- The object is open for both directions. -/
def openBothWays : Streams :=
  ((Deed.openStream "remote:a" "r+").perform (oneObject.armed ∅)).2.armed ∅

/-- A program can come there. -/
theorem attainable_openBothWays : openBothWays.Attainable := by
  have opened : Course (fun _ plan => plan.Honest) oneObject _ _ :=
    Course.start.proceed (.openStream "remote:a" "r+") FaultPlan.honest_empty (by decide) trivial
  exact ⟨_, _, _, _, _, _, ∅, few_created 1 _, opened, by decide, FaultPlan.honest_empty, rfl⟩

/-- Two items of two bytes do not fit into three bytes. With room for them the object of three bytes
gives one item and the first byte of the next, and the byte behind the items stays as it was. -/
theorem items_within_buffer_incomplete :
    openBothWays.Attainable ∧
    (read (.cached ⟨0⟩) [7, 7, 7] 2 2 openBothWays).1 = .error (.shortBuffer 4 3) ∧
    ∃ later, read (.cached ⟨0⟩) [7, 7, 7, 7, 7] 2 2 (openBothWays.armed ∅) =
        (.ok (1, [1, 2, 3, 7, 7]), later) ∧
      (tell (.cached ⟨0⟩) later).1 = .ok 3 := by
  have found : openBothWays.table.find? ⟨0⟩ = some _ := rfl
  have opened : openBothWays.remote.session.descriptors.find? ⟨1⟩ =
      some ⟨⟨"a"⟩, .readWrite, 0, .staged [1, 2, 3] false⟩ := rfl
  obtain ⟨short, live⟩ := @items_within_buffer 2 2 (by decide)
  obtain ⟨file, seen, -, confined⟩ := live attainable_openBothWays found opened rfl
  obtain rfl : ⟨[1, 2, 3], 0⟩ = file := Option.some.inj seen
  obtain ⟨moved, items, filled, later, gave, fills, -, tells, -⟩ :=
    (confined [7, 7, 7, 7, 7] (by decide) (by decide) (by decide)).reads
  obtain rfl : 3 = moved := fills.moved_eq.symm
  obtain ⟨rfl, rfl⟩ : 1 = items ∧ [1, 2, 3, 7, 7] = filled :=
    Prod.mk.inj (Outcome.ok.inj (congrArg Prod.fst gave))
  refine ⟨attainable_openBothWays, ?_, later, gave, tells⟩
  exact ((short openBothWays (.cached ⟨0⟩) [7, 7, 7]).read_iff 4 3).mpr (by decide)

end Streams

end RemoteStreams
