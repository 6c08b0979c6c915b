import RemoteStreams.Proofs.OpenObjects

/-! # Transfers in items

Reads and writes report whole items, but what stops a transfer early does not care where an item
ends. A transfer moves the stream by the bytes that were transferred, and reports as many items as
these fill (`RemoteStreams.Streams.transfers_in_items`). The report accounts for all of the bytes
exactly if they end with an item. Then, and only then, a write may be resumed behind the items that
were reported (`RemoteStreams.PlainFile.written_resumed_iff`).
-/

namespace RemoteStreams

open Remote

/-- The bytes of the items that are left, once `moved` bytes were counted in whole items. -/
theorem bytes_of_items_left (size count moved : Nat) :
    size * (count - moved / size) = size * count - moved / size * size := by
  rw [Nat.mul_sub, Nat.mul_comm size (moved / size)]

namespace PlainFile

/-- A write that stopped early may be resumed behind its last whole item exactly if it stopped
there. -/
theorem written_resumed_iff (file : PlainFile) {data : Bytes} {size count moved : Nat}
    (fits : size * count ≤ data.length) (room : moved ≤ size * count) :
    (file.written (data.take moved)).written
        ((data.drop (moved / size * size)).take (size * (count - moved / size))) =
      file.written (data.take (size * count)) ↔ size ∣ moved := by
  have whole : moved / size * size ≤ moved := Nat.div_mul_le_self moved size
  have left := bytes_of_items_left size count moved
  constructor
  · intro same
    have positions := congrArg PlainFile.position same
    simp only [written, List.length_take, List.length_drop] at positions
    exact (Nat.dvd_iff_div_mul_eq moved size).mpr (by omega)
  · intro divides
    have items : moved / size * size = moved := Nat.div_mul_cancel divides
    rw [← written_append, left, items, ← List.take_add, Nat.add_sub_cancel' room]

end PlainFile

namespace Streams

open Attached

variable {settings : Settings} {past : StreamId → Past} {streams : Streams} {id : StreamId}
  {entry : CachedStream} {descriptor : Descriptor} {size count : Nat}

/-- The file that the user of a cached stream sees. -/
def shown? (streams : Streams) (id : StreamId) : Option PlainFile :=
  (streams.table.find? id).bind fun entry => Attached.file? ⟨entry, streams.remote⟩

/-- A write took the first `moved` bytes of its data, and it reports the items that they fill. If
these are not all that it was to take, they are what fitted into the window, or what did not fit was
to go around that. -/
structure Takes (streams : Streams) (id : StreamId) (entry : CachedStream) (data : Bytes)
    (size count moved : Nat) (ended : Outcome StreamError Nat × Streams) : Prop where
  room : moved ≤ size * count
  reports : ended.1 = .ok (moved / size)
  tells : (tell (.cached id) ended.2).1 = .ok (entry.here + moved)
  shows : ∀ file, streams.shown? id = some file →
    ended.2.shown? id = some (file.written (data.take moved))
  stops : moved = size * count ∨ moved = entry.window.spare ∨
    entry.window.limit < size * count - entry.window.spare

/-- A read put `bytes` at the front of its buffer, and it reports the items that they fill. -/
structure Gives (streams : Streams) (id : StreamId) (entry : CachedStream) (buffer : Bytes)
    (size count : Nat) (bytes : Bytes) (ended : Outcome StreamError (Nat × Bytes) × Streams) :
    Prop where
  room : bytes.length ≤ size * count
  reports : ended.1 = .ok (bytes.length / size, buffer.overlay 0 bytes)
  tells : (tell (.cached id) ended.2).1 = .ok (entry.here + bytes.length)
  shows : ∀ file, streams.shown? id = some file →
    ended.2.shown? id = some (file.skip bytes.length) ∧ bytes = file.ahead bytes.length

/-- A write took the first `moved` bytes of its data, and its report accounts for them as far as
they end with an item. -/
structure TakesItems (streams : Streams) (id : StreamId) (entry : CachedStream) (data : Bytes)
    (size count moved : Nat) (ended : Outcome StreamError Nat × Streams) : Prop
    extends Takes streams id entry data size count moved ended where
  /-- The stream moved by the items that were reported exactly if the bytes end with an item. -/
  accounts : (tell (.cached id) ended.2).1 = .ok (entry.here + moved / size * size) ↔ size ∣ moved
  /-- Once the write is resumed behind these items and takes the others, whatever failed meanwhile,
  the stream shows what one write of all of them leaves, exactly if the bytes end with an item. -/
  resumes : ∀ plan resumed, plan.Honest → entry.here + moved < PlainFile.positionBound →
    write (.cached id) (data.drop (moved / size * size)) size (count - moved / size)
      (ended.2.armed plan) = (.ok (count - moved / size), resumed) →
    ∀ file, streams.shown? id = some file →
      (resumed.shown? id = some (file.written (data.take (size * count))) ↔ size ∣ moved)

/-- A read gave `bytes`, and its report accounts for them as far as they end with an item. -/
structure GivesItems (streams : Streams) (id : StreamId) (entry : CachedStream) (buffer : Bytes)
    (size count : Nat) (bytes : Bytes) (ended : Outcome StreamError (Nat × Bytes) × Streams) : Prop
    extends Gives streams id entry buffer size count bytes ended where
  /-- The stream moved by the items that were reported exactly if the bytes end with an item. -/
  accounts : (tell (.cached id) ended.2).1 = .ok (entry.here + bytes.length / size * size) ↔
    size ∣ bytes.length

/-- A transfer failed, and the user of the stream notices nothing else. -/
def Fails {α : Type} (streams : Streams) (id : StreamId) (entry : CachedStream)
    (ended : Outcome StreamError α × Streams) : Prop :=
  (∃ cause, ended.1 = .error cause) ∧ (tell (.cached id) ended.2).1 = .ok entry.here ∧
    ∀ file, streams.shown? id = some file → ended.2.shown? id = some file

/-- A transfer was abandoned, since its last item ends where no object can reach. -/
def Overruns (entry : CachedStream) (size count : Nat)
    (ended : Outcome StreamError Nat × Streams) : Prop :=
  (∃ breach, ended.1 = .broken breach) ∧ Word.signedBound ≤ entry.here + size * count

/-- What transfers of `count` items of `size` bytes come to on a cached stream. -/
structure TransfersInItems (streams : Streams) (id : StreamId) (entry : CachedStream)
    (size count : Nat) : Prop where
  /-- A write fails and nothing happened, or the stream takes bytes and reports their items. -/
  writes : ∀ data : Bytes, size * count ≤ data.length → data.length < Word.signedBound →
    ∀ ended, write (.cached id) data size count streams = ended →
      Fails streams id entry ended ∨ Overruns entry size count ended ∨
        ∃ moved, TakesItems streams id entry data size count moved ended
  /-- A read fails and nothing happened, or the stream gives bytes and reports their items. -/
  reads : ∀ buffer : Bytes, size * count ≤ buffer.length → buffer.length < Word.signedBound →
    ∀ ended, read (.cached id) buffer size count streams = ended →
      Fails streams id entry ended ∨
        ∃ bytes, GivesItems streams id entry buffer size count bytes ended
  /-- If nothing stands in the way, a write reports all of its items. -/
  writes_all : ∀ descriptor,
    streams.remote.session.descriptors.find? entry.object = some descriptor →
    Attached.Steady ⟨entry, streams.remote⟩ descriptor → descriptor.mode.writable = true →
    entry.here + size * count < Word.signedBound →
    ∀ data : Bytes, size * count ≤ data.length → data.length < Word.signedBound →
      (write (.cached id) data size count streams).1 = .ok count
  /-- If nothing stands in the way, a read gives all that there is. -/
  reads_all : ∀ descriptor,
    streams.remote.session.descriptors.find? entry.object = some descriptor →
    Attached.Steady ⟨entry, streams.remote⟩ descriptor → descriptor.mode.readable = true →
    ∀ buffer : Bytes, size * count ≤ buffer.length → buffer.length < Word.signedBound →
    ∀ file, streams.shown? id = some file →
      (read (.cached id) buffer size count streams).1 =
        .ok ((file.ahead (size * count)).length / size,
          buffer.overlay 0 (file.ahead (size * count)))

/-- What a stream of the table shows is what its user sees. -/
theorem shown?_of_found (found : streams.table.find? id = some entry) :
    streams.shown? id = Attached.file? ⟨entry, streams.remote⟩ := by
  rw [shown?, found, Option.bind_some]

/-- After a step of a stream, that is what the stream shows then. -/
theorem shown?_withAttached (found : streams.table.find? id = some entry) (attached : Attached) :
    (streams.withAttached id attached).shown? id = attached.file? :=
  shown?_of_found (SlotTable.find?_assign_self (SlotTable.slot_lt_capacity found) _)

/-- After a step of a stream, it tells where it is then. -/
theorem tell_withAttached (found : streams.table.find? id = some entry) {attached : Attached}
    (addressable : attached.stream.here < Word.bound) :
    (tell (.cached id) (streams.withAttached id attached)).1 = .ok attached.stream.here := by
  have again : (streams.withAttached id attached).table.find? id = some attached.stream :=
    SlotTable.find?_assign_self (SlotTable.slot_lt_capacity found) _
  have told := CachedStream.tell_apply (ε := StreamError) addressable
  rw [tell, onCached_apply again]
  exact congrArg Prod.fst told

/-- A write of items that fit into the data is a write of their bytes, and reports the complete
items of those that were taken. -/
theorem write_apply {data : Bytes} (found : streams.table.find? id = some entry) (sized : size ≠ 0)
    (fits : size * count ≤ data.length) :
    write (.cached id) data size count streams =
      ((CachedStream.write (data.take (size * count)) ⟨entry, streams.remote⟩).1.map (· / size),
        streams.withAttached id
          (CachedStream.write (data.take (size * count)) ⟨entry, streams.remote⟩).2) := by
  simp only [write, sized, bytesOfItems, fits, ↓reduceIte, writeBytes, bind_pure_comp,
    Action.map_apply, onCached_apply found]

/-- A read of items that fit into the buffer is a read into its front, and reports the complete
items that were read. -/
theorem read_apply {buffer : Bytes} (found : streams.table.find? id = some entry) (sized : size ≠ 0)
    (fits : size * count ≤ buffer.length) :
    read (.cached id) buffer size count streams =
      ((CachedStream.read (buffer.take (size * count)) ⟨entry, streams.remote⟩).1.map
          fun filled => (filled.1 / size, filled.2 ++ buffer.drop (size * count)),
        streams.withAttached id
          (CachedStream.read (buffer.take (size * count)) ⟨entry, streams.remote⟩).2) := by
  simp only [read, sized, bytesOfItems, fits, ↓reduceIte, readBytes, bind_pure_comp,
    Action.map_apply, onCached_apply found]

section Transfers

variable (found : streams.table.find? id = some entry)
  (coherent : Coherent ⟨entry, streams.remote⟩ descriptor) (sized : size ≠ 0)
  (near : entry.here < PlainFile.positionBound)

include found

/-- What the user of a stream does not notice does not change the stream for its user. -/
theorem fails_withAttached {α : Type} {after : Attached} {moved : Descriptor} {cause : StreamError}
    (addressable : entry.here < Word.bound)
    (keeps : Keeps ⟨entry, streams.remote⟩ descriptor after moved) :
    Fails streams id entry ((.error cause : Outcome StreamError α), streams.withAttached id after) := by
  have here : after.stream.here = entry.here := keeps.here
  refine ⟨⟨cause, rfl⟩, ?_, fun file seen => ?_⟩
  · rw [← here]
    exact tell_withAttached found (here ▸ addressable)
  · rw [shown?_of_found found] at seen
    rw [shown?_withAttached found]
    exact keeps.file?_eq seen

include coherent sized near

/-- A write of items fails, or overruns, or takes some bytes. The stream stays coherent in its
place, so that another write may follow. -/
theorem write_in_items {data : Bytes} (fits : size * count ≤ data.length)
    (small : data.length < Word.signedBound) :
    (Fails streams id entry (write (.cached id) data size count streams) ∧
      (Steady ⟨entry, streams.remote⟩ descriptor → descriptor.mode.writable = false)) ∨
    Overruns entry size count (write (.cached id) data size count streams) ∨
    ∃ moved later next, Takes streams id entry data size count moved
        (write (.cached id) data size count streams) ∧
      (Steady ⟨entry, streams.remote⟩ descriptor → descriptor.mode.writable = true →
        moved = size * count) ∧
      (write (.cached id) data size count streams).2.table.find? id = some later ∧
      Coherent ⟨later, (write (.cached id) data size count streams).2.remote⟩ next ∧
      later.here = entry.here + moved := by
  have twice := Word.signedBound_add_signedBound
  have within : PlainFile.positionBound < Word.signedBound := by decide
  have length : (data.take (size * count)).length = size * count := List.length_take_of_le fits
  have short : (data.take (size * count)).length < Word.signedBound := by omega
  have stops := @CachedStream.write_stops _ _ coherent near (data.take (size * count))
  have ends := CachedStream.write_ends coherent near short
  rw [write_apply found sized fits]
  rcases ends with (⟨moved, after, next, wrote, room, accepts, -, whole⟩ |
    ⟨cause, after, next, failed, keeps, excuse⟩) | ⟨⟨breach, after, broken⟩, outside⟩
  · have here : after.stream.here = entry.here + moved := by
      rw [accepts.here, List.length_take_of_le room]
    have stopped := stops wrote
    rw [length] at room whole stopped
    have reach : after.stream.here < Word.bound := by omega
    rw [wrote]
    rw [List.take_take, Nat.min_eq_left room] at accepts
    refine .inr (.inr ⟨moved, after.stream, next, ⟨room, rfl, ?_, fun file seen => ?_, ?_⟩, whole,
      SlotTable.find?_assign_self (SlotTable.slot_lt_capacity found) _,
      accepts.advances.coherent, here⟩)
    · rw [← here]
      exact tell_withAttached found reach
    · rw [shown?_of_found found] at seen
      rw [shown?_withAttached found]
      exact accepts.file?_eq seen
    · rcases stopped with all | window | around
      · exact .inl all
      · simp only at window
        omega
      · exact .inr (.inr around)
  · rw [failed]
    exact .inl ⟨fails_withAttached found (by omega) keeps, excuse⟩
  · rw [broken]
    exact .inr (.inl ⟨⟨breach, rfl⟩, length ▸ outside⟩)

/-- A read of items fails if there is an excuse, or it gives some bytes, and all that there are
unless there is one. -/
theorem read_in_items_ready {buffer : Bytes} (fits : size * count ≤ buffer.length)
    (small : buffer.length < Word.signedBound) :
    (Fails streams id entry (read (.cached id) buffer size count streams) ∧
      Attached.Excused ⟨entry, streams.remote⟩ descriptor (size * count)) ∨
    ∃ bytes, Gives streams id entry buffer size count bytes
        (read (.cached id) buffer size count streams) ∧
      Attached.Whole ⟨entry, streams.remote⟩ descriptor (size * count) bytes := by
  have twice := Word.signedBound_add_signedBound
  have within : PlainFile.positionBound < Word.signedBound := by decide
  have length : (buffer.take (size * count)).length = size * count := List.length_take_of_le fits
  have short : (buffer.take (size * count)).length < Word.signedBound := by omega
  have ends := CachedStream.read_cases coherent near short
  rw [read_apply found sized fits]
  rcases ends with ⟨bytes, after, next, gave, room, delivers, whole⟩ |
    ⟨cause, after, next, failed, keeps, excused⟩
  · have here : after.stream.here = entry.here + bytes.length := delivers.here
    rw [length] at room whole
    have reach : after.stream.here < Word.bound := by omega
    rw [gave]
    refine .inr ⟨bytes, ⟨room, ?_, ?_, fun file seen => ?_⟩, whole⟩
    · rw [Outcome.map_ok, Bytes.overlay_take_append_drop buffer room]
    · rw [← here]
      exact tell_withAttached found reach
    · rw [shown?_of_found found] at seen
      rw [shown?_withAttached found]
      exact delivers.file?_eq seen
  · rw [length] at excused
    rw [failed]
    exact .inl ⟨fails_withAttached found (by omega) keeps, excused⟩

/-- The same, if nothing is to stand in the way of the stream at all. -/
theorem read_in_items {buffer : Bytes} (fits : size * count ≤ buffer.length)
    (small : buffer.length < Word.signedBound) :
    (Fails streams id entry (read (.cached id) buffer size count streams) ∧
      (Steady ⟨entry, streams.remote⟩ descriptor → content? ⟨entry, streams.remote⟩ ≠ none →
        descriptor.mode.readable = false)) ∨
    ∃ bytes, Gives streams id entry buffer size count bytes
        (read (.cached id) buffer size count streams) ∧
      (Steady ⟨entry, streams.remote⟩ descriptor → descriptor.mode.readable = true →
        ∀ content, content? ⟨entry, streams.remote⟩ = some content →
          bytes.length = min (size * count) (content.length - entry.here)) := by
  rcases read_in_items_ready found coherent sized near fits small with
    ⟨fails, excused⟩ | ⟨bytes, gives, whole⟩
  · exact .inl ⟨fails, fun steady => excused (steady.ready _)⟩
  · exact .inr ⟨bytes, gives, fun steady => whole (steady.ready _)⟩

end Transfers

/-- A write that stopped early and is then resumed behind the items that it reported leaves what a
write that did not stop leaves, exactly if it stopped behind an item. -/
theorem Takes.resumed_iff {data : Bytes} {moved : Nat} {faults : FaultPlan}
    {ended : Outcome StreamError Nat × Streams} {later : CachedStream} {next : Descriptor}
    {resumed : Streams} {file : PlainFile} (takes : Takes streams id entry data size count moved ended)
    (found : ended.2.table.find? id = some later)
    (coherent : Coherent ⟨later, ended.2.remote⟩ next) (sized : size ≠ 0)
    (near : later.here < PlainFile.positionBound) (fits : size * count ≤ data.length)
    (small : data.length < Word.signedBound) (honest : faults.Honest)
    (resumes : write (.cached id) (data.drop (moved / size * size)) size (count - moved / size)
      (ended.2.armed faults) = (.ok (count - moved / size), resumed))
    (seen : streams.shown? id = some file) :
    resumed.shown? id = some (file.written (data.take (size * count))) ↔ size ∣ moved := by
  have whole : moved / size * size ≤ moved := Nat.div_mul_le_self moved size
  have left := bytes_of_items_left size count moved
  have room := takes.room
  have rest : (data.drop (moved / size * size)).length = data.length - moved / size * size :=
    List.length_drop
  have fits' : size * (count - moved / size) ≤ (data.drop (moved / size * size)).length := by omega
  have small' : (data.drop (moved / size * size)).length < Word.signedBound := by omega
  have found' : (ended.2.armed faults).table.find? id = some later := found
  rcases write_in_items found' (coherent.armed honest) sized near fits' small' with
    ⟨⟨⟨cause, failed⟩, -⟩, -⟩ | ⟨⟨breach, broken⟩, -⟩ | ⟨further, -, -, takes', -⟩
  · rw [resumes] at failed
    contradiction
  · rw [resumes] at broken
    contradiction
  · rw [resumes] at takes'
    have items : count - moved / size = further / size := Outcome.ok.inj takes'.reports
    have all : further = size * (count - moved / size) := by
      have most := takes'.room
      have least := Nat.div_mul_le_self further size
      rw [← items, Nat.mul_comm] at least
      omega
    rw [takes'.shows _ (takes.shows file seen), all, Option.some.injEq]
    exact file.written_resumed_iff fits room

section Reached

variable {allowed : Deed → FaultPlan → Prop} {remote : Remote} {disk : Disk} {start : Streams}

/-- Wherever a program is with a cached stream and whatever fails, a transfer moves the stream by
the bytes that were transferred and reports the items that these fill. A stream that just reads is
left out once the store got another object in the place of its own, since its window may then show
what is nowhere else. -/
theorem transfers_in_items (honest : ∀ deed faults, allowed deed faults → faults.Honest)
    (created : create settings remote disk = .ok start)
    (reached : Course allowed start past streams) (found : streams.table.find? id = some entry)
    (known : (∃ descriptor, streams.remote.session.descriptors.find? entry.object =
      some descriptor ∧ descriptor.mode.writable = true) ∨ ¬(past id).replaced)
    (near : entry.here < PlainFile.positionBound) (sized : size ≠ 0) {faults : FaultPlan}
    (trusted : faults.Honest) :
    TransfersInItems (streams.armed faults) id entry size count := by
  obtain ⟨other, coherent⟩ :=
    ((reached.orderly honest created).bears found).known known
  have opened := coherent.serves.found
  have armed := coherent.armed trusted
  have found' : (streams.armed faults).table.find? id = some entry := found
  refine ⟨fun data fits small ended wrote => ?_, fun buffer fits small ended gave => ?_,
    fun descriptor present steady writable within data fits small => ?_,
    fun descriptor present steady readable buffer fits small file seen => ?_⟩
  · subst wrote
    rcases write_in_items found' armed sized near fits small with
      ⟨fails, -⟩ | overruns | ⟨moved, later, next, takes, -, kept, coherent', here⟩
    · exact .inl fails
    · exact .inr (.inl overruns)
    · refine .inr (.inr ⟨moved, { takes with
        accounts := ?_
        resumes := fun plan resumed fair far resumes file seen => ?_ }⟩)
      · rw [takes.tells, Outcome.ok.injEq, Nat.add_left_cancel_iff, eq_comm]
        exact (Nat.dvd_iff_div_mul_eq moved size).symm
      · exact takes.resumed_iff kept coherent' sized (here ▸ far) fits small fair resumes seen
  · subst gave
    rcases read_in_items found' armed sized near fits small with ⟨fails, -⟩ | ⟨bytes, gives, -⟩
    · exact .inl fails
    · refine .inr ⟨bytes, { gives with accounts := ?_ }⟩
      rw [gives.tells, Outcome.ok.injEq, Nat.add_left_cancel_iff, eq_comm]
      exact (Nat.dvd_iff_div_mul_eq bytes.length size).symm
  · obtain rfl := Option.some.inj (opened.symm.trans present)
    rcases write_in_items found' armed sized near fits small with
      ⟨-, excuse⟩ | ⟨-, outside⟩ | ⟨moved, later, next, takes, whole, -⟩
    · rw [excuse steady] at writable
      contradiction
    · exact (Nat.not_lt.mpr outside within).elim
    · rw [takes.reports, whole steady writable, Nat.mul_div_cancel_left _ (Nat.pos_of_ne_zero sized)]
  · obtain rfl := Option.some.inj (opened.symm.trans present)
    obtain ⟨shown, here⟩ := file?_eq_some_iff.mp ((shown?_of_found found').symm.trans seen)
    rcases read_in_items found' armed sized near fits small with
      ⟨-, excuse⟩ | ⟨bytes, gives, whole⟩
    · rw [excuse steady (by simp [shown])] at readable
      contradiction
    · have all := whole steady readable _ shown
      rw [here] at all
      rw [gives.reports, PlainFile.ahead_min (gives.shows file seen).2 all]

end Reached

/-- One object, and windows of four bytes. -/
def fourWide : Streams := { oneObject with settings := ⟨"remote:", 1, ⟨4, 4⟩⟩ }

theorem fourWide_created : create ⟨"remote:", 1, ⟨4, 4⟩⟩ oneObject.remote oneObject.disk =
    .ok fourWide := rfl

/-- The object refuses to be written to, but only once. -/
def unwritable : FaultPlan := FiniteMap.insert ∅ .writeObject (.arm .refused 0 (some 1))

/-- The window of a stream takes two items of two bytes when it cannot be written back, and the
third item is written behind them later. -/
theorem transfers_in_items_resumed :
    ∃ past streams ended resumed, Course (fun _ faults => faults = ∅) fourWide past streams ∧
      write (.cached ⟨0⟩) [7, 8, 9, 10, 11, 12] 2 3 (streams.armed unwritable) = ended ∧
      ended.1 = .ok 2 ∧ write (.cached ⟨0⟩) [11, 12] 2 1 (ended.2.armed ∅) = (.ok 1, resumed) ∧
      resumed.shown? ⟨0⟩ = some ⟨[7, 8, 9, 10, 11, 12], 6⟩ := by
  have reached : Course (fun _ faults => faults = ∅) fourWide _ _ :=
    Course.undisturbed .start (.openStream "remote:a" "r+") (by decide) trivial
  have refuses : Fault.Honest .refused := trivial
  have found : ((Deed.openStream "remote:a" "r+").perform (fourWide.armed ∅)).2.table.find? ⟨0⟩ =
      some _ := rfl
  have sized : 2 ≠ 0 := by decide
  have fits : 2 * 3 ≤ ([7, 8, 9, 10, 11, 12] : Bytes).length := by decide
  rcases (transfers_in_items (fun _ faults (quiet : faults = ∅) => quiet ▸ FaultPlan.honest_empty)
      fourWide_created reached found (.inl ⟨_, rfl, rfl⟩) (by decide) sized
      (FaultPlan.honest_empty.arm .writeObject refuses 0 (some 1))).writes _ fits (by decide) _ rfl
    with ⟨⟨cause, failed⟩, -⟩ | ⟨⟨breach, broken⟩, -⟩ | ⟨moved, takes⟩
  · contradiction
  · contradiction
  · obtain rfl : 4 = moved := by
      have told : Outcome.ok 4 = Outcome.ok (0 + moved) := takes.tells
      simpa using told
    refine ⟨_, _, _, _, reached, rfl, takes.reports, rfl, ?_⟩
    exact (takes.resumes ∅ _ FaultPlan.honest_empty (by decide) rfl ⟨[1, 2, 3], 0⟩ rfl).mpr (by decide)

/-- The same window takes one item of three bytes and the first byte of the next, and only the item
is reported. -/
theorem write_reports_part :
    ∃ past streams entry ended, Course (fun _ faults => faults = ∅) fourWide past streams ∧
      streams.table.find? ⟨0⟩ = some entry ∧ entry.here = 0 ∧
      write (.cached ⟨0⟩) [7, 8, 9, 10, 11, 12] 3 2 (streams.armed unwritable) = ended ∧
      ended.1 = .ok 1 ∧ (tell (.cached ⟨0⟩) ended.2).1 = .ok 4 ∧
      ended.2.shown? ⟨0⟩ = some ⟨[7, 8, 9, 10], 4⟩ := by
  have reached : Course (fun _ faults => faults = ∅) fourWide _ _ :=
    Course.undisturbed .start (.openStream "remote:a" "r+") (by decide) trivial
  exact ⟨_, _, _, _, reached, rfl, rfl, rfl, rfl, rfl, rfl⟩

end Streams

end RemoteStreams
