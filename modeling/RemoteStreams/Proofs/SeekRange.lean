import RemoteStreams.Proofs.Refusals
import RemoteStreams.Proofs.Runs

/-! # Seeking over the whole range

A target of a seek may be any unsigned machine word, or any signed one relative to the position or
to the end. Whatever state a stream has come to, as long as its window ends at a machine word and no
call fails, a seek goes exactly where integer arithmetic says, or it is refused because no machine
word says where that is (`RemoteStreams.CachedStream.seeks_exactly`). Whether the cursor was moved
or the object, the same bytes are read next.
-/

namespace RemoteStreams

namespace CachedStream

open Attached

/-- A seek that ended so led to `goal`. The stream says so, its user still sees `content`, and what
is read next are the bytes from there on, if the window that such a read may ask for can be had. -/
structure Lands (content : Bytes) (goal : Nat) (ended : Outcome StreamError Nat × Attached) :
    Prop where
  answer : ended.1 = .ok goal
  told : (tell : StreamAction Nat) ended.2 = (.ok goal, ended.2)
  seen : ended.2.file? = some ⟨content, goal⟩
  reads : ∀ buffer : Bytes, buffer.length < Word.signedBound →
    min ended.2.stream.window.limit (roomFor buffer.length) < Window.allocationBound →
      (read buffer ended.2).1 = .ok
        ((PlainFile.ahead ⟨content, goal⟩ buffer.length).length,
          buffer.overlay 0 (PlainFile.ahead ⟨content, goal⟩ buffer.length))

/-- Where seeks lead that begin at the position of the stream, if its user sees `content`. A seek
lands there too if it moves the object although the window contains the target. -/
structure SeeksExactly (attached : Attached) (content : Bytes) : Prop where
  start : ∀ position < Word.bound,
    Lands content position (seek (.start position) attached) ∧
    Lands content position (seekObject (.start position) attached)
  current : ∀ (offset : Int) (goal : Nat), attached.stream.here + offset = goal →
    goal < Word.bound → Lands content goal (seek (.current offset) attached) ∧
      Lands content goal (seekObject (.current offset) attached)
  current_invalid : ∀ offset : Int,
    attached.stream.here + offset < 0 ∨ (Word.bound : Int) ≤ attached.stream.here + offset →
      seek (.current offset) attached =
        (.error (.invalidSeek (attached.stream.here + offset)), attached)
  ending : ∀ (offset : Int) (goal : Nat), offset < Word.signedBound →
    content.length + offset = goal → Lands content goal (seek (.ending offset) attached) ∧
      Lands content goal (seekObject (.ending offset) attached)
  ending_invalid : ∀ offset : Int, content.length + offset < 0 →
    ∃ cause after, seek (.ending offset) attached = (.error cause, after) ∧
      (tell : StreamAction Nat) after = (.ok attached.stream.here, after) ∧
      after.file? = some ⟨content, attached.stream.here⟩

variable {attached after : Attached} {descriptor moved : Descriptor} {content : Bytes}
  {target : SeekTarget}

/-- Content that fits into memory can be addressed as far as there is anything to read. -/
theorem inReach_of_shown (coherent : attached.Coherent descriptor)
    (shown : attached.content? = some content) (memory : content.length < Word.signedBound)
    (word : attached.stream.base + attached.stream.window.extent < Word.bound)
    (pending : attached.stream.dirty = true →
      attached.stream.base + attached.stream.window.extent < Word.signedBound) :
    attached.InReach descriptor where
  word := word
  inside := by
    rintro (dirty | present)
    · exact pending dirty
    · by_cases dirty : attached.stream.dirty = true
      · exact pending dirty
      · rw [coherent.content?_of_clean (by simpa using dirty)] at shown
        rw [← Descriptor.length_of_backing? shown] at present
        omega

/-- What the user of a stream sees fits into memory, if what is staged does and the window too. -/
theorem shown_length_lt (coherent : attached.Coherent descriptor)
    (shown : attached.content? = some content) (inMemory : attached.remote.session.InMemory)
    (pending : attached.stream.dirty = true →
      attached.stream.base + attached.stream.window.extent < Word.signedBound) :
    content.length < Word.signedBound := by
  rw [coherent.content?_eq] at shown
  obtain ⟨backing, backed, rfl⟩ := Option.map_eq_some_iff.mp shown
  have fits : backing.length < Word.signedBound :=
    Descriptor.length_of_backing? backed ▸ inMemory.length_lt coherent.serves.found
  cases dirty : attached.stream.dirty with
  | false => rwa [overlaid_of_clean dirty]
  | true =>
      rw [overlaid_of_dirty dirty, Bytes.length_overlay, coherent.length_occupied]
      exact Nat.max_lt.mpr ⟨fits, pending dirty⟩

/-- What is read is what the file has ahead. -/
theorem read_ahead (coherent : attached.Coherent descriptor) (inReach : attached.InReach descriptor)
    (readable : descriptor.mode.readable = true) (shown : attached.content? = some content)
    {buffer : Bytes} (small : buffer.length < Word.signedBound)
    (ready : attached.Ready descriptor buffer.length) :
    (read buffer attached).1 = .ok
      ((PlainFile.ahead ⟨content, attached.stream.here⟩ buffer.length).length,
        buffer.overlay 0 (PlainFile.ahead ⟨content, attached.stream.here⟩ buffer.length)) := by
  have seen : attached.file? = some ⟨content, attached.stream.here⟩ :=
    file?_eq_some_iff.mpr ⟨shown, rfl⟩
  rcases read_inReach coherent inReach small with
    ⟨bytes, after, moved, ended, room, delivers, whole⟩ | ⟨cause, after, moved, ended, -, excused⟩
  · obtain ⟨-, faithful⟩ := delivers.file?_eq seen
    have all := PlainFile.ahead_min faithful (whole ready readable content shown)
    rw [ended, ← all]
  · have refused := excused ready (by simp [shown])
    rw [readable] at refused
    contradiction

/-- A seek that nothing stands in the way of lands where its target says. -/
theorem lands_of_seeks {ended : Outcome StreamError Nat × Attached} {goal : Nat}
    (seeks : attached.Seeks descriptor target ended) (calm : attached.Calm descriptor)
    (readable : descriptor.mode.readable = true) (shown : attached.content? = some content)
    (memory : content.length < Word.signedBound)
    (pending : attached.stream.dirty = true →
      attached.stream.base + attached.stream.window.extent < Word.signedBound)
    (leads : PlainFile.target ⟨content, attached.stream.here⟩ target = goal)
    (word : goal < Word.bound) : Lands content goal ended := by
  rcases seeks with ⟨position, after, moved, ended, repositions, reaches, stays, goes⟩ |
    ⟨cause, after, moved, ended, keeps, excuse⟩
  · obtain rfl : position = goal := Int.ofNat_inj.mp ((goes content shown).symm.trans leads)
    have coherent := repositions.advances.coherent
    have still := repositions.content.trans shown
    have inReach := inReach_of_shown coherent still memory reaches fun dirty => by
      rw [stays dirty]
      exact pending (repositions.dirty dirty)
    have same := repositions.here
    subst ended
    exact {
      answer := rfl
      told := by
        rw [tell_apply (here_lt reaches), same]
      seen := file?_eq_some_iff.mpr ⟨still, same⟩
      reads := fun buffer small allocatable => by
        have delivered := read_ahead coherent inReach
          (repositions.advances.moves.evolved.mode ▸ readable) still small
          ⟨repositions.calm calm, allocatable⟩
        rwa [same] at delivered }
  · have refused := excuse calm content shown
    rw [leads, Word.ofInt?_natCast word] at refused
    contradiction

/-- A seek that would leave the machine words is refused before anything is done. -/
theorem seek_invalid (inReach : attached.InReach descriptor) {offset : Int}
    (outside : attached.stream.here + offset < 0 ∨
      (Word.bound : Int) ≤ attached.stream.here + offset) :
    seek (.current offset) attached =
      (.error (.invalidSeek (attached.stream.here + offset)), attached) := by
  have word := inReach.word
  have away : ¬attached.stream.Contains (.current offset) := by
    simp only [Contains, here, Window.extent] at *
    omega
  have unspoken : Word.ofInt? (attached.stream.here + offset) = none := by
    simp only [Word.ofInt?]
    exact if_neg (by omega)
  rw [seek_of_not_contains inReach away]
  simp only [seekObject, resolve, Action.bind_apply, tell_apply (here_lt word), unspoken,
    Action.fail_apply]

/-- From wherever a coherent stream is, seeks lead where integer arithmetic says. -/
theorem seeksExactly_of_calm (coherent : attached.Coherent descriptor)
    (calm : attached.Calm descriptor) (readable : descriptor.mode.readable = true)
    (shown : attached.content? = some content) (memory : content.length < Word.signedBound)
    (word : attached.stream.base + attached.stream.window.extent < Word.bound)
    (pending : attached.stream.dirty = true →
      attached.stream.base + attached.stream.window.extent < Word.signedBound) :
    SeeksExactly attached content := by
  have twice := Word.signedBound_add_signedBound
  have inReach := inReach_of_shown coherent shown memory word pending
  have land {target : SeekTarget} {goal : Nat}
      (leads : PlainFile.target ⟨content, attached.stream.here⟩ target = goal)
      (inRange : goal < Word.bound) : Lands content goal (seek target attached) ∧
        Lands content goal (seekObject target attached) :=
    ⟨lands_of_seeks (seek_seeks coherent inReach target) calm readable shown memory pending leads
        inRange,
      lands_of_seeks (seekObject_seeks coherent inReach target) calm readable shown memory pending
        leads inRange⟩
  exact {
    start := fun position inRange => land rfl inRange
    current := fun offset goal leads inRange => land leads inRange
    current_invalid := fun offset outside => seek_invalid inReach outside
    ending := fun offset goal signed leads => land leads (by omega)
    ending_invalid := fun offset before => by
      rcases seek_seeks coherent inReach (.ending offset) with
        ⟨position, after, moved, ended, -, -, -, goes⟩ | ⟨cause, after, moved, ended, keeps, -⟩
      · have reached := goes content shown
        simp only [PlainFile.target] at reached
        omega
      · refine ⟨cause, after, ended, ?_, keeps.file?_eq (file?_eq_some_iff.mpr ⟨shown, rfl⟩)⟩
        rw [← keeps.here]
        exact tell_apply (keeps.here ▸ here_lt word) }

section Opened

variable {remote opened : Remote} {stream : CachedStream} {path : String} {sizes : BufferSizes}

/-- Whatever state a stream has come to, if its window ends at a machine word, not too far if it is
dirty, and no call fails from now on, seeks lead exactly where integer arithmetic says. What is
relative to the end is so to the end of what the object has once the window is written back. -/
theorem seeks_exactly (honest : remote.faults.Honest) (ordered : sizes.initial ≤ sizes.max)
    (succeeded : openStream path .readWrite sizes remote = (.ok stream, opened))
    (visited : Visited ⟨stream, opened⟩ attached) (quiet : attached.remote.faults = ∅)
    (inMemory : attached.remote.session.InMemory)
    (word : attached.stream.base + attached.stream.window.extent < Word.bound)
    (near : attached.stream.dirty = true →
      attached.stream.base + attached.stream.window.extent < PlainFile.positionBound) :
    (tell : StreamAction Nat) attached = (.ok attached.stream.here, attached) ∧
    ∃ content flushed, attached.file? = some ⟨content, attached.stream.here⟩ ∧
      flush attached = (.ok (), flushed) ∧
      flushed.remote.backing? flushed.stream.object = some content ∧
      SeeksExactly attached content := by
  obtain ⟨first, initial, mode, -⟩ := coherent_of_openStream honest ordered succeeded
  obtain ⟨descriptor, tracks⟩ := visited.tracks initial
  have coherent := tracks.coherent
  have opens : descriptor.mode = .readWrite := tracks.mode.trans mode
  have readable : descriptor.mode.readable = true := by
    rw [opens]
    rfl
  have writable : descriptor.mode.writable = true := by
    rw [opens]
    rfl
  have pending (dirty : attached.stream.dirty = true) :
      attached.stream.base + attached.stream.window.extent < Word.signedBound :=
    Nat.lt_trans (near dirty) (by decide)
  obtain ⟨⟨content, position⟩, seen, -⟩ := exists_file coherent writable
  obtain ⟨shown, rfl⟩ := file?_eq_some_iff.mp seen
  have memory := shown_length_lt coherent shown inMemory pending
  have calm : attached.Calm descriptor := ⟨quiet, fun _ => writable⟩
  obtain ⟨after, moved, wrote, kept⟩ :=
    flush_calm coherent (inReach_of_shown coherent shown memory word pending) calm
  refine ⟨tell_apply (here_lt word), content, _, seen, wrote, ?_,
    seeksExactly_of_calm coherent calm readable shown memory word pending⟩
  have clean := kept.advances.coherent.content?_of_clean rfl
  rw [kept.content, shown] at clean
  simp only [Remote.backing?, kept.advances.coherent.serves.found, Option.bind_some, clean]

/-- At the last machine word, the next position is refused by its number, and the end of the object
is found. -/
theorem seeks_exactly_at_last_word :
    ∃ (stream : CachedStream) (opened : Remote) (attached : Attached),
      openStream "a" .readWrite ⟨2, 4⟩ .reliable = (.ok stream, opened) ∧
      seek (.start 18446744073709551615) ⟨stream, opened⟩ =
        (.ok 18446744073709551615, attached) ∧
      seek (.current 1) attached = (.error (.invalidSeek 18446744073709551616), attached) ∧
      Lands [1, 2, 3] 1 (seek (.ending (-2)) attached) := by
  obtain ⟨opened, opened_eq⟩ : ∃ opened,
      opened = (openStream "a" .readWrite ⟨2, 4⟩ .reliable).2 := ⟨_, rfl⟩
  have succeeded : openStream "a" .readWrite ⟨2, 4⟩ .reliable =
      (.ok (fresh ⟨1⟩ "a" ⟨2, 4⟩), opened) := by
    rw [opened_eq]
    rfl
  obtain ⟨attached, attached_eq⟩ : ∃ attached, attached = (perform
      (.seek (.start 18446744073709551615)) ⟨fresh ⟨1⟩ "a" ⟨2, 4⟩, opened⟩).2 := ⟨_, rfl⟩
  have visited : Visited ⟨fresh ⟨1⟩ "a" ⟨2, 4⟩, opened⟩ attached := by
    rw [attached_eq]
    exact .step .start (by decide)
  obtain ⟨-, content, flushed, -, wrote, backed, exactly⟩ :=
    seeks_exactly FaultPlan.honest_empty (by decide) succeeded visited
      (by rw [attached_eq, opened_eq]; rfl) (by rw [attached_eq, opened_eq]; decide)
      (by rw [attached_eq, opened_eq]; decide) (by rw [attached_eq, opened_eq]; decide)
  have here : attached.stream.here = 18446744073709551615 := by
    rw [attached_eq, opened_eq]
    rfl
  have same : content = [1, 2, 3] := by
    have clean : flush attached = (.ok (), attached) := by
      rw [attached_eq, opened_eq]
      rfl
    obtain ⟨-, rfl⟩ := Prod.mk.inj (wrote.symm.trans clean)
    rw [attached_eq, opened_eq] at backed
    exact (Option.some.inj backed).symm
  have beyond := exactly.current_invalid 1 (.inr (by rw [here]; decide))
  rw [here] at beyond
  refine ⟨_, opened, attached, succeeded, ?_, beyond, ?_⟩
  · rw [attached_eq, opened_eq]
    rfl
  · rw [← same]
    exact (exactly.ending (-2) 1 (by decide) (by rw [same]; rfl)).1

end Opened

end CachedStream

end RemoteStreams
