import RemoteStreams.Proofs.Costs

/-! # Streaming

What it costs to write or to read an object from its start on in many small pieces does not depend
on the pieces (`RemoteStreams.CachedStream.streams_in_windows`). As long as no piece is larger than
the window, what is written leaves the stream window by window. As long as no piece makes the window
grow, what is read arrives window by window.
-/

namespace RemoteStreams

/-- How many windows of `size` bytes it takes to hold `count` bytes. -/
def Window.needed (size count : Nat) : Nat := (count + size - 1) / size

/-- The number of windows that are needed is determined by two bounds. -/
theorem Window.needed_eq {size count full : Nat} (more : full * size < count)
    (enough : count ≤ full * size + size) : needed size count = full + 1 := by
  apply Nat.div_eq_of_lt_le
  · rw [Nat.succ_mul]
    omega
  · rw [Nat.succ_mul, Nat.succ_mul]
    omega

/-- No bytes need no window. -/
theorem Window.needed_zero (size : Nat) : needed size 0 = 0 := by
  rcases Nat.eq_zero_or_pos size with rfl | some
  · rfl
  · exact Nat.div_eq_of_lt (by omega)

/-- The calls by which the first `full` windows of `data` are written, one after the other. -/
def Call.writing (object : ObjectId) (size : Nat) (data : Bytes) (full : Nat) : List Call :=
  (List.range full).flatMap fun place =>
    [.writeObject object (data.slice (place * size) (place * size + size)), .position object]

/-- The calls by which `fills` windows are filled, one after the other. -/
def Call.reading (object : ObjectId) (size fills : Nat) : List Call :=
  (List.replicate fills [.position object, .readObject object size]).flatten

/-- One more full window takes one more write, and a question where that led. -/
theorem Call.writing_succ (object : ObjectId) (size : Nat) (data : Bytes) (full : Nat) :
    writing object size data (full + 1) = writing object size data full ++
      [.writeObject object (data.slice (full * size) (full * size + size)), .position object] := by
  simp [writing, List.range_succ]

/-- One more window takes a question where the object is, and one more read. -/
theorem Call.reading_succ (object : ObjectId) (size fills : Nat) :
    reading object size (fills + 1) =
      reading object size fills ++ [.position object, .readObject object size] := by
  simp [reading, List.replicate_succ']

/-- What is given to the stream later does not change what was written. -/
theorem Call.writing_append (object : ObjectId) {size full : Nat} {data : Bytes} (more : Bytes)
    (inside : full * size ≤ data.length) :
    writing object size (data ++ more) full = writing object size data full := by
  induction full with
  | zero => rfl
  | succ full ih =>
      rw [Nat.succ_mul] at inside
      rw [writing_succ, writing_succ, ih (by omega), Bytes.slice_append_left data more inside]

namespace CachedStream

variable {attached : Attached}

/-- Data for which the empty window is large enough goes into it as it is. -/
theorem writePastWindow_refills {flushed : Attached} {stream : CachedStream} {base : Nat}
    {remote : Remote} {rest : Bytes} (wrote : flush attached = (.ok (), flushed))
    (rebased : rebase flushed = (.ok (), ⟨stream.anchored base, remote⟩)) (present : rest ≠ [])
    (fits : rest.length ≤ stream.window.capacity)
    (limited : stream.window.capacity ≤ stream.window.limit) :
    writePastWindow rest attached =
      (.ok rest.length, ⟨(stream.anchored base).putting rest, remote⟩) := by
  have limit : ¬(stream.anchored base).window.limit < rest.length :=
    Nat.not_lt.mpr (Nat.le_trans fits limited)
  have roomy : ¬(stream.anchored base).window.capacity < rest.length := Nat.not_lt.mpr fits
  have bounded : (stream.anchored base).window.InBounds := stream.window.inBounds_cleared
  have taken := putDirty_apply remote bounded present fits
  simp [writePastWindow, Action.bind_apply, wrote, rebased, limit, makeRoom, roomy, taken,
    Action.ensure]

/-- A fetch that needs no larger window fills the one that there is, as far as the object goes. -/
theorem fetch_refills {descriptor : Descriptor} (coherent : attached.Coherent descriptor)
    (clean : attached.stream.dirty = false) (used : attached.stream.window.unread = 0)
    (inReach : descriptor.InReach) (quiet : attached.remote.faults = ∅)
    (readable : descriptor.mode.readable = true) {content : Bytes}
    (shown : attached.content? = some content) {buffer : Bytes}
    (room : roomFor buffer.length ≤ attached.stream.window.capacity) :
    ∃ bytes after moved, fetch buffer attached =
        (.ok (bytes.length, buffer.overlay 0 bytes), after) ∧
      attached.Delivers descriptor bytes after moved ∧
      after.stream.window.capacity = attached.stream.window.capacity ∧
      bytes.length = min (bytes.length + after.stream.window.unread) buffer.length ∧
      bytes.length + after.stream.window.unread =
        min attached.stream.window.capacity (content.length - attached.stream.here) := by
  have limited := Nat.le_trans room coherent.limited
  have large : ¬attached.stream.window.limit < roomFor buffer.length := Nat.not_lt.mpr limited
  have same : attached.stream.window.grown (roomFor buffer.length) = attached.stream.window :=
    if_pos room
  rcases coherent.grow_cases limited with ⟨grew, asked⟩ | ⟨-, -, scarce⟩
  · rw [same] at grew asked
    replace grew : grow (roomFor buffer.length) attached =
        (.ok (), ⟨attached.stream, attached.remote.requesting⟩) := grew
    replace asked : attached.Keeps descriptor ⟨attached.stream, attached.remote.requesting⟩
        descriptor := asked
    have still := asked.advances.moves.quiet quiet
    rw [← asked.content] at shown
    rcases fill_cases asked.advances.coherent clean used inReach with
      ⟨bytes, remote, moved, filled, kept, whole⟩ | ⟨cause, after, failed, -, excuse⟩
    · obtain ⟨taken, took, length, delivers⟩ :=
        take_apply kept.advances.coherent clean buffer.length
      have all := whole still content shown
      dsimp only at all
      have unread : (attached.stream.refilled bytes).window.unread = bytes.length := rfl
      rw [unread] at length
      have left : ((attached.stream.refilled bytes).window.consumed taken.length).unread =
          bytes.length - taken.length := rfl
      refine ⟨taken, _, moved, ?_, (asked.trans kept).deliver delivers, ?_, ?_, ?_⟩
      · simp only [fetch, Action.bind_apply, current_apply, large, ↓reduceIte, grew, filled, took,
          Action.pure_apply]
      · exact attached.stream.capacity_refilled (by omega)
      · simp only [CachedStream.withWindow, left]
        omega
      · simp only [CachedStream.withWindow, left]
        omega
    · have refused := excuse still (by simp [shown])
      rw [readable] at refused
      contradiction
  · exact (Nat.not_lt.mpr (Nat.le_trans (scarce quiet) room) coherent.allocated).elim

/-- A read of more than the window has unread that needs no larger window fills the one that there
is. It delivers all it is asked for if the object has that. -/
theorem read_refills {descriptor : Descriptor} (coherent : attached.Coherent descriptor)
    (clean : attached.stream.dirty = false) (inReach : descriptor.InReach)
    (quiet : attached.remote.faults = ∅) (readable : descriptor.mode.readable = true)
    {content : Bytes} (shown : attached.content? = some content) {buffer : Bytes}
    (short : attached.stream.window.unread < buffer.length) (fits : buffer.length < Word.bound)
    (small : 2 * buffer.length + 8 ≤ attached.stream.window.capacity)
    (inside : attached.stream.here + buffer.length ≤ content.length) :
    ∃ bytes after moved, (read buffer attached).2 = after ∧
      attached.Delivers descriptor bytes after moved ∧ bytes.length = buffer.length ∧
      after.stream.window.capacity = attached.stream.window.capacity ∧
      attached.stream.here + buffer.length + after.stream.window.unread =
        min (attached.stream.here + attached.stream.window.unread + attached.stream.window.capacity)
          content.length := by
  have empty : buffer ≠ [] := by
    apply List.ne_nil_of_length_pos
    omega
  obtain ⟨cached, took, length, delivers⟩ := take_apply coherent clean buffer.length
  rw [Nat.min_eq_left (Nat.le_of_lt short)] at length
  have part : cached.length ≠ buffer.length := by omega
  have used : (attached.stream.window.consumed cached.length).unread = 0 := by
    simp only [Window.consumed]
    omega
  have rest : (buffer.drop cached.length).length = buffer.length - cached.length := List.length_drop
  have room : roomFor (buffer.drop cached.length).length ≤ attached.stream.window.capacity := by
    have enough := roomFor_le (buffer.drop cached.length).length
    omega
  obtain ⟨bytes, after, moved, fetched, second, capacity, taken, left⟩ :=
    fetch_refills delivers.advances.coherent clean used inReach quiet readable
      (delivers.content.trans shown) room
  have held : (attached.stream.withWindow
      (attached.stream.window.consumed cached.length)).window.capacity =
        attached.stream.window.capacity := rfl
  rw [delivers.here, held] at left
  have whole : cached.length + bytes.length = buffer.length := by omega
  have noted := second.advances.coherent.keeps_remote
    (second.advances.coherent.serves.noting
      (.readServed after.stream.path cached.length bytes.length))
  refine ⟨cached ++ bytes, _, moved, ?_, (delivers.trans second).keep noted, ?_, capacity, ?_⟩
  · simp only [read, empty, ↓reduceIte, Action.bind_apply, flush_of_clean clean, took, part,
      fetchRest, Action.attempt, fetched, Action.pure_apply, current_apply, note_apply,
      Word.add_apply (Nat.lt_of_le_of_lt (Nat.le_of_eq whole) fits)]
  · rw [List.length_append, whole]
  · dsimp only
    omega

end CachedStream

namespace Attached

open CachedStream

/-- The stream was given `data` from its start on. It has written `full` windows of that, and its
window holds the rest. -/
structure Pours (start : Attached) (size : Nat) (data : Bytes) (full : Nat) (attached : Attached)
    (descriptor : Descriptor) : Prop where
  coherent : attached.Coherent descriptor
  quiet : attached.remote.faults = ∅
  writable : descriptor.mode.writable = true
  object : attached.stream.object = start.stream.object
  asks : start.Asks (Call.writing start.stream.object size data full) attached
  capacity : attached.stream.window.capacity = size
  base : attached.stream.base = full * size
  unread : attached.stream.window.unread = 0
  length : full * size + attached.stream.window.cursor = data.length
  rewound : attached.stream.synced = 0
  dirty : 0 < attached.stream.window.cursor → attached.stream.dirty = true
  occupied : attached.stream.window.occupied = data.drop (full * size)

variable {start attached : Attached} {size full : Nat} {data : Bytes} {descriptor : Descriptor}

/-- What fits into the window goes into it. -/
theorem Pours.put (pours : start.Pours size data full attached descriptor) {patch : Bytes}
    (fits : patch.length ≤ attached.stream.window.spare) :
    start.Pours size (data ++ patch) full ⟨attached.stream.putting patch, attached.remote⟩
      descriptor := by
  have accepts := accepts_putting pours.coherent patch fits
  have inside : full * size ≤ data.length := by
    have length := pours.length
    omega
  exact {
    coherent := accepts.advances.coherent
    quiet := pours.quiet
    writable := pours.writable
    object := pours.object
    asks := by
      rw [Call.writing_append _ patch inside]
      exact pours.asks
    capacity := (Window.capacity_patched pours.coherent.bounded fits).trans pours.capacity
    base := pours.base
    unread := by
      have unread := pours.unread
      simp only [putting, Window.patched]
      omega
    length := by
      have length := pours.length
      simp only [putting, Window.patched, List.length_append]
      omega
    rewound := pours.rewound
    dirty := fun advanced => by
      have dirty := pours.dirty
      simp only [putting, Window.patched, Bool.or_eq_true, decide_eq_true_eq] at *
      by_cases empty : patch.length = 0
      · exact .inl (dirty (by omega))
      · exact .inr empty
    occupied := by
      have cursor : attached.stream.window.cursor = attached.stream.window.occupied.length := by
        rw [pours.occupied, List.length_drop]
        have length := pours.length
        omega
      have joined := occupied_patched pours.coherent.bounded patch
      rw [cursor, Bytes.overlay_length, pours.occupied] at joined
      rw [List.drop_append_of_le_length inside]
      exact joined }

/-- The window is written back where it belongs. -/
theorem Pours.flush (pours : start.Pours size data full attached descriptor)
    (pending : 0 < attached.stream.window.cursor) (bounded : data.length < Word.signedBound) :
    ∃ remote moved, CachedStream.flush attached = (.ok (), ⟨attached.stream.flushed, remote⟩) ∧
      attached.Keeps descriptor ⟨attached.stream.flushed, remote⟩ moved ∧
      attached.Asks [.writeObject start.stream.object (data.drop (full * size))]
        ⟨attached.stream.flushed, remote⟩ := by
  have reach : attached.stream.base + attached.stream.window.extent < Word.signedBound := by
    have length := pours.length
    rw [pours.base, Window.extent, pours.unread]
    omega
  obtain ⟨remote, moved, wrote, kept⟩ := flush_calm pours.coherent (inReach_of_lt reach)
    ⟨pours.quiet, fun _ => pours.writable⟩
  have asks := (flush_asks wrote).2
  rw [flushCost, pours.dirty pending, if_pos rfl, if_pos pours.rewound, pours.object,
    pours.occupied] at asks
  exact ⟨remote, moved, wrote, kept, asks⟩

/-- A full window is written back, and begins behind that. -/
theorem Pours.turn (pours : start.Pours size data full attached descriptor) (some : 0 < size)
    (filled : attached.stream.window.cursor = size) (bounded : data.length < Word.signedBound) :
    ∃ flushed remote, CachedStream.flush attached = (.ok (), flushed) ∧
      rebase flushed =
        (.ok (), ⟨attached.stream.flushed.anchored attached.stream.here, remote⟩) ∧
      ∃ moved, start.Pours size data (full + 1)
        ⟨attached.stream.flushed.anchored attached.stream.here, remote⟩ moved := by
  have length := pours.length
  have here : attached.stream.here = data.length := by
    rw [CachedStream.here, pours.base, length]
  obtain ⟨remote, between, wrote, kept, first⟩ := pours.flush (filled ▸ some) bounded
  have addressable : attached.stream.flushed.here < Word.signedBound := here ▸ bounded
  rcases rebase_cases kept.advances.coherent rfl pours.unread addressable with
    ⟨asked, rebased, stays⟩ | ⟨cause, asked, -, -, armed⟩
  · have second := (rebase_asks rebased).2
    refine ⟨_, asked, wrote, rebased, between, ?_⟩
    have advances := kept.advances.trans stays.advances
    have place : (full + 1) * size = data.length := by
      rw [Nat.succ_mul]
      omega
    exact {
      coherent := advances.coherent
      quiet := advances.moves.quiet pours.quiet
      writable := advances.moves.evolved.mode ▸ pours.writable
      object := pours.object
      asks := by
        have object : attached.stream.flushed.object = start.stream.object := pours.object
        have window : data.slice (full * size) (full * size + size) = data.drop (full * size) := by
          apply List.take_of_length_le
          rw [List.length_drop]
          omega
        rw [object] at second
        rw [Call.writing_succ, window]
        exact pours.asks.trans (first.trans second)
      capacity := pours.capacity
      base := here.trans place.symm
      unread := rfl
      length := place
      rewound := rfl
      dirty := fun advanced => (Nat.lt_irrefl 0 advanced).elim
      occupied := by
        rw [place, List.drop_length]
        rfl }
  · exact (armed (kept.advances.moves.quiet pours.quiet)).elim

/-- The front of what does not fit fills the window. -/
theorem Pours.fill (pours : start.Pours size data full attached descriptor) {chunk : Bytes}
    (exceeds : attached.stream.window.spare ≤ chunk.length) :
    start.Pours size (data ++ chunk.take attached.stream.window.spare) full
        ⟨attached.stream.putting (chunk.take attached.stream.window.spare), attached.remote⟩
        descriptor ∧
      (attached.stream.putting (chunk.take attached.stream.window.spare)).window.cursor = size := by
  have length : (chunk.take attached.stream.window.spare).length = attached.stream.window.spare :=
    List.length_take_of_le exceeds
  refine ⟨pours.put (Nat.le_of_eq length), ?_⟩
  have inside := pours.coherent.bounded.1
  simp only [putting, Window.patched, length]
  rw [← pours.capacity]
  exact Nat.add_sub_cancel' inside

/-- What is written goes into the window, and past it if that is full. -/
theorem Pours.write (pours : start.Pours size data full attached descriptor) {chunk : Bytes}
    (present : chunk ≠ []) (small : chunk.length ≤ size)
    (bounded : (data ++ chunk).length < Word.signedBound) :
    ∃ last moved,
      start.Pours size (data ++ chunk) last (CachedStream.write chunk attached).2 moved ∧
      0 < (CachedStream.write chunk attached).2.stream.window.cursor := by
  have some := List.length_pos_iff.mpr present
  by_cases fits : chunk.length ≤ attached.stream.window.spare
  · have put := write_put pours.coherent present (Nat.min_eq_right fits).symm
    rw [if_pos rfl, List.take_length] at put
    rw [put]
    exact ⟨full, descriptor, pours.put fits, Nat.add_pos_right _ some⟩
  · have exceeds : attached.stream.window.spare ≤ chunk.length := Nat.le_of_not_le fits
    have rest : (chunk.drop attached.stream.window.spare).length =
        chunk.length - attached.stream.window.spare := List.length_drop
    have left : chunk.drop attached.stream.window.spare ≠ [] := by
      apply List.ne_nil_of_length_pos
      omega
    have shorter : (data ++ chunk.take attached.stream.window.spare).length < Word.signedBound := by
      simp only [List.length_append, List.length_take] at bounded ⊢
      omega
    obtain ⟨filled, cursor⟩ := pours.fill exceeds
    obtain ⟨flushed, remote, wrote, rebased, moved, turned⟩ :=
      filled.turn (Nat.lt_of_lt_of_le some small) cursor shorter
    have enough : (chunk.drop attached.stream.window.spare).length ≤
        (attached.stream.putting (chunk.take attached.stream.window.spare)).flushed.window.capacity := by
      rw [rest]
      exact Nat.le_trans (Nat.le_trans (Nat.sub_le _ _) small) (Nat.le_of_eq turned.capacity.symm)
    have past := writePastWindow_refills wrote rebased left enough turned.coherent.limited
    have refilled := turned.put enough
    rw [List.append_assoc, List.take_append_drop] at refilled
    have put := write_put pours.coherent present (Nat.min_eq_left exceeds).symm
    have twice := Word.signedBound_add_signedBound
    have counted : attached.stream.window.spare + (chunk.drop attached.stream.window.spare).length <
        Word.bound := by
      simp only [List.length_append] at bounded
      omega
    rw [put, if_neg (by omega), writeRest, Action.bind_apply, Action.attempt, past]
    simp only [Word.add_apply counted]
    exact ⟨full + 1, moved, refilled, Nat.add_pos_right _ (List.length_pos_iff.mpr left)⟩

/-- A stream that is written to piece by piece goes on as it began. -/
theorem Pours.run (pours : start.Pours size data full attached descriptor) {chunks : List Bytes}
    (each : ∀ chunk ∈ chunks, chunk ≠ [] ∧ chunk.length ≤ size)
    (bounded : (data ++ chunks.flatten).length < Word.signedBound) :
    ∃ last moved, start.Pours size (data ++ chunks.flatten) last
        (CachedStream.run (chunks.map .write) attached).2 moved ∧
      (0 < attached.stream.window.cursor ∨ chunks ≠ [] →
        0 < (CachedStream.run (chunks.map .write) attached).2.stream.window.cursor) := by
  induction chunks generalizing data full attached descriptor with
  | nil =>
      rw [List.flatten_nil, List.append_nil]
      exact ⟨full, descriptor, pours, fun pending => pending.resolve_right (absurd rfl)⟩
  | cons chunk rest ih =>
      obtain ⟨present, small⟩ := each chunk List.mem_cons_self
      rw [List.flatten_cons, ← List.append_assoc] at bounded ⊢
      have fewer : (data ++ chunk).length < Word.signedBound := by
        rw [List.length_append] at bounded
        omega
      obtain ⟨between, middle, written, pending⟩ := pours.write present small fewer
      obtain ⟨last, moved, final, still⟩ :=
        ih written (fun chunk member => each chunk (List.mem_cons_of_mem _ member)) bounded
      have step : (CachedStream.run ((chunk :: rest).map .write) attached).2 =
          (CachedStream.run (rest.map .write) (CachedStream.write chunk attached).2).2 := by
        rw [List.map_cons, CachedStream.run, perform, Action.map_apply]
      rw [step]
      exact ⟨last, moved, final, fun _ => still (.inl pending)⟩

/-- The stream has delivered the first `count` bytes of `content`. Its window was filled `fills`
times for that, and no fewer would have done. -/
structure Draws (start : Attached) (size : Nat) (content : Bytes) (count fills : Nat)
    (attached : Attached) (descriptor : Descriptor) : Prop where
  coherent : attached.Coherent descriptor
  quiet : attached.remote.faults = ∅
  readable : descriptor.mode.readable = true
  clean : attached.stream.dirty = false
  object : attached.stream.object = start.stream.object
  asks : start.Asks (Call.reading start.stream.object size fills) attached
  capacity : attached.stream.window.capacity = size
  shown : attached.content? = some content
  here : attached.stream.here = count
  ahead : count + attached.stream.window.unread = min (fills * size) content.length
  least : ∀ fewer < fills, fewer * size < count

variable {content : Bytes} {count fills : Nat}

/-- What the window has unread is read from it. -/
theorem Draws.take (draws : start.Draws size content count fills attached descriptor)
    {buffer : Bytes} (enough : buffer.length ≤ attached.stream.window.unread) :
    start.Draws size content (count + buffer.length) fills (read buffer attached).2 descriptor := by
  by_cases empty : buffer = []
  · subst empty
    exact draws
  · obtain ⟨bytes, took, length, delivers⟩ :=
      take_apply draws.coherent draws.clean buffer.length
    rw [Nat.min_eq_right enough] at length
    have ended : (read buffer attached).2 = ⟨attached.stream.withWindow
        (attached.stream.window.consumed bytes.length), attached.remote⟩ := by
      simp only [CachedStream.read, empty, ↓reduceIte, Action.bind_apply,
        flush_of_clean draws.clean, took, length, Action.pure_apply]
    rw [ended, ← length]
    rw [← length] at enough
    exact {
      coherent := delivers.advances.coherent
      quiet := draws.quiet
      readable := draws.readable
      clean := draws.clean
      object := draws.object
      asks := draws.asks
      capacity := draws.capacity
      shown := delivers.content.trans draws.shown
      here := delivers.here.trans (congrArg (· + bytes.length) draws.here)
      ahead := by
        have ahead := draws.ahead
        simp only [CachedStream.withWindow, Window.consumed]
        omega
      least := fun fewer less => Nat.lt_of_lt_of_le (draws.least fewer less) (Nat.le_add_right _ _) }

/-- The end of the window is no further than the end of what is read. -/
theorem Draws.reach (draws : start.Draws size content count fills attached descriptor) :
    attached.stream.base + attached.stream.window.extent ≤ content.length := by
  have here := draws.here
  have ahead := draws.ahead
  simp only [CachedStream.here, Window.extent] at *
  omega

/-- What a read asks for that no larger window is needed for. -/
theorem Draws.asks_refill (draws : start.Draws size content count fills attached descriptor)
    {buffer : Bytes} (short : attached.stream.window.unread < buffer.length)
    (small : 2 * buffer.length + 8 ≤ size) (bounded : content.length < Word.signedBound) :
    attached.Asks [.position start.stream.object, .readObject start.stream.object size]
      (CachedStream.read buffer attached).2 := by
  have allocated := draws.coherent.allocated
  have limited := draws.coherent.limited
  rw [draws.capacity] at allocated limited
  have allocatable : min attached.stream.window.limit (roomFor buffer.length) <
      Window.allocationBound := by
    have room := roomFor_le buffer.length
    omega
  have readable : Readable attached descriptor buffer.length :=
    { quiet := draws.quiet
      writable := fun dirty => by simp [draws.clean] at dirty
      allocatable := allocatable
      permitted := draws.readable
      present := by simp [draws.shown] }
  have inReach : attached.InReach descriptor :=
    inReach_of_lt (Nat.lt_of_le_of_lt draws.reach bounded)
  have little : buffer.length < Word.signedBound := by
    simp only [Window.allocationBound, Word.signedBound] at *
    omega
  rcases read_pays draws.coherent inReach little with asks | ⟨-, obstructed⟩
  · have free : attached.stream.flushCost = [] := by simp [flushCost, draws.clean]
    have room : 2 * (buffer.length - attached.stream.window.unread) + 8 ≤ size := by omega
    rwa [readCost, if_neg (by omega), free, List.nil_append, fetchCost, if_neg (by omega),
      if_pos (Nat.le_trans room limited), draws.capacity, Nat.max_eq_left room, draws.object] at asks
  · exact (obstructed readable).elim

/-- The window is filled again if it has not enough unread. -/
theorem Draws.refill (draws : start.Draws size content count fills attached descriptor)
    {buffer : Bytes} (short : attached.stream.window.unread < buffer.length)
    (small : 2 * buffer.length + 8 ≤ size) (inside : count + buffer.length ≤ content.length)
    (bounded : content.length < Word.signedBound) :
    ∃ moved, start.Draws size content (count + buffer.length) (fills + 1)
      (CachedStream.read buffer attached).2 moved := by
  have ahead := draws.ahead
  have twice := Word.signedBound_add_signedBound
  have position : descriptor.position =
      attached.stream.base + attached.stream.window.extent := by
    rw [draws.coherent.position, draws.coherent.settled draws.clean]
  have reach := draws.reach
  have inReach : descriptor.InReach := ⟨by omega, fun _ => by omega⟩
  obtain ⟨bytes, after, moved, ended, delivers, whole, capacity, left⟩ :=
    read_refills draws.coherent draws.clean inReach draws.quiet draws.readable draws.shown short
      (by omega) (draws.capacity.symm ▸ small) (draws.here.symm ▸ inside)
  have asks := draws.asks_refill short small bounded
  rw [ended] at asks ⊢
  refine ⟨moved, ?_⟩
  exact {
    coherent := delivers.advances.coherent
    quiet := delivers.advances.moves.quiet draws.quiet
    readable := delivers.advances.moves.evolved.mode ▸ draws.readable
    clean := Bool.eq_false_iff.mpr fun dirty => by
      have was := delivers.dirty dirty
      rw [draws.clean] at was
      contradiction
    object := delivers.advances.object.trans draws.object
    asks := by
      rw [Call.reading_succ]
      exact draws.asks.trans asks
    capacity := capacity.trans draws.capacity
    shown := delivers.content.trans draws.shown
    here := by rw [delivers.here, draws.here, whole]
    ahead := by
      rw [draws.here, draws.capacity] at left
      rw [Nat.succ_mul]
      omega
    least := fun fewer less => by
      have within : fewer * size ≤ fills * size := Nat.mul_le_mul_right size (Nat.le_of_lt_succ less)
      omega }

/-- By induction on the buffers, a stream that draws goes on drawing. -/
theorem Draws.run (draws : start.Draws size content count fills attached descriptor)
    {buffers : List Bytes} (each : ∀ buffer ∈ buffers, 2 * buffer.length + 8 ≤ size)
    (inside : count + buffers.flatten.length ≤ content.length)
    (bounded : content.length < Word.signedBound) :
    ∃ last moved, start.Draws size content (count + buffers.flatten.length) last
      (CachedStream.run (buffers.map .read) attached).2 moved := by
  induction buffers generalizing count fills attached descriptor with
  | nil => exact ⟨fills, descriptor, draws⟩
  | cons buffer rest ih =>
      rw [List.flatten_cons, List.length_append, ← Nat.add_assoc] at inside ⊢
      have small := each buffer List.mem_cons_self
      have others := fun other member => each other (List.mem_cons_of_mem buffer member)
      have step : (CachedStream.run ((buffer :: rest).map .read) attached).2 =
          (CachedStream.run (rest.map .read) (read buffer attached).2).2 := by
        rw [List.map_cons, CachedStream.run, perform, Action.map_apply]
      rw [step]
      by_cases enough : buffer.length ≤ attached.stream.window.unread
      · exact ih (draws.take enough) others inside
      · obtain ⟨moved, drawn⟩ := draws.refill (Nat.not_le.mp enough) small (by omega) bounded
        exact ih drawn others inside

/-- All of `data` was given to the stream, which wrote it in windows of `size` bytes. One window is
left, and a flush writes it. -/
structure Poured (start : Attached) (size : Nat) (data : Bytes) (attached : Attached) : Prop where
  here : attached.stream.here = data.length
  capacity : attached.stream.window.capacity = size
  asks : start.Asks (Call.writing start.stream.object size data
    (Window.needed size data.length - 1)) attached
  whole : ∀ place < Window.needed size data.length - 1,
    (data.slice (place * size) (place * size + size)).length = size
  rest : ∃ rest flushed, data.drop ((Window.needed size data.length - 1) * size) = rest ∧
    1 ≤ rest.length ∧ rest.length ≤ size ∧
    CachedStream.flush attached = (.ok (), flushed) ∧
    attached.Asks [.writeObject start.stream.object rest] flushed ∧
    flushed.stream.window.capacity = size

/-- The first `count` bytes of the object were read from the stream, which filled its window of
`size` bytes no more often than it takes. -/
structure Drawn (start : Attached) (size count : Nat) (attached : Attached) : Prop where
  here : attached.stream.here = count
  capacity : attached.stream.window.capacity = size
  asks : start.Asks (Call.reading start.stream.object size (Window.needed size count)) attached

/-- The windows that were written are all but the last that the data needs. -/
theorem Pours.poured (pours : start.Pours size data full attached descriptor)
    (pending : 0 < attached.stream.window.cursor) (bounded : data.length < Word.signedBound) :
    start.Poured size data attached := by
  have length := pours.length
  have capacity := pours.capacity
  have inside := pours.coherent.bounded.1
  rw [capacity] at inside
  have more : full * size < data.length := by omega
  have enough : data.length ≤ full * size + size := by omega
  have needed : Window.needed size data.length - 1 = full := by
    rw [Window.needed_eq more enough, Nat.add_sub_cancel]
  obtain ⟨remote, moved, wrote, -, asks⟩ := pours.flush pending bounded
  have rest : (data.drop (full * size)).length = attached.stream.window.cursor := by
    rw [List.length_drop]
    omega
  exact {
    here := by rw [CachedStream.here, pours.base, length]
    capacity := capacity
    asks := needed ▸ pours.asks
    whole := fun place less => by
      rw [needed] at less
      have within : (place + 1) * size ≤ full * size := Nat.mul_le_mul_right size less
      rw [Nat.succ_mul] at within
      rw [Bytes.length_slice]
      omega
    rest := by
      rw [needed]
      exact ⟨_, _, rfl, rest ▸ pending, rest ▸ inside, wrote, asks, capacity⟩ }

/-- The window was filled as often as what was read needs. -/
theorem Draws.drawn (draws : start.Draws size content count fills attached descriptor) :
    start.Drawn size count attached := by
  have needed : Window.needed size count = fills := by
    cases fills with
    | zero =>
        have ahead := draws.ahead
        obtain rfl : count = 0 := by omega
        exact Window.needed_zero size
    | succ fewer =>
        have ahead := draws.ahead
        rw [Nat.succ_mul] at ahead
        exact Window.needed_eq (draws.least fewer (Nat.lt_succ_self fewer)) (by omega)
  exact ⟨draws.here, draws.capacity, needed ▸ draws.asks⟩

/-- A stream that was just opened was given nothing. -/
theorem pours_fresh {object : ObjectId} {path : String} {sizes : BufferSizes} {opened : Remote}
    (coherent : Coherent ⟨fresh object path sizes, opened⟩ descriptor) (quiet : opened.faults = ∅)
    (writable : descriptor.mode.writable = true) :
    Pours ⟨fresh object path sizes, opened⟩ sizes.initial [] 0 ⟨fresh object path sizes, opened⟩
      descriptor where
  coherent := coherent
  quiet := quiet
  writable := writable
  object := rfl
  asks := asks_nil rfl
  capacity := Bytes.length_zeros sizes.initial
  base := (Nat.zero_mul _).symm
  unread := rfl
  length := Nat.zero_mul _
  rewound := rfl
  dirty := fun advanced => (Nat.lt_irrefl 0 advanced).elim
  occupied := by simp [fresh, Window.occupied, Window.extent]

/-- A stream that was just opened has delivered nothing. -/
theorem draws_fresh {object : ObjectId} {path : String} {sizes : BufferSizes} {opened : Remote}
    (coherent : Coherent ⟨fresh object path sizes, opened⟩ descriptor) (quiet : opened.faults = ∅)
    (readable : descriptor.mode.readable = true)
    (shown : content? ⟨fresh object path sizes, opened⟩ = some content) :
    Draws ⟨fresh object path sizes, opened⟩ sizes.initial content 0 0
      ⟨fresh object path sizes, opened⟩ descriptor where
  coherent := coherent
  quiet := quiet
  readable := readable
  clean := rfl
  object := rfl
  asks := asks_nil rfl
  capacity := Bytes.length_zeros sizes.initial
  shown := shown
  here := rfl
  ahead := by simp [fresh]
  least := fun fewer less => (Nat.not_lt_zero fewer less).elim

end Attached

namespace CachedStream

open Attached

variable {remote opened : Remote} {stream : CachedStream} {path : String} {mode : OpenMode}
  {sizes : BufferSizes}

/-- Without faults, the calls of a stream that is written from its start on are the windows that
what is written needs, however it is cut into pieces that the window has room for. The calls of a
stream that is read from its start on are the windows that what is read needs, however it is cut
into pieces that the window need not grow for. -/
theorem streams_in_windows (quiet : remote.faults = ∅) (ordered : sizes.initial ≤ sizes.max)
    (succeeded : openStream path mode sizes remote = (.ok stream, opened)) :
    (∀ chunks : List Bytes, mode.writable = true → chunks ≠ [] →
      (∀ chunk ∈ chunks, 1 ≤ chunk.length ∧ chunk.length ≤ sizes.initial) →
      chunks.flatten.length < Word.signedBound →
      Poured ⟨stream, opened⟩ sizes.initial chunks.flatten
        (run (chunks.map .write) ⟨stream, opened⟩).2) ∧
    ∀ (content : Bytes) (buffers : List Bytes), mode.readable = true →
      content? ⟨stream, opened⟩ = some content →
      content.length < Word.signedBound →
      (∀ buffer ∈ buffers, 1 ≤ buffer.length ∧ 2 * buffer.length + 8 ≤ sizes.initial) →
      buffers.flatten.length ≤ content.length →
      Drawn ⟨stream, opened⟩ sizes.initial buffers.flatten.length
        (run (buffers.map .read) ⟨stream, opened⟩).2 := by
  obtain ⟨object, descriptor, rfl, coherent, rfl, still⟩ :=
    fresh_of_openStream (quiet ▸ FaultPlan.honest_empty) ordered succeeded
  constructor
  · intro chunks writable present each bounded
    have pours := pours_fresh coherent (still quiet) writable
    have pieces (chunk : Bytes) (member : chunk ∈ chunks) :
        chunk ≠ [] ∧ chunk.length ≤ sizes.initial :=
      ⟨List.ne_nil_of_length_pos (each chunk member).1, (each chunk member).2⟩
    obtain ⟨full, moved, poured, pending⟩ := pours.run pieces bounded
    exact poured.poured (pending (.inr present)) bounded
  · intro content buffers readable shown bounded each inside
    have draws := draws_fresh coherent (still quiet) readable shown
    obtain ⟨fills, moved, drawn⟩ := draws.run (fun buffer member => (each buffer member).2)
      (Nat.le_trans (Nat.le_of_eq (Nat.zero_add _)) inside) bounded
    rw [Nat.zero_add] at drawn
    exact drawn.drawn

/-- Twelve bytes in three pieces are a window of ten and one of two, and three bytes that are read
one by one are a single window. -/
theorem streams_in_windows_of_ten :
    ∃ (stream : CachedStream) (opened : Remote) (flushed : Attached),
      openStream "a" .readWrite ⟨10, 16⟩ .reliable = (.ok stream, opened) ∧
      Attached.Asks ⟨stream, opened⟩
        [.writeObject ⟨1⟩ [1, 2, 3, 4, 5, 6, 7, 8, 9, 10], .position ⟨1⟩]
        (run [.write [1, 2, 3, 4, 5, 6, 7], .write [8, 9, 10], .write [11, 12]]
          ⟨stream, opened⟩).2 ∧
      flush (run [.write [1, 2, 3, 4, 5, 6, 7], .write [8, 9, 10], .write [11, 12]]
        ⟨stream, opened⟩).2 = (.ok (), flushed) ∧
      (run [.write [1, 2, 3, 4, 5, 6, 7], .write [8, 9, 10], .write [11, 12]]
        ⟨stream, opened⟩).2.Asks [.writeObject ⟨1⟩ [11, 12]] flushed ∧
      Attached.Asks ⟨stream, opened⟩ [.position ⟨1⟩, .readObject ⟨1⟩ 10]
        (run [.read [0], .read [0], .read [0]] ⟨stream, opened⟩).2 := by
  obtain ⟨opened, opened_eq⟩ : ∃ opened,
      opened = (openStream "a" .readWrite ⟨10, 16⟩ .reliable).2 := ⟨_, rfl⟩
  have succeeded : openStream "a" .readWrite ⟨10, 16⟩ .reliable =
      (.ok (fresh ⟨1⟩ "a" ⟨10, 16⟩), opened) := by
    rw [opened_eq]
    rfl
  have shown : content? ⟨fresh ⟨1⟩ "a" ⟨10, 16⟩, opened⟩ = some [1, 2, 3] := by
    rw [opened_eq]
    rfl
  obtain ⟨writes, reads⟩ := streams_in_windows rfl (by decide) succeeded
  have poured := writes [[1, 2, 3, 4, 5, 6, 7], [8, 9, 10], [11, 12]] rfl (by decide) (by decide)
    (by decide)
  have drawn := reads [1, 2, 3] [[0], [0], [0]] rfl shown (by decide) (by decide) (by decide)
  obtain ⟨rest, flushed, rfl, -, -, wrote, last, -⟩ := poured.rest
  exact ⟨_, opened, flushed, succeeded, poured.asks, wrote, last, drawn.asks⟩

end CachedStream

end RemoteStreams
