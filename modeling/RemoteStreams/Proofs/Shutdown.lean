import RemoteStreams.Proofs.Deeds

/-! # Shutdown

A shutdown saves all it can (`RemoteStreams.Streams.shutdown_saves`). Each stream is closed once, in
the order of their ids and whatever the others come to, and then the session is disconnected. A
stream that could be closed left the store what it had to save. That is all that its user saw,
unless the stream took nothing and another one stored an object in the place of its own meanwhile
(`RemoteStreams.Streams.shutdown_keeps_replaced`).
-/

namespace RemoteStreams

open Remote

/-- A stream for writing leaves what its user saw if it took a byte. It also does if nothing else
was stored in its place, unless it was given data that ends where no object can reach. -/
theorem Attached.Bears.whole {past : Past} {stream : CachedStream} {remote : Remote}
    {descriptor : Descriptor} {objects : FiniteMap ObjectPath Bytes}
    (bears : Bears past ⟨stream, remote⟩)
    (found : remote.session.descriptors.find? stream.object = some descriptor)
    (writable : descriptor.mode.writable = true) (known : past.took ∨ ¬past.replaced ∧ ¬past.overran)
    (saved : Saved ⟨stream, remote⟩ descriptor.location objects) :
    ∃ content, content? ⟨stream, remote⟩ = some content ∧
      objects.find? descriptor.location = some content := by
  obtain ⟨_, sound, faithful⟩ := bears.sound
  obtain rfl := Option.some.inj (sound.serves.found.symm.trans found)
  by_cases unsaved : Attached.Unsaved ⟨stream, remote⟩
  · exact saved.content unsaved
  · obtain ⟨kept, fitted⟩ := known.resolve_left fun took => unsaved (bears.unsaved took)
    have coherent := (sound.coherent writable).1
    have unmodified := mt (modified_iff sound.serves).mpr fun modified => unsaved (.inr modified)
    rw [saved.unchanged unsaved, coherent.content?_of_clean (coherent.clean unsaved)]
    have staged := sound.serves.sound
    unfold Descriptor.Sound at staged
    split at staged
    · rw [writable] at staged
      contradiction
    · next data modified content =>
        cases modified with
        | true => exact (unmodified (by simp [Descriptor.upload?, content])).elim
        | false =>
            exact ⟨data, by simp [Descriptor.backing?, content], faithful kept fitted data content⟩

namespace Streams

variable {settings : Settings} {past : StreamId → Past} {streams : Streams} {id : StreamId}
  {entry : CachedStream} {descriptor : Descriptor}

/-- A stream was closed, and `objects` are in the store afterwards. -/
structure Saves (past : Past) (streams : Streams) (id : StreamId) (entry : CachedStream)
    (descriptor : Descriptor) (objects : FiniteMap ObjectPath Bytes) : Prop where
  /-- The store has all that the user of the stream saw, if the stream took a byte or if nothing
  else was stored in its place, unless it was given data that ends where no object can reach. -/
  whole : past.took ∨ ¬past.replaced ∧ ¬past.overran → ∃ content,
    Attached.content? ⟨entry, streams.remote⟩ = some content ∧
    objects.find? descriptor.location = some content
  /-- The stream can also be closed alone, -/
  closable : (close (.cached id) (streams.armed ∅)).1 = .ok ()
  /-- and whatever fails then, that leaves the same in the store if it succeeds. -/
  alone : ∀ plan, plan.Honest → (close (.cached id) (streams.armed plan)).1 = .ok () →
    (close (.cached id) (streams.armed plan)).2.remote.objects.find? descriptor.location =
      objects.find? descriptor.location

section Entry

variable (orderly : Orderly settings past streams) (near : streams.Near)
  (found : streams.table.find? id = some entry)
  (opened : streams.remote.session.descriptors.find? entry.object = some descriptor)
  (writable : descriptor.mode.writable = true)

include orderly near found opened writable

/-- A stream that is closed in its turn leaves what it has to save. -/
theorem Orderly.saved (scattered : Scattered streams.table.entries streams.remote)
    {faults : FaultPlan} (trusted : faults.Honest) {earlier later : List (StreamId × CachedStream)}
    (split : streams.table.entries = earlier ++ (id, entry) :: later)
    (ok : (id, .ok ()) ∈ (closeEach streams.table.entries (streams.armed faults).remote).1) :
    Attached.Saved ⟨entry, streams.remote⟩ descriptor.location
      (closeEach streams.table.entries (streams.armed faults).remote).2.objects := by
  have armed := orderly.armed trusted
  have held : Held streams.table.entries (streams.armed faults).remote := armed.held near
  have scattered : Scattered streams.table.entries (streams.armed faults).remote := scattered
  have once := streams.table.nodup_entries
  obtain ⟨_, sound, -⟩ := (orderly.bears found).sound
  obtain ⟨_, sound', -⟩ := (armed.bears found).sound
  obtain rfl := Option.some.inj (sound.serves.found.symm.trans opened)
  obtain rfl := Option.some.inj (sound'.serves.found.symm.trans opened)
  rw [split] at held scattered once ok ⊢
  exact (held.saved scattered sound' writable (closeEach_outcome once ok)).earlier sound writable
    sound'.serves rfl

/-- And so does a stream that is closed alone. -/
theorem Orderly.saved_alone {plan : FaultPlan} (fair : plan.Honest)
    (ok : (close (.cached id) (streams.armed plan)).1 = .ok ()) :
    Attached.Saved ⟨entry, streams.remote⟩ descriptor.location
      (close (.cached id) (streams.armed plan)).2.remote.objects := by
  obtain ⟨_, sound, -⟩ := (orderly.bears found).sound
  obtain ⟨_, sound', -⟩ := ((orderly.armed fair).bears found).sound
  obtain rfl := Option.some.inj (sound.serves.found.symm.trans opened)
  obtain rfl := Option.some.inj (sound'.serves.found.symm.trans opened)
  have armed : (streams.armed plan).table.find? id = some entry := found
  rw [close_cached armed] at ok ⊢
  exact ((sound'.shuts (near id entry found)).saved ok writable).earlier sound writable
    sound'.serves rfl

/-- Without faults a stream for writing can be closed. -/
theorem Orderly.closes_quietly : (close (.cached id) (streams.armed ∅)).1 = .ok () := by
  obtain ⟨_, sound, -⟩ := ((orderly.armed FaultPlan.honest_empty).bears found).sound
  obtain rfl := Option.some.inj (sound.serves.found.symm.trans opened)
  have armed : (streams.armed ∅).table.find? id = some entry := found
  rw [close_cached armed]
  exact (sound.shuts (near id entry found)).quiet rfl writable

end Entry

section Reached

variable {allowed : Deed → FaultPlan → Prop} {remote : Remote} {disk : Disk} {start : Streams}

/-- A shutdown that fails now and then still saves all it can. It `closed` the streams with these
`results`, and that is how the session `ended`. -/
structure ShutDown (past : StreamId → Past) (streams : Streams) (faults : FaultPlan)
    (results : List (StreamId × Outcome StreamError Unit)) (closed : Remote)
    (ended : Outcome RemoteError Unit × Remote) : Prop where
  closes : closeEach streams.table.entries (streams.armed faults).remote = (results, closed)
  disconnects : Link.disconnect closed = ended
  /-- The table is empty afterwards, and the first failure is reported. -/
  empties : shutdown (streams.armed faults) = (farewell results ended.1,
    (streams.withTable (.create streams.table.capacity)).withRemote ended.2)
  /-- The entries are the streams of the table, each of them once and in the order of the ids. -/
  entries : ∀ id entry, (id, entry) ∈ streams.table.entries ↔ streams.table.find? id = some entry
  ascending : streams.table.entries.Pairwise fun first second => first.1.slot < second.1.slot
  /-- Each of them is closed, whatever the others come to. -/
  answers : results.map Prod.fst = streams.table.entries.map Prod.fst
  /-- The session is asked to close the object of each stream once, and then to disconnect. -/
  calls : ended.2.calls.filter Call.Ends = streams.remote.calls.filter Call.Ends ++
    (streams.table.entries.map fun member => .closeObject member.2.object) ++ [.disconnect]
  /-- A stream for writing that could be closed is saved. -/
  saves : ∀ id entry descriptor, streams.table.find? id = some entry →
    streams.remote.session.descriptors.find? entry.object = some descriptor →
    descriptor.mode.writable = true → (id, .ok ()) ∈ results →
      Saves (past id) streams id entry descriptor ended.2.objects
  /-- A session that could disconnect has no open objects. -/
  left : ended.1 = .ok () →
    ended.2.session.connected = false ∧ ended.2.session.descriptors = ∅

/-- Whatever fails when a program shuts down, each of its streams is closed once, in the order of
their ids, and then the session is told to disconnect. A stream for writing that could be written
back and closed leaves all that its user saw, if it took a byte or if nothing else was stored in its
place since it was opened. In any case it leaves what it would leave if it was closed alone. -/
theorem shutdown_saves (honest : ∀ deed faults, allowed deed faults → faults.Honest)
    (created : create settings remote disk = .ok start)
    (reached : Course allowed start past streams) (near : streams.Near)
    (scattered : Scattered streams.table.entries streams.remote) {faults : FaultPlan}
    (trusted : faults.Honest) :
    ∃ results closed ended, ShutDown past streams faults results closed ended := by
  have orderly := reached.orderly honest created
  have armed := orderly.armed trusted
  have held : Held streams.table.entries (streams.armed faults).remote := armed.held near
  have shut := held.shut
  refine ⟨_, _, _, {
    closes := rfl
    disconnects := rfl
    empties := shutdown_apply (streams.armed faults) shut.whole
    entries := fun _ _ => SlotTable.mem_entries
    ascending := streams.table.pairwise_entries
    answers := ids_closeEach _ _
    calls := ?_
    saves := ?_
    left := ?_ }⟩
  · rw [(Link.disconnect_traces _).2, List.filter_append, shut.calls]
    rfl
  · intro id entry descriptor found opened writable ok
    obtain ⟨earlier, later, split⟩ := List.append_of_mem (SlotTable.mem_entries.mpr found)
    have saved := orderly.saved near found opened writable scattered trusted split ok
    rw [(Link.disconnect_traces _).1]
    refine ⟨fun known => (orderly.bears found).whole opened writable known saved, ?_, ?_⟩
    · exact orderly.closes_quietly near found opened writable
    · intro plan fair alone
      exact (orderly.saved_alone near found opened writable fair alone).unique saved
  · intro ok
    rcases Link.disconnect_ends (closeEach streams.table.entries (streams.armed faults).remote).2
      with ⟨cause, refused⟩ | ⟨after, left, session, -⟩
    · rw [refused] at ok
      contradiction
    · rw [left]
      exact ⟨congrArg Session.connected session, congrArg Session.descriptors session⟩

end Reached

/-- Two objects, and room for two streams. -/
def twoObjects : Streams :=
  few 2 ((FiniteMap.empty.insert ⟨"a"⟩ [1, 2, 3]).insert ⟨"b"⟩ [4, 5, 6])

/-- The first object that is to be closed stays open. -/
def reluctant : FaultPlan := FiniteMap.insert ∅ .closeObject (.arm .refused 0 (some 1))

/-- A stream that took a byte is saved, although the one before it could not be closed. -/
theorem shutdown_saves_after_refusal :
    ∃ past streams closed ended, Course (fun _ faults => faults = ∅) twoObjects past streams ∧
      closeEach streams.table.entries (streams.armed reluctant).remote =
        ([(⟨0⟩, .error (.remote (.generic (.injected .closeObject)))), (⟨1⟩, .ok ())], closed) ∧
      Link.disconnect closed = ended ∧ ended.2.objects.find? ⟨"b"⟩ = some [9, 5, 6] ∧
      ended.2.session.descriptors = ∅ := by
  have opened : Course (fun _ faults => faults = ∅) twoObjects _ _ :=
    Course.undisturbed .start (.openStream "remote:a" "r+") (by decide) trivial
  have both := opened.undisturbed (.openStream "remote:b" "r+") (by decide) trivial
  have reached := both.undisturbed (.serve (.cached ⟨1⟩) (.putByte 9)) (by decide) trivial
  have refuses : Fault.Honest .refused := trivial
  obtain ⟨results, closed, ended, shut⟩ :=
    shutdown_saves (fun _ faults (quiet : faults = ∅) => quiet ▸ FaultPlan.honest_empty)
      (few_created 2 _) reached (by decide) (by decide)
      (FaultPlan.honest_empty.arm .closeObject refuses 0 (some 1))
  have answers : [(⟨0⟩, .error (.remote (.generic (.injected .closeObject)))), (⟨1⟩, .ok ())] =
      results := congrArg Prod.fst shut.closes
  subst answers
  obtain ⟨content, shown, stored⟩ := (shut.saves ⟨1⟩ ⟨⟨2⟩, "b", 0, ⟨[9, 0], 1, 0, 4⟩, 0, true⟩
    ⟨⟨"b"⟩, .readWrite, 0, .staged [4, 5, 6] false⟩ rfl rfl rfl (by simp)).whole
      (.inl ⟨.inr ⟨rfl, trivial, .byte 9, rfl, Nat.one_pos⟩, id⟩)
  obtain rfl : [9, 5, 6] = content := Option.some.inj shown
  obtain rfl : _ = closed := congrArg Prod.snd shut.closes
  obtain rfl := shut.disconnects
  exact ⟨_, _, _, _, reached, shut.closes, rfl, stored, (shut.left rfl).2⟩

/-- A stream that took nothing does not restore what it shows. Here another stream on the same
object is closed first, and then a shutdown leaves what that one stored, though no call fails. -/
theorem shutdown_keeps_replaced :
    ∃ past streams entry descriptor,
      Course (fun _ faults => faults = ∅) twoObjects past streams ∧ streams.Near ∧
      streams.table.entries = [(⟨0⟩, entry)] ∧
      streams.remote.session.descriptors.find? entry.object = some descriptor ∧
      descriptor.mode.writable = true ∧ (shutdown streams).1 = .ok () ∧
      (closeEach streams.table.entries streams.remote).1 = [(⟨0⟩, .ok ())] ∧
      Attached.content? ⟨entry, streams.remote⟩ = some [1, 2, 3] ∧
      (shutdown streams).2.remote.objects.find? descriptor.location = some [9, 2, 3] := by
  have opened : Course (fun _ faults => faults = ∅) twoObjects _ _ :=
    Course.undisturbed .start (.openStream "remote:a" "r+") (by decide) trivial
  have twice := opened.undisturbed (.openStream "remote:a" "r+") (by decide) trivial
  have written := twice.undisturbed (.serve (.cached ⟨1⟩) (.putByte 9)) (by decide) trivial
  have reached := written.undisturbed (.close (.cached ⟨1⟩)) (by decide) trivial
  have whole : Whole [(⟨0⟩, .ok ())] := by simp [Whole]
  refine ⟨_, _, ⟨⟨1⟩, "a", 0, ⟨[0, 0], 0, 0, 4⟩, 0, false⟩,
    ⟨⟨"a"⟩, .readWrite, 0, .staged [1, 2, 3] false⟩, reached, by decide, rfl, rfl, rfl, ?_, rfl,
    rfl, ?_⟩
  · rw [shutdown_apply _ (by exact whole)]
    rfl
  · rw [shutdown_apply _ (by exact whole)]
    rfl

end Streams

end RemoteStreams
