import RemoteStreams.Proofs.Deeds

/-! # The open objects of a table

The streams of a table are the only users of their session. As long as no object stays open because
it could not be closed, the open objects of the session are those of the streams, whatever else
fails (`RemoteStreams.Streams.openObjects_of_course`).
-/

namespace RemoteStreams

open Remote

/-- The deed closes objects that may have been written to. -/
def Deed.Closes : Deed → Prop
  | close _ | shutdown => True
  | openStream _ _ | serve _ _ => False

/-- Everything may fail but closing an object and the upload that this takes. -/
def Deed.Closable (deed : Deed) (faults : FaultPlan) : Prop :=
  faults.Honest ∧ faults.Spares .closeObject ∧ (deed.Closes → faults.Spares .storePut)

namespace Streams

variable {settings : Settings} {past : StreamId → Past} {streams after : Streams}
  {object : ObjectId} {id : StreamId} {entry : CachedStream} {path name mode : String}

/-- Every open object is the object of a stream. -/
def Accounted (streams : Streams) : Prop :=
  ∀ object, streams.remote.session.descriptors.find? object ≠ none →
    ∃ id entry, streams.table.find? id = some entry ∧ entry.object = object

/-- What changes neither table nor open objects leaves all of them accounted for. -/
theorem Accounted.same (accounted : Accounted streams) (table : after.table = streams.table)
    (objects : ∀ object, after.remote.session.descriptors.find? object =
      streams.remote.session.descriptors.find? object) : Accounted after := by
  intro object present
  rw [objects] at present
  obtain ⟨id, entry, found, same⟩ := accounted object present
  exact ⟨id, entry, table ▸ found, same⟩

/-- What becomes of an object is accounted for by what becomes of its entry. -/
theorem Accounted.next (accounted : Accounted streams) {seat : Option CachedStream}
    (frames : Frames (· = object) streams.remote after.remote)
    (table : after.table = streams.table.assign id seat) (inside : id.slot < streams.table.capacity)
    (own : after.remote.session.descriptors.find? object ≠ none →
      ∃ entry, seat = some entry ∧ entry.object = object)
    (old : ∀ entry, streams.table.find? id = some entry → entry.object = object) :
    Accounted after := by
  intro other present
  rw [table]
  by_cases same : other = object
  · subst same
    obtain ⟨entry, seats, same⟩ := own present
    exact ⟨id, entry, (SlotTable.find?_assign_self inside _).trans seats, same⟩
  · rw [frames.others other same] at present
    obtain ⟨place, entry, found, rfl⟩ := accounted other present
    have differs : place ≠ id := fun here => same (old entry (here ▸ found))
    exact ⟨place, entry, (SlotTable.find?_assign_of_ne _ differs _).trans found, rfl⟩

/-- Opening a stream takes a free slot and an object, or it leaves the table and the open objects as
they were. -/
theorem Orderly.openStream_cases (orderly : Orderly settings past streams)
    (accounted : Accounted streams) (honest : streams.remote.faults.Honest)
    (spares : streams.remote.faults.Spares .closeObject) (path mode : String) :
    ((openStream path mode streams).2.table = streams.table ∧
      ∀ object, (openStream path mode streams).2.remote.session.descriptors.find? object =
        streams.remote.session.descriptors.find? object) ∨
    ∃ id entry remote, openStream path mode streams =
        (.ok (.cached id), streams.withAttached id ⟨entry, remote⟩) ∧
      streams.table.find? id = none ∧ id.slot < streams.table.capacity ∧
      Frames (· = entry.object) streams.remote remote := by
  cases named : streams.settings.objectPath? path with
  | none =>
      obtain ⟨outcome, disk, opens, -⟩ := openStream_unnamed named mode
      exact .inl (by rw [opens]; exact ⟨rfl, fun _ => rfl⟩)
  | some name =>
      cases full : streams.table.isFull with
      | true => exact .inl (by rw [openStream_full full named]; exact ⟨rfl, fun _ => rfl⟩)
      | false =>
          have ordered := orderly.ordered
          rw [← orderly.known] at ordered
          obtain ⟨ended, opening, ends⟩ := openStream_ends honest ordered full named mode
          rcases ends with
            ⟨outcome, opens, -, -, unanswered⟩ | ⟨id, entry, opens, delivered, vacant, inside⟩
          · refine .inl ?_
            rw [opens]
            refine ⟨rfl, fun object => ?_⟩
            by_cases next : object = streams.remote.session.nextObject
            · subst next
              -- The next object is not open before, as no stream has it.
              have closed : streams.remote.session.descriptors.find?
                  streams.remote.session.nextObject = none := by
                by_cases open' : streams.remote.session.descriptors.find?
                    streams.remote.session.nextObject = none
                · exact open'
                · obtain ⟨id, entry, found, same⟩ := accounted _ open'
                  exact (orderly.fresh found same).elim
              rcases opening.retracts unanswered spares with gone | same
              · exact gone.trans closed.symm
              · exact same
            · exact opening.frames.others object next
          · obtain ⟨rfl, -⟩ := opening.delivers _ delivered
            refine .inr ⟨id, _, ended.2, opens, vacant, inside, ?_⟩
            exact opening.frames

/-- A remote stream is refused for want of a slot exactly if there is none. -/
theorem Orderly.openStream_tableFull_iff (orderly : Orderly settings past streams)
    (honest : streams.remote.faults.Honest) (named : streams.settings.objectPath? path = some name)
    (mode : String) :
    (∃ slots, (openStream path mode streams).1 = .error (.tableFull slots)) ↔
      streams.table.size = settings.maxStreams := by
  rw [← orderly.capacity, ← SlotTable.isFull_iff]
  constructor
  · rintro ⟨slots, refused⟩
    cases full : streams.table.isFull with
    | true => rfl
    | false =>
        have ordered := orderly.ordered
        rw [← orderly.known] at ordered
        obtain ⟨ended, opening, ends⟩ := openStream_ends honest ordered full named mode
        rcases ends with ⟨outcome, opens, -, room, -⟩ | ⟨id, entry, opens, -⟩
        · rw [opens] at refused
          exact (room slots refused).elim
        · rw [opens] at refused
          contradiction
  · intro full
    exact ⟨_, by rw [openStream_full full named]⟩

/-- A deed leaves all open objects accounted for, as long as objects can be closed. -/
theorem Orderly.accounted (orderly : Orderly settings past streams)
    (accounted : Accounted streams) (near : streams.Near) {deed : Deed}
    (closable : deed.Closable streams.remote.faults) : Accounted (deed.perform streams).2 := by
  obtain ⟨honest, spares, sparesPut⟩ := closable
  cases deed with
  | openStream path mode =>
      rw [Deed.perform, Action.map_apply]
      rcases orderly.openStream_cases accounted honest spares path mode with
        ⟨table, objects⟩ | ⟨id, entry, remote, opens, vacant, inside, frames⟩
      · exact accounted.same table objects
      · rw [opens]
        exact accounted.next frames rfl inside (fun _ => ⟨entry, rfl, rfl⟩)
          fun _ found => by simp [vacant] at found
  | serve stream request =>
      rw [Deed.perform, Action.map_apply]
      rcases serve_ends stream request streams with
        ⟨⟨disk, served⟩, -⟩ | ⟨id, entry, rfl, found, served⟩
      · rw [served]
        exact accounted.same rfl fun _ => rfl
      · obtain ⟨descriptor, sound, -⟩ := (orderly.bears found).sound
        obtain ⟨same, moved, drifts⟩ :=
          CachedStream.perform_drifts sound.serves request.operation
        rw [served]
        refine accounted.next drifts.frames rfl (SlotTable.slot_lt_capacity found)
          (fun _ => ⟨_, rfl, same⟩) fun other found' => ?_
        obtain rfl := Option.some.inj (found.symm.trans found')
        rfl
  | close stream =>
      rcases close_ends stream streams with ⟨disk, closed⟩ | ⟨id, entry, rfl, found⟩
      · rw [Deed.perform, closed]
        exact accounted.same rfl fun _ => rfl
      · obtain ⟨descriptor, sound, -⟩ := (orderly.bears found).sound
        have shuts := sound.shuts (near id entry found)
        rw [Deed.perform, close_cached found]
        refine accounted.next shuts.frames rfl (SlotTable.slot_lt_capacity found)
          (fun present => (present (shuts.spared spares (sparesPut trivial))).elim)
          fun other found' => ?_
        obtain rfl := Option.some.inj (found.symm.trans found')
        rfl
  | shutdown =>
      have shut := (orderly.held near).shut
      rw [Deed.perform, shutdown_apply streams shut.whole]
      intro object present
      have none : (closeEach streams.table.entries streams.remote).2.session.descriptors.find?
          object = none := by
        by_cases has : Has streams.table.entries object
        · exact shut.spared spares (sparesPut trivial) object has
        · rw [shut.frames.others object has]
          refine Decidable.not_not.mp fun present => has ?_
          obtain ⟨id, entry, found, same⟩ := accounted object present
          exact ⟨(id, entry), SlotTable.mem_entries.mpr found, same⟩
      refine (present ?_).elim
      rcases Link.disconnect_ends (closeEach streams.table.entries streams.remote).2 with
        ⟨cause, refused⟩ | ⟨after, left, session, -⟩
      · rw [refused]
        exact none
      · rw [left]
        simp [withRemote, session, Session.disconnected]

/-- By induction on the deeds, so does a course of them. -/
theorem Course.accounted {remote : Remote} {disk : Disk} {start : Streams}
    (created : create settings remote disk = .ok start)
    (unshared : remote.session.descriptors = ∅)
    (reached : Course Deed.Closable start past streams) : Accounted streams := by
  have honest : ∀ deed faults, Deed.Closable deed faults → faults.Honest := fun _ _ => And.left
  induction reached with
  | start =>
      intro object present
      unfold create at created
      split at created
      · obtain rfl := Except.ok.inj created
        exact (present (by rw [unshared]; rfl)).elim
      · contradiction
  | step before permitted near addressable accounted =>
      exact ((before.orderly honest created).armed (honest _ _ permitted)).accounted
        (accounted.same rfl fun _ => rfl) near permitted

/-- What comes of asking for a remote stream while these faults are in store. -/
structure Attempt (settings : Settings) (streams : Streams) (path mode : String)
    (faults : FaultPlan) : Prop where
  /-- If no stream is delivered, the table and the open objects are left as they were. -/
  undone : (∀ stream, (openStream path mode (streams.armed faults)).1 ≠ .ok stream) →
    (openStream path mode (streams.armed faults)).2.table = streams.table ∧
    ∀ object, (openStream path mode (streams.armed faults)).2.remote.session.descriptors.find?
      object = streams.remote.session.descriptors.find? object
  /-- The stream is refused a slot exactly if all slots are taken. -/
  refused_iff : (∃ slots, (openStream path mode (streams.armed faults)).1 =
    .error (.tableFull slots)) ↔ streams.table.size = settings.maxStreams
  /-- If all slots are taken, nothing is asked of the remote side. -/
  unasked : streams.table.size = settings.maxStreams →
    (openStream path mode (streams.armed faults)).2.remote.calls = streams.remote.calls
  /-- Otherwise there is a slot for the stream, whatever the remote side comes to. -/
  admitted : streams.table.size ≠ settings.maxStreams → ∀ entry remote,
    ∃ id, (register entry (streams.withRemote remote)).1 = .ok id

/-- The streams of a table and the open objects of its session go together. -/
structure Matched (settings : Settings) (streams : Streams) : Prop where
  /-- No more streams are open than there may be. -/
  bounded : streams.table.size ≤ settings.maxStreams
  /-- Each stream has an object of its own. -/
  apart : ∀ id other entry third, streams.table.find? id = some entry →
    streams.table.find? other = some third → entry.object = third.object → id = other
  /-- The open objects are those of the streams. -/
  objects : ∀ object, streams.remote.session.descriptors.find? object ≠ none ↔
    ∃ id entry, streams.table.find? id = some entry ∧ entry.object = object
  /-- An attempt to open another remote stream does not upset this, whatever fails but closing. -/
  attempts : ∀ path name mode faults, settings.objectPath? path = some name →
    Deed.Closable (.openStream path mode) faults → Attempt settings streams path mode faults

/-- An attempt to open a stream leaves either both sides as they were or one more on both. -/
theorem Orderly.attempt (orderly : Orderly settings past streams) (accounted : Accounted streams)
    {faults : FaultPlan} (named : settings.objectPath? path = some name)
    (closable : Deed.Closable (.openStream path mode) faults) :
    Attempt settings streams path mode faults := by
  have full := SlotTable.isFull_iff streams.table
  rw [orderly.capacity] at full
  have armed := orderly.armed closable.1
  have named' : (streams.armed faults).settings.objectPath? path = some name := by
    rw [armed.known, named]
  refine ⟨fun failed => ?_, armed.openStream_tableFull_iff closable.1 named' mode,
    fun taken => ?_, fun room entry remote => ?_⟩
  · rcases armed.openStream_cases (accounted.same rfl fun _ => rfl) closable.1 closable.2.1
      path mode with unchanged | ⟨id, entry, remote, opens, -⟩
    · exact unchanged
    · exact (failed (.cached id) (congrArg Prod.fst opens)).elim
  · have none : (streams.armed faults).table.isFull = true := full.mpr taken
    rw [openStream_full none named']
    rfl
  · have free : streams.table.isFull = false := by
      rw [← Bool.not_eq_true]
      exact mt full.mp room
    obtain ⟨id, lowest, -⟩ := SlotTable.exists_free free
    refine ⟨id, ?_⟩
    simp [register, Action.bind_apply, Action.map_apply, withRemote, SlotTable.register?, lowest]

/-- The streams of a table and the open objects of its session go together, whatever a program does
with them and whatever fails on the way but closing. Calls to the remote side may fail, and so may
each request for the bytes of a window, whatever its size. -/
theorem openObjects_of_course {remote : Remote} {disk : Disk} {start : Streams}
    (created : create settings remote disk = .ok start)
    (unshared : remote.session.descriptors = ∅)
    (reached : Course Deed.Closable start past streams) : Matched settings streams := by
  have orderly := reached.orderly (fun _ _ => And.left) created
  have accounted := reached.accounted created unshared
  refine ⟨orderly.capacity ▸ streams.table.size_le_capacity,
    fun id other entry third found again => orderly.apart found again,
    fun object => ⟨accounted object, ?_⟩, fun path name mode faults => orderly.attempt accounted⟩
  rintro ⟨id, entry, found, rfl⟩
  obtain ⟨descriptor, sound, -⟩ := (orderly.bears found).sound
  rw [sound.serves.found]
  simp

/-- One object, and room for one stream. -/
def oneObject : Streams := few 1 (FiniteMap.empty.insert ⟨"a"⟩ [1, 2, 3])

/-- The same object, and room for two streams. -/
def roomForTwo : Streams := few 2 (FiniteMap.empty.insert ⟨"a"⟩ [1, 2, 3])

/-- The store refuses to say what an object holds, but only once. -/
def unread : FaultPlan := FiniteMap.insert ∅ .storeGet (.arm .refused 0 (some 1))

/-- No bytes can be had for the next window. -/
def crowded : FaultPlan := FiniteMap.insert ∅ .allocate (.arm .refused 0 (some 1))

/-- A stream is opened at the second attempt. The next one gets no window at first, although it asks
for two bytes only, which changes nothing for the other. It takes the last slot at its second
attempt, and a third stream is refused one. -/
theorem openObjects_of_course_full :
    ∃ (past : StreamId → Past) (alone streams : Streams) (entry : CachedStream),
      Course Deed.Closable roomForTwo past streams ∧
      (openStream "remote:a" "r" (alone.armed crowded)).1 = .error (.allocation 2) ∧
      (openStream "remote:a" "r" (alone.armed crowded)).2.table = alone.table ∧
      alone.table.find? ⟨0⟩ = some entry ∧
      (∀ object, (openStream "remote:a" "r" (alone.armed crowded)).2.remote.session.descriptors.find?
        object = alone.remote.session.descriptors.find? object) ∧
      streams.table.size = 2 ∧ streams.remote.session.descriptors.find? entry.object ≠ none ∧
      (∃ slots, (openStream "remote:b" "w" (streams.armed unread)).1 = .error (.tableFull slots)) ∧
      (openStream "remote:b" "w" (streams.armed unread)).2.remote.calls = streams.remote.calls := by
  have opening (mode : String) (plan : FaultPlan) (honest : plan.Honest)
      (spares : plan.Spares .closeObject) : Deed.Closable (.openStream "remote:a" mode) plan :=
    ⟨honest, spares, False.elim⟩
  have hesitates (primitive : Primitive) (other : primitive ≠ .closeObject) :
      FaultPlan.Honest (FiniteMap.insert ∅ primitive (.arm .refused 0 (some 1))) ∧
      FaultPlan.Spares (FiniteMap.insert ∅ primitive (.arm .refused 0 (some 1))) .closeObject := by
    have refuses : Fault.Honest .refused := trivial
    refine ⟨FaultPlan.honest_empty.arm primitive refuses 0 (some 1), fun _ _ found => ?_⟩
    rw [FiniteMap.find?_insert_of_ne _ _ other.symm] at found
    contradiction
  have silent := hesitates .storeGet (by decide)
  have short := hesitates .allocate (by decide)
  have refused : Course Deed.Closable roomForTwo _ _ :=
    .step .start (opening "r+" unread silent.1 silent.2) (by decide) trivial
  have opened : Course Deed.Closable roomForTwo _ _ :=
    .step refused (opening "r+" ∅ FaultPlan.honest_empty (FaultPlan.spares_empty _))
      (by decide) trivial
  have starved : Course Deed.Closable roomForTwo _ _ :=
    .step opened (opening "r" crowded short.1 short.2) (by decide) trivial
  have both : Course Deed.Closable roomForTwo _ _ :=
    .step starved (opening "r" ∅ FaultPlan.honest_empty (FaultPlan.spares_empty _))
      (by decide) trivial
  have before := openObjects_of_course (few_created 2 _) rfl opened
  have attempt := before.attempts "remote:a" "a" "r" crowded rfl (opening "r" _ short.1 short.2)
  have undone := attempt.undone (fun stream => by rintro ⟨⟩)
  have after := openObjects_of_course (few_created 2 _) rfl both
  have third := after.attempts "remote:b" "b" "w" unread rfl ⟨silent.1, silent.2, False.elim⟩
  exact ⟨_, _, _, _, both, rfl, undone.1, rfl, undone.2, rfl,
    (after.objects ⟨1⟩).mpr ⟨⟨0⟩, _, rfl, rfl⟩, third.refused_iff.mpr rfl, third.unasked rfl⟩

end Streams

end RemoteStreams
