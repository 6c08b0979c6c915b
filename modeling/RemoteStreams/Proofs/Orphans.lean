import RemoteStreams.Proofs.OpenObjects
import RemoteStreams.Proofs.Retrying
import RemoteStreams.Proofs.ShutdownErrors

/-! # Orphans

A stream that is closed leaves the table whether or not its object could be closed. An object that
could not be closed is left without a stream (`RemoteStreams.Streams.close_orphans`): the session
keeps it with what was to be uploaded, but until a shutdown nothing that a program does with its
streams can reach it again (`RemoteStreams.Streams.Strays.course`).
-/

namespace RemoteStreams

open Remote

/-- What a call meets does not depend on calls of other primitives. -/
theorem FaultPlan.next_advance_of_ne {primitive used : Primitive} (plan : FaultPlan)
    (other : primitive ≠ used) : (plan.advance used).next primitive = plan.next primitive := by
  unfold FaultPlan.advance
  split
  · rw [FaultPlan.next, FiniteMap.find?_insert_of_ne _ _ other, FaultPlan.next]
  · rfl

namespace Remote

variable {object : ObjectId} {descriptor : Descriptor} {before : Remote}

/-- What closing an object is refused with: the call itself is refused, or the upload of what was
written to the object. -/
def closeRefusal? (remote : Remote) (object : ObjectId) (descriptor : Descriptor) :
    Option RemoteError :=
  (remote.refusal? (.closeObject object)).or
    (descriptor.upload?.bind fun data => remote.refusal? (.storePut descriptor.location data))

/-- The fault that the next call of a primitive meets is used up by calls of that primitive only. -/
theorem lasting_next (primitive : Primitive) (met : Option Fault) :
    Lasting (primitive ≠ ·) fun remote => remote.faults.next primitive = met where
  calling := fun _ _ other held => (FaultPlan.next_advance_of_ne _ other).trans held
  requesting := fun other _ held => (FaultPlan.next_advance_of_ne _ other).trans held
  noting := fun _ _ held => held
  session := fun _ _ held => held
  storing := fun _ _ _ held => held

/-- An open object is closed unless that is refused, and then session and store stay as they are. -/
theorem Serves.closeObject_ends (serves : before.Serves object descriptor) :
    (∃ cause, before.closeRefusal? object descriptor = some cause ∧
      (Link.closeObject object before).1 = .error cause ∧
      (Link.closeObject object before).2.session = before.session ∧
      (Link.closeObject object before).2.objects = before.objects) ∨
    before.closeRefusal? object descriptor = none ∧ (Link.closeObject object before).1 = .ok () ∧
      (Link.closeObject object before).2.session.descriptors.find? object = none := by
  have called := (serves.calling (.closeObject object)).serves.noting (.closingObject object)
  have found := Session.descriptor_apply called.serves
  unfold closeRefusal?
  cases refused : before.refusal? (.closeObject object) with
  | some cause =>
      have ended : Link.closeObject object before =
          (.error cause, before.calling (.closeObject object)) := by
        simp [Link.closeObject, Action.bind_apply, announce_apply, refused]
      rw [ended]
      exact .inl ⟨cause, rfl, rfl, rfl, rfl⟩
  | none =>
      cases uploads : descriptor.upload? with
      | none =>
          have ended : Link.closeObject object before =
              (.ok (), (before.closing object).removing object) := by
            simp [Link.closeObject, Session.closeObject, Action.bind_apply, announce_apply, refused,
              Remote.note, found, uploads, closing, modifySession, removing]
          rw [ended]
          exact .inr ⟨rfl, rfl, FiniteMap.find?_erase_self _ _⟩
      | some data =>
          have apart : Primitive.storePut ≠ .closeObject := by decide
          have same : (before.closing object).refusal? (.storePut descriptor.location data) =
              before.refusal? (.storePut descriptor.location data) :=
            congrArg (Option.bind · _) (FaultPlan.next_advance_of_ne before.faults apart)
          have linked : Link.closeObject object before =
              (Session.upload descriptor.location data >>= fun _ =>
                modifySession (·.remove object)) (before.closing object) := by
            simp [Link.closeObject, Session.closeObject, Action.bind_apply, announce_apply, refused,
              Remote.note, found, uploads, closing]
          rw [linked, Action.bind_apply, upload_apply, same, Option.none_or, Option.bind_some]
          cases put : before.refusal? (.storePut descriptor.location data) with
          | some cause => exact .inl ⟨cause, rfl, rfl, rfl, rfl⟩
          | none => exact .inr ⟨rfl, rfl, FiniteMap.find?_erase_self _ _⟩

end Remote

namespace CachedStream

variable {stream : CachedStream} {before : Remote} {outcome : Outcome StreamError Unit}
  {kept : Attached}

/-- The object of a stream is asked to close whether the window was written back or not. -/
theorem close_leaves (lasts : ∀ breach, outcome ≠ .broken breach)
    (flushed : flush ⟨stream, before.noting (.closingCached stream.path)⟩ = (outcome, kept)) :
    (stream.close before).2 =
      kept.stream.dropped (Link.closeObject stream.object kept.remote).2 := by
  have returns := Link.closeObject_returns stream.object kept.remote
  generalize closed : Link.closeObject stream.object kept.remote = ended at returns
  obtain ⟨answer, after⟩ := ended
  cases answer with
  | broken breach => exact (returns breach rfl).elim
  | ok done => rw [close, settle_of_flush lasts flushed closed]
  | error cause =>
      cases outcome with
      | broken breach => exact (lasts breach rfl).elim
      | ok done | error cause' =>
          simp [close, settle, Action.bind_apply, Action.attempt, flushed, ask_apply, closed]

/-- Writing a window back uses up no fault that closing the object may meet. -/
theorem flush_closeRefusal? (attached : Attached) (object : ObjectId) (descriptor : Descriptor) :
    (flush attached).2.remote.closeRefusal? object descriptor =
      attached.remote.closeRefusal? object descriptor := by
  have same (primitive : Primitive) (other : ∀ used ∈ Primitive.transfers, primitive ≠ used) :
      (flush attached).2.remote.faults.next primitive = attached.remote.faults.next primitive :=
    ((lasting_of_remote (lasting_next primitive _) attached.stream.object other).flush attached
      ⟨rfl, rfl⟩).2
  have closing := same .closeObject (by decide)
  have putting := same .storePut (by decide)
  have closes : (Call.closeObject object).primitive = .closeObject := rfl
  have puts (data : Bytes) :
      (Call.storePut descriptor.location data).primitive = .storePut := rfl
  simp only [closeRefusal?, refusal?, closes, puts, closing, putting]

end CachedStream

namespace Attached

variable {attached : Attached} {first : Descriptor}

/-- What becomes of the object of a stream that is closed, once the window was written back or not:
it is closed as well, or it stays open with what was to be uploaded. -/
structure Relinquishes (attached : Attached) (outcome : Outcome StreamError Unit)
    (descriptor : Descriptor) (ended : Outcome StreamError Unit × Remote) : Prop where
  reports : ended.1 = outcome.followedBy
    ((attached.remote.closeRefusal? attached.stream.object descriptor).elim (.ok ())
      fun cause => .error (.remote cause))
  leaves : ended.2.session.descriptors.find? attached.stream.object =
    (attached.remote.closeRefusal? attached.stream.object descriptor).map fun _ => descriptor
  unstored : attached.remote.closeRefusal? attached.stream.object descriptor ≠ none →
    ended.2.objects = attached.remote.objects
  unsaved : outcome = .ok () → descriptor.mode.writable = true → attached.Unsaved →
    ∃ content, attached.content? = some content ∧ descriptor.upload? = some content

/-- A close writes the window back if it can, and then closes the object in any case if that is not
refused. -/
theorem Sound.relinquishes (sound : attached.Sound first)
    (near : attached.stream.here < PlainFile.positionBound) :
    ∃ outcome kept descriptor,
      CachedStream.flush ⟨attached.stream,
        attached.remote.noting (.closingCached attached.stream.path)⟩ = (outcome, kept) ∧
      kept.remote.session.descriptors.find? attached.stream.object = some descriptor ∧
      attached.Relinquishes outcome descriptor (attached.stream.close attached.remote) := by
  obtain ⟨stream, remote⟩ := attached
  have noted := sound.noting (.closingCached stream.path)
  obtain ⟨descriptor, returns⟩ := noted.returns near
  have refusals := CachedStream.flush_closeRefusal?
    ⟨stream, remote.noting (.closingCached stream.path)⟩ stream.object descriptor
  generalize flushed : CachedStream.flush ⟨stream, remote.noting (.closingCached stream.path)⟩ =
    result at returns refusals
  obtain ⟨outcome, kept⟩ := result
  have moves := returns.moves
  have same : kept.remote.closeRefusal? stream.object descriptor =
      remote.closeRefusal? stream.object descriptor := refusals
  have reports := stream.close_outcome remote flushed
  have leaves := CachedStream.close_leaves returns.lasts flushed
  have saved : outcome = .ok () → descriptor.mode.writable = true → Unsaved ⟨stream, remote⟩ →
      ∃ content, content? ⟨stream, remote⟩ = some content ∧ descriptor.upload? = some content := by
    intro ok writable unsaved
    exact returns.saved ok (moves.evolved.mode ▸ writable)
      ((unsaved_congr noted.serves sound.serves).mpr unsaved)
  refine ⟨outcome, kept, descriptor, rfl, moves.serves.found, ?_, ?_, fun refused => ?_, saved⟩
  · rw [reports, ← same]
    rcases moves.serves.closeObject_ends with ⟨cause, refused, answer, -⟩ | ⟨passed, answer, -⟩
    · rw [answer, refused]
      rfl
    · rw [answer, passed]
      rfl
  · rw [leaves, CachedStream.session_dropped, ← same]
    rcases moves.serves.closeObject_ends with
      ⟨cause, refused, -, session, -⟩ | ⟨passed, -, removed⟩
    · rw [session, refused]
      exact moves.serves.found
    · rw [passed]
      exact removed
  · rw [leaves, CachedStream.objects_dropped]
    rcases moves.serves.closeObject_ends with ⟨cause, -, -, -, objects⟩ | ⟨passed, -⟩
    · rw [objects]
      exact moves.objects
    · exact (refused (same ▸ passed)).elim

end Attached

namespace Streams

variable {settings : Settings} {past : StreamId → Past} {streams after : Streams}
  {touched : ObjectId → Prop} {object : ObjectId} {descriptor : Descriptor} {id : StreamId}
  {entry : CachedStream}

/-- An object is open that no stream of the table has. -/
def Orphaned (streams : Streams) (object : ObjectId) : Prop :=
  streams.remote.session.descriptors.find? object ≠ none ∧
    ∀ id entry, streams.table.find? id = some entry → entry.object ≠ object

/-- An object is open without a stream, and it was given out before. -/
structure Strays (streams : Streams) (object : ObjectId) (descriptor : Descriptor) : Prop where
  opened : streams.remote.session.descriptors.find? object = some descriptor
  unowned : ∀ id entry, streams.table.find? id = some entry → entry.object ≠ object
  given : object.number ≤ streams.remote.session.lastNumber

theorem Strays.orphaned (strays : Strays streams object descriptor) : Orphaned streams object :=
  ⟨by simp [strays.opened], strays.unowned⟩

/-- What does not touch it leaves it without a stream. -/
theorem Strays.framed (strays : Strays streams object descriptor)
    (table : after.table = streams.table) (frames : Frames touched streams.remote after.remote)
    (untouched : ¬touched object) : Strays after object descriptor where
  opened := (frames.others object untouched).trans strays.opened
  unowned := table ▸ strays.unowned
  given := Nat.le_trans strays.given frames.numbers

theorem Strays.withDisk (strays : Strays streams object descriptor) (disk : Disk) :
    Strays (streams.withDisk disk) object descriptor :=
  ⟨strays.opened, strays.unowned, strays.given⟩

/-- What touches another object may change the entry that it belongs to. -/
theorem Strays.next (strays : Strays streams object descriptor) {seat : Option CachedStream}
    (frames : Frames touched streams.remote after.remote) (untouched : ¬touched object)
    (table : after.table = streams.table.assign id seat) (inside : id.slot < streams.table.capacity)
    (apart : ∀ entry, seat = some entry → entry.object ≠ object) :
    Strays after object descriptor where
  opened := (frames.others object untouched).trans strays.opened
  unowned := fun other entry found => by
    rw [table] at found
    by_cases same : other = id
    · subst same
      rw [SlotTable.find?_assign_self inside] at found
      exact apart entry found
    · rw [SlotTable.find?_assign_of_ne _ same] at found
      exact strays.unowned other entry found
  given := Nat.le_trans strays.given frames.numbers

/-- Short of a shutdown, nothing that is done with the streams reaches an object without one. -/
theorem Strays.perform (strays : Strays streams object descriptor)
    (orderly : Orderly settings past streams) (honest : streams.remote.faults.Honest)
    (near : streams.Near) {deed : Deed} (stays : deed ≠ .shutdown) :
    Strays (deed.perform streams).2 object descriptor := by
  have fresh : object ≠ streams.remote.session.nextObject := by
    rintro rfl
    exact Nat.not_succ_le_self _ strays.given
  cases deed with
  | openStream path mode =>
      rw [Deed.perform, Action.map_apply]
      have noted : Frames (fun _ => False) streams.remote
          (streams.remote.noting (.openingStream path mode)) := .same id rfl
      cases named : streams.settings.objectPath? path with
      | none =>
          obtain ⟨outcome, disk, opens, -⟩ := openStream_unnamed named mode
          rw [opens]
          exact strays.framed rfl noted id
      | some name =>
          cases full : streams.table.isFull with
          | true =>
              rw [openStream_full full named]
              exact strays.framed rfl noted id
          | false =>
              have ordered := orderly.ordered
              rw [← orderly.known] at ordered
              obtain ⟨ended, opening, ends⟩ := openStream_ends honest ordered full named mode
              rcases ends with ⟨outcome, opens, -⟩ | ⟨id, entry, opens, delivered, vacant, inside⟩
              · rw [opens]
                exact strays.framed rfl opening.frames fresh
              · obtain ⟨rfl, -⟩ := opening.delivers _ delivered
                rw [opens]
                exact strays.next opening.frames fresh rfl inside fun _ seats =>
                  Option.some.inj seats ▸ Ne.symm fresh
  | serve stream request =>
      rw [Deed.perform, Action.map_apply]
      rcases serve_ends stream request streams with
        ⟨⟨disk, served⟩, -⟩ | ⟨id, entry, rfl, found, served⟩
      · rw [served]
        exact strays.withDisk disk
      · obtain ⟨_, sound, -⟩ := (orderly.bears found).sound
        obtain ⟨same, _, drifts⟩ := CachedStream.perform_drifts sound.serves request.operation
        have apart := strays.unowned id entry found
        rw [served]
        exact strays.next drifts.frames (Ne.symm apart) rfl (SlotTable.slot_lt_capacity found)
          fun _ seats => Option.some.inj seats ▸ same ▸ apart
  | close stream =>
      rcases close_ends stream streams with ⟨disk, closed⟩ | ⟨id, entry, rfl, found⟩
      · rw [Deed.perform, closed]
        exact strays.withDisk disk
      · obtain ⟨_, sound, -⟩ := (orderly.bears found).sound
        have shuts := sound.shuts (near id entry found)
        rw [Deed.perform, close_cached found]
        exact strays.next shuts.frames (Ne.symm (strays.unowned id entry found)) rfl
          (SlotTable.slot_lt_capacity found) (by simp)
  | shutdown => exact (stays rfl).elim

/-- So an object without a stream stays as it is, and stays without one, until a shutdown. -/
theorem Strays.course {later : Streams} {past' : StreamId → Past}
    (strays : Strays streams object descriptor) (orderly : Orderly settings past streams)
    (reached : Course (fun deed plan => plan.Honest ∧ deed ≠ .shutdown) streams past' later) :
    Strays later object descriptor := by
  have kept : (∃ past, Orderly settings past later) ∧ Strays later object descriptor := by
    induction reached with
    | start => exact ⟨⟨past, orderly⟩, strays⟩
    | @step _ before deed faults _ permitted near addressable ih =>
        obtain ⟨⟨past, orderly⟩, strays⟩ := ih
        have armed := orderly.armed permitted.1
        have still : Strays (before.armed faults) object descriptor :=
          ⟨strays.opened, strays.unowned, strays.given⟩
        exact ⟨⟨_, armed.after_perform permitted.1 near addressable⟩,
          still.perform armed permitted.1 near permitted.2⟩
  exact kept.2

/-- A stream that leaves the table makes at most its own object an orphan. -/
theorem Orderly.orphaned_release_iff (orderly : Orderly settings past streams)
    (found : streams.table.find? id = some entry) (table : after.table = streams.table.release id)
    (frames : Frames (· = entry.object) streams.remote after.remote) (object : ObjectId) :
    Orphaned after object ↔ Orphaned streams object ∨
      object = entry.object ∧ after.remote.session.descriptors.find? entry.object ≠ none := by
  have moved {other : StreamId} (differs : other ≠ id) :
      after.table.find? other = streams.table.find? other := by
    rw [table]
    exact SlotTable.find?_assign_of_ne _ differs none
  have gone : after.table.find? id = none := by
    rw [table]
    exact SlotTable.find?_release_self id
  by_cases own : object = entry.object
  · subst own
    refine ⟨fun orphaned => .inr ⟨rfl, orphaned.1⟩, ?_⟩
    rintro (orphaned | ⟨-, opened⟩)
    · exact (orphaned.2 id entry found rfl).elim
    · refine ⟨opened, fun other third again => ?_⟩
      have differs : other ≠ id := by
        rintro rfl
        rw [gone] at again
        contradiction
      exact orderly.others found differs (moved differs ▸ again)
  · simp only [own, false_and, or_false]
    unfold Orphaned
    rw [frames.others object own]
    refine and_congr_right fun _ => ⟨fun unowned other third again => ?_,
      fun unowned other third again => ?_⟩
    · by_cases same : other = id
      · subst same
        obtain rfl := Option.some.inj (found.symm.trans again)
        exact Ne.symm own
      · exact unowned other third (moved same ▸ again)
    · by_cases same : other = id
      · rw [same, gone] at again
        contradiction
      · exact unowned other third (moved same ▸ again)

/-- What closing a stream of the table leaves behind. Its window was written back with this outcome,
or it could not be, and then its object had this descriptor. -/
structure LeavesBehind (streams : Streams) (id : StreamId) (entry : CachedStream)
    (outcome : Outcome StreamError Unit) (kept : Attached) (descriptor : Descriptor) : Prop where
  flushed : CachedStream.flush ⟨entry, streams.remote.noting (.closingCached entry.path)⟩ =
    (outcome, kept)
  opened : kept.remote.session.descriptors.find? entry.object = some descriptor
  /-- The first failure is reported, and a failed flush does not keep the object from closing. -/
  reports : (close (.cached id) streams).1 =
    outcome.followedBy ((streams.remote.closeRefusal? entry.object descriptor).elim (.ok ())
      fun cause => .error (.remote cause))
  /-- The stream leaves the table in any case. -/
  released : (close (.cached id) streams).2.table = streams.table.release id
  /-- Its object is left without a stream exactly if the session refuses to close it, be it that the
  call fails or that the upload does. Nothing else becomes an orphan. -/
  orphaned_iff : ∀ object, Orphaned (close (.cached id) streams).2 object ↔
    Orphaned streams object ∨
      object = entry.object ∧ streams.remote.closeRefusal? entry.object descriptor ≠ none
  /-- An object that was not saved before, and that was written back to, is to be uploaded with all
  that its user saw. -/
  unsaved : outcome = .ok () → descriptor.mode.writable = true →
    Attached.Unsaved ⟨entry, streams.remote⟩ → ∃ content,
      Attached.content? ⟨entry, streams.remote⟩ = some content ∧
      descriptor.upload? = some content
  /-- What is refused leaves the store as it is. -/
  unstored : streams.remote.closeRefusal? entry.object descriptor ≠ none →
    (close (.cached id) streams).2.remote.objects = streams.remote.objects
  /-- Whatever the program does until it shuts down, an object that was left without a stream stays
  open as it is and out of its reach. -/
  remains : streams.remote.closeRefusal? entry.object descriptor ≠ none →
    ∀ past later, Course (fun deed plan => plan.Honest ∧ deed ≠ .shutdown)
        (close (.cached id) streams).2 past later →
      Orphaned later entry.object ∧
        later.remote.session.descriptors.find? entry.object = some descriptor

/-- Whatever fails when a stream of the table is closed, this is what the close leaves behind. Its
object becomes an orphan exactly if the session refuses to close it. -/
theorem close_orphans (attainable : streams.Attainable)
    (found : streams.table.find? id = some entry) :
    ∃ outcome kept descriptor, LeavesBehind streams id entry outcome kept descriptor := by
  obtain ⟨honest, near, settings, past, orderly⟩ := attainable.orderly
  obtain ⟨first, sound, -⟩ := (orderly.bears found).sound
  obtain ⟨outcome, kept, descriptor, flushed, opened, relinquishes⟩ :=
    sound.relinquishes (near id entry found)
  have shuts := sound.shuts (near id entry found)
  have ordered := orderly.after_close honest near (.cached id)
  have closed := close_cached found
  rw [Deed.perform, closed] at ordered
  have leaves := relinquishes.leaves
  have table : ((streams.withTable (streams.table.release id)).withRemote
      (entry.close streams.remote).2).table = streams.table.release id := rfl
  have orphaned := orderly.orphaned_release_iff found table shuts.frames
  refine ⟨outcome, kept, descriptor, {
    flushed := flushed
    opened := opened
    reports := closed ▸ relinquishes.reports
    released := closed ▸ table
    orphaned_iff := ?_
    unsaved := relinquishes.unsaved
    unstored := fun refused => closed ▸ relinquishes.unstored refused
    remains := ?_ }⟩
  · intro object
    rw [closed, orphaned, withRemote, leaves, ne_eq, ne_eq, Option.map_eq_none_iff]
  · intro refused _ _ reached
    rw [closed] at reached
    obtain ⟨cause, refused⟩ := Option.ne_none_iff_exists'.mp refused
    rw [refused] at leaves
    have strays : Strays ((streams.withTable (streams.table.release id)).withRemote
        (entry.close streams.remote).2) entry.object descriptor := {
      opened := leaves
      unowned := ((orphaned entry.object).mpr (.inr ⟨rfl, fun gone => by
        have present := leaves.symm.trans gone
        contradiction⟩)).2
      given := Nat.le_trans sound.numbered shuts.frames.numbers }
    have still := strays.course ordered reached
    exact ⟨still.orphaned, still.opened⟩

/-- An object is open and a byte for it waits in the window of its stream. -/
def byteTaken : Streams :=
  ((Deed.serve (.cached ⟨0⟩) (.putByte 9)).perform
    (((Deed.openStream "remote:a" "r+").perform (oneObject.armed ∅)).2.armed ∅)).2

/-- The store takes nothing any more. -/
def unstorable : FaultPlan := FiniteMap.insert ∅ .storePut (.arm .refused 0 none)

/-- A store that takes nothing is honest about it. -/
theorem honest_unstorable : unstorable.Honest := by
  have refuses : Fault.Honest .refused := trivial
  exact FaultPlan.honest_empty.arm .storePut refuses 0 none

/-- A program can come there, whatever fails next. -/
theorem attainable_byteTaken {faults : FaultPlan} (honest : faults.Honest) :
    (byteTaken.armed faults).Attainable := by
  have opened : Course (fun _ plan => plan.Honest) oneObject _ _ :=
    Course.start.proceed (.openStream "remote:a" "r+") FaultPlan.honest_empty (by decide) trivial
  have taken := opened.proceed (.serve (.cached ⟨0⟩) (.putByte 9)) FaultPlan.honest_empty
    (by decide) trivial
  exact ⟨_, _, _, _, _, _, faults, few_created 1 _, taken, by decide, honest, rfl⟩

/-- An object that could not be uploaded keeps what was written to it, and a stream that is opened
on the same path later gets another object. -/
theorem close_orphans_unstored :
    (byteTaken.armed unstorable).Attainable ∧
    (∃ entry, (byteTaken.armed unstorable).table.find? ⟨0⟩ = some entry ∧ entry.object = ⟨1⟩) ∧
    ∃ past later descriptor, Course (fun deed plan => plan.Honest ∧ deed ≠ .shutdown)
        (close (.cached ⟨0⟩) (byteTaken.armed unstorable)).2 past later ∧
      later.table.size = 1 ∧ Orphaned later ⟨1⟩ ∧
      later.remote.session.descriptors.find? ⟨1⟩ = some descriptor ∧
      descriptor.upload? = some [9, 2, 3] := by
  have attainable := attainable_byteTaken honest_unstorable
  have found : (byteTaken.armed unstorable).table.find? ⟨0⟩ = some _ := rfl
  obtain ⟨outcome, kept, descriptor, leaves⟩ := close_orphans attainable found
  obtain rfl : ⟨⟨"a"⟩, .readWrite, 1, .staged [9, 2, 3] true⟩ = descriptor := by
    obtain rfl : _ = kept := congrArg Prod.snd leaves.flushed
    exact Option.some.inj leaves.opened
  have again : Course (fun deed plan => plan.Honest ∧ deed ≠ .shutdown)
      (close (.cached ⟨0⟩) (byteTaken.armed unstorable)).2 _ _ :=
    Course.start.proceed (.openStream "remote:a" "r+") ⟨FaultPlan.honest_empty, by simp⟩
      (by decide) trivial
  obtain ⟨orphaned, still⟩ := leaves.remains (by decide) _ _ again
  exact ⟨attainable, ⟨_, rfl, rfl⟩, _, _, _, again, rfl, orphaned, still, rfl⟩

/-- After a close whose upload fails an object is open that belongs to no stream of the table. -/
theorem close_leaves_orphan : ∃ streams entry, streams.Attainable ∧
    (∀ object, ¬Orphaned streams object) ∧ streams.table.find? ⟨0⟩ = some entry ∧
    (close (.cached ⟨0⟩) streams).1 = .error (.remote (.generic (.injected .storePut))) ∧
    Orphaned (close (.cached ⟨0⟩) streams).2 entry.object := by
  have closable (deed : Deed) : deed.Closable ∅ :=
    ⟨FaultPlan.honest_empty, FaultPlan.spares_empty _, fun _ => FaultPlan.spares_empty _⟩
  have opened : Course Deed.Closable oneObject _ _ :=
    Course.start.proceed (.openStream "remote:a" "r+") (closable _) (by decide) trivial
  have taken := opened.proceed (.serve (.cached ⟨0⟩) (.putByte 9)) (closable _) (by decide) trivial
  have accounted : Accounted byteTaken := taken.accounted (few_created 1 _) rfl
  refine ⟨byteTaken.armed unstorable, _, attainable_byteTaken honest_unstorable, ?_, rfl, rfl,
    by decide, fun id entry found => ?_⟩
  · rintro object ⟨present, unowned⟩
    obtain ⟨id, entry, found, same⟩ := accounted object present
    exact unowned id entry found same
  · have inside := SlotTable.mem_entries.mpr found
    contradiction

end Streams

end RemoteStreams
