import RemoteStreams.Proofs.ClosingAll
import RemoteStreams.Proofs.TableFaults

/-! # Courses of deeds

A program opens, uses and closes streams as it likes and may shut down at any time, while the calls
to the remote side fail in any honest way (`RemoteStreams.Streams.Course`). All along, every entry
of the table is the only stream of an open object, and what a stream took from its user is not lost
(`RemoteStreams.Streams.Course.orderly`).
-/

namespace RemoteStreams

open Remote

/-- Something that a program does with its streams. -/
inductive Deed where
  | openStream (path mode : String)
  | serve (stream : Stream) (request : Request)
  | close (stream : Stream)
  | shutdown
deriving DecidableEq, Repr

namespace Deed

/-- Does what was said, and delivers nothing but that it was done. -/
def perform : Deed → StreamsAction Unit
  | openStream path mode => (fun _ => ()) <$> Streams.openStream path mode
  | serve stream request => (fun _ => ()) <$> Streams.serve stream request
  | close stream => Streams.close stream
  | shutdown => Streams.shutdown

/-- No buffer is too large to be addressed. -/
def Addressable : Deed → Prop
  | serve _ request => request.Addressable
  | openStream _ _ | close _ | shutdown => True

/-- A stream is opened under this id. -/
def Opens : Deed → Streams → StreamId → Prop
  | openStream path mode, streams, id => (Streams.openStream path mode streams).1 = .ok (.cached id)
  | serve _ _, _, _ | close _, _, _ | shutdown, _, _ => False

/-- The stream takes a byte from its user. -/
def Feeds : Deed → Streams → StreamId → Prop
  | serve stream request, streams, id => stream = .cached id ∧ request.Ready ∧
      (Streams.perform stream request.operation streams).1.Took
  | openStream _ _, _, _ | close _, _, _ | shutdown, _, _ => False

/-- The stream is given data that ends where no object can reach. -/
def Overruns : Deed → Streams → StreamId → Prop
  | serve stream request, streams, id => stream = .cached id ∧
      ∃ entry, streams.table.find? id = some entry ∧ ¬request.operation.FitsAt entry.here
  | openStream _ _, _, _ | close _, _, _ | shutdown, _, _ => False

/-- The store gets another object in the place of the one that the stream has open. -/
def Replaces (deed : Deed) (streams : Streams) (id : StreamId) : Prop :=
  ∃ entry descriptor, streams.table.find? id = some entry ∧
    streams.remote.session.descriptors.find? entry.object = some descriptor ∧
    (deed.perform streams).2.remote.objects.find? descriptor.location ≠
      streams.remote.objects.find? descriptor.location

instance : (deed : Deed) → Decidable deed.Addressable
  | serve _ request => inferInstanceAs (Decidable request.Addressable)
  | openStream _ _ | close _ | shutdown => inferInstanceAs (Decidable True)

end Deed

/-- What happened to a stream since it was opened: whether it took a byte from its user, whether
the store got another object in its place, and whether it was given data that ends where no object
can reach. -/
structure Past where
  took : Prop
  replaced : Prop
  overran : Prop

/-- What happened to a stream after one more deed. -/
def Deed.past (deed : Deed) (streams : Streams) (before : StreamId → Past) (id : StreamId) :
    Past where
  took := ((before id).took ∨ deed.Feeds streams id) ∧ ¬deed.Opens streams id
  replaced := ((before id).replaced ∨ deed.Replaces streams id) ∧ ¬deed.Opens streams id
  overran := ((before id).overran ∨ deed.Overruns streams id) ∧ ¬deed.Opens streams id

/-- Nothing more happened to a stream than is said of it. -/
structure Past.Covers (past past' : Past) (stream : CachedStream) (before after : Remote) :
    Prop where
  took : past'.took → past.took
  kept : ¬past'.replaced → ¬past.replaced ∧ ∀ descriptor,
    before.session.descriptors.find? stream.object = some descriptor →
      after.objects.find? descriptor.location = before.objects.find? descriptor.location
  fitted : ¬past'.overran → ¬past.overran

/-- Nothing more happened to a stream while the store stayed as it is. -/
theorem Past.covers_same (past : Past) (stream : CachedStream) {before after : Remote}
    (objects : after.objects = before.objects) : past.Covers past stream before after :=
  ⟨id, fun kept => ⟨kept, fun _ _ => by rw [objects]⟩, id⟩

/-- A deed that neither opens a stream nor gives it a byte can only replace its object. -/
theorem Deed.covers {deed : Deed} {streams : Streams} {before : StreamId → Past} {id : StreamId}
    {entry : CachedStream} (found : streams.table.find? id = some entry)
    (opens : ¬deed.Opens streams id) (feeds : ¬deed.Feeds streams id) :
    (before id).Covers (deed.past streams before id) entry streams.remote
      (deed.perform streams).2.remote where
  took := fun took => took.1.resolve_right feeds
  kept := fun kept => by
    have quiet : ¬((before id).replaced ∨ deed.Replaces streams id) :=
      fun some => kept ⟨some, opens⟩
    refine ⟨fun replaced => quiet (.inl replaced), fun descriptor opened => ?_⟩
    exact Decidable.not_not.mp fun other => quiet (.inr ⟨entry, descriptor, found, opened, other⟩)
  fitted := fun fitted overran => fitted ⟨.inl overran, opens⟩

namespace Attached

variable {attached : Attached} {descriptor : Descriptor}

/-- What was said about a stream stays true of it while it is used. -/
theorem Sound.perform (sound : attached.Sound descriptor) {operation : Operation}
    (addressable : operation.Addressable) :
    ∃ moved, (CachedStream.perform operation attached).2.Sound moved ∧
      Drifts attached.stream.object attached.remote descriptor
        (CachedStream.perform operation attached).2.remote moved ∧
      (CachedStream.perform operation attached).2.stream.object = attached.stream.object := by
  obtain ⟨same, moved, drifts⟩ := CachedStream.perform_drifts sound.serves operation
  refine ⟨moved, ⟨same ▸ drifts.serves, ?_, fun writable => ?_⟩, drifts, same⟩
  · rw [same]
    exact Nat.le_trans sound.numbered drifts.frames.numbers
  · obtain ⟨coherent, roomy⟩ := sound.coherent (drifts.drifted.mode ▸ writable)
    obtain ⟨final, tracks⟩ := CachedStream.perform_followed addressable attached
      ⟨descriptor, (Advances.refl coherent).tracks⟩
    have found := tracks.coherent.serves.found
    rw [same, drifts.serves.found] at found
    obtain rfl := Option.some.inj found
    exact ⟨tracks.coherent, tracks.limit ▸ roomy⟩

/-- What is staged stays as faithful as it was while the stream is used, unless it is given data
that ends where no object can reach. -/
theorem Sound.faithful (sound : attached.Sound descriptor)
    (near : attached.stream.here < PlainFile.positionBound) {operation : Operation}
    (addressable : operation.Addressable) (fits : operation.FitsAt attached.stream.here)
    {moved : Descriptor} (drifts : Drifts attached.stream.object attached.remote descriptor
      (CachedStream.perform operation attached).2.remote moved)
    (faithful : descriptor.Faithful attached.remote.objects) :
    moved.Faithful (CachedStream.perform operation attached).2.remote.objects := by
  rw [drifts.objects]
  cases writable : descriptor.mode.writable with
  | true =>
      obtain ⟨coherent, -⟩ := sound.coherent writable
      obtain ⟨final, answers⟩ := CachedStream.perform_answers coherent near addressable fits
      have moves := answers.advances.moves
      obtain rfl := Option.some.inj (drifts.serves.found.symm.trans moves.serves.found)
      exact moves.evolved.faithful faithful
  | false => exact (drifts.moves sound.serves.sound writable).evolved.faithful faithful

/-- A stream stays coherent as long as the store keeps what it has in the place of its object. -/
theorem Coherent.stays {stream : CachedStream} {before after : Remote}
    (coherent : Coherent ⟨stream, before⟩ descriptor)
    (serves : after.Serves stream.object descriptor)
    (same : after.objects.find? descriptor.location =
      before.objects.find? descriptor.location) : Coherent ⟨stream, after⟩ descriptor :=
  { coherent with
    serves := serves
    mirrored := fun clean backing backed => coherent.mirrored clean backing <| by
      unfold Descriptor.backing? at backed ⊢
      rwa [same] at backed }

/-- A stream has an open object. What the stream took is not saved yet, and what was not replaced
is still in the store, so that the stream knows what it shows. -/
structure Bears (past : Past) (attached : Attached) : Prop where
  sound : ∃ descriptor, attached.Sound descriptor ∧
    (¬past.replaced → ¬past.overran → descriptor.Faithful attached.remote.objects)
  unsaved : past.took → attached.Unsaved
  coherent : ¬past.replaced → ∃ descriptor, attached.Coherent descriptor

/-- What does not touch the object of a stream leaves it as it is, as long as its past covers what
was stored meanwhile. -/
theorem Bears.framed {stream : CachedStream} {before after : Remote} {past past' : Past}
    {touched : ObjectId → Prop} (bears : Bears past ⟨stream, before⟩)
    (untouched : ¬touched stream.object) (frames : Frames touched before after)
    (covers : past.Covers past' stream before after) : Bears past' ⟨stream, after⟩ := by
  obtain ⟨descriptor, sound, faithful⟩ := bears.sound
  have later := sound.framed untouched frames
  refine ⟨⟨descriptor, later, fun kept fitted data staged => ?_⟩, fun took => ?_, fun kept => ?_⟩
  · obtain ⟨before, same⟩ := covers.kept kept
    exact (same descriptor sound.serves.found).trans
      (faithful before (covers.fitted fitted) data staged)
  · exact (unsaved_congr sound.serves later.serves).mp (bears.unsaved (covers.took took))
  · obtain ⟨before, same⟩ := covers.kept kept
    obtain ⟨other, coherent⟩ := bears.coherent before
    obtain rfl := Option.some.inj (sound.serves.found.symm.trans coherent.serves.found)
    exact ⟨descriptor, coherent.stays later.serves (same descriptor sound.serves.found)⟩

/-- A stream that was just opened took nothing, and it starts from what the store has. -/
theorem Bears.opened {before : Remote} {name : String} {sizes : BufferSizes} {past : Past}
    {entry : CachedStream} {ended : Outcome StreamError CachedStream × Remote}
    (opening : CachedStream.Opening before name sizes ended) (delivered : ended.1 = .ok entry)
    (ordered : sizes.initial ≤ sizes.max) (roomy : 0 < sizes.max) (idle : ¬past.took) :
    entry.object = before.session.nextObject ∧ Bears past ⟨entry, ended.2⟩ := by
  obtain ⟨rfl, small, numbered, descriptor, serves, start, faithful⟩ :=
    opening.delivers _ delivered
  have coherent := CachedStream.coherent_fresh serves start name ordered small
  have sound : Sound ⟨.fresh _ name sizes, ended.2⟩ descriptor :=
    ⟨serves, numbered, fun _ => ⟨coherent, roomy⟩⟩
  exact ⟨rfl, ⟨descriptor, sound, fun _ _ => faithful⟩, fun took => (idle took).elim,
    fun _ => ⟨descriptor, coherent⟩⟩

/-- What a stream takes is kept until it is closed, and meanwhile the store is left alone. -/
theorem Bears.perform {past past' : Past} (bears : Bears past attached)
    (near : attached.stream.here < PlainFile.positionBound) {operation : Operation}
    (addressable : operation.Addressable)
    (took : past'.took → past.took ∨ (CachedStream.perform operation attached).1.Took)
    (kept : ¬past'.replaced → ¬past.replaced)
    (fitted : ¬past'.overran → ¬past.overran ∧ operation.FitsAt attached.stream.here) :
    Bears past' (CachedStream.perform operation attached).2 := by
  obtain ⟨descriptor, sound, faithful⟩ := bears.sound
  obtain ⟨moved, later, drifts, -⟩ := sound.perform addressable
  have opens : CachedStream.On attached.stream.object (·.Opens attached.stream.object) attached :=
    ⟨rfl, descriptor, sound.serves⟩
  refine ⟨⟨moved, later, fun still within => ?_⟩, fun now => ?_, fun still => ?_⟩
  · obtain ⟨before, fits⟩ := fitted within
    exact sound.faithful near addressable fits drifts (faithful (kept still) before)
  · rcases took now with before | now
    · exact (CachedStream.perform_keeping operation attached
        ⟨opens, bears.unsaved before⟩).unsaved
    · refine (CachedStream.perform_took opens (fun byte _ => ?_) now).unsaved
      cases writable : descriptor.mode.writable with
      | true =>
          obtain ⟨coherent, roomy⟩ := sound.coherent writable
          exact CachedStream.write_byte_ne_zero coherent near roomy byte
      | false =>
          exact CachedStream.write_ne_zero ⟨rfl, descriptor, sound.serves, writable⟩ (by simp)
  · obtain ⟨other, coherent⟩ := bears.coherent (kept still)
    obtain ⟨final, tracks⟩ := CachedStream.perform_followed addressable attached
      ⟨other, (Advances.refl coherent).tracks⟩
    exact ⟨final, tracks.coherent⟩

/-- A stream that is for writing, or whose object was not replaced, knows what it shows. -/
theorem Bears.known {past : Past} (bears : Bears past attached)
    (known : (∃ descriptor, attached.remote.session.descriptors.find? attached.stream.object =
      some descriptor ∧ descriptor.mode.writable = true) ∨ ¬past.replaced) :
    ∃ descriptor, attached.Coherent descriptor := by
  rcases known with ⟨descriptor, found, writable⟩ | kept
  · obtain ⟨other, sound, -⟩ := bears.sound
    obtain rfl := Option.some.inj (sound.serves.found.symm.trans found)
    exact ⟨other, (sound.coherent writable).1⟩
  · exact bears.coherent kept

end Attached

namespace Streams

open Attached

/-- The same streams, with other faults in store. -/
def armed (faults : FaultPlan) (streams : Streams) : Streams :=
  streams.withRemote { streams.remote with faults }

/-- No stream is too far into its object. -/
def Near (streams : Streams) : Prop :=
  ∀ id entry, streams.table.find? id = some entry → entry.here < PlainFile.positionBound

/-- A program has come to these streams, each of them with its past. Before each deed faults are
armed as they may be for it. -/
inductive Course (allowed : Deed → FaultPlan → Prop) (start : Streams) :
    (StreamId → Past) → Streams → Prop
  | start : Course allowed start (fun _ => ⟨False, False, False⟩) start
  | step {past : StreamId → Past} {streams : Streams} {deed : Deed} {faults : FaultPlan}
      (before : Course allowed start past streams) (permitted : allowed deed faults)
      (near : streams.Near) (addressable : deed.Addressable) :
      Course allowed start (deed.past (streams.armed faults) past)
        (deed.perform (streams.armed faults)).2

/-- The entries of the table are streams of objects of their own. -/
structure Orderly (settings : Settings) (past : StreamId → Past) (streams : Streams) : Prop where
  known : streams.settings = settings
  capacity : streams.table.capacity = settings.maxStreams
  ordered : settings.sizes.initial ≤ settings.sizes.max
  roomy : 0 < settings.sizes.max
  bears : ∀ {id entry}, streams.table.find? id = some entry →
    Bears (past id) ⟨entry, streams.remote⟩
  apart : ∀ {id other entry third}, streams.table.find? id = some entry →
    streams.table.find? other = some third → entry.object = third.object → id = other

variable {settings : Settings} {past past' : StreamId → Past} {streams after : Streams}
  {touched : ObjectId → Prop} {id : StreamId} {entry : CachedStream}

/-- A new table is in order, as it is empty. -/
theorem Orderly.of_create {remote : Remote} {disk : Disk}
    (created : create settings remote disk = .ok streams) :
    Orderly settings past streams := by
  unfold create at created
  split at created
  · next sized =>
      obtain rfl := Except.ok.inj created
      exact {
        known := rfl
        capacity := SlotTable.capacity_create _
        ordered := sized.2
        roomy := Nat.lt_of_lt_of_le sized.1 sized.2
        bears := fun found => by simp at found
        apart := fun found => by simp at found }
  · contradiction

/-- What touches none of the objects leaves all entries as they are. -/
theorem Orderly.untouched (orderly : Orderly settings past streams)
    (known : after.settings = streams.settings) (table : after.table = streams.table)
    (frames : Frames touched streams.remote after.remote)
    (others : ∀ id entry, streams.table.find? id = some entry → ¬touched entry.object ∧
      (past id).Covers (past' id) entry streams.remote after.remote) :
    Orderly settings past' after where
  known := known.trans orderly.known
  capacity := table ▸ orderly.capacity
  ordered := orderly.ordered
  roomy := orderly.roomy
  bears := fun found => by
    rw [table] at found
    obtain ⟨free, covers⟩ := others _ _ found
    exact (orderly.bears found).framed free frames covers
  apart := fun found other => by
    rw [table] at found other
    exact orderly.apart found other

/-- What touches one object may change the entry that it belongs to. -/
theorem Orderly.next (orderly : Orderly settings past streams)
    (frames : Frames touched streams.remote after.remote) (id : StreamId)
    (seat : Option CachedStream) (known : after.settings = streams.settings)
    (table : after.table = streams.table.assign id seat) (inside : id.slot < streams.table.capacity)
    (own : ∀ entry, seat = some entry →
      touched entry.object ∧ Bears (past' id) ⟨entry, after.remote⟩)
    (others : ∀ other entry, other ≠ id → streams.table.find? other = some entry →
      ¬touched entry.object ∧ (past other).Covers (past' other) entry streams.remote after.remote) :
    Orderly settings past' after := by
  have moved {other : StreamId} {entry : CachedStream}
      (found : after.table.find? other = some entry) :
      other = id ∧ seat = some entry ∨ other ≠ id ∧ streams.table.find? other = some entry := by
    rw [table] at found
    by_cases same : other = id
    · subst same
      rw [SlotTable.find?_assign_self inside] at found
      exact .inl ⟨rfl, found⟩
    · rw [SlotTable.find?_assign_of_ne _ same] at found
      exact .inr ⟨same, found⟩
  refine ⟨known.trans orderly.known, ?_, orderly.ordered, orderly.roomy, fun found => ?_,
    fun found again same => ?_⟩
  · rw [table, SlotTable.capacity_assign, orderly.capacity]
  · rcases moved found with ⟨rfl, seats⟩ | ⟨differs, found⟩
    · exact (own _ seats).2
    · obtain ⟨free, covers⟩ := others _ _ differs found
      exact (orderly.bears found).framed free frames covers
  · rcases moved found with ⟨rfl, seats⟩ | ⟨differs, found⟩ <;>
      rcases moved again with ⟨rfl, seats'⟩ | ⟨differs', again⟩
    · rfl
    · exact ((others _ _ differs' again).1 (same ▸ (own _ seats).1)).elim
    · exact ((others _ _ differs found).1 (same ▸ (own _ seats').1)).elim
    · exact orderly.apart found again same

/-- The table stays in order whatever fails next, as long as that is honest. -/
theorem Orderly.armed (orderly : Orderly settings past streams) {faults : FaultPlan}
    (honest : faults.Honest) : Orderly settings past (streams.armed faults) := by
  have same : Frames (fun _ => False) streams.remote (streams.armed faults).remote :=
    .same (fun _ => honest) rfl
  exact orderly.untouched rfl rfl same fun id entry _ =>
    ⟨False.elim, (past id).covers_same entry rfl⟩

/-- The next object belongs to no stream yet. -/
theorem Orderly.fresh (orderly : Orderly settings past streams)
    (found : streams.table.find? id = some entry) :
    entry.object ≠ streams.remote.session.nextObject := by
  obtain ⟨descriptor, sound, -⟩ := (orderly.bears found).sound
  intro same
  have numbered := sound.numbered
  rw [same] at numbered
  exact Nat.not_succ_le_self _ numbered

/-- What a stream of the table does touches its own object only. -/
theorem Orderly.others (orderly : Orderly settings past streams)
    (found : streams.table.find? id = some entry) {other : StreamId} {third : CachedStream}
    (differs : other ≠ id) (again : streams.table.find? other = some third) :
    third.object ≠ entry.object :=
  fun same => differs (orderly.apart again found same)

/-- The table stays in order when a stream is opened, whether that succeeds or not. -/
theorem Orderly.after_openStream (orderly : Orderly settings past streams)
    (honest : streams.remote.faults.Honest) (path mode : String) :
    Orderly settings ((Deed.openStream path mode).past streams past)
      ((Deed.openStream path mode).perform streams).2 := by
  have noted : Frames (fun _ => False) streams.remote
      (streams.remote.noting (.openingStream path mode)) := .same id rfl
  have covers {other : StreamId} {third : CachedStream}
      (found : streams.table.find? other = some third)
      (unopened : (openStream path mode streams).1 ≠ .ok (.cached other)) :
      (past other).Covers ((Deed.openStream path mode).past streams past other) third
        streams.remote ((Deed.openStream path mode).perform streams).2.remote :=
    Deed.covers found unopened id
  rw [Deed.perform, Action.map_apply] at covers ⊢
  dsimp only at covers ⊢
  cases named : streams.settings.objectPath? path with
  | none =>
      obtain ⟨outcome, disk, opens, unopened, -⟩ := openStream_unnamed named mode
      rw [opens] at covers ⊢
      exact orderly.untouched rfl rfl noted fun other third found =>
        ⟨id, covers found (unopened other)⟩
  | some name =>
      cases full : streams.table.isFull with
      | true =>
          rw [openStream_full full named] at covers ⊢
          exact orderly.untouched rfl rfl noted fun other third found =>
            ⟨id, covers found (by simp)⟩
      | false =>
          have ordered := orderly.ordered
          rw [← orderly.known] at ordered
          obtain ⟨ended, opening, ends⟩ := openStream_ends honest ordered full named mode
          rcases ends with
            ⟨outcome, opens, unopened, -⟩ | ⟨id, entry, opens, delivered, vacant, inside⟩
          · rw [opens] at covers ⊢
            exact orderly.untouched rfl rfl opening.frames fun other third found =>
              ⟨orderly.fresh found, covers found (unopened _)⟩
          · have reopened : (Deed.openStream path mode).Opens streams id := congrArg Prod.fst opens
            rw [opens] at covers ⊢
            refine orderly.next opening.frames id _ rfl rfl inside (fun _ seats => ?_)
              fun other third differs found => ⟨orderly.fresh found, covers found fun same => ?_⟩
            · obtain rfl := Option.some.inj seats
              exact Bears.opened opening delivered ordered (orderly.known ▸ orderly.roomy)
                fun took => took.2 reopened
            · exact differs (Stream.cached.inj (Outcome.ok.inj same)).symm

/-- What is done on the disk alone does not matter to the table. -/
theorem Orderly.withDisk (orderly : Orderly settings past streams)
    (honest : streams.remote.faults.Honest) {disk : Disk}
    (covers : ∀ id entry, streams.table.find? id = some entry →
      (past id).Covers (past' id) entry streams.remote streams.remote) :
    Orderly settings past' (streams.withDisk disk) := by
  have same : Frames (fun _ => False) streams.remote (streams.withDisk disk).remote :=
    .same (fun _ => honest) rfl
  exact orderly.untouched rfl rfl same fun id entry found => ⟨False.elim, covers id entry found⟩

/-- The table stays in order when a stream serves a request, even if a write is given up. -/
theorem Orderly.after_serve (orderly : Orderly settings past streams)
    (honest : streams.remote.faults.Honest) (near : streams.Near) (stream : Stream)
    {request : Request} (addressable : request.Addressable) :
    Orderly settings ((Deed.serve stream request).past streams past)
      ((Deed.serve stream request).perform streams).2 := by
  have covers {other : StreamId} {third : CachedStream}
      (found : streams.table.find? other = some third)
      (unfed : ¬(Deed.serve stream request).Feeds streams other) :
      (past other).Covers ((Deed.serve stream request).past streams past other) third
        streams.remote ((Deed.serve stream request).perform streams).2.remote :=
    Deed.covers found id unfed
  rw [Deed.perform, Action.map_apply] at covers ⊢
  dsimp only at covers ⊢
  rcases serve_ends stream request streams with
    ⟨⟨disk, served⟩, idle⟩ | ⟨id, entry, rfl, found, served⟩
  · rw [served] at covers ⊢
    exact orderly.withDisk honest fun id entry found =>
      covers found fun fed => idle id entry fed.1 found fed.2.1
  · obtain ⟨descriptor, sound, -⟩ := (orderly.bears found).sound
    have close := near id entry found
    obtain ⟨_, -, drifts, same⟩ := sound.perform addressable.operation
    rw [served] at covers ⊢
    refine orderly.next drifts.frames id _ rfl rfl (SlotTable.slot_lt_capacity found)
      (fun _ seats => ?_) fun other third differs again =>
        ⟨orderly.others found differs again, covers again fun fed => ?_⟩
    · obtain rfl := Option.some.inj seats
      refine ⟨same, (orderly.bears found).perform close addressable.operation (fun took => ?_)
        (fun kept => ?_) fun fitted => ⟨?_, ?_⟩⟩
      · refine took.1.imp_right fun fed => ?_
        have took := fed.2.2
        rwa [Streams.perform, onCached_apply found] at took
      · exact fun replaced => kept ⟨.inl replaced, False.elim⟩
      · exact fun overran => fitted ⟨.inl overran, False.elim⟩
      · exact Decidable.not_not.mp fun beyond =>
          fitted ⟨.inr ⟨rfl, entry, found, beyond⟩, False.elim⟩
    · exact differs (Stream.cached.inj fed.1).symm

/-- The table stays in order when a stream is closed, though its object may stay open. -/
theorem Orderly.after_close (orderly : Orderly settings past streams)
    (honest : streams.remote.faults.Honest) (near : streams.Near) (stream : Stream) :
    Orderly settings ((Deed.close stream).past streams past)
      ((Deed.close stream).perform streams).2 := by
  have covers {other : StreamId} {third : CachedStream}
      (found : streams.table.find? other = some third) :
      (past other).Covers ((Deed.close stream).past streams past other) third
        streams.remote ((Deed.close stream).perform streams).2.remote :=
    Deed.covers found id id
  rw [Deed.perform] at covers ⊢
  rcases close_ends stream streams with ⟨disk, closed⟩ | ⟨id, entry, rfl, found⟩
  · rw [closed] at covers ⊢
    exact orderly.withDisk honest fun _ _ => covers
  · obtain ⟨descriptor, sound, -⟩ := (orderly.bears found).sound
    have shuts := sound.shuts (near id entry found)
    rw [close_cached found] at covers ⊢
    exact orderly.next shuts.frames id none rfl rfl (SlotTable.slot_lt_capacity found) (by simp)
      fun other third differs again => ⟨orderly.others found differs again, covers again⟩

/-- What is said about the entries of the table is said about the streams that a shutdown closes. -/
theorem Orderly.held (orderly : Orderly settings past streams) (near : streams.Near) :
    Held streams.table.entries streams.remote where
  sound := fun member inside =>
    (orderly.bears (SlotTable.mem_entries.mp inside)).sound.imp fun _ => And.left
  near := fun member inside => near _ _ (SlotTable.mem_entries.mp inside)
  apart := streams.table.pairwise_entries.imp_of_mem fun first second lower same => by
    have together := orderly.apart (SlotTable.mem_entries.mp first)
      (SlotTable.mem_entries.mp second) same
    rw [together] at lower
    exact Nat.lt_irrefl _ lower

/-- The table is empty after a shutdown, and so it is in order. -/
theorem Orderly.after_shutdown (orderly : Orderly settings past streams) (near : streams.Near) :
    Orderly settings past' (shutdown streams).2 := by
  rw [shutdown_apply streams (orderly.held near).shut.whole]
  exact {
    known := orderly.known
    capacity := (SlotTable.capacity_create _).trans orderly.capacity
    ordered := orderly.ordered
    roomy := orderly.roomy
    bears := fun found => by simp [withRemote, withTable] at found
    apart := fun found => by simp [withRemote, withTable] at found }

/-- Each deed leaves the table in order. -/
theorem Orderly.after_perform (orderly : Orderly settings past streams)
    (honest : streams.remote.faults.Honest) (near : streams.Near) {deed : Deed}
    (addressable : deed.Addressable) :
    Orderly settings (deed.past streams past) (deed.perform streams).2 := by
  cases deed with
  | openStream path mode => exact orderly.after_openStream honest path mode
  | serve stream request => exact orderly.after_serve honest near stream addressable
  | close stream => exact orderly.after_close honest near stream
  | shutdown => exact orderly.after_shutdown near

/-- By induction on the deeds, a course of them leaves the table in order. -/
theorem Course.orderly {allowed : Deed → FaultPlan → Prop} {remote : Remote} {disk : Disk}
    {start : Streams} (honest : ∀ deed faults, allowed deed faults → faults.Honest)
    (created : create settings remote disk = .ok start)
    (reached : Course allowed start past streams) : Orderly settings past streams := by
  induction reached with
  | start => exact .of_create created
  | step _ permitted near addressable before =>
      have trusted := honest _ _ permitted
      exact (before.armed trusted).after_perform trusted near addressable

/-- A deed that meets no faults. -/
theorem Course.proceed {allowed : Deed → FaultPlan → Prop} {start : Streams} {faults : FaultPlan}
    (before : Course allowed start past streams) (deed : Deed) (permitted : allowed deed faults)
    (near : streams.Near) (addressable : deed.Addressable) :
    Course allowed start (deed.past (streams.armed faults) past)
      (deed.perform (streams.armed faults)).2 :=
  .step before permitted near addressable

/-- A deed in a course without any faults. -/
theorem Course.undisturbed {start : Streams}
    (before : Course (fun _ faults => faults = ∅) start past streams) (deed : Deed)
    (near : streams.Near) (addressable : deed.Addressable) :
    Course (fun _ faults => faults = ∅) start (deed.past (streams.armed ∅) past)
      (deed.perform (streams.armed ∅)).2 :=
  .step before rfl near addressable

/-- A program can come to these streams. Whatever happened on the way and whatever fails next fails
honestly, and no stream is too far into its object. -/
def Attainable (streams : Streams) : Prop :=
  ∃ settings remote disk start past before faults, create settings remote disk = .ok start ∧
    Course (fun _ plan => plan.Honest) start past before ∧ before.Near ∧ faults.Honest ∧
    streams = before.armed faults

/-- The streams that a program can come to are in order. -/
theorem Attainable.orderly (attainable : streams.Attainable) :
    streams.remote.faults.Honest ∧ streams.Near ∧ ∃ settings past, Orderly settings past streams := by
  obtain ⟨settings, remote, disk, start, past, before, faults, created, reached, near, honest,
    rfl⟩ := attainable
  exact ⟨honest, near, settings, past, (reached.orderly (fun _ _ => id) created).armed honest⟩

/-- A few slots with small windows, and nothing open yet. -/
def few (slots : Nat) (objects : FiniteMap ObjectPath Bytes) : Streams where
  settings := ⟨"remote:", slots, ⟨2, 4⟩⟩
  table := .create slots
  remote := .create objects true
  disk := .create [] ∅

theorem few_created (slots : Nat) (objects : FiniteMap ObjectPath Bytes) :
    create ⟨"remote:", slots, ⟨2, 4⟩⟩ (.create objects true) (.create [] ∅) =
      .ok (few slots objects) := rfl

/-- It is enough to look at the entries of the table. -/
theorem near_iff : streams.Near ↔
    ∀ member ∈ streams.table.entries, member.2.here < PlainFile.positionBound :=
  ⟨fun near _ inside => near _ _ (SlotTable.mem_entries.mp inside),
    fun near _ _ found => near _ (SlotTable.mem_entries.mpr found)⟩

instance (streams : Streams) : Decidable streams.Near := decidable_of_iff _ near_iff.symm

end Streams

end RemoteStreams
