import RemoteStreams.Proofs.SharedStreams

/-! # Independence

Users who share the streams, but keep to places of their own, cannot tell whether the others are
there. Two states are alike to a user if the same is stored at the user's place and the user holds
the same stream in both, but for the ids (`RemoteStreams.Shared.Alike`). Whatever the user does then
comes out the same in both (`RemoteStreams.Shared.Alike.play`), and what another user does in one
of them leaves them alike (`RemoteStreams.Shared.Alike.foreign`). So every interleaving shows each
user what that user would see alone (`RemoteStreams.Shared.interleaved_eq_alone`).
-/

namespace RemoteStreams

open Remote

namespace Shared

variable {users : Nat} {places : Fin users → ObjectPath} {user other : Fin users}
  {shared alone : Shared users}

/-- A user holds nothing in two states, or the same stream but for the ids. -/
inductive Counterparts (location : ObjectPath) (streams streams' : Streams) :
    Option Stream → Option Stream → Prop
  | nothing : Counterparts location streams streams' none none
  | stream {id id' : StreamId} {object object' : ObjectId} {entry : CachedStream}
      {descriptor : Descriptor}
      (seated : streams.Seated location id (entry.named object) descriptor)
      (seated' : streams'.Seated location id' (entry.named object') descriptor) :
      Counterparts location streams streams' (some (.cached id)) (some (.cached id'))

/-- A user cannot tell one state from another: the same is stored at the user's place, and the
user holds the same stream in both, if any. -/
structure Alike (places : Fin users → ObjectPath) (user : Fin users)
    (shared alone : Shared users) : Prop where
  settings : shared.streams.settings = alone.streams.settings
  stored : shared.streams.remote.objects.find? (places user) =
    alone.streams.remote.objects.find? (places user)
  held : Counterparts (places user) shared.streams alone.streams (shared.held user)
    (alone.held user)

/-- Shared streams are like themselves for each of their users. -/
theorem Sound.alike_refl (sound : shared.Sound places) (user : Fin users) :
    Alike places user shared shared where
  settings := rfl
  stored := rfl
  held := by
    cases holds : shared.held user with
    | none => exact .nothing
    | some stream =>
        obtain ⟨id, entry, descriptor, rfl, seated⟩ := sound.seated user stream holds
        have same : entry.named entry.object = entry := rfl
        exact .stream (same ▸ seated) (same ▸ seated)

/-- What another user does cannot be told. -/
theorem Alike.foreign {after : Shared users} {id : StreamId} {object : ObjectId}
    (alike : Alike places user shared alone) (sound : shared.Sound places)
    (distinct : Function.Injective places) (differs : user ≠ other)
    (acts : Acts places other id object shared after) : Alike places user after alone where
  settings := acts.settings.trans alike.settings
  stored := by
    rw [acts.confined.elsewhere _ fun same => differs (distinct same)]
    exact alike.stored
  held := by
    rw [acts.held user differs]
    have held := alike.held
    generalize holds : shared.held user = stream at held
    generalize alone.held user = stream' at held
    cases held with
    | nothing => exact .nothing
    | @stream slot _ _ _ _ _ seated seated' =>
        have elsewhere : slot ≠ id := by
          rintro rfl
          exact acts.free user differs holds
        exact .stream (acts.seated sound.quiet seated elsewhere
          (acts.new user slot _ differs holds seated.found)) seated'

/-- A user who does nothing takes nothing that others have. -/
theorem Sound.acts_refl (sound : shared.Sound places) (user : Fin users) :
    ∃ id object, Acts places user id object shared shared := by
  cases holds : shared.held user with
  | none =>
      obtain ⟨id, -, free, -⟩ := SlotTable.exists_free (sound.free holds)
      have acts := sound.acts_of_idle holds free rfl rfl (.same rfl rfl fun quiet => quiet)
        (fun _ _ => rfl) (.nothing free)
      rw [← holds, next_self] at acts
      exact ⟨id, _, acts⟩
  | some stream =>
      obtain ⟨id, entry, descriptor, rfl, seated⟩ := sound.seated user stream holds
      have acts := sound.acts_of_held holds seated rfl rfl (.same rfl rfl fun quiet => quiet)
        (fun _ _ => rfl) (.stream rfl seated)
      rw [← holds, next_self] at acts
      exact ⟨id, _, acts⟩

section Twins

variable {id id' : StreamId} {object object' : ObjectId} {stream : CachedStream}
  {descriptor : Descriptor}

/-- The objects of two streams that are the same but for their ids. -/
def twinsOf (sound : shared.Sound places) (sound' : alone.Sound places)
    (seated : shared.streams.Seated (places user) id (stream.named object) descriptor)
    (seated' : alone.streams.Seated (places user) id' (stream.named object') descriptor)
    (stored : shared.streams.remote.objects.find? (places user) =
      alone.streams.remote.objects.find? (places user)) : Twins where
  left := object
  right := object'
  leftSide := shared.streams.remote
  rightSide := alone.streams.remote
  descriptor := descriptor
  leftServes := seated.serves
  rightServes := seated'.serves
  leftQuiet := sound.quiet
  rightQuiet := sound'.quiet
  stored := by rw [seated.located]; exact stored

variable (sound : shared.Sound places) (sound' : alone.Sound places)
  (seated : shared.streams.Seated (places user) id (stream.named object) descriptor)
  (seated' : alone.streams.Seated (places user) id' (stream.named object') descriptor)

/-- The same stream in two tables is a pair of twins if the store has the same for both. -/
theorem twinsOf_atStream (stored : shared.streams.remote.objects.find? (places user) =
      alone.streams.remote.objects.find? (places user)) :
    (twinsOf sound sound' seated seated' stored).AtStream
      ⟨stream.named object, shared.streams.remote⟩ ⟨stream.named object', alone.streams.remote⟩ :=
  ⟨stream, rfl, rfl, descriptor, seated.serves.refl.drifts, seated'.serves.refl.drifts⟩

end Twins

/-- The positions in two streams that cannot be told apart are the same. -/
theorem Alike.tell (alike : Alike places user shared alone) (sound : shared.Sound places)
    (sound' : alone.Sound places) :
    ((shared.held user).map fun stream =>
        (Streams.tell stream shared.streams).1.mapError StreamError.anonymous) =
      (alone.held user).map fun stream =>
        (Streams.tell stream alone.streams).1.mapError StreamError.anonymous := by
  have held := alike.held
  generalize shared.held user = stream at held ⊢
  generalize alone.held user = stream' at held ⊢
  cases held with
  | nothing => rfl
  | stream seated seated' =>
      obtain ⟨told, -⟩ := Twins.tell _ _ (twinsOf_atStream sound sound' seated seated' alike.stored)
      simp only [Option.map_some, Streams.tell, Streams.onCached_apply seated.found,
        Streams.onCached_apply seated'.found, told.anonymous]

/-- What a user does comes out the same, whether the others are there or not. In both cases it
takes nothing that others have. -/
structure Parallel (places : Fin users → ObjectPath) (user : Fin users)
    (shared alone : Shared users) (first second : Option Reaction × Shared users) : Prop where
  reactions : first.1 = second.1
  alike : Alike places user first.2 second.2
  left : ∃ id object, Acts places user id object shared first.2
  right : ∃ id object, Acts places user id object alone second.2

/-- Users who get answers that correspond, and can tell nothing apart afterwards, react alike. -/
theorem Parallel.react {outcome outcome' : Outcome StreamError (Option Answer)}
    {streams streams' : Streams} {stream stream' : Option Stream} {id id' : StreamId}
    {object object' : ObjectId} (sound : shared.Sound places) (sound' : alone.Sound places)
    (ended : outcome.Matches StreamError.Same Eq outcome')
    (alike : Alike places user (shared.next user streams stream) (alone.next user streams' stream'))
    (left : Acts places user id object shared (shared.next user streams stream))
    (right : Acts places user id' object' alone (alone.next user streams' stream')) :
    Parallel places user shared alone (shared.react user outcome streams stream)
      (alone.react user outcome' streams' stream') where
  reactions := by
    have told := alike.tell (left.sound sound) (right.sound sound')
    simp only [next_held_self, next_streams] at told
    simp only [Shared.react, ended.anonymous, told]
  alike := alike
  left := ⟨id, object, left⟩
  right := ⟨id', object', right⟩

/-- What does nothing leaves the two runs alike. -/
theorem Alike.still (alike : Alike places user shared alone) (sound : shared.Sound places)
    (sound' : alone.Sound places) :
    Parallel places user shared alone (none, shared) (none, alone) :=
  ⟨rfl, alike, sound.acts_refl user, sound'.acts_refl user⟩

section Taking

variable {id : StreamId} {entry : CachedStream} {descriptor moved : Descriptor}
  {attached : Attached} {location : ObjectPath} {streams : Streams}

/-- A stream keeps its seat while it is used, even if a write is given up. -/
theorem seated_withAttached (seated : streams.Seated location id entry descriptor)
    (same : attached.stream.object = entry.object)
    (drifts : Drifts entry.object streams.remote descriptor attached.remote moved) :
    (streams.withAttached id attached).Seated location id attached.stream moved := by
  have confined : Confined entry.object descriptor.location streams.remote attached.remote :=
    drifts.confined
  refine ⟨?_, same ▸ drifts.serves, drifts.drifted.location.trans seated.located,
    same ▸ Nat.le_trans seated.numbered confined.numbers⟩
  exact SlotTable.find?_assign_self (SlotTable.slot_lt_capacity seated.found) _

/-- A user goes on with a stream. -/
theorem Sound.acts_of_drifts (sound : shared.Sound places)
    (holds : shared.held user = some (.cached id))
    (seated : shared.streams.Seated (places user) id entry descriptor)
    (same : attached.stream.object = entry.object)
    (drifts : Drifts entry.object shared.streams.remote descriptor attached.remote moved) :
    Acts places user id entry.object shared
      (shared.next user (shared.streams.withAttached id attached) (some (.cached id))) :=
  sound.acts_of_held holds seated rfl (SlotTable.capacity_assign _ _ _)
    (seated.located ▸ drifts.confined) (fun _ differs => SlotTable.find?_assign_of_ne _ differs _)
    (.stream same (seated_withAttached seated same drifts))

/-- A user closes a stream. -/
theorem Sound.acts_of_close (sound : shared.Sound places) {remote : Remote}
    (holds : shared.held user = some (.cached id))
    (seated : shared.streams.Seated (places user) id entry descriptor)
    (confined : Confined entry.object (places user) shared.streams.remote remote) :
    Acts places user id entry.object shared (shared.next user
      ((shared.streams.withTable (shared.streams.table.release id)).withRemote remote) none) :=
  sound.acts_of_held holds seated rfl (SlotTable.capacity_assign _ _ _) confined
    (fun _ differs => SlotTable.find?_assign_of_ne _ differs _)
    (.nothing (SlotTable.find?_assign_self (SlotTable.slot_lt_capacity seated.found) _))

/-- A stream that was just opened has a seat. -/
theorem seated_fresh {after : Remote} (inside : id.slot < streams.table.capacity)
    (gains : Gains location streams.remote after descriptor) (name : String)
    (sizes : BufferSizes) (object : ObjectId) :
    (streams.withAttached id ⟨.fresh streams.remote.session.nextObject name sizes, after⟩).Seated
      location id ((CachedStream.fresh object name sizes).named streams.remote.session.nextObject)
      descriptor :=
  ⟨SlotTable.find?_assign_self inside _, gains.serves, gains.located, gains.numbered⟩

/-- A user opens a stream. -/
theorem Sound.acts_of_gains (sound : shared.Sound places) (idle : shared.held user = none)
    {after : Remote} (vacant : shared.streams.table.find? id = none)
    (inside : id.slot < shared.streams.table.capacity)
    (gains : Gains (places user) shared.streams.remote after descriptor) (name : String)
    (sizes : BufferSizes) :
    Acts places user id shared.streams.remote.session.nextObject shared
      (shared.next user (shared.streams.withAttached id
        ⟨.fresh shared.streams.remote.session.nextObject name sizes, after⟩) (some (.cached id))) :=
  sound.acts_of_idle idle vacant rfl (SlotTable.capacity_assign _ _ _) gains.confined
    (fun _ differs => SlotTable.find?_assign_of_ne _ differs _)
    (.stream rfl (seated_fresh inside gains name sizes ⟨0⟩))

end Taking

/-- Users who end up with streams that are the same but for their ids can tell nothing apart. -/
theorem Alike.next {streams streams' : Streams} {stream stream' : Option Stream}
    (settings : streams.settings = streams'.settings)
    (stored : streams.remote.objects.find? (places user) =
      streams'.remote.objects.find? (places user))
    (held : Counterparts (places user) streams streams' stream stream') :
    Alike places user (shared.next user streams stream) (alone.next user streams' stream') :=
  ⟨settings, stored, by simpa using held⟩

section Held

variable {id id' : StreamId} {object object' : ObjectId} {stream : CachedStream}
  {descriptor : Descriptor} (alike : Alike places user shared alone) (sound : shared.Sound places)
  (sound' : alone.Sound places) (holds : shared.held user = some (.cached id))
  (holds' : alone.held user = some (.cached id'))
  (seated : shared.streams.Seated (places user) id (stream.named object) descriptor)
  (seated' : alone.streams.Seated (places user) id' (stream.named object') descriptor)

include alike sound sound' holds holds' seated seated'

/-- A request of a user comes out the same whether the user is alone or not. -/
theorem Alike.serve (request : Request) :
    Parallel places user shared alone (shared.play user (.serve request))
      (alone.play user (.serve request)) := by
  obtain ⟨body, inStep, served⟩ := Streams.serve_cached request
  obtain ⟨ended, next, same, same', moved, left, right⟩ :=
    inStep _ _ _ (twinsOf_atStream sound sound' seated seated' alike.stored)
  have object_eq := congrArg CachedStream.object same
  have object_eq' := congrArg CachedStream.object same'
  have seat := seated_withAttached seated object_eq left
  have seat' := seated_withAttached seated' object_eq' right
  rw [same] at seat
  rw [same'] at seat'
  simp only [play, holds, holds', served seated.found, served seated'.found,
    Streams.onCached_apply seated.found, Streams.onCached_apply seated'.found]
  refine .react sound sound' (ended.map some) (.next alike.settings ?_ ?_)
    (sound.acts_of_drifts holds seated object_eq left)
    (sound'.acts_of_drifts holds' seated' object_eq' right)
  · have kept := congrArg (fun objects => objects.find? (places user)) left.objects
    have kept' := congrArg (fun objects => objects.find? (places user)) right.objects
    exact kept.trans (alike.stored.trans kept'.symm)
  · exact .stream seat seat'

/-- A stream is closed alike whether its user is alone or not. -/
theorem Alike.close :
    Parallel places user shared alone (shared.play user .close) (alone.play user .close) := by
  obtain ⟨ended, settled⟩ :=
    Twins.close (twinsOf_atStream sound sound' seated seated' alike.stored)
  simp only [play, holds, holds', Streams.close_cached seated.found,
    Streams.close_cached seated'.found]
  refine .react sound sound' (ended.map _) (.next alike.settings ?_ .nothing)
    (sound.acts_of_close holds seated (seated.located ▸ settled.left))
    (sound'.acts_of_close holds' seated' (seated.located ▸ settled.right))
  exact seated.located ▸ settled.stored

end Held

/-- What comes of opening a stream depends on what is stored at the place of the user. -/
theorem Alike.openStream (alike : Alike places user shared alone) (sound : shared.Sound places)
    (sound' : alone.Sound places) (idle : shared.held user = none) (idle' : alone.held user = none)
    {path : String} (mode : String)
    (spells : (Usage.openStream path mode).Spells shared.streams.settings (places user)) :
    Parallel places user shared alone (shared.play user (.openStream path mode))
      (alone.play user (.openStream path mode)) := by
  obtain ⟨name, named, spelled⟩ := spells
  have free := sound.free idle
  have free' := sound'.free idle'
  have named' : alone.streams.settings.objectPath? path = some name := alike.settings ▸ named
  have offered : shared.streams.remote.offers? (places user) (.parse mode) =
      alone.streams.remote.offers? (places user) (.parse mode) := by
    rw [offers?, offers?, alike.stored]
  have same : shared.streams.remote.opening (places user) (.parse mode)
      shared.streams.settings.sizes =
      alone.streams.remote.opening (places user) (.parse mode) alone.streams.settings.sizes := by
    rw [alike.settings]
    exact opening_congr alike.stored _ _
  cases opening : shared.streams.remote.opening (places user) (.parse mode)
      shared.streams.settings.sizes with
  | ok descriptor =>
      obtain ⟨id, after, opens, vacant, inside, gains, stored⟩ := Streams.openStream_opens
        sound.quiet sound.truthful sound.ordered free named spelled opening
      obtain ⟨id', after', opens', vacant', inside', gains', stored'⟩ := Streams.openStream_opens
        sound'.quiet sound'.truthful sound'.ordered free' named' spelled (same ▸ opening)
      simp only [play, idle, idle', opens, opens', Outcome.value?]
      refine .react sound sound' (.ok rfl) (.next alike.settings ?_ ?_)
        (sound.acts_of_gains idle vacant inside gains _ _)
        (sound'.acts_of_gains idle' vacant' inside' gains' _ _)
      · exact stored.trans (offered.trans stored'.symm)
      · rw [alike.settings]
        exact .stream (seated_fresh inside gains _ _ ⟨0⟩) (seated_fresh inside' gains' _ _ ⟨0⟩)
  | error cause =>
      obtain ⟨after, refuses, confined, stored⟩ := Streams.openStream_refuses
        sound.quiet sound.truthful sound.ordered free named spelled opening
      obtain ⟨after', refuses', confined', stored'⟩ := Streams.openStream_refuses
        sound'.quiet sound'.truthful sound'.ordered free' named' spelled (same ▸ opening)
      obtain ⟨id, -, vacant, -⟩ := SlotTable.exists_free free
      obtain ⟨id', -, vacant', -⟩ := SlotTable.exists_free free'
      simp only [play, idle, idle', refuses, refuses', Outcome.value?]
      refine .react sound sound' (.error rfl) (.next alike.settings ?_ .nothing)
        (sound.acts_of_idle idle vacant rfl rfl confined (fun _ _ => rfl) (.nothing vacant))
        (sound'.acts_of_idle idle' vacant' rfl rfl confined' (fun _ _ => rfl) (.nothing vacant'))
      exact stored.trans (offered.trans stored'.symm)

/-- A user cannot tell whether the others are there. -/
theorem Alike.play (alike : Alike places user shared alone) (sound : shared.Sound places)
    (sound' : alone.Sound places) {usage : Usage}
    (spells : usage.Spells shared.streams.settings (places user)) :
    Parallel places user shared alone (shared.play user usage) (alone.play user usage) := by
  have held := alike.held
  generalize holds : shared.held user = stream at held
  generalize holds' : alone.held user = stream' at held
  cases held with
  | nothing =>
      cases usage with
      | openStream path mode => exact alike.openStream sound sound' holds holds' mode spells
      | serve request =>
          simp only [Shared.play, holds, holds']
          exact alike.still sound sound'
      | close =>
          simp only [Shared.play, holds, holds']
          exact alike.still sound sound'
  | stream seated seated' =>
      cases usage with
      | openStream path mode =>
          simp only [Shared.play, holds, holds']
          exact alike.still sound sound'
      | serve request => exact alike.serve sound sound' holds holds' seated seated' request
      | close => exact alike.close sound sound' holds holds' seated seated'

/-- What a user does takes nothing that others have. -/
theorem Sound.acts_of_play (sound : shared.Sound places) {usage : Usage}
    (spells : usage.Spells shared.streams.settings (places user)) :
    ∃ id object, Acts places user id object shared (shared.play user usage).2 :=
  ((sound.alike_refl user).play sound sound spells).left

variable {script : List (Fin users × Usage)}

/-- What is spelled stays spelled. -/
theorem Acts.spells_rest {after : Shared users} {id : StreamId} {object : ObjectId}
    (acts : Acts places other id object shared after) {first : Fin users × Usage}
    (spells : ∀ step ∈ first :: script, step.2.Spells shared.streams.settings (places step.1)) :
    ∀ step ∈ script, step.2.Spells after.streams.settings (places step.1) := by
  intro step member
  rw [acts.settings]
  exact spells step (List.mem_cons_of_mem _ member)

/-- A user cannot tell a script from the user's own part of it. -/
theorem Alike.playAll (distinct : Function.Injective places)
    (alike : Alike places user shared alone) (sound : shared.Sound places)
    (sound' : alone.Sound places)
    (spells : ∀ step ∈ script, step.2.Spells shared.streams.settings (places step.1)) :
    ofUser user (shared.playAll script).1 = (alone.playAll (ofUser user script)).1 ∧
      Alike places user (shared.playAll script).2 (alone.playAll (ofUser user script)).2 := by
  induction script generalizing shared alone with
  | nil => exact ⟨rfl, alike⟩
  | cons step rest inductive_hypothesis =>
      obtain ⟨actor, usage⟩ := step
      have spelled : usage.Spells shared.streams.settings (places actor) :=
        spells _ List.mem_cons_self
      -- The user's own steps are taken in both runs, those of the others in the first one only.
      by_cases mine : actor = user
      · subst mine
        obtain ⟨reactions, next, ⟨id, object, left⟩, ⟨id', object', right⟩⟩ :=
          alike.play sound sound' spelled
        obtain ⟨same, final⟩ := inductive_hypothesis next (left.sound sound) (right.sound sound')
          (left.spells_rest spells)
        simp only [Shared.playAll, ofUser_cons_self, reactions, same]
        exact ⟨trivial, final⟩
      · obtain ⟨id, object, acts⟩ := sound.acts_of_play spelled
        obtain ⟨same, final⟩ := inductive_hypothesis
          (alike.foreign sound distinct (Ne.symm mine) acts) (acts.sound sound) sound'
          (acts.spells_rest spells)
        simp only [Shared.playAll, ofUser_cons_of_ne mine]
        exact ⟨same, final⟩

/-- What is not at the place of a user stays as it is. -/
theorem Sound.stored_playAll (sound : shared.Sound places)
    (spells : ∀ step ∈ script, step.2.Spells shared.streams.settings (places step.1))
    {place : ObjectPath} (elsewhere : ∀ user, place ≠ places user) :
    (shared.playAll script).2.streams.stored? (.object place) =
      shared.streams.stored? (.object place) := by
  induction script generalizing shared with
  | nil => rfl
  | cons step rest inductive_hypothesis =>
      obtain ⟨actor, usage⟩ := step
      obtain ⟨id, object, acts⟩ := sound.acts_of_play (spells _ List.mem_cons_self)
      have final := inductive_hypothesis (acts.sound sound) (acts.spells_rest spells)
      exact final.trans (acts.confined.elsewhere place (elsewhere actor))

/-- There are no streams yet, and there is a slot for each user. -/
theorem sound_start {settings : Settings} {objects : FiniteMap ObjectPath Bytes}
    {remembersSizes : Bool} {disk : Disk} {streams : Streams}
    (created : Streams.create settings (.create objects remembersSizes) disk = .ok streams)
    (room : users ≤ settings.maxStreams) : (start streams).Sound places := by
  unfold Streams.create at created
  split at created
  · next sized =>
      obtain rfl := Except.ok.inj created
      refine ⟨rfl, ?_, sized.2, ?_, ?_, ?_, ?_⟩
      · intro location size remembered
        contradiction
      · exact Nat.le_trans room (Nat.le_of_eq (SlotTable.capacity_create _).symm)
      · intro user stream holds
        contradiction
      · intro id entry found
        rw [start, SlotTable.find?_create] at found
        contradiction
      · intro user other id id' entry entry' differs holds
        contradiction
  · contradiction

/-- Users who do the same in another order among each other see the same, and leave the same. -/
theorem Sound.playAll_congr (distinct : Function.Injective places) (sound : shared.Sound places)
    (spells : ∀ step ∈ script, step.2.Spells shared.streams.settings (places step.1))
    {other : List (Fin users × Usage)}
    (spells' : ∀ step ∈ other, step.2.Spells shared.streams.settings (places step.1))
    (same : ∀ user, ofUser user other = ofUser user script) :
    (∀ user, ofUser user (shared.playAll other).1 = ofUser user (shared.playAll script).1) ∧
      ∀ place, (shared.playAll other).2.streams.stored? (.object place) =
        (shared.playAll script).2.streams.stored? (.object place) := by
  have alone := fun user =>
    (sound.alike_refl user).playAll distinct sound sound spells
  have alone' := fun user =>
    (sound.alike_refl user).playAll distinct sound sound spells'
  refine ⟨fun user => ?_, fun place => ?_⟩
  · rw [(alone user).1, (alone' user).1, same]
  · by_cases owned : ∃ user, place = places user
    · obtain ⟨user, rfl⟩ := owned
      have final := (alone' user).2.stored
      rw [same] at final
      exact final.trans (alone user).2.stored.symm
    · have elsewhere : ∀ user, place ≠ places user := fun user here => owned ⟨user, here⟩
      rw [sound.stored_playAll spells elsewhere, sound.stored_playAll spells' elsewhere]

/-- Independent streams do not interfere. Users who keep to places of their own, one stream each
at a time, see what they would see if they were alone, and leave what they would leave. Nothing
else changes, and no one can tell in which order two users did two things. -/
theorem interleaved_eq_alone {settings : Settings} {objects : FiniteMap ObjectPath Bytes}
    {remembersSizes : Bool} {disk : Disk} {streams : Streams}
    (created : Streams.create settings (.create objects remembersSizes) disk = .ok streams)
    (room : users ≤ settings.maxStreams) (distinct : Function.Injective places)
    (spelled : ∀ step ∈ script, step.2.Spells settings (places step.1)) :
    (∀ user,
      ofUser user (playAll script (start streams)).1 =
        (playAll (ofUser user script) (start streams)).1 ∧
      (playAll script (start streams)).2.streams.stored? (.object (places user)) =
        (playAll (ofUser user script) (start streams)).2.streams.stored?
          (.object (places user))) ∧
    (∀ place, (∀ user, place ≠ places user) →
      (playAll script (start streams)).2.streams.stored? (.object place) = objects.find? place) ∧
    ∀ earlier first second later, script = earlier ++ first :: second :: later →
      first.1 ≠ second.1 →
        (∀ user, ofUser user (playAll (earlier ++ second :: first :: later) (start streams)).1 =
          ofUser user (playAll script (start streams)).1) ∧
        ∀ place, (playAll (earlier ++ second :: first :: later)
            (start streams)).2.streams.stored? (.object place) =
          (playAll script (start streams)).2.streams.stored? (.object place) := by
  have sound : (start streams).Sound places := sound_start created room
  obtain ⟨settled, initial⟩ : streams.settings = settings ∧ streams.remote.objects = objects := by
    unfold Streams.create at created
    split at created
    · obtain rfl := Except.ok.inj created
      exact ⟨rfl, rfl⟩
    · contradiction
  have spells : ∀ step ∈ script, step.2.Spells streams.settings (places step.1) :=
    settled ▸ spelled
  refine ⟨fun user => ?_, fun place elsewhere => ?_, fun earlier first second later split differs =>
    ?_⟩
  · obtain ⟨reactions, final⟩ := (sound.alike_refl user).playAll distinct sound sound spells
    exact ⟨reactions, final.stored⟩
  · rw [sound.stored_playAll spells elsewhere]
    exact congrArg (fun objects => objects.find? place) initial
  · subst split
    refine sound.playAll_congr distinct spells (fun step member => spells step ?_)
      fun user => ofUser_swap user earlier later differs
    simpa [or_left_comm] using member

/-- Two users with an object each. When both come back for another stream, each gets the slot
that the other had before. -/
def takingTurns : List (Fin 2 × Usage) :=
  [(0, .openStream "remote:a" "r+"), (1, .openStream "remote:b/" "w"),
    (0, .serve (.write [7, 8, 9, 10, 11] 1 5)), (1, .serve (.putByte 5)), (0, .close), (1, .close),
    (1, .openStream "remote:/b" "r"), (0, .openStream "remote:/a" "r"), (1, .serve .getByte),
    (0, .serve (.read [0, 0] 1 2))]

/-- An object and room for two streams. -/
def twoSlots : Streams where
  settings := ⟨"remote:", 2, ⟨2, 4⟩⟩
  table := .create 2
  remote := .create (FiniteMap.empty.insert ⟨"a"⟩ [1, 2, 3]) true
  disk := .create [] ∅

/-- Two users take turns, and a slot that one has left is taken by the other. -/
theorem interleaved_eq_alone_reusing_slots :
    (∀ user, ofUser user (playAll takingTurns (start twoSlots)).1 =
      (playAll (ofUser user takingTurns) (start twoSlots)).1) ∧
    (playAll takingTurns (start twoSlots)).2.streams.stored? (.object ⟨"a"⟩) =
      some [7, 8, 9, 10, 11] ∧
    (playAll takingTurns (start twoSlots)).2.streams.stored? (.object ⟨"b"⟩) = some [5] := by
  have created : Streams.create ⟨"remote:", 2, ⟨2, 4⟩⟩
      (.create (FiniteMap.empty.insert ⟨"a"⟩ [1, 2, 3]) true) (.create [] ∅) = .ok twoSlots := rfl
  have distinct : Function.Injective fun user : Fin 2 =>
      if user = 0 then (⟨"a"⟩ : ObjectPath) else ⟨"b"⟩ := by decide
  have spelled : ∀ step ∈ takingTurns, step.2.Spells ⟨"remote:", 2, ⟨2, 4⟩⟩
      (if step.1 = 0 then ⟨"a"⟩ else ⟨"b"⟩) := by
    simp only [takingTurns, List.forall_mem_cons]
    refine ⟨⟨"a", rfl, rfl⟩, ⟨"b/", rfl, rfl⟩, trivial, trivial, trivial, trivial,
      ⟨"/b", rfl, rfl⟩, ⟨"/a", rfl, rfl⟩, trivial, trivial, ?_⟩
    simp
  have independent := interleaved_eq_alone created (Nat.le_refl 2) distinct spelled
  exact ⟨fun user => (independent.1 user).1, rfl, rfl⟩

end Shared

end RemoteStreams
