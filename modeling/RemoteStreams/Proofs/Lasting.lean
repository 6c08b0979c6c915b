import RemoteStreams.Proofs.SessionHistory

/-! # What lasts

A property of states is maintained by an action that leaves it true wherever it finds it true,
however the action ends (`RemoteStreams.Action.Maintains`). A property of the remote side that calls
of some primitives leave alone, and that looks neither at the session nor at the log, lasts through
every request that comes to no other primitives (`RemoteStreams.Remote.Lasting`). That the faults in
store are honest is one such property. With it, a request to an open object is known to move that
object and nothing else, whatever it is asked for; if it is a write that is given up, then what is
staged for the object may have been touched (`RemoteStreams.SessionRequest.drifts`).
-/

namespace RemoteStreams

namespace Action

variable {σ ε ε' α β : Type} {holds : σ → Prop}

/-- Where it holds before, it holds afterwards. -/
def Maintains (holds : σ → Prop) (body : Action σ ε α) : Prop :=
  ∀ before, holds before → holds (body before).2

namespace Maintains

theorem pure (value : α) : Maintains holds (Pure.pure value : Action σ ε α) := fun _ held => held

theorem get : Maintains holds (Action.get : Action σ ε σ) := fun _ held => held

theorem fail (cause : ε) : Maintains holds (Action.fail cause : Action σ ε α) := fun _ held => held

theorem abandon (breach : Breach) : Maintains holds (Action.abandon breach : Action σ ε α) :=
  fun _ held => held

theorem modify {change : σ → σ} (kept : ∀ before, holds before → holds (change before)) :
    Maintains holds (Action.modify change : Action σ ε Unit) := kept

/-- A choice maintains what both branches maintain. -/
theorem ite {condition : Prop} [Decidable condition] {first second : Action σ ε α}
    (left : Maintains holds first) (right : Maintains holds second) :
    Maintains holds (if condition then first else second) := by
  split
  · exact left
  · exact right

theorem ensure {condition : Prop} [Decidable condition] (breach : Breach) :
    Maintains holds (Action.ensure condition breach : Action σ ε Unit) :=
  .ite (.pure ()) (.abandon breach)

/-- What is done in a row maintains what its parts maintain. -/
theorem bind {first : Action σ ε α} {next : α → Action σ ε β} (begins : Maintains holds first)
    (goesOn : ∀ value, Maintains holds (next value)) : Maintains holds (first >>= next) := by
  intro before held
  have between := begins before held
  rw [bind_apply]
  generalize first before = ended at between
  obtain ⟨_ | _ | _, after⟩ := ended
  · exact goesOn _ after between
  · exact between
  · exact between

theorem map (convert : α → β) {body : Action σ ε α} (kept : Maintains holds body) :
    Maintains holds (convert <$> body) := by
  intro before held
  rw [map_apply]
  exact kept before held

theorem mapError (convert : ε → ε') {body : Action σ ε α} (kept : Maintains holds body) :
    Maintains holds (body.mapError convert) := kept

/-- What an action maintains does not depend on whether its error is looked at. -/
theorem attempt {body : Action σ ε α} (kept : Maintains holds body) :
    Maintains holds (body.attempt : Action σ ε' (Except ε α)) := by
  intro before held
  have after := kept before held
  unfold Action.attempt
  generalize body before = ended at after
  obtain ⟨_ | _ | _, final⟩ := ended <;> exact after

end Maintains

end Action

namespace Remote

/-- It looks neither at the session nor at the log, and calls of the allowed primitives leave it
alone. -/
structure Lasting (allowed : Primitive → Prop) (holds : Remote → Prop) : Prop where
  calling : ∀ before call, allowed call.primitive → holds before → holds (before.calling call)
  requesting : allowed .allocate → ∀ before, holds before → holds before.requesting
  noting : ∀ before event, holds before → holds (before.noting event)
  session : ∀ before session, holds before → holds { before with session }
  storing : allowed .storePut → ∀ before objects, holds before → holds { before with objects }

variable {allowed : Primitive → Prop} {holds : Remote → Prop}

/-- What is known of the faults in store lasts if it does while they are used up. -/
theorem lasting_faults (known : FaultPlan → Prop)
    (advance : ∀ plan primitive, known plan → known (plan.advance primitive)) :
    Lasting (fun _ => True) fun remote => known remote.faults where
  calling := fun _ call _ held => advance _ call.primitive held
  requesting := fun _ _ held => advance _ .allocate held
  noting := fun _ _ held => held
  session := fun _ _ held => held
  storing := fun _ _ _ held => held

theorem lasting_honest : Lasting (fun _ => True) fun remote => remote.faults.Honest :=
  lasting_faults _ fun _ primitive honest => honest.advance primitive

theorem lasting_quiet : Lasting (fun _ => True) fun remote => remote.faults = ∅ :=
  lasting_faults (· = ∅) fun plan primitive quiet => by
    rw [quiet, FaultPlan.advance_empty]

/-- Only uploads change what is stored. -/
theorem lasting_objects (objects : FiniteMap ObjectPath Bytes) :
    Lasting (· ≠ .storePut) fun remote => remote.objects = objects where
  calling := fun _ _ _ held => held
  requesting := fun _ _ held => held
  noting := fun _ _ held => held
  session := fun _ _ held => held
  storing := fun allowed => (allowed rfl).elim

/-- The calls of a kind stay as they are while none of that kind is made. -/
theorem lasting_calls {kind : Call → Bool}
    (other : ∀ call, allowed call.primitive → kind call = false) (calls : List Call) :
    Lasting allowed fun remote => remote.calls.filter kind = calls where
  calling := fun before call allows held => by
    simpa [Remote.calling, List.filter_append, other call allows] using held
  requesting := fun _ _ held => held
  noting := fun _ _ held => held
  session := fun _ _ held => held
  storing := fun _ _ _ held => held

section Looking

open Action.Maintains

theorem maintains_requireConnection : Action.Maintains holds Session.requireConnection :=
  bind get fun _ => ite (pure _) (fail _)

theorem maintains_descriptor (object : ObjectId) :
    Action.Maintains holds (Session.descriptor object) := by
  refine bind maintains_requireConnection fun _ => bind get fun remote => ?_
  split
  · exact pure _
  · exact fail _

theorem maintains_locate (path : String) : Action.Maintains holds (Session.locate path) := by
  unfold Session.locate
  split
  · exact pure _
  · exact fail _

theorem maintains_object (location : ObjectPath) : Action.Maintains holds (object location) := by
  refine bind get fun remote => ?_
  split
  · exact pure _
  · exact fail _

end Looking

namespace Lasting

open Action.Maintains

variable (lasting : Lasting allowed holds) {ε α : Type}

include lasting

/-- Two things that last last together. -/
theorem both {also : Remote → Prop} (second : Lasting allowed also) :
    Lasting allowed fun remote => holds remote ∧ also remote where
  calling := fun before call allows held =>
    ⟨lasting.calling before call allows held.1, second.calling before call allows held.2⟩
  requesting := fun allows before held =>
    ⟨lasting.requesting allows before held.1, second.requesting allows before held.2⟩
  noting := fun before event held =>
    ⟨lasting.noting before event held.1, second.noting before event held.2⟩
  session := fun before session held =>
    ⟨lasting.session before session held.1, second.session before session held.2⟩
  storing := fun allows before objects held =>
    ⟨lasting.storing allows before objects held.1, second.storing allows before objects held.2⟩

/-- What lasts is maintained by a call that is allowed. -/
theorem announce {call : Call} (allows : allowed call.primitive) :
    Action.Maintains holds (announce call) := by
  intro before held
  rcases announce_ends call before with ⟨cause, refused⟩ | ⟨fault, passed⟩
  · rw [refused]
    exact lasting.calling before call allows held
  · rw [passed]
    exact lasting.calling before call allows held

theorem note (event : Event) : Action.Maintains holds (note event : Action Remote ε Unit) :=
  modify fun before held => lasting.noting before event held

theorem modifySession (change : Session → Session) :
    Action.Maintains holds (modifySession change : Action Remote ε Unit) :=
  modify fun before held => lasting.session before (change before.session) held

/-- A seek calls nothing, so it maintains what lasts. -/
theorem seekObject (object : ObjectId) (target : SeekTarget) :
    Action.Maintains holds (Session.seekObject object target) := by
  refine bind (maintains_descriptor object) fun descriptor => ?_
  split
  · exact bind (lasting.modifySession _) fun _ => pure _
  · exact fail _

/-- Bytes may have to be got from the store. -/
theorem bytesOf (ranges : allowed .storeGetRange) (descriptor : Descriptor) (start stop : Nat) :
    Action.Maintains holds (Session.bytesOf descriptor start stop) := by
  unfold Session.bytesOf
  split
  · refine bind (lasting.announce ranges) fun fault => bind (maintains_object _) fun data => ?_
    exact ite (fail _) (pure _)
  · exact pure _

/-- A read maintains what lasts while ranges are got. -/
theorem readObject (ranges : allowed .storeGetRange) (object : ObjectId) (buffer : Bytes) :
    Action.Maintains holds (Session.readObject object buffer) := by
  refine bind (maintains_descriptor object) fun descriptor => ite (fail _) (ite (pure _) ?_)
  refine bind (ite (pure _) (abandon _)) fun reach => ?_
  refine bind (lasting.bytesOf ranges _ _ _) fun answer => ?_
  exact bind (lasting.modifySession _) fun _ => bind (lasting.note _) fun _ => pure _

/-- A write calls nothing, so it maintains what lasts, even if it is given up. -/
theorem writeObject (object : ObjectId) (data : Bytes) :
    Action.Maintains holds (Session.writeObject object data) := by
  refine bind (maintains_descriptor object) fun descriptor => ite (fail _) ?_
  split
  · exact fail _
  · refine ite (pure _) (bind (ensure _) fun _ => ite ?_ ?_)
    · exact bind (lasting.modifySession _) fun _ => bind (lasting.note _) fun _ => pure _
    · exact bind (lasting.modifySession _) fun _ => abandon _

theorem register (descriptor : Descriptor) :
    Action.Maintains holds (Session.register descriptor) :=
  bind get fun _ => bind (lasting.modifySession _) fun _ => pure _

/-- A size may have to be asked for, unless it is remembered. -/
theorem sizeOf (sizes : allowed .storeHead) (location : ObjectPath) :
    Action.Maintains holds (Session.sizeOf location) := by
  refine bind get fun remote => ?_
  split
  · exact pure _
  · refine bind (bind (lasting.announce sizes) fun _ => ?_) fun size => ?_
    · exact bind (maintains_object location) fun _ => pure _
    · exact bind (lasting.modifySession _) fun _ => pure _

/-- Opening an object maintains what lasts while objects or sizes are got. -/
theorem openObject (gets : allowed .storeGet) (sizes : allowed .storeHead) (path : String)
    (mode : OpenMode) : Action.Maintains holds (Session.openObject path mode) := by
  refine bind (lasting.note _) fun _ => bind (maintains_locate path) fun location => ?_
  refine bind maintains_requireConnection fun _ => bind (ite ?_ ?_) fun _ => lasting.register _
  · exact bind (bind (lasting.announce gets) fun _ => maintains_object location) fun _ => pure _
  · exact bind (lasting.sizeOf sizes location) fun _ => pure _

theorem upload (puts : allowed .storePut) (location : ObjectPath) (data : Bytes) :
    Action.Maintains holds (Session.upload location data) :=
  bind (bind (lasting.announce puts) fun _ =>
    modify fun before held => lasting.storing puts before _ held) fun _ => lasting.modifySession _

/-- Creating an object maintains what lasts while something is stored. -/
theorem createObject (puts : allowed .storePut) (path : String) :
    Action.Maintains holds (Session.createObject path) := by
  refine bind (lasting.note _) fun _ => bind (maintains_locate path) fun location => ?_
  refine bind maintains_requireConnection fun _ => ?_
  exact bind (lasting.upload puts location []) fun _ => lasting.register _

/-- Closing an object maintains what lasts while something is stored. -/
theorem closeObject (puts : allowed .storePut) (object : ObjectId) :
    Action.Maintains holds (Session.closeObject object) := by
  refine bind (lasting.note _) fun _ => bind (maintains_descriptor object) fun descriptor => ?_
  split
  · exact bind (lasting.upload puts _ _) fun _ => lasting.modifySession _
  · exact lasting.modifySession _

theorem connect : Action.Maintains holds Session.connect := by
  refine bind get fun remote => ite (pure _) ?_
  exact bind (lasting.modifySession _) fun _ => lasting.note _

theorem disconnect : Action.Maintains holds Session.disconnect := by
  refine bind get fun remote => ?_
  have ends {last : RemoteAction Unit} (kept : Action.Maintains holds last) :
      Action.Maintains holds (Remote.modifySession (·.disconnected) >>= fun _ => last) :=
    bind (lasting.modifySession _) fun _ => kept
  split
  · exact ite (ends (lasting.note _)) (bind (lasting.note _) fun _ => ends (lasting.note _))
  · exact ite (ends (pure _)) (bind (lasting.note _) fun _ => ends (pure _))

end Lasting

end Remote

open Remote

/-- The primitives of the store that a request may come to. -/
def SessionRequest.reaches : SessionRequest → List Primitive
  | openObject _ _ => [.storeGet, .storeHead]
  | createObject _ | closeObject _ => [.storePut]
  | readObject _ _ => [.storeGetRange]
  | connect | writeObject _ _ | seekObject _ _ | position _ | disconnect => []

variable {allowed : Primitive → Prop} {holds : Remote → Prop}

/-- A request maintains what lasts while all that it reaches is called. -/
theorem Remote.Lasting.perform (lasting : Lasting allowed holds) (request : SessionRequest)
    (reaches : ∀ primitive ∈ request.reaches, allowed primitive) :
    Action.Maintains holds request.perform := by
  cases request with
  | connect => exact lasting.connect.map _
  | openObject path mode =>
      exact (lasting.openObject (reaches _ (by simp [SessionRequest.reaches]))
        (reaches _ (by simp [SessionRequest.reaches])) path mode).map _
  | createObject path => exact (lasting.createObject (reaches _ List.mem_cons_self) path).map _
  | readObject object buffer =>
      exact (lasting.readObject (reaches _ List.mem_cons_self) object buffer).map _
  | writeObject object data => exact (lasting.writeObject object data).map _
  | seekObject object target => exact (lasting.seekObject object target).map _
  | position object => exact (lasting.seekObject object (.current 0)).map _
  | closeObject object => exact (lasting.closeObject (reaches _ List.mem_cons_self) object).map _
  | disconnect => exact lasting.disconnect.map _

section Drifts

variable {object : ObjectId} {descriptor : Descriptor} {before : Remote}

/-- A request to an open object, unless it closes it, moves the object or is given up, and does
nothing else that counts, however it ends. -/
theorem SessionRequest.drifts (request : SessionRequest) (serves : before.Serves object descriptor)
    (about : request.object? = some object) (stays : request ≠ .closeObject object) :
    ∃ moved, Drifts object before descriptor (request.perform before).2 moved := by
  have effect := request.perform_effect before
  have honest := lasting_honest.perform request (fun _ _ => trivial) before serves.honest
  have quiet := lasting_quiet.perform request (fun _ _ => trivial) before
  generalize request.perform before = ended at effect honest quiet
  have update {moved : Descriptor} (drifted : descriptor.Drifts moved)
      (session : ended.2.session = before.session.update object moved)
      (objects : ended.2.objects = before.objects) : Drifts object before descriptor ended.2 moved :=
    have serves : ended.2.Serves object moved :=
      ⟨session ▸ serves.connected, by rw [session]; exact FiniteMap.find?_insert_self _ _ _, honest,
        drifted.sound serves.sound⟩
    ⟨serves, session, objects, quiet, drifted⟩
  cases effect with
  | failed unanswered session objects =>
      have same := (Descriptor.Evolves.refl descriptor).drifts
      exact ⟨descriptor, update same (session.trans serves.update_self.symm) objects⟩
  | @moved _ other found position _ _ moves held session objects =>
      obtain rfl : object = other :=
        Option.some.inj (about.symm.trans (object?_of_moves? moves))
      obtain rfl : descriptor = found := Option.some.inj (serves.found.symm.trans held)
      exact ⟨_, update (descriptor.evolves_position position).drifts session objects⟩
  | @written other data staged modified found _ present held content session objects =>
      obtain rfl : other = object := Option.some.inj about
      obtain rfl : descriptor = found := Option.some.inj (serves.found.symm.trans held)
      have evolved : descriptor.Evolves (descriptor.write staged data) :=
        ⟨rfl, rfl, .inr ⟨staged, modified, _, content, rfl⟩⟩
      exact ⟨_, update evolved.drifts session objects⟩
  | @spilled other data _ _ found _ _ held content within session objects =>
      obtain rfl : other = object := Option.some.inj about
      obtain rfl : descriptor = found := Option.some.inj (serves.found.symm.trans held)
      exact ⟨_, update (Descriptor.drifts_spilled content data) session objects⟩
  | closed | uploaded => exact (stays (congrArg closeObject (Option.some.inj about))).elim
  | connected | opened | created | disconnected => contradiction

/-- So does a call over the link that comes to such a request. -/
theorem Remote.Serves.linked {α : Type} (serves : before.Serves object descriptor) (call : Call)
    {next : Option Fault → RemoteAction α}
    (drifts : ∀ fault remote, remote.Serves object descriptor →
      ∃ moved, Drifts object remote descriptor (next fault remote).2 moved) :
    ∃ moved, Drifts object before descriptor ((announce call >>= next) before).2 moved := by
  have called := serves.calling call
  rcases announce_ends call before with ⟨cause, refused⟩ | ⟨fault, passed⟩
  · refine ⟨descriptor, ?_⟩
    rw [Action.bind_apply, refused]
    exact called.drifts
  · obtain ⟨moved, further⟩ := drifts fault _ called.serves
    refine ⟨moved, ?_⟩
    rw [Action.bind_apply, passed]
    exact called.drifts.trans further

end Drifts

namespace Link

section Maintains

open Action.Maintains

variable (lasting : Lasting allowed holds)

include lasting

/-- Through the link, opening an object is one more call. -/
theorem maintains_openObject (calls : allowed .openObject) (gets : allowed .storeGet)
    (sizes : allowed .storeHead) (path : String) (mode : OpenMode) :
    Action.Maintains holds (openObject path mode) :=
  bind (lasting.announce calls) fun _ => lasting.openObject gets sizes path mode

theorem maintains_createObject (calls : allowed .createObject) (puts : allowed .storePut)
    (path : String) : Action.Maintains holds (createObject path) :=
  bind (lasting.announce calls) fun _ => lasting.createObject puts path

theorem maintains_readObject (calls : allowed .readObject) (ranges : allowed .storeGetRange)
    (object : ObjectId) (buffer : Bytes) : Action.Maintains holds (readObject object buffer) :=
  bind (lasting.announce calls) fun _ => bind (lasting.readObject ranges object _) fun _ => pure _

theorem maintains_writeObject (calls : allowed .writeObject) (object : ObjectId) (data : Bytes) :
    Action.Maintains holds (writeObject object data) :=
  bind (lasting.announce calls) fun _ => bind (lasting.writeObject object _) fun _ => pure _

theorem maintains_seekObject (calls : allowed .seekObject) (object : ObjectId)
    (target : SeekTarget) : Action.Maintains holds (seekObject object target) :=
  bind (lasting.announce calls) fun _ => bind (lasting.seekObject object target) fun _ => pure _

theorem maintains_position (calls : allowed .position) (object : ObjectId) :
    Action.Maintains holds (position object) :=
  bind (lasting.announce calls) fun _ => bind (lasting.seekObject object _) fun _ => pure _

theorem maintains_closeObject (calls : allowed .closeObject) (puts : allowed .storePut)
    (object : ObjectId) : Action.Maintains holds (closeObject object) :=
  bind (lasting.announce calls) fun _ => lasting.closeObject puts object

end Maintains

variable {object : ObjectId} {descriptor : Descriptor} {before : Remote}

/-- However a call on an open object ends, it moves that object or is given up, and does nothing
else. -/
theorem readObject_drifts (serves : before.Serves object descriptor) (buffer : Bytes) :
    ∃ moved, Drifts object before descriptor (readObject object buffer before).2 moved := by
  refine serves.linked _ fun fault remote serves => ?_
  have drifts := SessionRequest.drifts (.readObject object (Fault.travelling fault buffer))
    serves rfl (by simp)
  simpa [SessionRequest.perform, Action.map_apply, bind_pure_comp] using drifts

/-- A write of an object moves it on, or it is refused or given up. -/
theorem writeObject_drifts (serves : before.Serves object descriptor) (data : Bytes) :
    ∃ moved, Drifts object before descriptor (writeObject object data before).2 moved := by
  refine serves.linked _ fun fault remote serves => ?_
  have drifts := SessionRequest.drifts (.writeObject object (Fault.travelling fault data))
    serves rfl (by simp)
  simpa [SessionRequest.perform, Action.map_apply, bind_pure_comp] using drifts

/-- A seek moves the object on or is refused. -/
theorem seekObject_drifts (serves : before.Serves object descriptor) (target : SeekTarget) :
    ∃ moved, Drifts object before descriptor (seekObject object target before).2 moved := by
  refine serves.linked _ fun fault remote serves => ?_
  have drifts := SessionRequest.drifts (.seekObject object target) serves rfl (by simp)
  simpa [SessionRequest.perform, Action.map_apply, bind_pure_comp] using drifts

/-- A question for the position leaves the object where it is. -/
theorem position_drifts (serves : before.Serves object descriptor) :
    ∃ moved, Drifts object before descriptor (position object before).2 moved := by
  refine serves.linked _ fun fault remote serves => ?_
  have drifts := SessionRequest.drifts (.position object) serves rfl (by simp)
  simpa [SessionRequest.perform, Action.map_apply, bind_pure_comp] using drifts

end Link

end RemoteStreams
