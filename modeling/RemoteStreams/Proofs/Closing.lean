import RemoteStreams.Proofs.Confinement
import RemoteStreams.Proofs.StreamLasting

/-! # Closing under faults

An open object is closed, or it stays open because its close or the upload of what was written to it
met a fault (`RemoteStreams.Remote.Closes`). A stream that is closed asks for that once, whether its
window could be written back or not (`RemoteStreams.CachedStream.close_ends`).
-/

namespace RemoteStreams

open Remote

namespace FaultPlan

variable {plan : FaultPlan} {primitive : Primitive}

/-- No call of a primitive meets a fault. -/
def Spares (plan : FaultPlan) (primitive : Primitive) : Prop :=
  ∀ schedule number, plan.find? primitive = some schedule → schedule.fault number = none

theorem spares_empty (primitive : Primitive) : Spares ∅ primitive := by
  intro schedule number found
  contradiction

/-- The next call of a primitive that is spared meets no fault. -/
theorem Spares.next (spares : plan.Spares primitive) : plan.next primitive = none := by
  unfold FaultPlan.next
  cases found : plan.find? primitive with
  | none => rfl
  | some schedule => exact spares schedule schedule.made found

/-- A primitive stays spared while faults are used up. -/
theorem Spares.advance (spares : plan.Spares primitive) (used : Primitive) :
    (plan.advance used).Spares primitive := by
  intro schedule number found
  unfold FaultPlan.advance at found
  split at found
  · next earlier present =>
      by_cases same : primitive = used
      · subst same
        rw [FiniteMap.find?_insert_self] at found
        obtain rfl := Option.some.inj found
        exact spares earlier number present
      · rw [FiniteMap.find?_insert_of_ne _ _ same] at found
        exact spares schedule number found
  · exact spares schedule number found

end FaultPlan

namespace Remote

theorem lasting_spares (primitive : Primitive) :
    Lasting (fun _ => True) fun remote => remote.faults.Spares primitive :=
  lasting_faults (·.Spares primitive) fun _ used spares => spares.advance used

/-- A call that is spared is made without a fault. -/
theorem announce_spared {before : Remote} (call : Call)
    (spares : before.faults.Spares call.primitive) :
    announce call before = (.ok none, before.calling call) := by
  simp [announce, Action.bind_apply, spares.next]

/-- The remote side with a close under way. -/
def closing (remote : Remote) (object : ObjectId) : Remote :=
  (remote.calling (.closeObject object)).noting (.closingObject object)

/-- An open object is closed, once what was written to it is stored, or it stays open. -/
inductive Closes (object : ObjectId) (descriptor : Descriptor) (before : Remote) :
    Outcome RemoteError Unit × Remote → Prop
  | refused {cause : RemoteError} (armed : ¬before.faults.Spares .closeObject) :
      Closes object descriptor before (.error cause, before.calling (.closeObject object))
  | unmodified (kept : descriptor.upload? = none) :
      Closes object descriptor before (.ok (), (before.closing object).removing object)
  | failed {data : Bytes} {cause : RemoteError} (uploads : descriptor.upload? = some data)
      (armed : ¬before.faults.Spares .storePut) :
      Closes object descriptor before
        (.error cause, (before.closing object).calling (.storePut descriptor.location data))
  | stored {data : Bytes} (uploads : descriptor.upload? = some data) :
      Closes object descriptor before
        (.ok (), (((before.closing object).calling (.storePut descriptor.location data)).storing
          descriptor.location data).removing object)

end Remote

/-- The call ends an open object, or all of them. -/
def Call.Ends (call : Call) : Bool := call.primitive = .closeObject || call.primitive = .disconnect

/-- An upload that is spared is stored. -/
theorem Session.upload_spared {before : Remote} (location : ObjectPath) (data : Bytes)
    (spares : before.faults.Spares .storePut) :
    upload location data before =
      (.ok (), (before.calling (.storePut location data)).storing location data) := by
  simp [upload, put, Action.bind_apply, announce_spared (.storePut location data) spares,
    modifySession, storing]

/-- An object that has nothing to upload is closed without a call to the store. -/
theorem Session.closeObject_unmodified {object : ObjectId} {descriptor : Descriptor}
    {before : Remote} (serves : before.Serves object descriptor)
    (kept : descriptor.upload? = none) :
    closeObject object before =
      (.ok (), (before.noting (.closingObject object)).removing object) := by
  have noted := serves.noting (.closingObject object)
  simp [closeObject, Action.bind_apply, Remote.note, descriptor_apply noted.serves, kept,
    modifySession, removing]

/-- This is how every close of an open object ends, be it that the call itself is refused. -/
theorem Link.closeObject_closes {object : ObjectId} {descriptor : Descriptor} {before : Remote}
    (serves : before.Serves object descriptor) :
    before.Closes object descriptor (closeObject object before) := by
  have called := serves.calling (.closeObject object)
  have noted := called.serves.noting (.closingObject object)
  rcases announce_ends (.closeObject object) before with ⟨cause, refused⟩ | ⟨fault, passed⟩
  · have ended : closeObject object before =
        (.error cause, before.calling (.closeObject object)) := by
      simp only [closeObject, Action.bind_apply, refused]
    rw [ended]
    refine .refused fun spares => ?_
    rw [announce_spared _ spares] at refused
    simp at refused
  · have linked : closeObject object before =
        Session.closeObject object (before.calling (.closeObject object)) := by
      simp only [closeObject, Action.bind_apply, passed]
    rw [linked]
    cases uploads : descriptor.upload? with
    | none =>
        rw [Session.closeObject_unmodified called.serves uploads]
        exact .unmodified uploads
    | some data =>
        have found := Session.descriptor_apply noted.serves
        rcases Session.upload_ends descriptor.location data
            ((before.calling (.closeObject object)).noting (.closingObject object)) with
          ⟨cause, refused⟩ | stored
        · have ended : Session.closeObject object (before.calling (.closeObject object)) =
              (.error cause,
                (before.closing object).calling (.storePut descriptor.location data)) := by
            simp only [Session.closeObject, Action.bind_apply, Remote.note, Action.modify_apply,
              found, uploads, refused, closing]
          rw [ended]
          refine .failed uploads fun spares => ?_
          rw [Session.upload_spared _ _ (spares.advance .closeObject)] at refused
          simp at refused
        · have ended : Session.closeObject object (before.calling (.closeObject object)) =
              (.ok (), (((before.closing object).calling
                (.storePut descriptor.location data)).storing descriptor.location data).removing
                  object) := by
            simp only [Session.closeObject, Action.bind_apply, Remote.note, Action.modify_apply,
              found, uploads, stored, closing, modifySession, removing]
          rw [ended]
          exact .stored uploads

namespace Remote.Closes

variable {object : ObjectId} {descriptor : Descriptor} {before : Remote}
  {ended : Outcome RemoteError Unit × Remote} (closes : before.Closes object descriptor ended)

include closes

theorem lasts (breach : Breach) : ended.1 ≠ .broken breach := by
  cases closes <;> simp

/-- Without faults for them, a close and its upload go through. -/
theorem of_spared (closing : before.faults.Spares .closeObject)
    (putting : before.faults.Spares .storePut) : ended.1 = .ok () := by
  cases closes with
  | refused armed => exact (armed closing).elim
  | failed uploads armed => exact (armed putting).elim
  | unmodified kept => rfl
  | stored uploads => rfl

/-- What was not written to needs no upload. -/
theorem of_unmodified (closing : before.faults.Spares .closeObject)
    (kept : descriptor.upload? = none) : ended.1 = .ok () := by
  cases closes with
  | refused armed => exact (armed closing).elim
  | failed uploads armed => simp [kept] at uploads
  | unmodified kept => rfl
  | stored uploads => rfl

/-- What is closed is closed once. -/
theorem calls : ended.2.calls.filter Call.Ends =
    before.calls.filter Call.Ends ++ [.closeObject object] := by
  cases closes <;>
    simp [Remote.closing, removing, storing, calling, noting, Call.Ends, Call.primitive]

theorem connected : ended.2.session.connected = before.session.connected := by
  cases closes <;> rfl

theorem lastNumber : ended.2.session.lastNumber = before.session.lastNumber := by
  cases closes <;> rfl

/-- A close leaves other objects open as they were. -/
theorem others {other : ObjectId} (differs : other ≠ object) :
    ended.2.session.descriptors.find? other = before.session.descriptors.find? other := by
  cases closes with
  | refused armed => rfl
  | failed uploads armed => rfl
  | unmodified kept => exact FiniteMap.find?_erase_of_ne _ differs
  | stored uploads => exact FiniteMap.find?_erase_of_ne _ differs

/-- A close stores nothing in the place of another object. -/
theorem elsewhere {place : ObjectPath} (differs : place ≠ descriptor.location) :
    ended.2.objects.find? place = before.objects.find? place := by
  cases closes with
  | refused armed => rfl
  | failed uploads armed => rfl
  | unmodified kept => rfl
  | stored uploads => exact FiniteMap.find?_insert_of_ne _ _ differs

/-- An object that is closed is not open, and what was to be stored is. -/
theorem of_ok (ok : ended.1 = .ok ()) :
    ended.2.session.descriptors.find? object = none ∧
      ended.2.objects.find? descriptor.location =
        descriptor.upload?.or (before.objects.find? descriptor.location) := by
  cases closes with
  | refused armed => contradiction
  | failed uploads armed => contradiction
  | unmodified kept => exact ⟨FiniteMap.find?_erase_self _ _, by rw [kept]; rfl⟩
  | stored uploads =>
      refine ⟨FiniteMap.find?_erase_self _ _, ?_⟩
      rw [uploads]
      exact FiniteMap.find?_insert_self _ _ _

/-- Where nothing is to be stored, nothing is. -/
theorem unchanged (kept : descriptor.upload? = none) : ended.2.objects = before.objects ∧
    ended.2.calls = before.calls ++ [.closeObject object] := by
  cases closes with
  | refused armed => exact ⟨rfl, rfl⟩
  | unmodified kept => exact ⟨rfl, rfl⟩
  | failed uploads armed => simp [kept] at uploads
  | stored uploads => simp [kept] at uploads

end Remote.Closes

namespace Remote

/-- At most the open objects that were touched changed. -/
structure Frames (touched : ObjectId → Prop) (before after : Remote) : Prop where
  honest : before.faults.Honest → after.faults.Honest
  connected : before.session.connected = true → after.session.connected = true
  numbers : before.session.lastNumber ≤ after.session.lastNumber
  others : ∀ other, ¬touched other →
    after.session.descriptors.find? other = before.session.descriptors.find? other

variable {touched also : ObjectId → Prop} {object : ObjectId} {before middle after : Remote}
  {descriptor moved : Descriptor}

/-- What leaves the session alone touches no object. -/
theorem Frames.same (honest : before.faults.Honest → after.faults.Honest)
    (session : after.session = before.session) : Frames touched before after where
  honest := honest
  connected := fun online => session ▸ online
  numbers := Nat.le_of_eq (by rw [session])
  others := fun _ _ => by rw [session]

/-- What one step after another touches is what both touch. -/
theorem Frames.trans (first : Frames touched before middle) (second : Frames touched middle after) :
    Frames touched before after where
  honest := second.honest ∘ first.honest
  connected := second.connected ∘ first.connected
  numbers := Nat.le_trans first.numbers second.numbers
  others := fun other apart => (second.others other apart).trans (first.others other apart)

/-- A frame may be said to touch more than it does. -/
theorem Frames.mono (frames : Frames touched before after)
    (wider : ∀ object, touched object → also object) : Frames also before after :=
  ⟨frames.honest, frames.connected, frames.numbers,
    fun other apart => frames.others other fun near => apart (wider other near)⟩

/-- An object that drifts touches no other. -/
theorem Drifts.frames (drifts : Drifts object before descriptor after moved) :
    Frames (· = object) before after where
  honest := fun _ => drifts.serves.honest
  connected := fun _ => drifts.serves.connected
  numbers := Nat.le_of_eq (by rw [drifts.session]; rfl)
  others := fun other differs => by
    rw [drifts.session]
    exact FiniteMap.find?_insert_of_ne _ _ differs

/-- Nor does an object that is closed. -/
theorem Closes.frames {ended : Outcome RemoteError Unit × Remote}
    (closes : before.Closes object descriptor ended) : Frames (· = object) before ended.2 where
  honest := fun honest => by
    have called := honest.advance .closeObject
    cases closes with
    | refused armed => exact called
    | unmodified kept => exact called
    | failed uploads armed => exact called.advance .storePut
    | stored uploads => exact called.advance .storePut
  connected := fun online => closes.connected.trans online
  numbers := Nat.le_of_eq closes.lastNumber.symm
  others := fun _ differs => closes.others differs

end Remote

namespace CachedStream

variable {before : Remote} {stream : CachedStream} {kept : Attached} {descriptor : Descriptor}
  {outcome : Outcome StreamError Unit}

/-- The object is asked to close once, whether the window was written back or not. -/
theorem close_ends (lasts : ∀ breach, outcome ≠ .broken breach)
    (flushed : flush ⟨stream, before.noting (.closingCached stream.path)⟩ = (outcome, kept))
    (serves : kept.remote.Serves stream.object descriptor) :
    ∃ ended, kept.remote.Closes stream.object descriptor ended ∧
      (stream.close before).2 = kept.stream.dropped ended.2 ∧
      (∀ breach, (stream.close before).1 ≠ .broken breach) ∧
      ((stream.close before).1 = .ok () ↔ outcome = .ok () ∧ ended.1 = .ok ()) := by
  have closes := Link.closeObject_closes serves
  refine ⟨_, closes, ?_⟩
  have whole := closes.lasts
  generalize closed : Link.closeObject stream.object kept.remote = ended at whole
  obtain ⟨_ | _ | breach, after⟩ := ended
  · rw [close, settle_of_flush lasts flushed closed]
    exact ⟨rfl, lasts, by simp⟩
  · cases outcome with
    | ok done =>
        simp [close, settle, Action.bind_apply, Action.attempt, flushed, ask_apply, closed]
    | error cause =>
        simp [close, settle, Action.bind_apply, Action.attempt, flushed, ask_apply, closed]
    | broken breach => exact (lasts breach rfl).elim
  · exact (whole breach rfl).elim

end CachedStream

end RemoteStreams
