import RemoteStreams.Proofs.PrivateFiles
import RemoteStreams.Proofs.StoreHistory

/-! # Requests that cannot be carried out

Whatever a session is asked for and whatever faults are in store, a request that ends with an error
leaves the session and all objects as they were (`RemoteStreams.SessionRequest.unchanged`). Almost
always a request that delivers nothing ends so. The exception is a write to a staged object that
reaches behind everything that memory can address: it is abandoned, possibly after it touched what
is staged (`RemoteStreams.History.breaks_iff_overreaches`).
-/

namespace RemoteStreams

namespace Action

variable {σ ε ε' α β : Type}

/-- It ends with a value or with an error, in every state. -/
def Returns (body : Action σ ε α) : Prop := ∀ before breach, (body before).1 ≠ .broken breach

namespace Returns

theorem pure (value : α) : Returns (Pure.pure value : Action σ ε α) := by
  intro before breach
  simp

theorem get : Returns (Action.get : Action σ ε σ) := by
  intro before breach
  simp

theorem fail (cause : ε) : Returns (Action.fail cause : Action σ ε α) := by
  intro before breach
  simp

theorem modify (change : σ → σ) : Returns (Action.modify change : Action σ ε Unit) := by
  intro before breach
  simp

/-- A choice between actions that return returns. -/
theorem ite {condition : Prop} [Decidable condition] {first second : Action σ ε α}
    (left : Returns first) (right : Returns second) :
    Returns (if condition then first else second) := by
  split
  · exact left
  · exact right

/-- If it is abandoned, one of the two steps is. -/
theorem bind {first : Action σ ε α} {next : α → Action σ ε β} (begins : Returns first)
    (goesOn : ∀ value, Returns (next value)) : Returns (first >>= next) := by
  intro before breach
  have began := begins before
  rw [bind_apply]
  generalize first before = ended at began
  obtain ⟨_ | _ | stopped, after⟩ := ended
  · exact goesOn _ after breach
  · simp
  · exact (began stopped rfl).elim

/-- An error that is looked at is a value. -/
theorem attempt {body : Action σ ε α} (returns : Returns body) :
    Returns (Action.attempt body : Action σ ε' (Except ε α)) := by
  intro before breach
  have ended := returns before
  unfold Action.attempt
  generalize body before = result at ended
  obtain ⟨_ | _ | stopped, after⟩ := result
  · simp
  · simp
  · exact (ended stopped rfl).elim

/-- An action returns as well if its errors are converted. -/
theorem mapError (convert : ε → ε') {body : Action σ ε α} (returns : Returns body) :
    Returns (Action.mapError convert body) := by
  intro before breach
  have ended := returns before
  unfold Action.mapError
  generalize body before = result at ended
  obtain ⟨_ | _ | stopped, after⟩ := result
  · simp
  · simp
  · exact (ended stopped rfl).elim

end Returns

end Action

namespace Outcome

variable {ε α β : Type}

/-- Converting a value leaves a breach as it is. -/
theorem map_eq_broken_iff {convert : α → β} {outcome : Outcome ε α} {breach : Breach} :
    outcome.map convert = .broken breach ↔ outcome = .broken breach := by
  cases outcome <;> simp

end Outcome

section Returning

open Action.Returns

namespace Remote

/-- What a call is refused with, if it meets a fault that refuses it. -/
def refusal? (remote : Remote) (call : Call) : Option RemoteError :=
  (remote.faults.next call.primitive).bind (Fault.refusal? call)

/-- A call is refused, or it is handed the fault that it meets. -/
theorem announce_apply (call : Call) (before : Remote) :
    announce call before =
      match before.refusal? call with
      | some cause => (.error cause, before.calling call)
      | none => (.ok (before.faults.next call.primitive), before.calling call) := by
  rw [refusal?]
  cases refused : (before.faults.next call.primitive).bind (Fault.refusal? call) with
  | some cause => simp [announce, Action.bind_apply, refused]
  | none => simp [announce, Action.bind_apply, refused]

/-- No check fails in a call as such. -/
theorem announce_returns (call : Call) : Action.Returns (announce call) := by
  intro before breach
  rw [announce_apply]
  cases before.refusal? call with
  | some cause => simp
  | none => simp

theorem note_returns {ε : Type} (event : Event) :
    Action.Returns (note event : Action Remote ε Unit) := modify _

theorem modifySession_returns {ε : Type} (change : Session → Session) :
    Action.Returns (modifySession change : Action Remote ε Unit) := modify _

/-- No check fails when an object of the store is looked up. -/
theorem object_returns (location : ObjectPath) : Action.Returns (object location) := by
  refine bind get fun remote => ?_
  split
  · exact pure _
  · exact fail _

end Remote

open Remote

namespace Session

/-- A session that is not connected is an error, not a breach. -/
theorem requireConnection_returns : Action.Returns requireConnection :=
  bind get fun _ => ite (pure _) (fail _)

/-- An object that is not open is an error, not a breach. -/
theorem descriptor_returns (object : ObjectId) : Action.Returns (descriptor object) := by
  refine bind requireConnection_returns fun _ => bind get fun remote => ?_
  split
  · exact pure _
  · exact fail _

/-- A wrong path is an error, not a breach. -/
theorem locate_returns (path : String) : Action.Returns (locate path) := by
  unfold locate
  split
  · exact pure _
  · exact fail _

/-- No check fails when a size is looked up. -/
theorem sizeOf_returns (location : ObjectPath) : Action.Returns (sizeOf location) := by
  refine bind get fun remote => ?_
  split
  · exact pure _
  · refine bind (bind (announce_returns _) fun _ => ?_) fun size => ?_
    · exact bind (object_returns location) fun _ => pure _
    · exact bind (modifySession_returns _) fun _ => pure _

/-- No check fails when the content for a mode is got. -/
theorem contentFor_returns (location : ObjectPath) (mode : OpenMode) :
    Action.Returns (contentFor location mode) := by
  refine ite ?_ ?_
  · exact bind (bind (announce_returns _) fun _ => object_returns location) fun _ => pure _
  · exact bind (sizeOf_returns location) fun _ => pure _

theorem register_returns (descriptor : Descriptor) : Action.Returns (register descriptor) :=
  bind get fun _ => bind (modifySession_returns _) fun _ => pure _

theorem upload_returns (location : ObjectPath) (data : Bytes) :
    Action.Returns (upload location data) :=
  bind (bind (announce_returns _) fun _ => modify _) fun _ => modifySession_returns _

/-- No check fails when bytes are looked up, wherever they are. -/
theorem bytesOf_returns (descriptor : Descriptor) (start stop : Nat) :
    Action.Returns (bytesOf descriptor start stop) := by
  unfold bytesOf
  split
  · refine bind (announce_returns _) fun fault => bind (object_returns _) fun data => ?_
    exact ite (fail _) (pure _)
  · exact pure _

/-- No check fails when the session is connected. -/
theorem connect_returns : Action.Returns connect := by
  refine bind get fun remote => ite (pure _) ?_
  exact bind (modifySession_returns _) fun _ => note_returns _

/-- No check fails when an object is opened. -/
theorem openObject_returns (path : String) (mode : OpenMode) :
    Action.Returns (openObject path mode) := by
  refine bind (note_returns _) fun _ => bind (locate_returns path) fun location => ?_
  refine bind requireConnection_returns fun _ => ?_
  exact bind (contentFor_returns location mode) fun _ => register_returns _

/-- No check fails when an object is created. -/
theorem createObject_returns (path : String) : Action.Returns (createObject path) := by
  refine bind (note_returns _) fun _ => bind (locate_returns path) fun location => ?_
  refine bind requireConnection_returns fun _ => ?_
  exact bind (upload_returns location []) fun _ => register_returns _

/-- No check fails when an object is moved, as far as that may be. -/
theorem seekObject_returns (object : ObjectId) (target : SeekTarget) :
    Action.Returns (seekObject object target) := by
  refine bind (descriptor_returns object) fun descriptor => ?_
  split
  · exact bind (modifySession_returns _) fun _ => pure _
  · exact fail _

/-- No check fails when an object is closed. -/
theorem closeObject_returns (object : ObjectId) : Action.Returns (closeObject object) := by
  refine bind (note_returns _) fun _ => bind (descriptor_returns object) fun descriptor => ?_
  split
  · exact bind (upload_returns _ _) fun _ => modifySession_returns _
  · exact modifySession_returns _

/-- No check fails when the session is disconnected. -/
theorem disconnect_returns : Action.Returns disconnect := by
  intro before breach
  rw [(disconnect_ends before).1]
  simp

end Session

end Returning

/-- What is staged or recorded for the open objects fits into memory. -/
def Session.InMemory (session : Session) : Prop :=
  ∀ entry ∈ session.descriptors.entries, entry.2.content.length < Word.signedBound

instance (session : Session) : Decidable session.InMemory :=
  inferInstanceAs (Decidable (∀ entry ∈ session.descriptors.entries, _))

/-- What is open fits into memory. -/
theorem Session.InMemory.length_lt {session : Session} (inMemory : session.InMemory)
    {object : ObjectId} {descriptor : Descriptor}
    (found : session.descriptors.find? object = some descriptor) :
    descriptor.content.length < Word.signedBound := by
  obtain ⟨entry, held, rfl⟩ := FiniteMap.exists_entry found
  exact inMemory entry held

/-- Every object in a store fits into memory. -/
def FitInMemory (objects : FiniteMap ObjectPath Bytes) : Prop :=
  ∀ location data, objects.find? location = some data → data.length < Word.signedBound

/-- What is staged or recorded for the open objects fits into memory, and so does every object of
which a size is remembered. -/
structure Session.Bounded (session : Session) : Prop where
  contents : ∀ object descriptor, session.descriptors.find? object = some descriptor →
    descriptor.content.length < Word.signedBound
  sizes : ∀ location size, session.sizes.find? location = some size → size < Word.signedBound

/-- All objects fit into memory, in the store and as far as the session knows of them. -/
structure Remote.InMemory (remote : Remote) : Prop where
  objects : FitInMemory remote.objects
  session : remote.session.Bounded

/-- A buffer that is read into fits into memory, and so do objects that others store. -/
def Turn.InMemory : Turn → Prop
  | .ask request => request.Addressable
  | .replace objects => FitInMemory objects
  | .forget _ | .arm _ => True

/-- Staged content that could take bytes, could any content reach as far as `count` of them. -/
structure Descriptor.OutOfReach (descriptor : Descriptor) (count : Nat) : Prop where
  writable : descriptor.mode.writable = true
  staged : ∃ data modified, descriptor.content = .staged data modified
  beyond : Word.signedBound ≤ descriptor.position + count

/-- A write of at least one byte to an object that cannot reach as far. -/
def SessionRequest.Overreaches (remote : Remote) : SessionRequest → Prop
  | writeObject object data => data ≠ [] ∧ remote.session.connected = true ∧ ∃ descriptor,
      remote.session.descriptors.find? object = some descriptor ∧ descriptor.OutOfReach data.length
  | _ => False

namespace FitInMemory

theorem insert {objects : FiniteMap ObjectPath Bytes} (fit : FitInMemory objects)
    (location : ObjectPath) {data : Bytes} (small : data.length < Word.signedBound) :
    FitInMemory (objects.insert location data) := by
  intro other found held
  rw [FiniteMap.find?_insert] at held
  split at held
  · rwa [← Option.some.inj held]
  · exact fit other found held

end FitInMemory

namespace Session.Bounded

variable {session : Session}

theorem update (bounded : session.Bounded) (object : ObjectId) {descriptor : Descriptor}
    (small : descriptor.content.length < Word.signedBound) :
    (session.update object descriptor).Bounded where
  contents := by
    intro other found held
    rw [Session.update, FiniteMap.find?_insert] at held
    split at held
    · rwa [← Option.some.inj held]
    · exact bounded.contents other found held
  sizes := bounded.sizes

theorem add (bounded : session.Bounded) {descriptor : Descriptor}
    (small : descriptor.content.length < Word.signedBound) : (session.add descriptor).Bounded where
  contents := (bounded.update session.nextObject small).contents
  sizes := bounded.sizes

theorem remove (bounded : session.Bounded) (object : ObjectId) : (session.remove object).Bounded where
  contents := by
    intro other found held
    rw [Session.remove, FiniteMap.find?_erase] at held
    split at held
    · contradiction
    · exact bounded.contents other found held
  sizes := bounded.sizes

theorem forget (bounded : session.Bounded) (location : ObjectPath) :
    (session.forget location).Bounded where
  contents := bounded.contents
  sizes := by
    intro other found held
    rw [Session.forget, FiniteMap.find?_erase] at held
    split at held
    · contradiction
    · exact bounded.sizes other found held

theorem remember (bounded : session.Bounded) (location : ObjectPath) {size : Nat}
    (small : size < Word.signedBound) : (session.remember location size).Bounded := by
  unfold Session.remember
  split
  · refine ⟨bounded.contents, fun other found held => ?_⟩
    rw [FiniteMap.find?_insert] at held
    split at held
    · rwa [← Option.some.inj held]
    · exact bounded.sizes other found held
  · exact bounded

end Session.Bounded

namespace Remote.InMemory

variable {before after remote : Remote}

/-- A store whose objects fit into memory is known to a new session as such. -/
theorem create {objects : FiniteMap ObjectPath Bytes} (fit : FitInMemory objects)
    (remembersSizes : Bool) : (Remote.create objects remembersSizes).InMemory where
  objects := fit
  session := ⟨fun _ _ found => by contradiction, fun _ _ found => by contradiction⟩

/-- What an object is opened with fits into memory if the object does. -/
theorem provides (inMemory : before.InMemory) {location : ObjectPath} {mode : OpenMode}
    {content : Content} {learned : Session}
    (provides : before.Provides location mode content learned) :
    learned.Bounded ∧ content.length < Word.signedBound := by
  cases provides with
  | staged writable held => exact ⟨inMemory.session, inMemory.objects _ _ held⟩
  | remembered readOnly remembered =>
      exact ⟨inMemory.session, inMemory.session.sizes _ _ remembered⟩
  | measured readOnly held =>
      have small := inMemory.objects _ _ held
      exact ⟨inMemory.session.remember _ small, small⟩

/-- No request makes anything that does not fit into memory. -/
theorem of_effect (inMemory : before.InMemory) {request : SessionRequest}
    {outcome : Outcome RemoteError SessionReply}
    (effect : before.Effect request (outcome, after)) : after.InMemory := by
  have bounded := inMemory.session
  cases effect with
  | failed unanswered session objects =>
      exact ⟨objects ▸ inMemory.objects, session ▸ bounded⟩
  | connected session objects =>
      exact ⟨objects ▸ inMemory.objects, session ▸ ⟨bounded.contents, bounded.sizes⟩⟩
  | opened spelled online provides session objects =>
      obtain ⟨learned, small⟩ := inMemory.provides provides
      exact ⟨objects ▸ inMemory.objects, session ▸ learned.add small⟩
  | created spelled online session objects =>
      have none : ([] : Bytes).length < Word.signedBound := by decide
      exact ⟨objects ▸ inMemory.objects.insert _ none, session ▸ (bounded.forget _).add none⟩
  | moved moves found session objects =>
      have small := bounded.contents _ _ found
      exact ⟨objects ▸ inMemory.objects, session ▸ bounded.update _ small⟩
  | @written object data staged modified descriptor _ present found content session objects within =>
      have small := bounded.contents _ _ found
      rw [content] at small
      refine ⟨objects ▸ inMemory.objects, session ▸ bounded.update _ ?_⟩
      rw [Descriptor.write, Content.length, Bytes.length_overlay]
      exact Nat.max_lt.mpr ⟨small, within⟩
  | @spilled object data staged modified descriptor breach _ found content within session objects =>
      have small : staged.length < Word.signedBound := by
        have small := bounded.contents _ _ found
        rwa [content] at small
      refine ⟨objects ▸ inMemory.objects, session ▸ bounded.update _ ?_⟩
      rw [Descriptor.spilled, Content.length, Bytes.length_overlay, List.length_take]
      omega
  | closed found kept session objects calls =>
      exact ⟨objects ▸ inMemory.objects, session ▸ bounded.remove _⟩
  | @uploaded object descriptor data _ found uploads session objects calls =>
      have small := bounded.contents _ _ found
      rw [Descriptor.upload?_eq_some.mp uploads] at small
      exact ⟨objects ▸ inMemory.objects.insert _ small, session ▸ (bounded.forget _).remove _⟩
  | disconnected session objects =>
      exact ⟨objects ▸ inMemory.objects,
        session ▸ ⟨fun _ _ found => by contradiction, bounded.sizes⟩⟩

/-- Nothing that happens makes anything that does not fit into memory, but for what others store. -/
theorem turn (inMemory : remote.InMemory) {turn : Turn} (fits : turn.InMemory) :
    (turn.perform remote).2.InMemory := by
  cases turn with
  | ask request => exact inMemory.of_effect (request.perform_effect remote)
  | forget location => exact ⟨inMemory.objects, inMemory.session.forget location⟩
  | arm faults => exact ⟨inMemory.objects, inMemory.session⟩
  | replace objects => exact ⟨fits, inMemory.session⟩

end Remote.InMemory

namespace Session

variable {remote : Remote} {object : ObjectId} {data : Bytes} {breach : Breach}

/-- Inside of memory, the end of what is to be read is a machine word. -/
theorem readObject_ne_broken (bounded : remote.session.Bounded) {buffer : Bytes}
    (addressable : buffer.length < Word.signedBound) (breach : Breach) :
    (readObject object buffer remote).1 ≠ .broken breach := by
  rcases descriptor_ends object remote with ⟨cause, failed⟩ | ⟨descriptor, answered, found⟩
  · simp [readObject, Action.bind_apply, failed]
  · have short := bounded.contents _ _ found
    have half := Word.signedBound_add_signedBound
    rw [readObject, Action.bind_apply, answered]
    simp only [Action.ite_apply]
    split
    · simp
    · split
      · simp
      · next busy =>
          have fits : descriptor.position + buffer.length < Word.bound := by
            simp only [not_or, Nat.not_le] at busy
            omega
          rw [Action.bind_apply, Word.add_apply fits]
          have reads := bytesOf_returns descriptor descriptor.position
            (min (descriptor.position + buffer.length) descriptor.content.length)
          apply Action.Returns.bind reads
          intro answer
          apply Action.Returns.bind (Remote.modifySession_returns _)
          intro _
          exact .bind (Remote.note_returns _) fun _ => .pure _

/-- A write to an open object is abandoned exactly if the object does not reach as far. -/
theorem writeObject_eq_broken_of_found {descriptor : Descriptor}
    (answered : Session.descriptor object remote = (.ok descriptor, remote)) :
    (writeObject object data remote).1 = .broken breach ↔
      breach = .contentTooLarge ∧ data ≠ [] ∧ descriptor.OutOfReach data.length := by
  by_cases writable : descriptor.mode.writable = true
  · cases content : descriptor.content with
    | recorded size =>
        have outside : ¬descriptor.OutOfReach data.length := by
          rintro ⟨-, ⟨staged, modified, is_staged⟩, -⟩
          rw [content] at is_staged
          contradiction
        simp [writeObject, Action.bind_apply, answered, writable, content, outside]
    | staged staged modified =>
        have outside : descriptor.OutOfReach data.length ↔
            Word.signedBound ≤ descriptor.position + data.length :=
          ⟨fun outside => outside.beyond, fun beyond => ⟨writable, ⟨_, _, content⟩, beyond⟩⟩
        rw [outside]
        by_cases empty : data = []
        · simp [writeObject, Action.bind_apply, answered, writable, content, empty]
        · by_cases start : descriptor.position < Word.signedBound
          · by_cases within : descriptor.position + data.length < Word.signedBound
            · simp [writeObject, Action.bind_apply, Action.map_apply, answered, writable, content,
                empty, Action.ensure, start, within, Nat.not_le.mpr within, Remote.modifySession,
                Remote.note]
            · have ended : (writeObject object data remote).1 = .broken .contentTooLarge := by
                simp [writeObject, Action.bind_apply, answered, writable, content, empty,
                  Action.ensure, start, within, Remote.modifySession]
              simp [ended, empty, Nat.not_lt.mp within, eq_comm]
          · have beyond : Word.signedBound ≤ descriptor.position + data.length := by omega
            have ended : (writeObject object data remote).1 = .broken .contentTooLarge := by
              simp [writeObject, Action.bind_apply, answered, writable, content, empty,
                Action.ensure, start]
            simp [ended, empty, beyond, eq_comm]
  · have outside : ¬descriptor.OutOfReach data.length := fun outside => writable outside.writable
    simp [writeObject, Action.bind_apply, answered, writable, outside]

/-- A write is abandoned exactly if it overreaches. -/
theorem writeObject_eq_broken_iff :
    (writeObject object data remote).1 = .broken breach ↔
      breach = .contentTooLarge ∧
        (SessionRequest.writeObject object data).Overreaches remote := by
  by_cases connected : remote.session.connected = true
  · cases found : remote.session.descriptors.find? object with
    | none =>
        simp [writeObject, Session.descriptor, requireConnection, Action.bind_apply, connected,
          found, SessionRequest.Overreaches]
    | some descriptor =>
        rw [writeObject_eq_broken_of_found (Remote.descriptor_of_found connected found)]
        simp [SessionRequest.Overreaches, connected, found]
  · simp [writeObject, Session.descriptor, requireConnection, Action.bind_apply, connected,
      SessionRequest.Overreaches]

end Session

namespace SessionRequest

open Session

variable {remote : Remote} {request : SessionRequest} {breach : Breach}

/-- A conversion of the answer is no reason to abandon a request. -/
theorem map_ne_broken {α β : Type} {convert : α → β} {body : RemoteAction α}
    (returns : ∀ breach, (body remote).1 ≠ .broken breach) :
    ((convert <$> body) remote).1 ≠ .broken breach := by
  rw [Action.map_apply, ne_eq, Outcome.map_eq_broken_iff]
  exact returns breach

/-- A request that is abandoned is a write that overreaches, and every such write is. -/
theorem perform_eq_broken_iff (bounded : remote.session.Bounded)
    (addressable : request.Addressable) :
    (request.perform remote).1 = .broken breach ↔
      breach = .contentTooLarge ∧ request.Overreaches remote := by
  by_cases writes : ∃ object data, request = .writeObject object data
  · obtain ⟨object, data, rfl⟩ := writes
    rw [perform, Action.map_apply, Outcome.map_eq_broken_iff]
    exact writeObject_eq_broken_iff
  · have returns : (request.perform remote).1 ≠ .broken breach := by
      cases request with
      | connect => exact map_ne_broken (connect_returns remote)
      | openObject path mode => exact map_ne_broken (openObject_returns path mode remote)
      | createObject path => exact map_ne_broken (createObject_returns path remote)
      | readObject object buffer =>
          exact map_ne_broken (readObject_ne_broken bounded addressable)
      | writeObject object data => exact (writes ⟨object, data, rfl⟩).elim
      | seekObject object target => exact map_ne_broken (seekObject_returns object target remote)
      | position object => exact map_ne_broken (seekObject_returns object (.current 0) remote)
      | closeObject object => exact map_ne_broken (closeObject_returns object remote)
      | disconnect => exact map_ne_broken (disconnect_returns remote)
    have inside : ¬request.Overreaches remote := by
      cases request with
      | writeObject object data => exact (writes ⟨object, data, rfl⟩).elim
      | _ => exact id
    exact iff_of_false returns fun broken => inside broken.2

/-- What a write that is abandoned leaves behind. -/
theorem writeObject_abandoned {object : ObjectId} {data staged : Bytes} {modified : Bool}
    {descriptor : Descriptor} (found : remote.session.descriptors.find? object = some descriptor)
    (content : descriptor.content = .staged staged modified)
    (broken : ((writeObject object data).perform remote).1 = .broken breach) :
    ((writeObject object data).perform remote).2.objects = remote.objects ∧
      ((writeObject object data).perform remote).2.session =
        if descriptor.position < Word.signedBound then
          remote.session.update object (descriptor.spilled staged modified data)
        else remote.session := by
  rw [perform, Action.map_apply, Outcome.map_eq_broken_iff] at broken
  obtain ⟨-, present, connected, other, same, outside⟩ := writeObject_eq_broken_iff.mp broken
  obtain rfl := Option.some.inj (found.symm.trans same)
  have answered := Remote.descriptor_of_found connected found
  have beyond := Nat.not_lt.mpr outside.beyond
  rw [perform, Action.map_apply]
  by_cases start : descriptor.position < Word.signedBound
  · simp [Session.writeObject, Action.bind_apply, answered, outside.writable, content, present,
      Action.ensure, start, beyond, Remote.modifySession]
  · simp [Session.writeObject, Action.bind_apply, answered, outside.writable, content, present,
      Action.ensure, start]

/-- A request that ends with an error changes nothing, whatever faults are in store. -/
theorem unchanged {cause : RemoteError} (failed : (request.perform remote).1 = .error cause) :
    (request.perform remote).2.session = remote.session ∧
      (request.perform remote).2.objects = remote.objects := by
  have effect := request.perform_effect remote
  generalize request.perform remote = ended at failed effect
  cases effect with
  | failed unanswered session objects => exact ⟨session, objects⟩
  | connected | opened | created | moved | written | spilled | closed | uploaded | disconnected =>
      contradiction

end SessionRequest

namespace Entry

/-- The remote side after the turn of an entry. -/
def after (entry : Entry) : Remote := (entry.turn.perform entry.before).2

end Entry

namespace History

/-- What fits into memory at first does so all the time. -/
theorem inMemory {start : Remote} {turns : List Turn} (begins : start.InMemory)
    (fits : ∀ turn ∈ turns, turn.InMemory) :
    (after start turns).now.InMemory ∧
      ∀ entry ∈ (after start turns).past, entry.before.InMemory ∧ entry.turn.InMemory := by
  induction turns with
  | nil => exact ⟨begins, fun _ member => by contradiction⟩
  | cons turn earlier ih =>
      obtain ⟨last, before⟩ := List.forall_mem_cons.mp fits
      obtain ⟨now, past⟩ := ih before
      refine ⟨now.turn last, fun entry member => ?_⟩
      rcases List.mem_cons.mp member with rfl | earlier
      · exact ⟨now, last⟩
      · exact past entry earlier

end History

end RemoteStreams
