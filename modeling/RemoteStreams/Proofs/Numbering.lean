import RemoteStreams.Proofs.Refusals
import RemoteStreams.Proofs.StoreHistory

/-! # Object numbers

A session gives each object that it opens a number of its own. Numbers are given out in order, so
that none is given out twice, however often the session ends in between. An object that was closed,
or dropped with its session, is gone for good (`RemoteStreams.Remote.Gone`): nothing brings it back,
and every request for it fails without effect (`RemoteStreams.History.Numbers`).
-/

namespace RemoteStreams

/-- The object that a turn opened, if it opened one. -/
def Entry.opened? (entry : Entry) : Option ObjectId :=
  match entry.turn, entry.outcome with
  | .ask (.openObject _ _), .ok (.object object) => some object
  | .ask (.createObject _), .ok (.object object) => some object
  | _, _ => none

/-- `object` was open, and the turn closed it or dropped it with the session. -/
structure Entry.Ended (entry : Entry) (object : ObjectId) : Prop where
  succeeded : entry.outcome.isOk = true
  ends : entry.turn.ends object = true
  present : ∃ descriptor, entry.before.session.descriptors.find? object = some descriptor

namespace Remote

/-- The number of `object` was given out, and it is not open. -/
structure Gone (remote : Remote) (object : ObjectId) : Prop where
  numbered : object.number ≤ remote.session.lastNumber
  absent : remote.session.descriptors.find? object = none

/-- The error of a request for an object that is not open. -/
def absence (remote : Remote) (object : ObjectId) : RemoteError :=
  if remote.session.connected then .generic (.notOpen object) else .generic .notConnected

variable {before after remote : Remote} {object : ObjectId} {request : SessionRequest}
  {outcome : Outcome RemoteError SessionReply}

/-- An object that is not open is not found. -/
theorem descriptor_absent (absent : remote.session.descriptors.find? object = none) :
    Session.descriptor object remote = (.error (remote.absence object), remote) := by
  by_cases connected : remote.session.connected = true
  · simp [Session.descriptor, Session.requireConnection, Action.bind_apply, connected, absent,
      absence]
  · simp [Session.descriptor, Session.requireConnection, Action.bind_apply, connected, absence]

/-- What begins by looking for an object that is not open goes no further. -/
theorem bind_absent {α : Type} (absent : remote.session.descriptors.find? object = none)
    (next : Descriptor → RemoteAction α) :
    (Session.descriptor object >>= next) remote = (.error (remote.absence object), remote) := by
  rw [Action.bind_apply, descriptor_absent absent]

/-- It cannot be closed either. -/
theorem closeObject_absent (absent : remote.session.descriptors.find? object = none) :
    Session.closeObject object remote =
      (.error (remote.absence object), remote.noting (.closingObject object)) := by
  have still : (remote.noting (.closingObject object)).session.descriptors.find? object = none :=
    absent
  exact bind_absent still _

/-- A request for an object that is not open fails and changes nothing. -/
theorem perform_absent (absent : remote.session.descriptors.find? object = none)
    (about : request.object? = some object) :
    (request.perform remote).1 = .error (remote.absence object) ∧
      (request.perform remote).2.session = remote.session ∧
      (request.perform remote).2.objects = remote.objects := by
  have failed : (request.perform remote).1 = .error (remote.absence object) := by
    cases request with
    | readObject same buffer =>
        obtain rfl := Option.some.inj about
        rw [SessionRequest.perform, Action.map_apply, Session.readObject, bind_absent absent]
        rfl
    | writeObject same data =>
        obtain rfl := Option.some.inj about
        rw [SessionRequest.perform, Action.map_apply, Session.writeObject, bind_absent absent]
        rfl
    | seekObject same target =>
        obtain rfl := Option.some.inj about
        rw [SessionRequest.perform, Action.map_apply, Session.seekObject, bind_absent absent]
        rfl
    | position same =>
        obtain rfl := Option.some.inj about
        rw [SessionRequest.perform, Action.map_apply, Session.position, Session.seekObject,
          bind_absent absent]
        rfl
    | closeObject same =>
        obtain rfl := Option.some.inj about
        rw [SessionRequest.perform, Action.map_apply, closeObject_absent absent]
        rfl
    | connect | openObject | createObject | disconnect => contradiction
  exact ⟨failed, request.unchanged failed⟩

/-- What is gone stays away, whatever the session is asked for. -/
theorem Gone.ask (gone : remote.Gone object) (request : SessionRequest) :
    (request.perform remote).2.Gone object := by
  have effect := request.perform_effect remote
  refine ⟨Nat.le_trans gone.numbered effect.lastNumber_le, ?_⟩
  by_cases about : request.object? = some object
  · obtain ⟨-, session, -⟩ := perform_absent gone.absent about
    rw [session]
    exact gone.absent
  · by_cases lasting : request = .disconnect
    · subst lasting
      rw [SessionRequest.perform, Action.map_apply, (Session.disconnect_ends remote).2.1]
      rfl
    · exact (effect.find?_eq gone.numbered about lasting).trans gone.absent

/-- What is gone stays gone, since numbers only get larger. -/
theorem Gone.turn (gone : remote.Gone object) (turn : Turn) :
    (turn.perform remote).2.Gone object := by
  cases turn with
  | ask request => exact gone.ask request
  | forget | arm | replace => exact ⟨gone.numbered, gone.absent⟩

namespace Effect

/-- A session without a connection opens nothing, and loses all that it has open with it. -/
theorem offline (effect : before.Effect request (outcome, after))
    (closed : before.session.connected = false → before.session.descriptors = ∅)
    (ended : after.session.connected = false) : after.session.descriptors = ∅ := by
  have online {object : ObjectId} {descriptor : Descriptor} {session : Session}
      (found : before.session.descriptors.find? object = some descriptor)
      (becomes : after.session = session) (same : session.connected = before.session.connected) :
      after.session.descriptors = ∅ := by
    rw [becomes, same] at ended
    rw [closed ended] at found
    contradiction
  cases effect with
  | failed unanswered session objects =>
      rw [session] at ended ⊢
      exact closed ended
  | connected session objects =>
      rw [session] at ended
      contradiction
  | opened spelled connected provides session objects =>
      have still : before.session.connected = false := by
        rw [session] at ended
        exact provides.connected_eq.symm.trans ended
      rw [connected] at still
      contradiction
  | created spelled connected session objects =>
      have still : before.session.connected = false := by
        rw [session] at ended
        exact ended
      rw [connected] at still
      contradiction
  | moved moves found session objects => exact online found session rfl
  | written present found content session objects => exact online found session rfl
  | spilled found content within session objects => exact online found session rfl
  | closed found kept session objects calls => exact online found session rfl
  | uploaded found uploads session objects calls => exact online found session rfl
  | disconnected session objects =>
      rw [session]
      rfl

/-- An object that is opened gets the next number. -/
theorem opened_eq (effect : before.Effect request (outcome, after))
    (opened : Entry.opened? ⟨before, .ask request, outcome⟩ = some object) :
    object = before.session.nextObject ∧
      after.session.lastNumber = before.session.lastNumber + 1 := by
  cases effect with
  | failed unanswered session objects =>
      cases outcome with
      | ok reply => exact (unanswered reply rfl).elim
      | error | broken => cases request <;> contradiction
  | @opened _ _ _ _ learned _ spelled online provides session objects =>
      obtain rfl := Option.some.inj opened
      rw [session, Session.nextObject, Session.nextObject, provides.lastNumber_eq]
      exact ⟨rfl, congrArg (· + 1) provides.lastNumber_eq⟩
  | created spelled online session objects =>
      obtain rfl := Option.some.inj opened
      rw [session]
      exact ⟨rfl, rfl⟩
  | moved moves found session objects => cases request <;> contradiction
  | connected | written | spilled | closed | uploaded | disconnected => contradiction

/-- An object that is ended is gone. -/
theorem gone (effect : before.Effect request (outcome, after))
    (numbered : object.number ≤ before.session.lastNumber)
    (ended : Entry.Ended ⟨before, .ask request, outcome⟩ object) : after.Gone object := by
  refine ⟨Nat.le_trans numbered effect.lastNumber_le, ?_⟩
  have ends := ended.ends
  cases effect with
  | failed unanswered session objects =>
      have succeeded := ended.succeeded
      rw [Outcome.isOk_eq_false unanswered] at succeeded
      contradiction
  | moved moves found session objects =>
      cases request with
      | closeObject | disconnect => contradiction
      | _ => simp [Turn.ends] at ends
  | closed found kept session objects calls =>
      obtain rfl := of_decide_eq_true ends
      rw [session]
      exact FiniteMap.find?_erase_self _ _
  | uploaded found uploads session objects calls =>
      obtain rfl := of_decide_eq_true ends
      rw [session]
      exact FiniteMap.find?_erase_self _ _
  | disconnected session objects =>
      rw [session]
      rfl
  | connected | opened | created | written | spilled => simp [Turn.ends] at ends

end Effect

end Remote

namespace Turn

variable {before : Remote} {object : ObjectId}

/-- No turn takes a number back. -/
theorem lastNumber_le (turn : Turn) (before : Remote) :
    before.session.lastNumber ≤ (turn.perform before).2.session.lastNumber := by
  cases turn with
  | ask request => exact (request.perform_effect before).lastNumber_le
  | forget | arm | replace => exact Nat.le_refl _

/-- When a session ends, no object stays open. -/
theorem offline (turn : Turn)
    (closed : before.session.connected = false → before.session.descriptors = ∅)
    (ended : (turn.perform before).2.session.connected = false) :
    (turn.perform before).2.session.descriptors = ∅ := by
  cases turn with
  | ask request => exact (request.perform_effect before).offline closed ended
  | forget | arm | replace => exact closed ended

/-- A turn that opens an object gives out the next number. -/
theorem opened_eq {turn : Turn}
    (opened : Entry.opened? ⟨before, turn, (turn.perform before).1⟩ = some object) :
    object = before.session.nextObject ∧
      (turn.perform before).2.session.lastNumber = before.session.lastNumber + 1 := by
  cases turn with
  | ask request => exact (request.perform_effect before).opened_eq opened
  | forget | arm | replace => contradiction

/-- A turn that ends an object leaves it gone. -/
theorem gone {turn : Turn} (numbered : object.number ≤ before.session.lastNumber)
    (ended : Entry.Ended ⟨before, turn, (turn.perform before).1⟩ object) :
    (turn.perform before).2.Gone object := by
  cases turn with
  | ask request => exact (request.perform_effect before).gone numbered ended
  | forget | arm | replace =>
      have ends := ended.ends
      contradiction

end Turn

namespace History

/-- What the numbers of objects tell. -/
structure Numbers (history : History) : Prop where
  /-- Without a connection nothing is open. -/
  offline : history.now.session.connected = false → history.now.session.descriptors = ∅
  /-- Numbers are given out in order: each is larger than all that were given out earlier. -/
  ordered : (history.past.filterMap Entry.opened?).Pairwise fun later earlier =>
    earlier.number < later.number
  given : ∀ object ∈ history.past.filterMap Entry.opened?,
    object.number ≤ history.now.session.lastNumber
  /-- What was closed or dropped is never open again. -/
  gone : ∀ entry ∈ history.past, ∀ object, entry.Ended object → history.now.Gone object

variable {history : History}

/-- A turn goes on with the numbers in order. -/
theorem Numbers.next (numbers : history.Numbers) (tracks : history.Tracks) (turn : Turn) :
    (history.next turn).Numbers := by
  have later := turn.lastNumber_le history.now
  have gone : ∀ entry ∈ (history.next turn).past, ∀ object, entry.Ended object →
      (history.next turn).now.Gone object := by
    intro entry member object ended
    rcases List.mem_cons.mp member with rfl | past
    · obtain ⟨descriptor, found⟩ := ended.present
      exact Turn.gone (tracks.tracked object descriptor found).numbered ended
    · exact (numbers.gone entry past object ended).turn turn
  have offline := turn.offline numbers.offline
  cases opened : Entry.opened? ⟨history.now, turn, (turn.perform history.now).1⟩ with
  | none =>
      have same : (history.next turn).past.filterMap Entry.opened? =
          history.past.filterMap Entry.opened? := List.filterMap_cons_none opened
      refine ⟨offline, same ▸ numbers.ordered, ?_, gone⟩
      intro object member
      rw [same] at member
      exact Nat.le_trans (numbers.given object member) later
  | some object =>
      have longer : (history.next turn).past.filterMap Entry.opened? =
          object :: history.past.filterMap Entry.opened? := List.filterMap_cons_some opened
      obtain ⟨rfl, counted⟩ := Turn.opened_eq opened
      refine ⟨offline, ?_, ?_, gone⟩
      · rw [longer, List.pairwise_cons]
        refine ⟨?_, numbers.ordered⟩
        intro earlier member
        exact Nat.lt_succ_of_le (numbers.given earlier member)
      · intro object member
        rw [longer] at member
        rcases List.mem_cons.mp member with rfl | past
        · exact Nat.le_of_eq counted.symm
        · exact Nat.le_trans (numbers.given object past) later

/-- Every session gives its objects numbers in this way, whatever happens to it. -/
theorem numbers_after (objects : FiniteMap ObjectPath Bytes) (remembersSizes : Bool)
    (turns : List Turn) : (after (.create objects remembersSizes) turns).Numbers := by
  induction turns with
  | nil =>
      constructor
      · intro _
        rfl
      · exact .nil
      · intro object member
        contradiction
      · intro entry member
        contradiction
  | cons turn earlier ih => exact ih.next (tracks_after objects remembersSizes earlier) turn

end History

end RemoteStreams
