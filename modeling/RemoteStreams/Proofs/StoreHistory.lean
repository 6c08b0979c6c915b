import RemoteStreams.Proofs.SessionHistory

/-! # What a history leaves in the store

The objects of a store are a matter of history. At each location there is what was left there
last (`RemoteStreams.left?`): an object that was created is empty at first, and an open object
that accepted bytes replaces it when it is closed. Nothing else that a session does changes an
object (`RemoteStreams.History.objects_eq_left`).

The sizes that a session remembers keep up with that: they are the sizes of the objects as they
are (`RemoteStreams.History.sizes_eq_length`), so that an object is always opened as it was left.
-/

namespace RemoteStreams

/-- The session is asked to write bytes to `object`, at least one. -/
def Turn.writes (turn : Turn) (object : ObjectId) : Bool :=
  match turn with
  | .ask (.writeObject other data) => other = object && data ≠ []
  | _ => false

/-- Bytes were accepted for `object` at some time in the past. -/
def touched (object : ObjectId) (past : List Entry) : Bool :=
  past.any fun entry => entry.outcome.isOk && entry.turn.writes object

/-- The content that is staged for `location`, if the descriptor is there and stages any. -/
def Descriptor.stagedAt? (descriptor : Descriptor) (location : ObjectPath) : Option Bytes :=
  match descriptor.content with
  | .staged data _ => if descriptor.location = location then some data else none
  | .recorded _ => none

/-- What a successful turn leaves at `location`, with the past that went before it. A creation
leaves an empty object, and a close the staged content of an object that accepted bytes. -/
def Entry.leaves? (entry : Entry) (past : List Entry) (location : ObjectPath) : Option Bytes :=
  match entry.turn with
  | .ask (.createObject path) =>
      match ObjectPath.parse path with
      | .ok spelled => if spelled = location then some [] else none
      | .error _ => none
  | .ask (.closeObject object) =>
      if touched object past then
        (entry.before.session.descriptors.find? object).bind (·.stagedAt? location)
      else none
  | _ => none

/-- What was left at `location` last, or what was there initially if nothing was left. -/
def left? (initial : FiniteMap ObjectPath Bytes) (location : ObjectPath) :
    List Entry → Option Bytes
  | [] => initial.find? location
  | entry :: past =>
      if entry.outcome.isOk then
        (entry.leaves? past location).or (left? initial location past)
      else left? initial location past

section Touched

variable {before : Remote} {turn : Turn} {request : SessionRequest}
  {outcome : Outcome RemoteError SessionReply} {object other : ObjectId} {past : List Entry}

/-- A request that just moves an object writes to none. -/
theorem Turn.writes_of_moves (moves : request.moves? = some other) :
    (Turn.ask request).writes object = false := by
  cases request with
  | writeObject target data =>
      by_cases empty : data = []
      · simp [writes, empty]
      · simp [SessionRequest.moves?, empty] at moves
  | _ => rfl

/-- An object was touched by the last turn or before. -/
theorem touched_cons (entry : Entry) :
    touched object (entry :: past) =
      ((entry.outcome.isOk && entry.turn.writes object) || touched object past) := rfl

/-- A turn that does not write to an object leaves it untouched if it was. -/
theorem touched_of_not_writes (idle : turn.writes object = false) :
    touched object (⟨before, turn, outcome⟩ :: past) = touched object past := by
  simp [touched_cons, idle]

/-- A turn without success touches nothing. -/
theorem touched_of_unanswered (unanswered : ∀ reply, outcome ≠ .ok reply) :
    touched object (⟨before, turn, outcome⟩ :: past) = touched object past := by
  simp [touched_cons, Outcome.isOk_eq_false unanswered]

/-- Only what is created or closed leaves anything. -/
theorem left?_of_leaves_none {initial : FiniteMap ObjectPath Bytes} {location : ObjectPath}
    {entry : Entry} {past : List Entry} (leaves : entry.leaves? past location = none) :
    left? initial location (entry :: past) = left? initial location past := by
  simp [left?, leaves]

/-- A turn without success leaves nothing. -/
theorem left?_of_unanswered {initial : FiniteMap ObjectPath Bytes} {location : ObjectPath}
    (unanswered : ∀ reply, outcome ≠ .ok reply) :
    left? initial location (⟨before, turn, outcome⟩ :: past) = left? initial location past := by
  simp [left?, Outcome.isOk_eq_false unanswered]

/-- A request that just moves an object leaves nothing. -/
theorem Entry.leaves?_of_moves {location : ObjectPath} (moves : request.moves? = some other) :
    Entry.leaves? ⟨before, .ask request, outcome⟩ past location = none := by
  cases request with
  | createObject path => contradiction
  | closeObject object => contradiction
  | _ => rfl

end Touched

/-- What a past tells of an open object: its number was given out, it is staged exactly if it
may be written to, and it is to be uploaded exactly if it accepted bytes. -/
structure Tracked (past : List Entry) (lastNumber : Nat) (object : ObjectId)
    (descriptor : Descriptor) : Prop where
  numbered : object.number ≤ lastNumber
  sound : descriptor.Sound
  uploads : descriptor.upload?.isSome = touched object past

/-- No size that is remembered is wrong, and none is remembered of an object that is not there. -/
def Remote.Truthful (remote : Remote) : Prop :=
  ∀ location size, remote.session.sizes.find? location = some size →
    ∃ data, remote.objects.find? location = some data ∧ data.length = size

namespace History

/-- The past tells of all open objects. Objects that are yet to be opened are untouched. -/
structure Tracks (history : History) : Prop where
  tracked : ∀ object descriptor,
    history.now.session.descriptors.find? object = some descriptor →
      Tracked history.past history.now.session.lastNumber object descriptor
  untouched : ∀ object : ObjectId, history.now.session.lastNumber < object.number →
    touched object history.past = false

/-- The past accounts for all objects, from the initial ones on. -/
def Accounts (initial : FiniteMap ObjectPath Bytes) (history : History) : Prop :=
  ∀ location, history.now.objects.find? location = left? initial location history.past

end History

section Descriptors

variable {descriptor : Descriptor}

/-- An object has something to upload exactly if it is staged and modified. -/
theorem Descriptor.upload?_eq_some {data : Bytes} :
    descriptor.upload? = some data ↔ descriptor.content = .staged data true := by
  unfold Descriptor.upload?
  split <;> simp_all

/-- A write that is given up does not tell whether the content has to be stored. -/
theorem Descriptor.upload?_spilled {staged data : Bytes} {modified : Bool}
    (content : descriptor.content = .staged staged modified) :
    (descriptor.spilled staged modified data).upload?.isSome = descriptor.upload?.isSome := by
  rw [upload?, upload?, content]
  cases modified <;> rfl

/-- Only what may be written to is ever uploaded. -/
theorem Descriptor.Sound.upload?_of_read (sound : descriptor.Sound)
    (readOnly : descriptor.mode.writable = false) : descriptor.upload? = none := by
  unfold Descriptor.Sound at sound
  unfold Descriptor.upload?
  split at sound
  · next content => rw [content]
  · rw [readOnly] at sound
    contradiction

/-- Closing an object leaves the others as they are. -/
theorem Session.find?_of_remove {session : Session} {object other : ObjectId}
    (found : (session.remove object).descriptors.find? other = some descriptor) :
    session.descriptors.find? other = some descriptor := by
  rw [remove, FiniteMap.find?_erase] at found
  split at found
  · contradiction
  · exact found

/-- An object that was just opened has nothing to upload. -/
theorem Remote.Provides.upload?_eq_none {before : Remote} {location : ObjectPath}
    {mode : OpenMode} {content : Content} {learned : Session}
    (provides : before.Provides location mode content learned) (position : Nat) :
    Descriptor.upload? ⟨location, mode, position, content⟩ = none := by
  cases provides <;> rfl

end Descriptors

namespace History

/-- A history that has not begun is tracked. -/
theorem tracks_start (objects : FiniteMap ObjectPath Bytes) (remembersSizes : Bool) :
    Tracks ⟨[], .create objects remembersSizes⟩ where
  tracked := fun object descriptor found => by
    simp [Remote.create, Session.create] at found
  untouched := fun _ _ => rfl

variable {history : History} {entry : Entry} {after : Remote}

/-- A turn that accepts no bytes. The objects that are open after it were open before, or the
past tells of them as well. -/
theorem Tracks.extend (tracks : history.Tracks)
    (numbers : history.now.session.lastNumber ≤ after.session.lastNumber)
    (same : ∀ object, touched object (entry :: history.past) = touched object history.past)
    (origin : ∀ object descriptor, after.session.descriptors.find? object = some descriptor →
      history.now.session.descriptors.find? object = some descriptor ∨
        Tracked history.past after.session.lastNumber object descriptor) :
    Tracks ⟨entry :: history.past, after⟩ where
  tracked := fun object descriptor found => by
    rcases origin object descriptor found with open_ | ⟨numbered, sound, uploads⟩
    · obtain ⟨numbered, sound, uploads⟩ := tracks.tracked object descriptor open_
      exact ⟨Nat.le_trans numbered numbers, sound, uploads.trans (same object).symm⟩
    · exact ⟨numbered, sound, uploads.trans (same object).symm⟩
  untouched := fun object later => by
    rw [same]
    exact tracks.untouched object (Nat.lt_of_le_of_lt numbers later)

/-- A turn that accepts no bytes and opens nothing. -/
theorem Tracks.shrink (tracks : history.Tracks)
    (number : after.session.lastNumber = history.now.session.lastNumber)
    (same : ∀ object, touched object (entry :: history.past) = touched object history.past)
    (kept : ∀ object descriptor, after.session.descriptors.find? object = some descriptor →
      history.now.session.descriptors.find? object = some descriptor) :
    Tracks ⟨entry :: history.past, after⟩ :=
  tracks.extend (Nat.le_of_eq number.symm) same fun object descriptor found =>
    .inl (kept object descriptor found)

/-- Objects are opened untouched. -/
theorem Tracks.opened (tracks : history.Tracks) {learned : Session} {descriptor : Descriptor}
    (descriptors : learned.descriptors = history.now.session.descriptors)
    (lastNumber : learned.lastNumber = history.now.session.lastNumber)
    (session : after.session = learned.add descriptor) (sound : descriptor.Sound)
    (unmodified : descriptor.upload? = none)
    (same : ∀ object, touched object (entry :: history.past) = touched object history.past) :
    Tracks ⟨entry :: history.past, after⟩ := by
  have number : after.session.lastNumber = history.now.session.lastNumber + 1 := by
    rw [session, ← lastNumber]
    rfl
  refine tracks.extend (by omega) same fun object found present => ?_
  rw [session, Session.add, descriptors, FiniteMap.find?_insert] at present
  split at present
  · next own =>
      have new : object.number = history.now.session.lastNumber + 1 := by
        rw [own, ← lastNumber]
        rfl
      obtain rfl := Option.some.inj present
      refine .inr ⟨by omega, sound, ?_⟩
      rw [unmodified, tracks.untouched object (by omega)]
      rfl
  · exact .inl present

/-- Bytes are accepted for an open object that is staged. -/
theorem Tracks.written (tracks : history.Tracks) {object : ObjectId} {data staged : Bytes}
    {modified : Bool} {descriptor : Descriptor} {reply : SessionReply} (present : data ≠ [])
    (found : history.now.session.descriptors.find? object = some descriptor)
    (content : descriptor.content = .staged staged modified)
    (session : after.session = history.now.session.update object (descriptor.write staged data)) :
    Tracks ⟨⟨history.now, .ask (.writeObject object data), .ok reply⟩ :: history.past, after⟩ := by
  have own : touched object (⟨history.now, .ask (.writeObject object data), .ok reply⟩ ::
      history.past) = true := by
    simp [touched_cons, Outcome.isOk, Turn.writes, present]
  have same : ∀ other, other ≠ object → touched other
      (⟨history.now, .ask (.writeObject object data), .ok reply⟩ :: history.past) =
        touched other history.past := by
    intro other differs
    refine touched_of_not_writes ?_
    simp [Turn.writes, differs.symm]
  have number : after.session.lastNumber = history.now.session.lastNumber := by
    rw [session]
    rfl
  obtain ⟨numbered, sound, -⟩ := tracks.tracked object descriptor found
  constructor
  · intro other was open_
    rw [number]
    rw [session, Session.update, FiniteMap.find?_insert] at open_
    split at open_
    · next here =>
        obtain rfl := Option.some.inj open_
        subst here
        refine ⟨numbered, ?_, own.symm⟩
        rwa [Descriptor.Sound, content] at sound
    · next differs =>
        obtain ⟨numbered, sound, uploads⟩ := tracks.tracked other was open_
        exact ⟨numbered, sound, uploads.trans (same other differs).symm⟩
  · intro other later
    rw [number] at later
    have differs : other ≠ object := by
      rintro rfl
      omega
    rw [same other differs]
    exact tracks.untouched other later

/-- A request leaves the history tracked, by cases on its effect. -/
theorem Tracks.ask (tracks : history.Tracks) (request : SessionRequest) :
    (history.next (.ask request)).Tracks := by
  have effect := request.perform_effect history.now
  simp only [next, Turn.perform]
  generalize request.perform history.now = ended at effect ⊢
  cases effect with
  | failed unanswered session objects =>
      refine tracks.shrink (by rw [session]) (fun object => touched_of_unanswered unanswered) ?_
      rw [session]
      exact fun object descriptor found => found
  | connected session objects =>
      refine tracks.shrink (by rw [session]; rfl) (fun object => touched_of_not_writes rfl) ?_
      rw [session]
      exact fun object descriptor found => found
  | opened spelled online provides session objects =>
      exact tracks.opened provides.descriptors_eq provides.lastNumber_eq session provides.sound
        (provides.upload?_eq_none 0) (fun object => touched_of_not_writes rfl)
  | @created path location after spelled online session objects =>
      have descriptors : (history.now.session.forget location).descriptors =
          history.now.session.descriptors := rfl
      exact tracks.opened descriptors rfl session rfl rfl (fun object => touched_of_not_writes rfl)
  | @moved _ object old position _ _ moves found session objects =>
      refine tracks.extend (by rw [session]; exact Nat.le_refl _)
        (fun other => touched_of_not_writes (Turn.writes_of_moves moves))
        fun other descriptor present => ?_
      rw [session, Session.update, FiniteMap.find?_insert] at present
      split at present
      · next same =>
          obtain ⟨numbered, sound, uploads⟩ := tracks.tracked object old found
          obtain rfl := Option.some.inj present
          subst same
          refine .inr ⟨?_, sound, uploads⟩
          rw [session]
          exact numbered
      · exact .inl present
  | written present found content session objects =>
      exact tracks.written present found content session
  | @spilled object data staged modified old _ _ found content within session objects =>
      refine tracks.extend (by rw [session]; exact Nat.le_refl _)
        (fun other => touched_of_unanswered fun _ => by simp) fun other descriptor present => ?_
      rw [session, Session.update, FiniteMap.find?_insert] at present
      split at present
      · next same =>
          obtain ⟨numbered, sound, uploads⟩ := tracks.tracked object old found
          obtain rfl := Option.some.inj present
          subst same
          refine .inr ⟨?_, ?_, ?_⟩
          · rw [session]
            exact numbered
          · rwa [Descriptor.Sound, content] at sound
          · rw [← uploads, Descriptor.upload?_spilled content]
      · exact .inl present
  | closed found kept session objects calls =>
      refine tracks.shrink (by rw [session]; rfl) (fun other => touched_of_not_writes rfl) ?_
      rw [session]
      exact fun other descriptor present => Session.find?_of_remove present
  | uploaded found uploads session objects calls =>
      refine tracks.shrink (by rw [session]; rfl) (fun other => touched_of_not_writes rfl) ?_
      rw [session]
      exact fun other descriptor present => Session.find?_of_remove present
  | disconnected session objects =>
      refine tracks.shrink (by rw [session]; rfl) (fun other => touched_of_not_writes rfl) ?_
      rw [session]
      exact fun other descriptor present => by simp [Session.disconnected] at present

/-- What happens around a session concerns neither its open objects nor their bytes. -/
theorem Tracks.surroundings (tracks : history.Tracks) {turn : Turn}
    (idle : ∀ object, turn.writes object = false)
    (descriptors : (history.next turn).now.session.descriptors = history.now.session.descriptors)
    (number : (history.next turn).now.session.lastNumber = history.now.session.lastNumber) :
    (history.next turn).Tracks := by
  refine tracks.shrink number (fun object => touched_of_not_writes (idle object)) ?_
  intro object descriptor found
  exact descriptors ▸ found

/-- A turn leaves the history tracked. -/
theorem Tracks.next (tracks : history.Tracks) (turn : Turn) : (history.next turn).Tracks := by
  cases turn with
  | ask request => exact tracks.ask request
  | forget location => exact tracks.surroundings (fun _ => rfl) rfl rfl
  | arm faults => exact tracks.surroundings (fun _ => rfl) rfl rfl
  | replace objects => exact tracks.surroundings (fun _ => rfl) rfl rfl

/-- By induction on the turns, every history is tracked. -/
theorem tracks_after (objects : FiniteMap ObjectPath Bytes) (remembersSizes : Bool)
    (turns : List Turn) : (History.after (.create objects remembersSizes) turns).Tracks := by
  induction turns with
  | nil => exact tracks_start objects remembersSizes
  | cons turn earlier ih => exact ih.next turn

variable {initial : FiniteMap ObjectPath Bytes}

/-- A turn that leaves nothing and changes no object. -/
theorem Accounts.idle (accounts : history.Accounts initial)
    (objects : after.objects = history.now.objects)
    (same : ∀ location,
      left? initial location (entry :: history.past) = left? initial location history.past) :
    Accounts initial ⟨entry :: history.past, after⟩ := by
  intro location
  rw [same, objects]
  exact accounts location

/-- A turn that leaves `data` at one location. -/
theorem Accounts.store (accounts : history.Accounts initial) {place : ObjectPath} {data : Bytes}
    (objects : after.objects = history.now.objects.insert place data)
    (answered : entry.outcome.isOk = true)
    (leaves : ∀ location,
      entry.leaves? history.past location = if place = location then some data else none) :
    Accounts initial ⟨entry :: history.past, after⟩ := by
  intro location
  rw [objects, FiniteMap.find?_insert, left?, answered, leaves]
  by_cases here : location = place
  · simp [here]
  · simp [here, Ne.symm here, accounts location]

/-- A request of the session leaves all objects accounted for. -/
theorem Accounts.ask (accounts : history.Accounts initial) (tracks : history.Tracks)
    (request : SessionRequest) : (history.next (.ask request)).Accounts initial := by
  have effect := request.perform_effect history.now
  simp only [History.next, Turn.perform]
  generalize request.perform history.now = ended at effect ⊢
  cases effect with
  | failed unanswered session objects =>
      exact accounts.idle objects fun _ => left?_of_unanswered unanswered
  | connected session objects => exact accounts.idle objects fun _ => left?_of_leaves_none rfl
  | opened spelled online provides session objects =>
      exact accounts.idle objects fun _ => left?_of_leaves_none rfl
  | created spelled online session objects =>
      refine accounts.store objects rfl fun location => ?_
      simp only [Entry.leaves?, spelled]
  | moved moves found session objects =>
      exact accounts.idle objects fun _ => left?_of_leaves_none (Entry.leaves?_of_moves moves)
  | written present found content session objects =>
      exact accounts.idle objects fun _ => left?_of_leaves_none rfl
  | spilled found content within session objects =>
      exact accounts.idle objects fun _ => left?_of_leaves_none rfl
  | @closed object descriptor after found kept session objects calls =>
      have untouched : touched object history.past = false := by
        rw [← (tracks.tracked object descriptor found).uploads, kept]
        rfl
      refine accounts.idle objects fun location => left?_of_leaves_none ?_
      simp [Entry.leaves?, untouched]
  | @uploaded object descriptor data after found uploads session objects calls =>
      have accepted : touched object history.past = true := by
        rw [← (tracks.tracked object descriptor found).uploads, uploads]
        rfl
      refine accounts.store objects rfl fun location => ?_
      simp [Entry.leaves?, accepted, found, Descriptor.stagedAt?,
        Descriptor.upload?_eq_some.mp uploads]
  | disconnected session objects => exact accounts.idle objects fun _ => left?_of_leaves_none rfl

/-- By induction on the turns, all objects are accounted for as long as only the session changes
them. -/
theorem accounts_after {objects : FiniteMap ObjectPath Bytes} (remembersSizes : Bool)
    {turns : List Turn} (own : ∀ turn ∈ turns, turn.Own) :
    (History.after (.create objects remembersSizes) turns).Accounts objects := by
  induction turns with
  | nil => exact fun location => rfl
  | cons turn earlier ih =>
      obtain ⟨first, rest⟩ := List.forall_mem_cons.mp own
      have tracks := tracks_after objects remembersSizes earlier
      cases turn with
      | ask request => exact (ih rest).ask tracks request
      | forget location => exact (ih rest).idle rfl fun _ => left?_of_leaves_none rfl
      | arm faults => exact (ih rest).idle rfl fun _ => left?_of_leaves_none rfl
      | replace objects => exact first.elim

end History

section Sizes

variable {before after : Remote}

/-- Sizes stay true while neither they nor the objects change. -/
theorem Remote.Truthful.same (truthful : before.Truthful)
    (sizes : after.session.sizes = before.session.sizes) (objects : after.objects = before.objects) :
    after.Truthful := by
  intro location size remembered
  rw [sizes] at remembered
  rw [objects]
  exact truthful location size remembered

/-- A size that is remembered of an object that was just measured. -/
theorem Remote.Provides.truthful {location : ObjectPath} {mode : OpenMode} {content : Content}
    {learned : Session} (provides : before.Provides location mode content learned)
    (truthful : before.Truthful) (sizes : after.session.sizes = learned.sizes)
    (objects : after.objects = before.objects) : after.Truthful := by
  cases provides with
  | staged writable held => exact truthful.same sizes objects
  | remembered readOnly remembered => exact truthful.same sizes objects
  | @measured data readOnly held =>
      unfold Session.remember at sizes
      split at sizes
      · intro place size remembered
        rw [sizes, FiniteMap.find?_insert] at remembered
        rw [objects]
        split at remembered
        · next here =>
            subst here
            exact ⟨data, held, Option.some.inj remembered⟩
        · exact truthful place size remembered
      · exact truthful.same sizes objects

/-- What is stored anew has no size that is remembered. -/
theorem Remote.Truthful.store (truthful : before.Truthful) {location : ObjectPath} {data : Bytes}
    (sizes : after.session.sizes = before.session.sizes.erase location)
    (objects : after.objects = before.objects.insert location data) : after.Truthful := by
  intro place size remembered
  rw [sizes, FiniteMap.find?_erase] at remembered
  rw [objects, FiniteMap.find?_insert]
  split at remembered
  · contradiction
  · next elsewhere =>
      rw [if_neg elsewhere]
      exact truthful place size remembered

/-- A request leaves the sizes true, as it remembers only what it saw and forgets what it
replaces. -/
theorem Remote.Effect.truthful {request : SessionRequest}
    {outcome : Outcome RemoteError SessionReply} (effect : before.Effect request (outcome, after))
    (truthful : before.Truthful) : after.Truthful := by
  cases effect with
  | failed unanswered session objects => exact truthful.same (by rw [session]) objects
  | connected session objects => exact truthful.same (by rw [session]; rfl) objects
  | opened spelled online provides session objects =>
      exact provides.truthful truthful (by rw [session]; rfl) objects
  | created spelled online session objects => exact truthful.store (by rw [session]; rfl) objects
  | moved moves found session objects => exact truthful.same (by rw [session]; rfl) objects
  | written present found content session objects =>
      exact truthful.same (by rw [session]; rfl) objects
  | spilled found content within session objects =>
      exact truthful.same (by rw [session]; rfl) objects
  | closed found kept session objects calls => exact truthful.same (by rw [session]; rfl) objects
  | uploaded found uploads session objects calls =>
      exact truthful.store (by rw [session]; rfl) objects
  | disconnected session objects => exact truthful.same (by rw [session]; rfl) objects

/-- A remembered size that gets lost was not wrong. -/
theorem Remote.Truthful.forget (truthful : before.Truthful) (location : ObjectPath)
    (sizes : after.session.sizes = before.session.sizes.erase location)
    (objects : after.objects = before.objects) : after.Truthful := by
  intro place size remembered
  rw [sizes, FiniteMap.find?_erase] at remembered
  rw [objects]
  split at remembered
  · contradiction
  · exact truthful place size remembered

/-- What an object is opened with, if no size that is remembered is wrong. -/
theorem Remote.Provides.content_eq {location : ObjectPath} {mode : OpenMode} {content : Content}
    {learned : Session} (provides : before.Provides location mode content learned)
    (truthful : before.Truthful) :
    ∃ data, before.objects.find? location = some data ∧
      content = if mode.writable then .staged data false else .recorded data.length := by
  cases provides with
  | staged writable held => exact ⟨_, held, by simp [writable]⟩
  | remembered readOnly remembered =>
      obtain ⟨data, held, length⟩ := truthful location _ remembered
      exact ⟨data, held, by simp [readOnly, length]⟩
  | measured readOnly held => exact ⟨_, held, by simp [readOnly]⟩

end Sizes

namespace History

variable {objects : FiniteMap ObjectPath Bytes}

/-- By induction on the turns, the sizes are true as long as only the session changes objects. -/
theorem truthful_after (remembersSizes : Bool) {turns : List Turn}
    (own : ∀ turn ∈ turns, turn.Own) :
    (after (.create objects remembersSizes) turns).now.Truthful := by
  induction turns with
  | nil =>
      intro location size remembered
      simp [after, Remote.create, Session.create] at remembered
  | cons turn earlier ih =>
      obtain ⟨first, rest⟩ := List.forall_mem_cons.mp own
      cases turn with
      | ask request => exact (request.perform_effect _).truthful (ih rest)
      | forget location => exact (ih rest).forget location rfl rfl
      | arm faults => exact (ih rest).same rfl rfl
      | replace objects => exact first.elim

/-- The remembered sizes keep up with the objects, as long as only the session changes these.
So an object is opened as it was left last: its current bytes are staged if it is to be written
to, else its current length is recorded. -/
theorem sizes_eq_length (remembersSizes : Bool) {turns : List Turn}
    (own : ∀ turn ∈ turns, turn.Own) {history : History}
    (reached : history = after (.create objects remembersSizes) turns) :
    (∀ location size, history.now.session.sizes.find? location = some size →
      ∃ data, history.now.objects.find? location = some data ∧ data.length = size) ∧
    ∀ path mode object remote, Session.openObject path mode history.now = (.ok object, remote) →
      ∃ location data, ObjectPath.parse path = .ok location ∧
        history.now.objects.find? location = some data ∧
        left? objects location history.past = some data ∧
        remote.session.descriptors.find? object =
          some ⟨location, mode, 0, if mode.writable then .staged data false
            else .recorded data.length⟩ := by
  subst reached
  have truthful : (after (.create objects remembersSizes) turns).now.Truthful :=
    truthful_after remembersSizes own
  refine ⟨truthful, fun path mode object remote opens => ?_⟩
  obtain ⟨location, content, learned, spelled, -, provides, rfl, session, -⟩ :=
    Session.openObject_ok opens
  obtain ⟨data, held, content_eq⟩ := provides.content_eq truthful
  refine ⟨location, data, spelled, held, ?_, ?_⟩
  · rw [← accounts_after remembersSizes own location]
    exact held
  · rw [session, ← content_eq]
    exact FiniteMap.find?_insert_self _ _ _

/-- Two objects are opened at one location, one of them is written to, and both are closed. The
first upload is refused and tried again. Other spellings of the location are used as well. -/
def rewriting : List Turn :=
  [.ask (.closeObject ⟨2⟩), .ask (.closeObject ⟨3⟩), .ask (.closeObject ⟨3⟩),
    .arm (FiniteMap.insert ∅ .storePut (.arm .refused 0 (some 1))),
    .ask (.writeObject ⟨3⟩ [7, 8, 9, 10]), .ask (.openObject "/a" .readWrite),
    .ask (.openObject "a" .readWrite), .ask (.openObject "a" .read), .ask .connect]

/-- The size that the first reader had asked for is not used for the second one. -/
theorem sizes_eq_length_rewriting :
    ∃ remote, Session.openObject "a/" .read
        (after (.create (FiniteMap.empty.insert ⟨"a"⟩ [1, 2, 3]) true) rewriting).now =
          (.ok ⟨4⟩, remote) ∧
      ∃ data, left? (FiniteMap.empty.insert ⟨"a"⟩ [1, 2, 3]) ⟨"a"⟩
          (after (.create (FiniteMap.empty.insert ⟨"a"⟩ [1, 2, 3]) true) rewriting).past =
            some data ∧ data = [7, 8, 9, 10] ∧
        remote.session.descriptors.find? ⟨4⟩ = some ⟨⟨"a"⟩, .read, 0, .recorded 4⟩ := by
  have own : ∀ turn ∈ rewriting, turn.Own := by decide
  have opens : Session.openObject "a/" .read
      (after (.create (FiniteMap.empty.insert ⟨"a"⟩ [1, 2, 3]) true) rewriting).now =
        (.ok ⟨4⟩, (Session.openObject "a/" .read
          (after (.create (FiniteMap.empty.insert ⟨"a"⟩ [1, 2, 3]) true) rewriting).now).2) := rfl
  obtain ⟨location, data, spelled, held, left, found⟩ :=
    (sizes_eq_length true own rfl).2 "a/" .read _ _ opens
  cases spelled
  have now : some [7, 8, 9, 10] = some data := held
  cases now
  exact ⟨_, opens, _, left, rfl, found⟩

/-- A request that stores nothing: it creates no object, and it closes none that accepted bytes
or may not be written to. -/
def Idle (history : History) : SessionRequest → Prop
  | .createObject _ => False
  | .closeObject object => touched object history.past = false ∨
      ∃ descriptor, history.now.session.descriptors.find? object = some descriptor ∧
        descriptor.mode.writable = false
  | _ => True

section Puts

variable {history : History} {request : SessionRequest} {object : ObjectId}
  {outcome : Outcome RemoteError SessionReply} {remote : Remote}

/-- What is uploaded accepted bytes and may be written to, so its close is not idle. -/
theorem Tracks.not_idle_of_upload (tracks : history.Tracks) {descriptor : Descriptor} {data : Bytes}
    (found : history.now.session.descriptors.find? object = some descriptor)
    (uploads : descriptor.upload? = some data) : ¬history.Idle (.closeObject object) := by
  have tracked := tracks.tracked object descriptor found
  rintro (untouched | ⟨same, present, readOnly⟩)
  · rw [← tracked.uploads, uploads] at untouched
    contradiction
  · obtain rfl := Option.some.inj (found.symm.trans present)
    rw [tracked.sound.upload?_of_read readOnly] at uploads
    contradiction

/-- A request that fails, or that is idle, leaves the objects alone. -/
theorem Tracks.objects_of_idle (tracks : history.Tracks)
    (effect : history.now.Effect request (outcome, remote))
    (idle : outcome.isOk = false ∨ history.Idle request) :
    remote.objects = history.now.objects := by
  cases effect with
  | created spelled online session objects => simp [Outcome.isOk, Idle] at idle
  | uploaded found uploads session objects calls =>
      rcases idle with failed | idle
      · contradiction
      · exact (tracks.not_idle_of_upload found uploads idle).elim
  | failed | connected | opened | moved | written | spilled | closed | disconnected => assumption

/-- A close that succeeds stores once what accepted bytes, and nothing else. -/
theorem Tracks.puts_of_close (tracks : history.Tracks)
    (effect : history.now.Effect (.closeObject object) (outcome, remote))
    (succeeded : outcome.isOk = true) :
    countCalls remote.calls .storePut = countCalls history.now.calls .storePut +
      if touched object history.past then 1 else 0 := by
  cases effect with
  | failed unanswered session objects =>
      rw [Outcome.isOk_eq_false unanswered] at succeeded
      contradiction
  | moved moves found session objects => simp [SessionRequest.moves?] at moves
  | closed found kept session objects calls =>
      rw [← (tracks.tracked _ _ found).uploads, kept, calls]
      rfl
  | uploaded found uploads session objects calls =>
      rw [← (tracks.tracked _ _ found).uploads, uploads, calls]
      simp [countCalls, Call.primitive]

end Puts

/-- The objects of a store are what the history left there, as long as only the session changes
them. No request changes an object but one that creates it or that closes it after bytes were
accepted for it, and such a close stores it once. -/
theorem objects_eq_left (remembersSizes : Bool) {turns : List Turn}
    (own : ∀ turn ∈ turns, turn.Own) {history : History}
    (reached : history = after (.create objects remembersSizes) turns) :
    (∀ location, history.now.objects.find? location = left? objects location history.past) ∧
    (∀ request : SessionRequest,
      (request.perform history.now).1.isOk = false ∨ history.Idle request →
        (request.perform history.now).2.objects = history.now.objects) ∧
    ∀ object, (Session.closeObject object history.now).1.isOk = true →
      countCalls (Session.closeObject object history.now).2.calls .storePut =
        countCalls history.now.calls .storePut + if touched object history.past then 1 else 0 := by
  subst reached
  have tracks := tracks_after objects remembersSizes turns
  refine ⟨accounts_after remembersSizes own, fun request idle => ?_, fun object succeeded => ?_⟩
  · exact tracks.objects_of_idle (request.perform_effect _) idle
  · have effect := SessionRequest.closeObject_effect
      (after (.create objects remembersSizes) turns).now object
    rw [SessionRequest.perform, Action.map_apply] at effect
    exact tracks.puts_of_close effect (by rwa [Outcome.isOk_map])

/-- The object that was opened and never written to does not undo the upload of the other. -/
theorem objects_eq_left_rewriting :
    (after (.create (FiniteMap.empty.insert ⟨"a"⟩ [1, 2, 3]) true) rewriting).now.objects.find?
        ⟨"a"⟩ = some [7, 8, 9, 10] ∧
      (after (.create (FiniteMap.empty.insert ⟨"a"⟩ [1, 2, 3]) true) rewriting).now.objects.find?
        ⟨"a"⟩ = left? (FiniteMap.empty.insert ⟨"a"⟩ [1, 2, 3]) ⟨"a"⟩
          (after (.create (FiniteMap.empty.insert ⟨"a"⟩ [1, 2, 3]) true) rewriting).past := by
  have own : ∀ turn ∈ rewriting, turn.Own := by decide
  exact ⟨rfl, (objects_eq_left true own rfl).1 ⟨"a"⟩⟩

end History

end RemoteStreams
