import Mathlib.Data.Fintype.Card
import RemoteStreams.Proofs.TableSteps

/-! # Shared streams

Several users open, use and close streams of their own. They share the table, the session and its
store, and each of them works on objects at one place that is theirs
(`RemoteStreams.Shared.Sound`). What one user does takes at most a slot, an object and a place that
no other user has (`RemoteStreams.Shared.Acts`), so that the others keep what they have
(`RemoteStreams.Shared.Acts.sound`).
-/

namespace RemoteStreams

/-- The value that was delivered, if one was. -/
def Outcome.value? {ε α : Type} : Outcome ε α → Option α
  | .ok value => some value
  | .error _ | .broken _ => none

/-- What a user does with streams, one at a time. -/
inductive Usage where
  | openStream (path mode : String)
  | serve (request : Request)
  | close
deriving DecidableEq, Repr

/-- What a user sees of it: the answer, if one belongs to it, and the position in the stream
afterwards. Errors are seen without ids. -/
structure Reaction where
  outcome : Outcome StreamError (Option Answer)
  tell : Option (Outcome StreamError Nat)
deriving DecidableEq

/-- The streams, and which of them each user holds. -/
structure Shared (users : Nat) where
  streams : Streams
  held : Fin users → Option Stream

namespace Shared

variable {users : Nat}

/-- Nobody holds a stream yet. -/
def start (streams : Streams) : Shared users := ⟨streams, fun _ => none⟩

/-- Other streams, of which `user` holds `stream`. The others hold what they held. -/
def next (shared : Shared users) (user : Fin users) (streams : Streams) (stream : Option Stream) :
    Shared users :=
  ⟨streams, fun other => if other = user then stream else shared.held other⟩

/-- What a user sees of an answer, and the streams afterwards. -/
def react (shared : Shared users) (user : Fin users) (outcome : Outcome StreamError (Option Answer))
    (streams : Streams) (stream : Option Stream) : Option Reaction × Shared users :=
  (some ⟨outcome.mapError .anonymous, stream.map fun stream =>
      (Streams.tell stream streams).1.mapError .anonymous⟩,
    shared.next user streams stream)

/-- Who holds no stream may open one, and who holds one may use it or close it. Nothing comes of
anything else. -/
def play (user : Fin users) (usage : Usage) (shared : Shared users) :
    Option Reaction × Shared users :=
  match usage, shared.held user with
  | .openStream path mode, none =>
      let ended := Streams.openStream path mode shared.streams
      shared.react user (ended.1.map fun _ => none) ended.2 ended.1.value?
  | .serve request, some stream =>
      let ended := Streams.serve stream request shared.streams
      shared.react user (ended.1.map some) ended.2 (some stream)
  | .close, some stream =>
      let ended := Streams.close stream shared.streams
      shared.react user (ended.1.map fun _ => none) ended.2 none
  | _, _ => (none, shared)

/-- What each step of a script leads to, and the streams after all of them. A breach ends its step
only. -/
def playAll : List (Fin users × Usage) → Shared users →
    List (Fin users × Option Reaction) × Shared users
  | [], shared => ([], shared)
  | (user, usage) :: rest, shared =>
      let (reaction, next) := shared.play user usage
      let (reactions, final) := playAll rest next
      ((user, reaction) :: reactions, final)

/-- The part of one user in what several users do or see. -/
def ofUser {α : Type} (user : Fin users) (steps : List (Fin users × α)) : List (Fin users × α) :=
  steps.filter fun step => step.1 = user

theorem ofUser_cons_self {α : Type} (user : Fin users) (first : α) (rest : List (Fin users × α)) :
    ofUser user ((user, first) :: rest) = (user, first) :: ofUser user rest :=
  List.filter_cons_of_pos (by simp)

theorem ofUser_cons_of_ne {α : Type} {user other : Fin users} (differs : other ≠ user) (first : α)
    (rest : List (Fin users × α)) : ofUser user ((other, first) :: rest) = ofUser user rest :=
  List.filter_cons_of_neg (by simpa using differs)

/-- Neighbours of different users can be swapped without any user noticing. -/
theorem ofUser_swap {α : Type} (user : Fin users) (earlier later : List (Fin users × α))
    {first second : Fin users × α} (differs : first.1 ≠ second.1) :
    ofUser user (earlier ++ second :: first :: later) =
      ofUser user (earlier ++ first :: second :: later) := by
  simp only [ofUser, List.filter_append, List.filter_cons]
  by_cases mine : first.1 = user
  · have foreign : second.1 ≠ user := fun same => differs (mine.trans same.symm)
    simp [mine, foreign]
  · simp [mine]

@[simp] theorem next_streams (shared : Shared users) (user : Fin users) (streams : Streams)
    (stream : Option Stream) : (shared.next user streams stream).streams = streams := rfl

@[simp] theorem next_held_self (shared : Shared users) (user : Fin users) (streams : Streams)
    (stream : Option Stream) : (shared.next user streams stream).held user = stream :=
  if_pos rfl

/-- Others hold what they held. -/
theorem next_held_of_ne (shared : Shared users) {user other : Fin users} (streams : Streams)
    (stream : Option Stream) (differs : other ≠ user) :
    (shared.next user streams stream).held other = shared.held other :=
  if_neg differs

/-- A step that does nothing leaves all as it is. -/
theorem next_self (shared : Shared users) (user : Fin users) :
    shared.next user shared.streams (shared.held user) = shared := by
  have held : (fun other => if other = user then shared.held user else shared.held other) =
      shared.held := by
    funext other
    split
    · next here => rw [here]
    · rfl
  exact congrArg (mk shared.streams) held

end Shared

/-- A path to open, if any, leads to the object at `location`. -/
def Usage.Spells (settings : Settings) (location : ObjectPath) : Usage → Prop
  | openStream path _ => ∃ name, settings.objectPath? path = some name ∧
      ObjectPath.parse name = .ok location
  | serve _ | close => True

/-- A stream is open, on an object at `location`. -/
structure Streams.Seated (streams : Streams) (location : ObjectPath) (stream : StreamId)
    (entry : CachedStream) (descriptor : Descriptor) : Prop where
  found : streams.table.find? stream = some entry
  serves : streams.remote.Serves entry.object descriptor
  located : descriptor.location = location
  numbered : entry.object.number ≤ streams.remote.session.lastNumber

/-- What a user has in the end of the slot `id` and of `object`: both of them, with a stream on the
object in the slot, or neither. -/
inductive Streams.Leaves (streams : Streams) (location : ObjectPath) (id : StreamId)
    (object : ObjectId) : Option Stream → Prop
  | nothing (vacant : streams.table.find? id = none) : Leaves streams location id object none
  | stream {entry : CachedStream} {descriptor : Descriptor} (named : entry.object = object)
      (seated : streams.Seated location id entry descriptor) :
      Leaves streams location id object (some (.cached id))

/-- Every slot of a full table has an entry. -/
theorem SlotTable.exists_entry {α : Type} {table : SlotTable α} (full : table.isFull = true)
    {slot : Nat} (inside : slot < table.capacity) : ∃ entry, table.find? ⟨slot⟩ = some entry := by
  have taken := List.all_eq_true.mp full table.slots[slot] (List.getElem_mem inside)
  obtain ⟨entry, present⟩ := Option.isSome_iff_exists.mp taken
  exact ⟨entry, by simp [find?, List.getElem?_eq_getElem inside, present]⟩

namespace Shared

variable {users : Nat} {places : Fin users → ObjectPath} {user other : Fin users}
  {shared before after : Shared users}

/-- There are no faults, and a slot for each user. Every user has a slot, an object and a place
of their own, and every slot that is taken is some user's. -/
structure Sound (places : Fin users → ObjectPath) (shared : Shared users) : Prop where
  quiet : shared.streams.remote.faults = ∅
  truthful : shared.streams.remote.Truthful
  ordered : shared.streams.settings.sizes.initial ≤ shared.streams.settings.sizes.max
  room : users ≤ shared.streams.table.capacity
  seated : ∀ user stream, shared.held user = some stream → ∃ id entry descriptor,
    stream = .cached id ∧ shared.streams.Seated (places user) id entry descriptor
  owned : ∀ id entry, shared.streams.table.find? id = some entry →
    ∃ user, shared.held user = some (.cached id)
  apart : ∀ user other id id' entry entry', user ≠ other →
    shared.held user = some (.cached id) → shared.streams.table.find? id = some entry →
    shared.held other = some (.cached id') → shared.streams.table.find? id' = some entry' →
      id ≠ id' ∧ entry.object ≠ entry'.object

/-- A user without a stream finds a free slot. -/
theorem Sound.free (sound : shared.Sound places) (idle : shared.held user = none) :
    shared.streams.table.isFull = false := by
  by_contra full
  -- If all slots were taken, their holders would be as many users as there are slots, and not
  -- this one.
  have taken : ∀ slot : Fin shared.streams.table.capacity,
      ∃ owner, shared.held owner = some (.cached ⟨slot⟩) := by
    intro slot
    obtain ⟨entry, found⟩ := SlotTable.exists_entry (eq_true_of_ne_false full) slot.isLt
    exact sound.owned _ entry found
  choose owner holds using taken
  have injective : Function.Injective owner := by
    intro slot slot' same
    have equal := (holds slot).symm.trans ((congrArg shared.held same).trans (holds slot'))
    simpa [Fin.ext_iff] using equal
  have missed : user ∉ Set.range owner := by
    rintro ⟨slot, rfl⟩
    rw [holds slot] at idle
    contradiction
  have fewer := Fintype.card_lt_of_injective_of_notMem owner injective missed
  simp only [Fintype.card_fin] at fewer
  exact Nat.not_lt.mpr sound.room fewer

/-- What `user` does takes the slot `id` and `object`, and nothing that another user has. -/
structure Acts (places : Fin users → ObjectPath) (user : Fin users) (id : StreamId)
    (object : ObjectId) (before after : Shared users) : Prop where
  settings : after.streams.settings = before.streams.settings
  capacity : after.streams.table.capacity = before.streams.table.capacity
  confined : before.streams.remote.Confined object (places user) after.streams.remote
  table : ∀ other, other ≠ id → after.streams.table.find? other = before.streams.table.find? other
  held : ∀ other, other ≠ user → after.held other = before.held other
  own : ∀ slot, before.held user = some (.cached slot) → slot = id
  free : ∀ other, other ≠ user → before.held other ≠ some (.cached id)
  new : ∀ other slot entry, other ≠ user → before.held other = some (.cached slot) →
    before.streams.table.find? slot = some entry → entry.object ≠ object
  leaves : after.streams.Leaves (places user) id object (after.held user)

variable {id : StreamId} {object : ObjectId}

/-- What others have stays as it is. -/
theorem Acts.seated (acts : Acts places user id object before after)
    (quiet : before.streams.remote.faults = ∅) {location : ObjectPath}
    {slot : StreamId} {entry : CachedStream} {descriptor : Descriptor}
    (seated : before.streams.Seated location slot entry descriptor) (other : slot ≠ id)
    (differs : entry.object ≠ object) : after.streams.Seated location slot entry descriptor where
  found := (acts.table slot other).trans seated.found
  serves := ⟨acts.confined.connected seated.serves.connected,
    (acts.confined.others entry.object seated.numbered differs).trans seated.serves.found,
    (acts.confined.quiet quiet) ▸ FaultPlan.honest_empty, seated.serves.sound⟩
  located := seated.located
  numbered := Nat.le_trans seated.numbered acts.confined.numbers

/-- The slot and the object of the user are none of another user's. -/
theorem Acts.apart (acts : Acts places user id object before after) (differs : other ≠ user)
    {slot slot' : StreamId} {entry entry' : CachedStream}
    (holds : after.held user = some (.cached slot))
    (found : after.streams.table.find? slot = some entry)
    (holds' : after.held other = some (.cached slot'))
    (found' : after.streams.table.find? slot' = some entry') :
    slot' ≠ slot ∧ entry'.object ≠ entry.object := by
  have leaves := acts.leaves
  rw [holds] at leaves
  cases leaves with
  | stream named seated =>
      obtain rfl := Option.some.inj (seated.found.symm.trans found)
      rw [acts.held other differs] at holds'
      have elsewhere : slot' ≠ id := by
        rintro rfl
        exact acts.free other differs holds'
      rw [acts.table slot' elsewhere] at found'
      exact ⟨elsewhere, named ▸ acts.new other slot' entry' differs holds' found'⟩

/-- What one user does leaves the shared streams sound. -/
theorem Acts.sound (acts : Acts places user id object before after)
    (sound : before.Sound places) : after.Sound places where
  quiet := acts.confined.quiet sound.quiet
  truthful := acts.confined.truthful sound.truthful
  ordered := acts.settings ▸ sound.ordered
  room := acts.capacity ▸ sound.room
  seated := by
    intro other stream holds
    by_cases same : other = user
    · subst same
      have leaves := acts.leaves
      rw [holds] at leaves
      cases leaves with
      | stream named seated => exact ⟨id, _, _, rfl, seated⟩
    · rw [acts.held other same] at holds
      obtain ⟨slot, entry, descriptor, rfl, seated⟩ := sound.seated other stream holds
      have elsewhere : slot ≠ id := by
        rintro rfl
        exact acts.free other same holds
      exact ⟨slot, entry, descriptor, rfl,
        acts.seated sound.quiet seated elsewhere
          (acts.new other slot entry same holds seated.found)⟩
  owned := by
    intro slot entry found
    by_cases same : slot = id
    · subst same
      have leaves := acts.leaves
      generalize holds : after.held user = stream at leaves
      cases leaves with
      | nothing vacant =>
          rw [vacant] at found
          contradiction
      | stream named seated => exact ⟨user, holds⟩
    · rw [acts.table slot same] at found
      obtain ⟨owner, holds⟩ := sound.owned slot entry found
      have differs : owner ≠ user := by
        rintro rfl
        exact same (acts.own slot holds)
      exact ⟨owner, (acts.held owner differs).trans holds⟩
  apart := by
    intro first second slot slot' entry entry' differs holds found holds' found'
    by_cases one : first = user
    · subst one
      obtain ⟨slots, objects⟩ := acts.apart differs.symm holds found holds' found'
      exact ⟨slots.symm, objects.symm⟩
    · by_cases two : second = user
      · subst two
        exact acts.apart one holds' found' holds found
      · rw [acts.held first one] at holds
        rw [acts.held second two] at holds'
        have elsewhere : slot ≠ id := by
          rintro rfl
          exact acts.free first one holds
        have elsewhere' : slot' ≠ id := by
          rintro rfl
          exact acts.free second two holds'
        rw [acts.table slot elsewhere] at found
        rw [acts.table slot' elsewhere'] at found'
        exact sound.apart first second slot slot' entry entry' differs holds found holds' found'

section Steps

variable {entry : CachedStream} {descriptor : Descriptor} {remote : Remote}

/-- A user who holds a stream goes on with it, or closes it. -/
theorem Sound.acts_of_held (sound : shared.Sound places) {streams : Streams}
    {stream : Option Stream} (holds : shared.held user = some (.cached id))
    (seated : shared.streams.Seated (places user) id entry descriptor)
    (settings : streams.settings = shared.streams.settings)
    (capacity : streams.table.capacity = shared.streams.table.capacity)
    (confined : shared.streams.remote.Confined entry.object (places user) streams.remote)
    (table : ∀ other, other ≠ id → streams.table.find? other = shared.streams.table.find? other)
    (leaves : streams.Leaves (places user) id entry.object stream) :
    Acts places user id entry.object shared (shared.next user streams stream) where
  settings := settings
  capacity := capacity
  confined := confined
  table := table
  held := fun other differs => shared.next_held_of_ne streams stream differs
  own := fun slot same => by simpa [holds, eq_comm] using same
  free := fun other differs same =>
    (sound.apart other user id id _ _ differs same seated.found holds seated.found).1 rfl
  new := fun other slot seat differs same found =>
    (sound.apart other user slot id seat entry differs same found holds seated.found).2
  leaves := by simpa using leaves

/-- A user who holds no stream takes a free slot and a new object, if any. -/
theorem Sound.acts_of_idle (sound : shared.Sound places) {streams : Streams}
    {stream : Option Stream} (idle : shared.held user = none)
    (free : shared.streams.table.find? id = none)
    (settings : streams.settings = shared.streams.settings)
    (capacity : streams.table.capacity = shared.streams.table.capacity)
    (confined : shared.streams.remote.Confined shared.streams.remote.session.nextObject
      (places user) streams.remote)
    (table : ∀ other, other ≠ id → streams.table.find? other = shared.streams.table.find? other)
    (leaves : streams.Leaves (places user) id shared.streams.remote.session.nextObject stream) :
    Acts places user id shared.streams.remote.session.nextObject shared
      (shared.next user streams stream) where
  settings := settings
  capacity := capacity
  confined := confined
  table := table
  held := fun other differs => shared.next_held_of_ne streams stream differs
  own := fun slot same => by simp [idle] at same
  free := fun other differs same => by
    obtain ⟨slot, seat, descriptor, named, seated⟩ := sound.seated other _ same
    obtain rfl : id = slot := by simpa using named
    rw [seated.found] at free
    contradiction
  new := fun other slot seat differs same found => by
    obtain ⟨slot', seat', descriptor, named, seated⟩ := sound.seated other _ same
    obtain rfl : slot = slot' := by simpa using named
    obtain rfl := Option.some.inj (found.symm.trans seated.found)
    have numbered := seated.numbered
    intro taken
    rw [taken] at numbered
    simp only [Session.nextObject] at numbered
    omega
  leaves := by simpa using leaves

end Steps

end Shared

end RemoteStreams
