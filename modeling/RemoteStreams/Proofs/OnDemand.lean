import RemoteStreams.Proofs.Numbering
import RemoteStreams.Proofs.Seeking

/-! # Reading on demand

An object that is opened for reading only stays in its store, and what is recorded of it is the size
that it had. A read asks for no more bytes than the recorded size leaves, and then takes as many of
the answer as there is room for (`RemoteStreams.Session.readObject_supplied`). So it stays inside
the recorded size exactly if the answer does, or else if the buffer does
(`RemoteStreams.History.reads_within_iff`): the size bounds what is asked for, and nothing but the
buffer bounds what is taken. Without seeks, only a store that gives more than was left of the object
leads past the recorded size (`RemoteStreams.History.within_after`).
-/

namespace RemoteStreams

/-- A value that something was made of comes from a value. -/
theorem Outcome.map_eq_ok_iff {ε α β : Type} {convert : α → β} {outcome : Outcome ε α} {value : β} :
    outcome.map convert = .ok value ↔ ∃ given, outcome = .ok given ∧ convert given = value := by
  cases outcome <;> simp

namespace Descriptor

/-- How many bytes of the recorded size, or of what is staged, are ahead. -/
def left (descriptor : Descriptor) : Nat := descriptor.content.length - descriptor.position

/-- Some bytes are ahead, and there is room for some. -/
def Demands (descriptor : Descriptor) (buffer : Bytes) : Prop :=
  descriptor.position < descriptor.content.length ∧ buffer ≠ []

instance (descriptor : Descriptor) (buffer : Bytes) : Decidable (descriptor.Demands buffer) :=
  inferInstanceAs (Decidable (_ ∧ _))

/-- What may not be written to is read on demand. -/
theorem Sound.recorded {descriptor : Descriptor} (sound : descriptor.Sound)
    (readOnly : descriptor.mode.writable = false) :
    ∃ size, descriptor.content = .recorded size := by
  unfold Sound at sound
  split at sound
  · next size recorded => exact ⟨size, recorded⟩
  · rw [readOnly] at sound
    contradiction

/-- Nothing is demanded of the store exactly if nothing is left or there is no room. -/
theorem not_demands_iff {descriptor : Descriptor} {buffer : Bytes} :
    ¬descriptor.Demands buffer ↔
      descriptor.content.length ≤ descriptor.position ∨ buffer = [] := by
  rw [Demands, Decidable.not_and_iff_or_not, Nat.not_lt, ne_eq, Decidable.not_not]

end Descriptor

namespace Remote

/-- What the store says if it is asked for up to `count` bytes at the position of an open object, as
far as they are ahead. -/
def supply (remote : Remote) (descriptor : Descriptor) (count : Nat) : Outcome RemoteError Bytes :=
  (fetchRange descriptor.location descriptor.position
    (min (descriptor.position + count) descriptor.content.length) remote).1

/-- These bytes are what a read into `buffer` gets to choose from: what the store says, or nothing
if it is not asked at all. -/
def Supplies (remote : Remote) (descriptor : Descriptor) (buffer answer : Bytes) : Prop :=
  if descriptor.Demands buffer then remote.supply descriptor buffer.length = .ok answer
  else answer = []

/-- The remote side with a store that gives this answer to every request for a range. -/
def answering (remote : Remote) (answer : Bytes) : Remote :=
  { remote with faults := FiniteMap.insert ∅ .storeGetRange (.arm (.substituted answer) 0 none) }

variable {remote : Remote} {descriptor : Descriptor}

/-- A store can give any answer, as long as its object reaches beyond the position. -/
theorem supply_answering {data : Bytes}
    (held : remote.objects.find? descriptor.location = some data)
    (inside : descriptor.position < data.length) (answer : Bytes) (count : Nat) :
    (remote.answering answer).supply descriptor count = .ok answer := by
  have present : ¬data.length ≤ descriptor.position := Nat.not_le.mpr inside
  have met : (remote.answering answer).faults.next .storeGetRange = some (.substituted answer) :=
    rfl
  have kept : (remote.answering answer).objects.find? descriptor.location = some data := held
  simp [supply, fetchRange, announce, Call.primitive, met, Fault.refusal?, object, calling, kept,
    present, Action.bind_apply, Fault.delivered]

end Remote

namespace Session

variable {remote later : Remote} {object : ObjectId} {descriptor : Descriptor} {size count : Nat}
  {buffer answer filled : Bytes}

/-- The bytes of an object that is read on demand are what the store says. -/
theorem bytesOf_recorded (remote : Remote) (recorded : descriptor.content = .recorded size)
    (count : Nat) :
    ∃ after, after.session = remote.session ∧
      bytesOf descriptor descriptor.position
        (min (descriptor.position + count) descriptor.content.length) remote =
          (remote.supply descriptor count, after) := by
  obtain ⟨after, session, -, ends⟩ := bytesOf_ends descriptor descriptor.position
    (min (descriptor.position + count) descriptor.content.length) remote
  refine ⟨after, session, Prod.ext ?_ ?_⟩
  · simp only [bytesOf, recorded, Remote.supply]
  · rcases ends with ⟨given, ended⟩ | ⟨cause, ended⟩ <;> rw [ended]

/-- A read of an object that is read on demand takes what there is room for, from the first byte of
the answer on, and moves the object by as much. -/
theorem readObject_supplied (opens : Session.descriptor object remote = (.ok descriptor, remote))
    (readable : descriptor.mode.readable = true) (recorded : descriptor.content = .recorded size)
    (demands : descriptor.Demands buffer)
    (fits : descriptor.position + buffer.length < Word.bound)
    (supplies : remote.supply descriptor buffer.length = .ok answer) :
    ∃ after, readObject object buffer remote =
        (.ok (min answer.length buffer.length,
          answer.take (min answer.length buffer.length) ++
            buffer.drop (min answer.length buffer.length)), after) ∧
      after.session = remote.session.update object
        { descriptor with position := descriptor.position + min answer.length buffer.length } := by
  have busy : ¬(descriptor.content.length ≤ descriptor.position ∨ buffer = []) :=
    fun idle => Descriptor.not_demands_iff.mpr idle demands
  obtain ⟨between, session, answered⟩ := bytesOf_recorded remote recorded buffer.length
  rw [supplies] at answered
  have taken : answer.take buffer.length = answer.take (min answer.length buffer.length) := by
    rw [Nat.min_comm]
    exact List.take_eq_take_min
  have length : (answer.take buffer.length).length = min answer.length buffer.length := by
    rw [List.length_take, Nat.min_comm]
  refine ⟨(between.updating object { descriptor with
      position := descriptor.position + (answer.take buffer.length).length }).noting
        (.objectRead object (answer.take buffer.length).length descriptor.position), ?_, ?_⟩
  · rw [← taken, ← length, ← Bytes.overlay_zero]
    simp only [readObject, Action.bind_apply, opens, readable, Bool.not_true, Bool.false_eq_true,
      ↓reduceIte, busy, Word.add_apply fits, answered]
    rfl
  · rw [← length]
    exact session_updating session object _

/-- Whatever a read of such an object delivers is chosen from what it was supplied with. -/
theorem readObject_ok (found : remote.session.descriptors.find? object = some descriptor)
    (recorded : descriptor.content = .recorded size)
    (reads : readObject object buffer remote = (.ok (count, filled), later)) :
    ∃ answer, remote.Supplies descriptor buffer answer ∧ count = min answer.length buffer.length ∧
      filled = answer.take count ++ buffer.drop count ∧
      later.session = remote.session.update object
        { descriptor with position := descriptor.position + count } := by
  rcases descriptor_ends object remote with ⟨cause, failed⟩ | ⟨same, opens, present⟩
  · simp [readObject, Action.bind_apply, failed] at reads
  obtain rfl := Option.some.inj (found.symm.trans present)
  by_cases readable : descriptor.mode.readable = true
  case neg => simp [readObject, Action.bind_apply, opens, readable] at reads
  by_cases demands : descriptor.Demands buffer
  · have busy : ¬(descriptor.content.length ≤ descriptor.position ∨ buffer = []) :=
      fun idle => Descriptor.not_demands_iff.mpr idle demands
    by_cases fits : descriptor.position + buffer.length < Word.bound
    case neg => simp [readObject, Action.bind_apply, opens, readable, busy, Word.add, fits] at reads
    cases supplies : remote.supply descriptor buffer.length with
    | ok answer =>
        obtain ⟨after, ended, session⟩ :=
          readObject_supplied opens readable recorded demands fits supplies
        obtain ⟨delivered, rfl⟩ := Prod.mk.inj (reads.symm.trans ended)
        obtain ⟨rfl, rfl⟩ := Prod.mk.inj (Outcome.ok.inj delivered)
        exact ⟨answer, by rwa [Remote.Supplies, if_pos demands], rfl, rfl, session⟩
    | error | broken =>
        obtain ⟨between, -, answered⟩ := bytesOf_recorded remote recorded buffer.length
        rw [supplies] at answered
        simp [readObject, Action.bind_apply, opens, readable, busy, Word.add_apply fits,
          answered] at reads
  · have idle := Descriptor.not_demands_iff.mp demands
    have ended : readObject object buffer remote = (.ok (0, buffer), remote) := by
      simp [readObject, Action.bind_apply, opens, readable, idle]
    obtain ⟨delivered, rfl⟩ := Prod.mk.inj (reads.symm.trans ended)
    obtain ⟨rfl, rfl⟩ := Prod.mk.inj (Outcome.ok.inj delivered)
    refine ⟨[], by rw [Remote.Supplies, if_neg demands], by simp, by simp, ?_⟩
    exact (update_self found).symm

/-- Nothing can be written to an object that is read on demand. -/
theorem writeObject_recorded (found : remote.session.descriptors.find? object = some descriptor)
    (recorded : descriptor.content = .recorded size) (data : Bytes) :
    ∀ count, (writeObject object data remote).1 ≠ .ok count := by
  intro count
  rcases descriptor_ends object remote with ⟨cause, failed⟩ | ⟨same, opens, present⟩
  · simp [writeObject, Action.bind_apply, failed]
  · obtain rfl := Option.some.inj (found.symm.trans present)
    by_cases writable : descriptor.mode.writable = true <;>
      simp [writeObject, Action.bind_apply, opens, writable, recorded]

/-- A seek leads where its target says, or nowhere. -/
theorem seekObject_session (opens : Session.descriptor object remote = (.ok descriptor, remote))
    (target : SeekTarget) :
    (seekObject object target remote).2.session = remote.session ∨
    ∃ position : Nat, descriptor.target target = position ∧
      (seekObject object target remote).2.session =
        remote.session.update object { descriptor with position } := by
  cases reached : Word.ofInt? (descriptor.target target) with
  | none =>
      refine .inl ?_
      simp [seekObject, Action.bind_apply, opens, reached]
  | some position =>
      refine .inr ⟨position, (Word.ofInt?_eq_some_iff.mp reached).1, ?_⟩
      simp [seekObject, Action.bind_apply, Action.map_apply, opens, reached, Remote.modifySession]

/-- Asking for a position moves nothing. -/
theorem position_session (object : ObjectId) (remote : Remote) :
    (position object remote).2.session = remote.session := by
  rcases descriptor_ends object remote with ⟨cause, failed⟩ | ⟨descriptor, opens, found⟩
  · simp [position, seekObject, Action.bind_apply, failed]
  · rcases seekObject_session opens (.current 0) with same | ⟨goal, leads, moved⟩
    · exact same
    · have here : descriptor.target (.current 0) = (descriptor.position : Int) := Int.add_zero _
      obtain rfl : goal = descriptor.position := Int.ofNat.inj (leads.symm.trans here)
      exact moved.trans (update_self found)

end Session

namespace Entry

/-- The turn was a read of `object`, and the store gave more than was left of the recorded size. -/
def Overfeeds (entry : Entry) (object : ObjectId) : Prop :=
  ∃ buffer descriptor answer, entry.turn = .ask (.readObject object buffer) ∧
    entry.before.session.descriptors.find? object = some descriptor ∧
    entry.before.Supplies descriptor buffer answer ∧ descriptor.left < answer.length

/-- The turn was a seek of `object`. -/
def Seeks (entry : Entry) (object : ObjectId) : Prop :=
  ∃ target, entry.turn = .ask (.seekObject object target)

end Entry

namespace Remote

/-- If `object` is read on demand, its position is inside the recorded size. -/
def Within (remote : Remote) (object : ObjectId) : Prop :=
  ∀ descriptor size, remote.session.descriptors.find? object = some descriptor →
    descriptor.content = .recorded size → descriptor.position ≤ size

variable {before after : Remote} {object : ObjectId}

/-- Positions stay within the recorded sizes while the open objects stay the same. -/
theorem Within.same (within : before.Within object)
    (descriptors : after.session.descriptors = before.session.descriptors) :
    after.Within object := by
  intro descriptor size found recorded
  rw [descriptors] at found
  exact within descriptor size found recorded

/-- A new object is at position zero. -/
theorem Within.add (within : before.Within object) {session : Session} {descriptor : Descriptor}
    (descriptors : session.descriptors = before.session.descriptors)
    (fresh : descriptor.position = 0) (becomes : after.session = session.add descriptor) :
    after.Within object := by
  intro found size present recorded
  rw [becomes, Session.add, FiniteMap.find?_insert, descriptors] at present
  split at present
  · obtain rfl := Option.some.inj present
    exact fresh ▸ Nat.zero_le size
  · exact within found size present recorded

/-- They do so as well when an object is closed. -/
theorem Within.remove (within : before.Within object) {session : Session} {closed : ObjectId}
    (descriptors : session.descriptors = before.session.descriptors)
    (becomes : after.session = session.remove closed) : after.Within object := by
  intro descriptor size found recorded
  rw [becomes] at found
  have remains := Session.find?_of_remove found
  rw [descriptors] at remains
  exact within descriptor size remains recorded

/-- A read leads no further than what the store gave. -/
theorem Within.read (within : before.Within object) {buffer : Bytes}
    {outcome : Outcome RemoteError SessionReply}
    (modest : ¬Entry.Overfeeds ⟨before, .ask (.readObject object buffer), outcome⟩ object)
    {count : Nat} {filled : Bytes}
    (reads : Session.readObject object buffer before = (.ok (count, filled), after)) :
    after.Within object := by
  intro descriptor size found recorded
  have effect := SessionRequest.readObject_effect before object buffer
  rw [SessionRequest.perform, Action.map_apply, reads] at effect
  cases effect with
  | failed unanswered session objects => exact (unanswered _ rfl).elim
  | @moved _ _ old position _ _ moves present session objects =>
      obtain rfl := Option.some.inj moves
      rw [session, Session.update, FiniteMap.find?_insert_self] at found
      obtain rfl := Option.some.inj found
      have stays := within old size present recorded
      obtain ⟨answer, supplies, rfl, -, moved⟩ := Session.readObject_ok present recorded reads
      rw [session, Session.update, Session.update] at moved
      have here : position = old.position + min answer.length buffer.length := by
        have same := congrArg (fun after => after.descriptors.find? object) moved
        simp only [FiniteMap.find?_insert_self, Option.some.injEq] at same
        exact congrArg Descriptor.position same
      have room : answer.length ≤ old.left := by
        apply Nat.not_lt.mp
        intro exceeds
        exact modest ⟨buffer, old, answer, rfl, present, supplies, exceeds⟩
      have bound : old.left = size - old.position := by
        rw [Descriptor.left, recorded]
        rfl
      show position ≤ size
      omega

/-- A request leads past the recorded size of an object only by a seek, or if its store gives more
than was left. -/
theorem Within.ask (within : before.Within object) {request : SessionRequest}
    {outcome : Outcome RemoteError SessionReply}
    (ended : request.perform before = (outcome, after))
    (modest : ¬Entry.Overfeeds ⟨before, .ask request, outcome⟩ object)
    (unsought : ¬Entry.Seeks ⟨before, .ask request, outcome⟩ object) : after.Within object := by
  have effect := request.perform_effect before
  rw [ended] at effect
  cases effect with
  | failed unanswered session objects => exact within.same (by rw [session])
  | connected session objects => exact within.same (by rw [session]; rfl)
  | opened spelled online provides session objects =>
      exact within.add provides.descriptors_eq rfl session
  | @created path location _ spelled online session objects =>
      have same : (before.session.forget location).descriptors = before.session.descriptors := rfl
      exact within.add same rfl session
  | written present found content session objects =>
      intro descriptor size now recorded
      rw [session, Session.update, FiniteMap.find?_insert] at now
      split at now
      · obtain rfl := Option.some.inj now
        contradiction
      · exact within descriptor size now recorded
  | spilled found content room session objects =>
      intro descriptor size now recorded
      rw [session, Session.update, FiniteMap.find?_insert] at now
      split at now
      · obtain rfl := Option.some.inj now
        contradiction
      · exact within descriptor size now recorded
  | closed found kept session objects calls => exact within.remove rfl session
  | @uploaded _ closed _ _ found uploads session objects calls =>
      have same : (before.session.forget closed.location).descriptors =
          before.session.descriptors := rfl
      exact within.remove same session
  | disconnected session objects =>
      intro descriptor size found recorded
      rw [session] at found
      contradiction
  | @moved _ other old position reply _ moves present session objects =>
      by_cases own : other = object
      · subst own
        cases request with
        | readObject same buffer =>
            obtain rfl := Option.some.inj moves
            rw [SessionRequest.perform, Action.map_apply] at ended
            obtain ⟨delivers, rfl⟩ := Prod.mk.inj ended
            obtain ⟨⟨count, filled⟩, reads, -⟩ := Outcome.map_eq_ok_iff.mp delivers
            exact within.read modest (Prod.ext reads rfl)
        | position same =>
            obtain rfl := Option.some.inj moves
            rw [SessionRequest.perform, Action.map_apply] at ended
            obtain ⟨-, rfl⟩ := Prod.mk.inj ended
            exact within.same (by rw [Session.position_session])
        | writeObject same data =>
            obtain rfl := Option.some.inj (SessionRequest.object?_of_moves? moves)
            rw [SessionRequest.perform, Action.map_apply] at ended
            obtain ⟨delivers, rfl⟩ := Prod.mk.inj ended
            obtain ⟨count, wrote, -⟩ := Outcome.map_eq_ok_iff.mp delivers
            intro descriptor size now recorded
            rw [session, Session.update, FiniteMap.find?_insert_self] at now
            obtain rfl := Option.some.inj now
            exact (Session.writeObject_recorded present recorded data count wrote).elim
        | seekObject same target =>
            obtain rfl := Option.some.inj moves
            exact (unsought ⟨target, rfl⟩).elim
        | connect | openObject | createObject | closeObject | disconnect => contradiction
      · intro descriptor size found recorded
        rw [session, Session.update, FiniteMap.find?_insert_of_ne _ _ (Ne.symm own)] at found
        exact within descriptor size found recorded

/-- A turn that neither overfeeds the object nor seeks keeps the position within the
recorded size. -/
theorem Within.turn (within : before.Within object) {turn : Turn}
    (modest : ¬Entry.Overfeeds ⟨before, turn, (turn.perform before).1⟩ object)
    (unsought : ¬Entry.Seeks ⟨before, turn, (turn.perform before).1⟩ object) :
    (turn.perform before).2.Within object := by
  cases turn with
  | ask request => exact within.ask rfl modest unsought
  | forget location => exact within.same rfl
  | arm faults => exact within.same rfl
  | replace objects => exact within.same rfl

end Remote

namespace History

variable {objects : FiniteMap ObjectPath Bytes} {remembersSizes : Bool} {turns : List Turn}
  {object : ObjectId} {descriptor : Descriptor}

/-- Whatever happens to a session, an object that it reads on demand is inside the recorded size, as
long as it was not sought and no store gave more for it than was left. -/
theorem within_after
    (modest : ∀ entry ∈ (after (.create objects remembersSizes) turns).past,
      ¬entry.Overfeeds object ∧ ¬entry.Seeks object) :
    (after (.create objects remembersSizes) turns).now.Within object := by
  induction turns with
  | nil =>
      intro descriptor size found recorded
      contradiction
  | cons turn earlier ih =>
      obtain ⟨⟨last, unsought⟩, before⟩ := List.forall_mem_cons.mp modest
      exact (ih before).turn last unsought

/-- A session with an open object is connected. -/
theorem connected_of_found (found :
    (after (.create objects remembersSizes) turns).now.session.descriptors.find? object =
      some descriptor) :
    (after (.create objects remembersSizes) turns).now.session.connected = true := by
  cases online : (after (.create objects remembersSizes) turns).now.session.connected with
  | true => rfl
  | false =>
      rw [(numbers_after objects remembersSizes turns).offline online] at found
      contradiction

/-- A read into a buffer delivered `count` bytes of this answer of the store, and `size` was
recorded when the object was opened. -/
structure Delivers (remote : Remote) (object : ObjectId) (descriptor : Descriptor) (size : Nat)
    (buffer : Bytes) (count : Nat) (filled : Bytes) (later : Remote) (answer : Bytes) : Prop where
  supplied : remote.Supplies descriptor buffer answer
  /-- The answer is cut to the buffer, and to nothing else. -/
  count_eq : count = min answer.length buffer.length
  /-- Its first bytes are put into the buffer, and the rest of the buffer stays as it is. -/
  filled_eq : filled = answer.take count ++ buffer.drop count
  /-- The position moves by what was delivered. -/
  advanced : later.session.descriptors.find? object =
    some { descriptor with position := descriptor.position + count }
  /-- No more is delivered than is left of the recorded size exactly if the answer is no longer than
  that, or if the buffer is not. -/
  within_iff : count ≤ min buffer.length (size - descriptor.position) ↔
    answer.length ≤ size - descriptor.position ∨ buffer.length ≤ size - descriptor.position
  /-- In the same cases the position stays within the recorded size, or where it was behind it. -/
  stays_iff : descriptor.position + count ≤ max descriptor.position size ↔
    answer.length ≤ size - descriptor.position ∨ buffer.length ≤ size - descriptor.position

/-- How an object is read on demand of which `size` was recorded when it was opened. -/
structure ReadsOnDemand (history : History) (object : ObjectId) (descriptor : Descriptor)
    (size : Nat) : Prop where
  recorded : descriptor.content = .recorded size
  /-- A read that succeeds delivers what the store gave, as far as there is room for it. -/
  delivers : ∀ buffer count filled later,
    Session.readObject object buffer history.now = (.ok (count, filled), later) →
    ∃ answer, Delivers history.now object descriptor size buffer count filled later answer
  /-- The store may give any answer, which is then read like this. -/
  takes_any : ∀ data buffer answer, history.now.objects.find? descriptor.location = some data →
    descriptor.position < data.length → descriptor.Demands buffer →
    descriptor.position + buffer.length < Word.bound →
    ∃ later, Session.readObject object buffer (history.now.answering answer) =
      (.ok (min answer.length buffer.length,
        answer.take (min answer.length buffer.length) ++
          buffer.drop (min answer.length buffer.length)), later)
  /-- Only a seek, or an answer that is longer than what is left, leads past the recorded size. -/
  position_le : (∀ entry ∈ history.past, ¬entry.Overfeeds object ∧ ¬entry.Seeks object) →
    descriptor.position ≤ size

/-- Every object that is open for reading only is read on demand, and its reads stay within the size
that was recorded exactly if the answers of the store or the buffers do. -/
theorem reads_within_iff {history : History}
    (reached : after (.create objects remembersSizes) turns = history)
    (found : history.now.session.descriptors.find? object = some descriptor)
    (readOnly : descriptor.mode = .read) :
    ∃ size, ReadsOnDemand history object descriptor size := by
  subst reached
  have sound := ((tracks_after objects remembersSizes turns).tracked object descriptor found).sound
  obtain ⟨size, recorded⟩ := Descriptor.Sound.recorded sound (by rw [readOnly]; rfl)
  have readable : descriptor.mode.readable = true := by
    rw [readOnly]
    rfl
  refine ⟨size, recorded, ?_, ?_, ?_⟩
  · intro buffer count filled later reads
    obtain ⟨answer, supplies, rfl, rfl, session⟩ := Session.readObject_ok found recorded reads
    refine ⟨answer, supplies, rfl, rfl, ?_, by omega, by omega⟩
    rw [session]
    exact FiniteMap.find?_insert_self _ _ _
  · intro data buffer answer held inside demands fits
    have supplies := Remote.supply_answering held inside answer buffer.length
    have connected : ((after (.create objects remembersSizes) turns).now.answering
        answer).session.connected = true := connected_of_found found
    have opens := Remote.descriptor_of_found connected found
    obtain ⟨later, ended, -⟩ :=
      Session.readObject_supplied opens readable recorded demands fits supplies
    exact ⟨later, ended⟩
  · intro modest
    exact within_after modest descriptor size found recorded

/-- One object of three bytes, opened for reading. -/
def reading : List Turn := [.ask (.openObject "x" .read), .ask .connect]

/-- Every answer of the store for a range is four bytes longer than it should be. -/
def overfeeding : FaultPlan := FiniteMap.insert ∅ .storeGetRange (.arm (.falsified 4) 0 none)

/-- Three bytes are left, the store gives seven, and there is room for five: five are read. -/
theorem reads_within_iff_overfed :
    ∃ history descriptor later,
      after (.create (FiniteMap.empty.insert ⟨"x"⟩ [97, 98, 99]) true)
        (.arm overfeeding :: reading) = history ∧
      history.now.session.descriptors.find? ⟨1⟩ = some descriptor ∧ descriptor.mode = .read ∧
      Session.readObject ⟨1⟩ [0, 0, 0, 0, 0] history.now =
        (.ok (5, [97, 98, 99, 0xAA, 0xAA]), later) ∧
      ¬5 ≤ min 5 (3 - descriptor.position) := by
  have found : (after (.create (FiniteMap.empty.insert ⟨"x"⟩ [97, 98, 99]) true)
      (.arm overfeeding :: reading)).now.session.descriptors.find? ⟨1⟩ =
        some ⟨⟨"x"⟩, .read, 0, .recorded 3⟩ := rfl
  obtain ⟨size, reads⟩ := reads_within_iff rfl found rfl
  obtain rfl : 3 = size := Content.recorded.inj reads.recorded
  obtain ⟨answer, delivers⟩ := reads.delivers [0, 0, 0, 0, 0] 5 _ _ rfl
  obtain rfl : [97, 98, 99, 0xAA, 0xAA, 0xAA, 0xAA] = answer := Outcome.ok.inj delivers.supplied
  exact ⟨_, _, _, rfl, found, rfl, rfl, mt delivers.within_iff.mp (by decide)⟩

/-- The store gives seven bytes of an object with three, all of them are read, and the position is
past the recorded size. -/
theorem read_leaves_recorded_size :
    ∃ history descriptor later,
      after (.create (FiniteMap.empty.insert ⟨"x"⟩ [97, 98, 99]) true)
        (.arm overfeeding :: reading) = history ∧
      history.now.session.descriptors.find? ⟨1⟩ = some descriptor ∧ descriptor.mode = .read ∧
      descriptor.content = .recorded 3 ∧ descriptor.position = 0 ∧
      Session.readObject ⟨1⟩ (List.replicate 10 0xEE) history.now =
        (.ok (7, [97, 98, 99, 0xAA, 0xAA, 0xAA, 0xAA, 0xEE, 0xEE, 0xEE]), later) ∧
      ¬7 ≤ min 10 (3 - descriptor.position) ∧
      (Session.position ⟨1⟩ later).1 = .ok 7 :=
  ⟨_, _, _, rfl, rfl, rfl, rfl, rfl, rfl, by decide, rfl⟩

end History

end RemoteStreams
