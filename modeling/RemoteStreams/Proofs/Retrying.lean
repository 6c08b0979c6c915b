import RemoteStreams.Proofs.Refusals
import RemoteStreams.Proofs.Seeking
import RemoteStreams.Proofs.StoreHistory

/-! # Uploads that are tried again

What was written to an open object reaches the store in one piece when the object is closed. If
that upload is refused nothing is lost: the object stays open as it is, can be used on, and is
closed by the next attempt that is not refused. It is then stored as all requests for it that were
carried out have left it, from the time on when it was opened
(`RemoteStreams.History.retried_until_stored`). A write that is given up since no content reaches
as far is no error, and does its part (`RemoteStreams.PlainFile.left`).
-/

namespace RemoteStreams

/-- The turns of the past that were carried out, latest first. -/
def carriedOut (past : List Entry) : List Turn :=
  (past.filter fun entry => entry.outcome.isOk).map fun entry => entry.turn

namespace PlainFile

/-- The file after a turn was given up. A write has filled the gap before its data by then, and
laid down what of them does not extend the file, if it began where a content can reach. -/
def givenUp (file : PlainFile) (object : ObjectId) : Turn → PlainFile
  | .ask (.writeObject other data) =>
      if other = object ∧ file.position < Word.signedBound then
        { file with content := file.content.overlay file.position
                      (data.take (file.content.length - file.position)) }
      else file
  | _ => file

/-- What a past has left of a file: the turns that were carried out have moved it on, those that
ended with an error have not touched it, and a write that was given up may have. -/
def left (file : PlainFile) (mode : OpenMode) (object : ObjectId) : List Entry → PlainFile
  | [] => file
  | entry :: earlier =>
      match entry.outcome with
      | .ok _ => (file.left mode object earlier).turned mode object entry.turn
      | .error _ => file.left mode object earlier
      | .broken _ => (file.left mode object earlier).givenUp object entry.turn

/-- If nothing was given up, the turns that were carried out are all that counts. -/
theorem left_eq_after (file : PlainFile) (mode : OpenMode) (object : ObjectId) {past : List Entry}
    (kept : ∀ entry ∈ past, ∀ breach, entry.outcome ≠ .broken breach) :
    file.left mode object past = file.after mode object (carriedOut past) := by
  induction past with
  | nil => rfl
  | cons entry earlier ih =>
      obtain ⟨last, before⟩ := List.forall_mem_cons.mp kept
      rw [left, carriedOut, List.filter_cons]
      cases ended : entry.outcome with
      | ok reply =>
          rw [ih before]
          rfl
      | error cause => exact ih before
      | broken breach => exact (last breach ended).elim

end PlainFile

namespace Remote

/-- What the close of `object` comes to, which is staged with `content`. -/
inductive Uploads (remote : Remote) (object : ObjectId) (location : ObjectPath) (content : Bytes) :
    Bool → Outcome RemoteError Unit × Remote → Prop
  /-- There is nothing to upload. -/
  | idle {after : Remote} (removed : after.session = remote.session.remove object)
      (objects : after.objects = remote.objects) :
      Uploads remote object location content false (.ok (), after)
  /-- The upload is refused, and the object stays open. -/
  | refused {cause : RemoteError} {after : Remote}
      (refused : remote.refusal? (.storePut location content) = some cause)
      (session : after.session = remote.session) (objects : after.objects = remote.objects) :
      Uploads remote object location content true (.error cause, after)
  | stored {after : Remote} (passed : remote.refusal? (.storePut location content) = none)
      (removed : after.session = (remote.session.forget location).remove object)
      (objects : after.objects = remote.objects.insert location content) :
      Uploads remote object location content true (.ok (), after)

variable {remote before after : Remote} {object : ObjectId} {location : ObjectPath}
  {mode : OpenMode} {file : PlainFile} {modified : Bool} {request : SessionRequest}

/-- An upload goes through unless it is refused. -/
theorem upload_apply (location : ObjectPath) (data : Bytes) (before : Remote) :
    Session.upload location data before =
      match before.refusal? (.storePut location data) with
      | some cause => (.error cause, before.calling (.storePut location data))
      | none => (.ok (), (before.calling (.storePut location data)).storing location data) := by
  cases refused : before.refusal? (.storePut location data) with
  | some cause => simp [Session.upload, put, Action.bind_apply, announce_apply, refused]
  | none =>
      simp [Session.upload, put, Action.bind_apply, announce_apply, refused, modifySession,
        storing]

namespace Holds

/-- A read that is carried out moves the file on by what was ahead. -/
theorem read (holds : remote.Holds object location mode file modified) {buffer : Bytes}
    (succeeded : (Session.readObject object buffer remote).1.isOk = true) :
    mode.readable = true ∧
      (Session.readObject object buffer remote).2.Holds object location mode
        (file.skip (file.ahead buffer.length).length) modified := by
  have answered := holds.answered
  by_cases readable : mode.readable = true
  · by_cases fits : file.position < file.content.length → buffer ≠ [] →
        file.position + buffer.length < Word.bound
    · obtain ⟨after, ended, moved⟩ := holds.read_apply readable fits
      rw [ended]
      exact ⟨readable, moved⟩
    · simp only [Classical.not_imp] at fits
      obtain ⟨inside, present, overflows⟩ := fits
      simp [Session.readObject, Action.bind_apply, answered, readable, Content.length,
        Nat.not_le.mpr inside, present, Word.add, overflows, Outcome.isOk] at succeeded
  · simp [Session.readObject, Action.bind_apply, answered, readable, Outcome.isOk] at succeeded

/-- A write that is carried out is laid over the file. -/
theorem write (holds : remote.Holds object location mode file modified) {data : Bytes}
    (succeeded : (Session.writeObject object data remote).1.isOk = true) :
    (Session.writeObject object data remote).2.Holds object location mode (file.written data)
      (data ≠ [] || modified) := by
  have effect := SessionRequest.writeObject_effect remote object data
  rw [SessionRequest.perform, Action.map_apply] at effect
  by_cases empty : data = []
  · have ended : (Session.writeObject object data remote).2 = remote := by
      by_cases writable : mode.writable = true
      · simp [Session.writeObject, Action.bind_apply, holds.answered, writable, empty]
      · simp [Session.writeObject, Action.bind_apply, holds.answered, writable]
    rw [ended, empty]
    exact holds
  · generalize Session.writeObject object data remote = ended at succeeded effect
    obtain ⟨outcome, after⟩ := ended
    generalize answer : outcome.map SessionReply.accepted = reply at effect
    cases effect with
    | failed unanswered session objects =>
        rw [← Outcome.isOk_map SessionReply.accepted, answer,
          Outcome.isOk_eq_false unanswered] at succeeded
        contradiction
    | moved moves found session objects => simp [SessionRequest.moves?, empty] at moves
    | spilled found content within session objects =>
        rw [← Outcome.isOk_map SessionReply.accepted, answer] at succeeded
        contradiction
    | written present found content session objects =>
        obtain rfl := Option.some.inj (holds.found.symm.trans found)
        obtain ⟨rfl, rfl⟩ := Content.staged.inj content
        simp only [ne_eq, empty, not_false_eq_true, decide_true, Bool.true_or]
        apply holds.update
        rw [session]
        simp [Descriptor.write, PlainFile.written, empty]

/-- A seek that is carried out moves the file to what its target comes to. -/
theorem seek (holds : remote.Holds object location mode file modified) {target : SeekTarget}
    (succeeded : (Session.seekObject object target remote).1.isOk = true) :
    ∃ position, Word.ofInt? (file.target target) = some position ∧
      (Session.seekObject object target remote).2.Holds object location mode
        { file with position } modified := by
  rcases holds.seek_cases target with
    ⟨position, after, ended, reached, moved⟩ | ⟨cause, failed, -⟩
  · rw [ended]
    exact ⟨position, reached, moved⟩
  · rw [failed] at succeeded
    contradiction

/-- A request for the object that is carried out and does not close it moves the file on. -/
theorem use (holds : remote.Holds object location mode file modified)
    (own : request.object? = some object) (lasts : (Turn.ask request).ends object = false)
    (succeeded : (request.perform remote).1.isOk = true) :
    (request.perform remote).2.Holds object location mode
      (file.turned mode object (.ask request))
        ((Turn.ask request).writes object || modified) := by
  rw [PlainFile.turned, if_pos own]
  cases request with
  | readObject same buffer =>
      obtain rfl := Option.some.inj own
      rw [SessionRequest.perform, Action.map_apply] at succeeded ⊢
      rw [Outcome.isOk_map] at succeeded
      obtain ⟨readable, moved⟩ := holds.read succeeded
      rw [PlainFile.use?, if_pos readable]
      exact moved
  | writeObject same data =>
      obtain rfl := Option.some.inj own
      rw [SessionRequest.perform, Action.map_apply] at succeeded ⊢
      rw [Outcome.isOk_map] at succeeded
      simpa [PlainFile.use?, Turn.writes] using holds.write succeeded
  | seekObject same target =>
      obtain rfl := Option.some.inj own
      rw [SessionRequest.perform, Action.map_apply] at succeeded ⊢
      rw [Outcome.isOk_map] at succeeded
      obtain ⟨position, reached, moved⟩ := holds.seek succeeded
      rw [PlainFile.use?, reached]
      exact moved
  | position same =>
      obtain rfl := Option.some.inj own
      rw [SessionRequest.perform, Action.map_apply] at succeeded ⊢
      rw [Outcome.isOk_map] at succeeded
      obtain ⟨position, reached, moved⟩ := holds.seek succeeded
      have here : (position : Int) = file.position + 0 :=
        (Word.ofInt?_eq_some_iff.mp reached).1.symm
      obtain rfl : position = file.position := by omega
      exact moved
  | closeObject same =>
      obtain rfl := Option.some.inj own
      simp [Turn.ends] at lasts
  | connect | openObject | createObject | disconnect => contradiction

/-- A request that is carried out moves the file on, unless it ends the object. -/
theorem carried (holds : remote.Holds object location mode file modified)
    (lasts : (Turn.ask request).ends object = false)
    (succeeded : (request.perform remote).1.isOk = true) :
    (request.perform remote).2.Holds object location mode (file.turned mode object (.ask request))
      ((Turn.ask request).writes object || modified) := by
  by_cases own : request.object? = some object
  · exact holds.use own lasts succeeded
  · have lasting : request ≠ .disconnect := by
      rintro rfl
      contradiction
    have idle : (Turn.ask request).writes object = false := by
      cases request with
      | writeObject other data =>
          have differs : other ≠ object := fun same => own (congrArg some same)
          simp [Turn.writes, differs]
      | _ => rfl
    rw [PlainFile.turned, if_neg own, idle, Bool.false_or]
    exact holds.spared ((request.perform_effect remote).spares holds.numbered own lasting)

/-- A write to the object that is given up leaves what it has laid down by then. -/
theorem abandoned (holds : remote.Holds object location mode file modified) {data : Bytes}
    {breach : Breach}
    (broken : ((SessionRequest.writeObject object data).perform remote).1 = .broken breach) :
    ((SessionRequest.writeObject object data).perform remote).2.Holds object location mode
      (file.givenUp object (.ask (.writeObject object data))) modified := by
  obtain ⟨-, session⟩ := SessionRequest.writeObject_abandoned holds.found rfl broken
  by_cases within : file.position < Word.signedBound
  · rw [PlainFile.givenUp, if_pos ⟨rfl, within⟩]
    exact holds.update (session.trans (if_pos within))
  · rw [PlainFile.givenUp, if_neg fun both => within both.2]
    exact holds.same (session.trans (if_neg within))

/-- What is given up touches the file at most if it is a write to the object. -/
theorem givenUp (holds : remote.Holds object location mode file modified) {breach : Breach}
    (broken : (request.perform remote).1 = .broken breach) :
    (request.perform remote).2.Holds object location mode
      (file.givenUp object (.ask request)) modified := by
  have effect := request.perform_effect remote
  by_cases writes : ∃ other data, request = .writeObject other data
  · obtain ⟨other, data, rfl⟩ := writes
    by_cases own : other = object
    · subst own
      exact holds.abandoned broken
    · rw [PlainFile.givenUp, if_neg fun both => own both.1]
      exact holds.spared (effect.spares holds.numbered (fun same => own (Option.some.inj same))
        (by simp))
  · have failed : (request.perform remote).1.isOk = false := by
      rw [broken]
      rfl
    have kept := effect.session_of_failed failed fun other data _ same =>
      (writes ⟨other, data, same⟩).elim
    have untouched : file.givenUp object (.ask request) = file := by
      cases request with
      | writeObject other data => exact (writes ⟨other, data, rfl⟩).elim
      | _ => rfl
    rw [untouched]
    exact holds.same kept

/-- One turn, unless it is carried out and ends the object. -/
theorem turn (holds : remote.Holds object location mode file modified) {turn : Turn}
    (lasts : ((turn.perform remote).1.isOk && turn.ends object) = false) :
    (turn.perform remote).2.Holds object location mode
      (match (turn.perform remote).1 with
        | .ok _ => file.turned mode object turn
        | .error _ => file
        | .broken _ => file.givenUp object turn)
      ((turn.perform remote).1.isOk && turn.writes object || modified) := by
  cases turn with
  | ask request =>
      simp only [Turn.perform] at lasts ⊢
      cases ended : (request.perform remote).1 with
      | ok reply =>
          rw [ended] at lasts
          exact holds.carried lasts (by rw [ended]; rfl)
      | error cause => exact holds.same (request.unchanged ended).1
      | broken breach => exact holds.givenUp ended
  | forget location => exact holds.spared ⟨id, Nat.le_refl _, rfl⟩
  | arm faults => exact holds.spared ⟨id, Nat.le_refl _, rfl⟩
  | replace objects => exact holds.spared ⟨id, Nat.le_refl _, rfl⟩

/-- A whole history, until the object is closed or the session ends. -/
theorem history (holds : remote.Holds object location mode file false) {turns : List Turn}
    (lasts : ∀ entry ∈ (History.after remote turns).past,
      (entry.outcome.isOk && entry.turn.ends object) = false) :
    (History.after remote turns).now.Holds object location mode
      (file.left mode object (History.after remote turns).past)
        (touched object (History.after remote turns).past) := by
  induction turns with
  | nil => exact holds
  | cons turn earlier ih =>
      obtain ⟨last, before⟩ := List.forall_mem_cons.mp lasts
      exact (ih before).turn last

/-- A close stores what is staged, if that was modified, or it is refused. -/
theorem uploads (holds : remote.Holds object location mode file modified) :
    remote.Uploads object location file.content modified (Session.closeObject object remote) := by
  have noted : (remote.noting (.closingObject object)).Holds object location mode file modified :=
    holds.same rfl
  cases modified with
  | false =>
      have ended : Session.closeObject object remote =
          (.ok (), (remote.noting (.closingObject object)).removing object) := by
        simp [Session.closeObject, Action.bind_apply, note, noted.answered, Descriptor.upload?,
          modifySession, removing]
      rw [ended]
      exact .idle rfl rfl
  | true =>
      cases refused : (remote.noting (.closingObject object)).refusal?
          (.storePut location file.content) with
      | some cause =>
          have ended : Session.closeObject object remote = (.error cause,
              (remote.noting (.closingObject object)).calling
                (.storePut location file.content)) := by
            simp [Session.closeObject, Action.bind_apply, note, noted.answered, Descriptor.upload?,
              upload_apply, refused]
          rw [ended]
          exact .refused refused rfl rfl
      | none =>
          have ended : Session.closeObject object remote = (.ok (),
              (((remote.noting (.closingObject object)).calling
                (.storePut location file.content)).storing location file.content).removing
                  object) := by
            simp [Session.closeObject, Action.bind_apply, note, noted.answered, Descriptor.upload?,
              upload_apply, refused, modifySession, removing]
          rw [ended]
          exact .stored refused rfl rfl

end Holds

end Remote

namespace History

/-- `object` was opened in `mode` by `request`, when the remote side was as in `before`. What came
`later` did not close it, nor did it end the session. -/
structure OpenSince (history : History) (object : ObjectId) (mode : OpenMode)
    (request : SessionRequest) (before : Remote) (later : List Entry) : Prop where
  opened : ∃ earlier, history.past =
    later ++ ⟨before, .ask request, .ok (.object object)⟩ :: earlier
  kind : request.mode? = some mode
  lasts : ∀ entry ∈ later, (entry.outcome.isOk && entry.turn.ends object) = false

/-- What came after a turn is a history of its own, that starts where the turn ended. -/
theorem after_split {start before : Remote} {turns : List Turn} {later earlier : List Entry}
    {turn : Turn} {outcome : Outcome RemoteError SessionReply}
    (split : (after start turns).past = later ++ ⟨before, turn, outcome⟩ :: earlier) :
    turn.perform before = (outcome, (turn.perform before).2) ∧
      ∃ since, after (turn.perform before).2 since = ⟨later, (after start turns).now⟩ := by
  induction turns generalizing later with
  | nil => simp [after] at split
  | cons last past ih =>
      cases later with
      | nil =>
          obtain ⟨same, -⟩ := List.cons.inj split
          cases same
          exact ⟨rfl, [], rfl⟩
      | cons entry between =>
          obtain ⟨rfl, rest⟩ := List.cons.inj split
          obtain ⟨ended, since, resumed⟩ := ih rest
          refine ⟨ended, last :: since, ?_⟩
          rw [after, resumed]
          rfl

variable {objects : FiniteMap ObjectPath Bytes} {remembersSizes : Bool} {turns : List Turn}

/-- An object is still open that `request` opened for writing, and this happened to it since. -/
structure Retains (history : History) (object : ObjectId) (mode : OpenMode)
    (request : SessionRequest) (before : Remote) (later : List Entry) (content : Bytes)
    (location : ObjectPath) (file : PlainFile) : Prop where
  snapshot : request.snapshot? before = some content
  place : request.location? = some location
  /-- The file is what was opened, and what the requests have left of it. -/
  left : file = PlainFile.left ⟨content, 0⟩ mode object later
  /-- Unless a write was given up, these are the requests that were carried out. -/
  carried : (∀ entry ∈ later, ∀ breach, entry.outcome ≠ .broken breach) →
    file = PlainFile.after ⟨content, 0⟩ mode object (carriedOut later)
  staged : history.now.session.descriptors.find? object =
    some ⟨location, mode, file.position, .staged file.content (touched object later)⟩
  /-- A close that is not refused stores the file, and a close that is refused changes nothing. -/
  uploads : history.now.Uploads object location file.content (touched object later)
    (Session.closeObject object history.now)

/-- A request that ends with an error changes nothing: the session stays as it is with all that is
open, and so do the objects in the store. So an object that was opened for writing is open until a
request that succeeds closes it or ends the session, however often its close is refused. It is
staged as the requests that were carried out have left it, apart from writes that were given up in
between, and this is what a close that is not refused stores. -/
theorem retried_until_stored {history : History}
    (reached : history = after (.create objects remembersSizes) turns) :
    (∀ request cause, (SessionRequest.perform request history.now).1 = .error cause →
      (request.perform history.now).2.session = history.now.session ∧
        (request.perform history.now).2.objects = history.now.objects) ∧
    ∀ object mode request before later,
      history.OpenSince object mode request before later → mode.writable = true →
      ∃ content location file, history.Retains object mode request before later content location
        file := by
  subst reached
  constructor
  · intro request cause failed
    exact SessionRequest.unchanged failed
  · intro object mode request before later since writable
    obtain ⟨earlier, split⟩ := since.opened
    obtain ⟨opens, turns', resumed⟩ := after_split split
    obtain ⟨content, location, snapshot, place, holds⟩ :=
      Remote.holds_opened opens since.kind writable
    have lasts : ∀ entry ∈ (after ((Turn.ask request).perform before).2 turns').past,
        (entry.outcome.isOk && entry.turn.ends object) = false := by
      rw [resumed]
      exact since.lasts
    have held := holds.history lasts
    rw [resumed] at held
    exact ⟨content, location, _, snapshot, place, rfl, PlainFile.left_eq_after _ _ _, held.found,
      held.uploads⟩

/-- An object is created, written to and closed, and then read without success, moved back, written
to again and closed again. Both closes are refused. -/
def stubborn : List Turn :=
  [.ask (.closeObject ⟨1⟩), .ask (.writeObject ⟨1⟩ [9]), .ask (.seekObject ⟨1⟩ (.ending (-1))),
    .ask (.readObject ⟨1⟩ [0, 0]), .ask (.closeObject ⟨1⟩), .ask (.writeObject ⟨1⟩ [7, 8]),
    .arm (FiniteMap.insert ∅ .storePut (.arm .refused 0 (some 2))), .ask (.createObject "a"),
    .ask .connect]

/-- The next close stores what both writes have left. -/
theorem retried_until_stored_third :
    (after (.create ∅ true) stubborn).now.refusal? (.storePut ⟨"a"⟩ [7, 9]) = none ∧
      (after (.create ∅ true) stubborn).now.Uploads ⟨1⟩ ⟨"a"⟩ [7, 9] true
        (Session.closeObject ⟨1⟩ (after (.create ∅ true) stubborn).now) := by
  have since : (after (.create ∅ true) stubborn).OpenSince ⟨1⟩ .write (.createObject "a")
      (after (.create ∅ true) [.ask .connect]).now
      ((after (.create ∅ true) stubborn).past.take 7) :=
    ⟨⟨(after (.create ∅ true) stubborn).past.drop 8, rfl⟩, rfl, by decide⟩
  obtain ⟨content, location, file, retains⟩ := (retried_until_stored rfl).2 _ _ _ _ _ since rfl
  obtain rfl := Option.some.inj (show some [] = some content from retains.snapshot)
  obtain rfl := Option.some.inj (show some ⟨"a"⟩ = some location from retains.place)
  have same : file = ⟨[7, 9], 2⟩ := retains.left
  have uploads := retains.uploads
  rw [same] at uploads
  exact ⟨by decide, uploads⟩

end History

end RemoteStreams
