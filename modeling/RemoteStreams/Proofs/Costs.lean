import RemoteStreams.Proofs.SessionCalls

/-! # What operations cost

The calls on the session that an operation takes can be told from the stream before it
(`RemoteStreams.CachedStream.cost`). Operations that are served by the window alone take none, and
leave the remote side as it is. Unless a call fails, all others take exactly their cost
(`RemoteStreams.CachedStream.costs_exactly`).
-/

namespace RemoteStreams

/-- It tells of a transfer that was cut short by a failure, which is not reported otherwise. -/
def Event.swallows : Event → Bool
  | .fetchFailed _ _ _ | .overflowFailed _ _ _ => true
  | _ => false

namespace Attached

/-- Between the two, such a failure was logged. -/
def Swallowed (before after : Attached) : Prop :=
  ∃ event ∈ after.remote.log.drop before.remote.log.length, event.swallows = true

instance (before after : Attached) : Decidable (before.Swallowed after) :=
  inferInstanceAs (Decidable (∃ event ∈ _, _))

/-- A step that did not deliver what it was to, or not all of it, because something failed. -/
def Hindered {α : Type} (before : Attached) (ended : Outcome StreamError α × Attached) : Prop :=
  (∀ value, ended.1 ≠ .ok value) ∨ before.Swallowed ended.2

/-- A step that asked for all that it costs, or was hindered for want of something it `needs`. -/
def Pays {α : Type} (before : Attached) (cost : List Call) (needs : Prop)
    (ended : Outcome StreamError α × Attached) : Prop :=
  before.Asks cost ended.2 ∨ before.Hindered ended ∧ ¬needs

variable {before middle after : Attached}

/-- An event that stands behind what was logged before was logged on the way. -/
theorem swallowed_of_log {event : Event} {later : List Event}
    (grows : before.remote.log <+: middle.remote.log) (swallows : event.swallows = true)
    (log : after.remote.log = middle.remote.log ++ event :: later) : before.Swallowed after := by
  obtain ⟨news, same⟩ := grows
  refine ⟨event, ?_, swallows⟩
  rw [log, ← same, List.append_assoc, List.drop_left]
  simp

/-- A step that pays its cost unless little is missing does so if more is required. -/
theorem Pays.mono {α : Type} {cost : List Call} {needs more : Prop}
    {ended : Outcome StreamError α × Attached} (pays : before.Pays cost needs ended)
    (enough : more → needs) : before.Pays cost more ended :=
  pays.imp_right fun ⟨hindered, fails⟩ => ⟨hindered, fun met => fails (enough met)⟩

/-- What is made of a value does not change the cost. -/
theorem Pays.map {α β : Type} {cost : List Call} {needs : Prop} {body : StreamAction α}
    (pays : before.Pays cost needs (body before)) (convert : α → β) :
    before.Pays cost needs ((convert <$> body) before) := by
  rw [Action.map_apply]
  apply pays.imp_right
  rintro ⟨hindered, fails⟩
  refine ⟨hindered.imp_left fun failed value => ?_, fails⟩
  generalize (body before).1 = outcome at failed ⊢
  obtain ⟨value⟩ | _ | _ := outcome
  · exact (failed value rfl).elim
  · simp
  · simp

end Attached

namespace CachedStream

open Attached

/-- The log only grows. -/
theorem lasting_log (object : ObjectId) (log : List Event) :
    Lasting object fun remote => log <+: remote.log :=
  have lasting : Remote.Lasting (fun _ => True) fun remote => log <+: remote.log :=
    { calling := fun _ _ _ grown => grown
      requesting := fun _ _ grown => grown
      noting := fun _ _ grown => grown.trans (List.prefix_append _ _)
      session := fun _ _ grown => grown
      storing := fun _ _ _ grown => grown }
  lasting_of_remote lasting object fun _ _ => trivial

/-- Where a seek out of the window moves the object, if a machine word says where that is. -/
def goal? (stream : CachedStream) : SeekTarget → Option SeekTarget
  | .start position => some (.start position)
  | .current offset => (Word.ofInt? (stream.here + offset)).map .start
  | .ending offset => some (.ending offset)

def readCost (stream : CachedStream) (count : Nat) : List Call :=
  if count = 0 then [] else stream.flushCost ++ stream.fetchCost (count - stream.window.unread)

/-- What does not fit into the window goes past it, once the window is full. If it is clean and full
before, it stays clean. -/
def writeCost (stream : CachedStream) (data : Bytes) : List Call :=
  if data.length ≤ stream.window.spare then
    []
  else
    (stream.putting (data.take stream.window.spare)).overflowCost (data.drop stream.window.spare)

def seekCost (stream : CachedStream) (target : SeekTarget) : List Call :=
  if stream.Contains target then
    []
  else match stream.goal? target with
    | none => []
    | some goal => stream.flushCost ++ [.seekObject stream.object goal]

/-- The calls on the session that an operation takes. -/
def cost (stream : CachedStream) : Operation → List Call
  | .read buffer => stream.readCost buffer.length
  | .write data => stream.writeCost data
  | .putByte byte => stream.writeCost [byte]
  | .getByte => stream.readCost 1
  | .seek target => stream.seekCost target
  | .tell => []
  | .flush => stream.flushCost
  | .remotePosition => [.position stream.object]

/-- The window alone can serve a read of `count` bytes. -/
def FreeRead (stream : CachedStream) (count : Nat) : Prop :=
  count = 0 ∨ stream.dirty = false ∧ count ≤ stream.window.unread

/-- The operation can be served by the window alone. -/
def Free (stream : CachedStream) : Operation → Prop
  | .read buffer => stream.FreeRead buffer.length
  | .write data => data.length ≤ stream.window.spare
  | .putByte _ => 1 ≤ stream.window.spare
  | .getByte => stream.FreeRead 1
  | .seek target => stream.Contains target ∨ stream.goal? target = none
  | .tell => True
  | .flush => stream.dirty = false
  | .remotePosition => False

section Free

variable (stream : CachedStream)

/-- A flush is free exactly if the window is clean. -/
theorem flushCost_eq_nil_iff : stream.flushCost = [] ↔ stream.dirty = false := by
  unfold flushCost
  split <;> simp_all

/-- Only nothing is fetched for free. -/
theorem fetchCost_eq_nil_iff (missing : Nat) : stream.fetchCost missing = [] ↔ missing = 0 := by
  unfold fetchCost
  split
  · simp_all
  · split <;> simp_all

/-- A read is free exactly if the window is clean and has all the bytes. -/
theorem readCost_eq_nil_iff (count : Nat) : stream.readCost count = [] ↔ stream.FreeRead count := by
  unfold readCost FreeRead
  split
  · simp_all
  · next some =>
      simp only [List.append_eq_nil_iff, flushCost_eq_nil_iff, fetchCost_eq_nil_iff,
        Nat.sub_eq_zero_iff_le, some, false_or]

/-- A write is free exactly if the window has room for all the bytes. -/
theorem writeCost_eq_nil_iff (data : Bytes) :
    stream.writeCost data = [] ↔ data.length ≤ stream.window.spare := by
  unfold writeCost overflowCost
  split <;> simp_all

/-- A seek is free exactly if it stays in the window or leads nowhere. -/
theorem seekCost_eq_nil_iff (target : SeekTarget) :
    stream.seekCost target = [] ↔ stream.Contains target ∨ stream.goal? target = none := by
  unfold seekCost
  split
  · simp_all
  · split <;> simp_all

/-- So an operation is free exactly if it costs nothing. -/
theorem free_iff (operation : Operation) : stream.Free operation ↔ stream.cost operation = [] := by
  cases operation with
  | read buffer => exact (stream.readCost_eq_nil_iff buffer.length).symm
  | write data => exact (stream.writeCost_eq_nil_iff data).symm
  | putByte byte => exact (stream.writeCost_eq_nil_iff [byte]).symm
  | getByte => exact (stream.readCost_eq_nil_iff 1).symm
  | seek target => exact (stream.seekCost_eq_nil_iff target).symm
  | tell => simp [Free, cost]
  | flush => exact stream.flushCost_eq_nil_iff.symm
  | remotePosition => simp [Free, cost]

end Free

variable {attached : Attached} {descriptor : Descriptor}

/-- A flush pays its cost, unless it fails, which it does not for a calm stream. -/
theorem flush_pays (coherent : attached.Coherent descriptor)
    (inReach : attached.InReach descriptor) :
    attached.Pays attached.stream.flushCost (attached.Calm descriptor) (flush attached) := by
  rcases flush_inReach coherent inReach with
    ⟨remote, moved, flushed, -⟩ | ⟨cause, synced, remote, moved, failed, -, dirty, excuse⟩
  · rw [flushed]
    exact .inl (flush_asks flushed).2
  · rw [failed]
    exact .inr ⟨.inl (by simp), fun calm => calm.no_refusal dirty excuse⟩

/-- Nothing stands in the way of reading up to `count` bytes. -/
structure Readable (attached : Attached) (descriptor : Descriptor) (count : Nat) : Prop
    extends attached.Ready descriptor count where
  permitted : descriptor.mode.readable = true
  present : attached.content? ≠ none

/-- If the second part of a read fails, that is reported only if the window gave nothing. -/
theorem fetchRest_of_error {buffer : Bytes} {cause : StreamError} {after : Attached}
    (failed : fetch buffer attached = (.error cause, after)) (cached : Nat) :
    fetchRest cached buffer attached = if cached = 0 then (.error cause, after) else
      (.ok (0, buffer),
        ⟨after.stream, after.remote.noting (.fetchFailed after.stream.path cached cause)⟩) := by
  simp only [fetchRest, Action.bind_apply, Action.attempt, failed, Action.ite_apply,
    Action.fail_apply, current_apply, note_apply, Action.pure_apply]

/-- Once the window is written back, a read takes one fetch if the window has not enough unread. -/
theorem read_pays_of_flushed {middle : Attached} {buffer : Bytes}
    (flushed : flush attached = (.ok (), middle)) (coherent : middle.Coherent descriptor)
    (clean : middle.stream.dirty = false) (inReach : descriptor.InReach) (present : buffer ≠ [])
    (small : buffer.length < Word.signedBound) :
    attached.Pays (attached.stream.flushCost ++
        middle.stream.fetchCost (buffer.length - middle.stream.window.unread))
      (Readable middle descriptor buffer.length) (read buffer attached) := by
  have first := (flush_asks flushed).2
  obtain ⟨cached, took, length, delivers⟩ := take_apply coherent clean buffer.length
  by_cases full : cached.length = buffer.length
  · have done : (read buffer attached).2.remote = middle.remote := by
      simp only [read, present, ↓reduceIte, Action.bind_apply, flushed, took, full,
        Action.pure_apply]
    have nothing : buffer.length - middle.stream.window.unread = 0 := by omega
    rw [nothing, fetchCost, if_pos rfl, List.append_nil]
    exact .inl ((congrArg Remote.asked done).trans first)
  · have used : (middle.stream.window.consumed cached.length).unread = 0 := by
      simp only [Window.consumed]
      omega
    have rest : (buffer.drop cached.length).length = buffer.length - middle.stream.window.unread := by
      rw [List.length_drop]
      omega
    have missing : buffer.drop cached.length ≠ [] := by
      apply List.ne_nil_of_length_pos
      omega
    have little : (buffer.drop cached.length).length < Word.signedBound := by omega
    rcases fetch_ends delivers.advances.coherent clean used inReach little with
      ⟨bytes, after, moved, fetched, room, -⟩ | ⟨cause, after, moved, failed, -, excused⟩
    · have second := fetch_asks delivers.advances.coherent missing fetched
      rw [rest] at second
      have twice := Word.signedBound_add_signedBound
      have fits : cached.length + bytes.length < Word.bound := by omega
      have done : (read buffer attached).2.remote =
          after.remote.noting (.readServed after.stream.path cached.length bytes.length) := by
        simp only [read, present, ↓reduceIte, Action.bind_apply, flushed, took, full, fetchRest,
          Action.attempt, fetched, Action.pure_apply, current_apply, note_apply,
          Word.add_apply fits]
      exact .inl ((congrArg Remote.asked done).trans (first.trans second))
    · have fetched := fetchRest_of_error failed cached.length
      refine .inr ⟨?_, fun readable => ?_⟩
      · by_cases start : cached.length = 0
        · rw [if_pos start] at fetched
          refine .inl fun value => ?_
          simp [read, present, Action.bind_apply, flushed, took, full, fetched]
        · rw [if_neg start] at fetched
          have log := lasting_log attached.stream.object attached.remote.log
          have grows := log.flush attached ⟨rfl, List.prefix_rfl⟩
          rw [flushed] at grows
          have taken := Lasting.onWindow (ε := StreamError) (Window.take buffer.length) _ grows
          rw [took] at taken
          have further := log.fetch (buffer.drop cached.length) _ taken
          rw [failed] at further
          have served : (read buffer attached).2.remote.log = after.remote.log ++
              [.fetchFailed after.stream.path cached.length cause,
                .readServed after.stream.path cached.length 0] := by
            have fits : cached.length + 0 < Word.bound := by
              have twice := Word.signedBound_add_signedBound
              omega
            simp only [read, present, ↓reduceIte, Action.bind_apply, flushed, took, full, fetched,
              current_apply, note_apply, Word.add_apply fits, Action.pure_apply, Remote.noting,
              List.append_assoc, List.cons_append, List.nil_append]
          exact .inr (swallowed_of_log further.2 rfl served)
      · have fewer : (buffer.drop cached.length).length ≤ buffer.length := by omega
        have left := (delivers.ready readable.toReady).fewer fewer
        have refused := excused left (delivers.content ▸ readable.present)
        rw [readable.permitted] at refused
        contradiction

/-- A read pays its cost, unless something was in its way, which nothing is if the object is
readable as it should be. -/
theorem read_pays (coherent : attached.Coherent descriptor) (inReach : attached.InReach descriptor)
    {buffer : Bytes} (small : buffer.length < Word.signedBound) :
    attached.Pays (attached.stream.readCost buffer.length)
      (Readable attached descriptor buffer.length) (read buffer attached) := by
  by_cases empty : buffer = []
  · subst empty
    exact .inl (asks_nil rfl)
  · have some : buffer.length ≠ 0 := by simpa using empty
    rw [readCost, if_neg some]
    rcases flush_inReach coherent inReach with
      ⟨remote, between, flushed, kept, reached⟩ |
        ⟨cause, synced, remote, moved, failed, -, dirty, excuse⟩
    · apply (read_pays_of_flushed flushed kept.advances.coherent rfl reached empty small).imp_right
      rintro ⟨hindered, unreadable⟩
      refine ⟨hindered, fun readable => unreadable ⟨kept.ready readable.toReady, ?_, ?_⟩⟩
      · rw [kept.advances.moves.evolved.mode]
        exact readable.permitted
      · rw [kept.content]
        exact readable.present
    · refine .inr ⟨.inl fun value => ?_, fun readable => readable.no_refusal dirty excuse⟩
      simp [read, empty, Action.bind_apply, failed]

/-- If the second part of a write fails, that is reported only if the window took nothing. -/
theorem writeRest_of_error {rest : Bytes} {cause : StreamError} {after : Attached}
    (failed : writePastWindow rest attached = (.error cause, after)) (cached : Nat) :
    writeRest cached rest attached = if cached = 0 then (.error cause, after) else
      (.ok cached,
        ⟨after.stream, after.remote.noting (.overflowFailed after.stream.path cached cause)⟩) := by
  simp only [writeRest, Action.bind_apply, Action.attempt, failed, Action.ite_apply,
    Action.fail_apply, current_apply, note_apply, Action.pure_apply]

/-- Nothing stands in the way of writing `count` bytes: the stream is steady, and the object may be
written to and reaches as far as the bytes. -/
structure Writable (attached : Attached) (descriptor : Descriptor) (count : Nat) : Prop
    extends attached.Steady descriptor where
  permitted : descriptor.mode.writable = true
  within : attached.stream.here + count < Word.signedBound

/-- A write takes nothing as long as the window has room, and else what it takes to write
past it. -/
theorem write_pays (coherent : attached.Coherent descriptor)
    (near : attached.stream.here < PlainFile.positionBound) {data : Bytes}
    (small : data.length < Word.signedBound) :
    attached.Pays (attached.stream.writeCost data) (Writable attached descriptor data.length)
      (write data attached) := by
  by_cases empty : data = []
  · subst empty
    exact .inl (asks_nil rfl)
  · obtain ⟨count, count_eq⟩ : ∃ count, count = min attached.stream.window.spare data.length :=
      ⟨_, rfl⟩
    have put := write_put coherent empty count_eq
    by_cases full : count = data.length
    · rw [put, if_pos full, writeCost, if_pos (by omega)]
      exact .inl (asks_nil rfl)
    · have length : (data.take count).length = count :=
        List.length_take_of_le (count_eq ▸ Nat.min_le_right _ _)
      have accepts := accepts_fitting coherent count_eq
      obtain ⟨used, reach⟩ := putting_fills coherent near count_eq full
      have rest : (data.drop count).length = data.length - count := List.length_drop
      have present : data.drop count ≠ [] := mt List.drop_eq_nil_iff.mp (by omega)
      have spare : attached.stream.window.spare = count := by omega
      rw [put, if_neg full, writeCost, if_neg (by omega), spare]
      have little : (data.drop count).length < Word.signedBound := by omega
      rcases writePastWindow_ends accepts.advances.coherent used reach present little with
        (⟨more, after, moved, wrote, room, -⟩ | ⟨cause, after, moved, failed, -, excuse⟩) |
          ⟨⟨breach, after, broken⟩, outside⟩
      · have asks := writePastWindow_asks wrote
        have twice := Word.signedBound_add_signedBound
        have fits : count + more < Word.bound := by omega
        have ended : writeRest count (data.drop count) ⟨attached.stream.putting (data.take count),
            attached.remote⟩ = (.ok (count + more), after) := by
          simp only [writeRest, Action.bind_apply, Action.attempt, wrote, Word.add_apply fits]
        rw [ended]
        exact .inl asks
      · rw [writeRest_of_error failed]
        refine .inr ⟨?_, fun writable => ?_⟩
        · by_cases start : count = 0
          · rw [if_pos start]
            exact .inl (by simp)
          · have log := lasting_log attached.stream.object attached.remote.log
            have grows := log.writePastWindow (data.drop count)
              ⟨attached.stream.putting (data.take count), attached.remote⟩ ⟨rfl, List.prefix_rfl⟩
            rw [failed] at grows
            rw [if_neg start]
            exact .inr (swallowed_of_log grows.2 rfl rfl)
        · have refused := excuse (accepts.advances.steady writable.toSteady fun _ =>
            writable.permitted)
          rw [writable.permitted] at refused
          contradiction
      · have abandoned : writeRest count (data.drop count)
            ⟨attached.stream.putting (data.take count), attached.remote⟩ =
              (.broken breach, after) := by
          simp only [writeRest, Action.bind_apply, Action.attempt, broken]
        rw [abandoned]
        refine .inr ⟨.inl (by simp), fun writable => ?_⟩
        have within := writable.within
        have here := accepts.here
        omega

/-- A seek that leads somewhere is resolved to where it leads. -/
theorem resolve_apply (addressable : attached.stream.here < Word.bound) {target goal : SeekTarget}
    (leads : attached.stream.goal? target = some goal) :
    resolve target attached = (.ok goal, attached) := by
  cases target with
  | start position => exact congrArg (fun goal => (Outcome.ok goal, attached)) (Option.some.inj leads)
  | ending offset => exact congrArg (fun goal => (Outcome.ok goal, attached)) (Option.some.inj leads)
  | current offset =>
      obtain ⟨absolute, fits, rfl⟩ := Option.map_eq_some_iff.mp leads
      simp only [resolve, Action.bind_apply, tell_apply addressable, fits, Action.pure_apply]

/-- A target that leads nowhere is not in the window. -/
theorem not_contains_of_nowhere (inReach : attached.InReach descriptor) {target : SeekTarget}
    (nowhere : attached.stream.goal? target = none) : ¬attached.stream.Contains target := by
  cases target with
  | start position => simp [goal?] at nowhere
  | ending offset => simp [goal?] at nowhere
  | current offset =>
      have word := inReach.word
      have fails := Option.map_eq_none_iff.mp nowhere
      simp only [Word.ofInt?, ite_eq_right_iff, reduceCtorEq, imp_false] at fails
      simp only [Contains, here, Window.extent] at *
      omega

/-- A seek that leads nowhere is refused, and changes nothing. -/
theorem seek_of_nowhere (inReach : attached.InReach descriptor) {target : SeekTarget}
    (nowhere : attached.stream.goal? target = none) :
    ∃ number, seek target attached = (.error (.invalidSeek number), attached) := by
  rw [seek_of_not_contains inReach (not_contains_of_nowhere inReach nowhere)]
  cases target with
  | start position => simp [goal?] at nowhere
  | ending offset => simp [goal?] at nowhere
  | current offset =>
      have fails := Option.map_eq_none_iff.mp nowhere
      refine ⟨attached.stream.here + offset, ?_⟩
      simp only [seekObject, resolve, Action.bind_apply,
        tell_apply (here_lt inReach.word), fails, Action.fail_apply]

/-- Whatever goes wrong goes wrong on the remote side. -/
def Trusts {α : Type} (body : StreamAction α) : Prop :=
  ∀ before cause, (body before).1 = .error cause → ∃ refusal, cause = .remote refusal

namespace Trusts

variable {α β : Type}

theorem pure (value : α) : Trusts (Pure.pure value) := by
  intro before cause failed
  simp at failed

theorem modify (change : CachedStream → CachedStream) : Trusts (CachedStream.modify change) := by
  intro before cause failed
  simp at failed

theorem note (event : Event) : Trusts (CachedStream.note event) := by
  intro before cause failed
  simp at failed

theorem fail (refusal : RemoteError) : Trusts (Action.fail (.remote refusal) : StreamAction α) := by
  intro before cause failed
  exact ⟨refusal, (Outcome.error.inj failed).symm⟩

/-- Whatever the remote side is asked for fails with one of its errors. -/
theorem ask (request : RemoteAction α) : Trusts (CachedStream.ask request) := by
  intro before cause failed
  rw [ask_apply] at failed
  generalize (request before.remote).1 = outcome at failed
  obtain _ | refusal | _ := outcome
  · simp at failed
  · exact ⟨refusal, (Outcome.error.inj failed).symm⟩
  · simp at failed

/-- A choice is to be trusted if both branches are. -/
theorem ite {condition : Prop} [Decidable condition] {first second : StreamAction α}
    (left : Trusts first) (right : Trusts second) :
    Trusts (if condition then first else second) := by
  split
  · exact left
  · exact right

/-- What is done in a row is to be trusted if its parts are. -/
theorem bind {first : StreamAction α} {next : α → StreamAction β} (begins : Trusts first)
    (goesOn : ∀ value, Trusts (next value)) : Trusts (first >>= next) := by
  intro before cause failed
  have fails := begins before
  rw [Action.bind_apply] at failed
  generalize first before = ended at failed fails
  obtain ⟨value | refusal | _, after⟩ := ended
  · exact goesOn value after cause failed
  · obtain rfl := Outcome.error.inj failed
    exact fails refusal rfl
  · simp at failed

theorem current_bind {next : CachedStream → StreamAction β}
    (goesOn : ∀ stream, Trusts (next stream)) : Trusts (current >>= next) :=
  fun before => goesOn before.stream before

/-- So a flush fails with errors of the remote side only. -/
theorem flush : Trusts CachedStream.flush := by
  refine current_bind fun stream => ite (bind ?_ fun _ => ?_) (pure ())
  · exact current_bind fun _ => ite (pure ()) (bind (ask _) fun _ => modify _)
  · refine current_bind fun _ => bind (ask _) fun _ => bind (modify _) fun _ => ite ?_ (fail _)
    exact bind (note _) fun _ => modify _

end Trusts

/-- The seeks that are refused are those that lead nowhere. -/
theorem seek_refused_iff (coherent : attached.Coherent descriptor)
    (inReach : attached.InReach descriptor) (target : SeekTarget) :
    (∃ number, (seek target attached).1 = .error (.invalidSeek number)) ↔
      attached.stream.goal? target = none := by
  constructor
  · rintro ⟨number, refused⟩
    apply Option.eq_none_iff_forall_ne_some.mpr
    intro goal leads
    by_cases contains : attached.stream.Contains target
    · obtain ⟨position, after, ended, -⟩ := seek_of_contains coherent inReach contains
      rw [ended] at refused
      contradiction
    · have resolved := resolve_apply (here_lt inReach.word) leads
      have trusts : Trusts (flush >>= fun _ => current >>= fun stream =>
          ask (Link.seekObject stream.object goal) >>= fun position => anchor position >>= fun _ =>
            note (.sought stream.path target position) >>= fun _ => Pure.pure position) :=
        .bind .flush fun _ => .current_bind fun _ => .bind (.ask _) fun _ => .bind (.modify _)
          fun _ => .bind (.note _) fun _ => .pure _
      rw [seek_of_not_contains inReach contains, seekObject, Action.bind_apply, resolved] at refused
      obtain ⟨refusal, remote⟩ := trusts attached _ refused
      contradiction
  · intro nowhere
    obtain ⟨number, refused⟩ := seek_of_nowhere inReach nowhere
    exact ⟨number, congrArg Prod.fst refused⟩

/-- A seek takes nothing within the window, and else the flush and one call. -/
theorem seek_pays (coherent : attached.Coherent descriptor) (inReach : attached.InReach descriptor)
    (target : SeekTarget) :
    attached.Pays (attached.stream.seekCost target) (attached.Calm descriptor)
      (seek target attached) := by
  by_cases contains : attached.stream.Contains target
  · obtain ⟨position, after, ended, same, -⟩ := seek_of_contains coherent inReach contains
    rw [ended, seekCost, if_pos contains]
    exact .inl (asks_nil same)
  · cases leads : attached.stream.goal? target with
    | none =>
        obtain ⟨number, refused⟩ := seek_of_nowhere inReach leads
        rw [refused, seekCost, if_neg contains, leads]
        exact .inl (asks_nil rfl)
    | some goal =>
        have resolved := resolve_apply (here_lt inReach.word) leads
        rw [seek_of_not_contains inReach contains, seekCost, if_neg contains, leads]
        rcases flush_inReach coherent inReach with
          ⟨remote, moved, flushed, -⟩ | ⟨cause, synced, remote, moved, failed, -, dirty, excuse⟩
        · have first := (flush_asks flushed).2
          have second := Link.asked_seekObject attached.stream.object goal remote
          have same : attached.stream.flushed.object = attached.stream.object := rfl
          refine .inl (first.trans ?_)
          simp only [seekObject, Action.bind_apply, resolved, flushed, current_apply, ask_apply, same]
          generalize Link.seekObject attached.stream.object goal remote = ended at second ⊢
          obtain ⟨_ | _ | _, after⟩ := ended
          · exact second
          · exact second
          · exact second
        · refine .inr ⟨.inl fun value => ?_, fun calm => calm.no_refusal dirty excuse⟩
          simp [seekObject, Action.bind_apply, resolved, failed]

theorem putByte_eq (byte : UInt8) : putByte byte = (fun _ => byte) <$> write [byte] := rfl

/-- A byte is read into a buffer of length one. -/
theorem getByte_eq : getByte =
    (fun filled : Nat × Bytes => if filled.1 = 0 then none else filled.2.head?) <$> read [0] := by
  apply congrArg (read [0] >>= ·)
  funext filled
  exact (apply_ite pure _ _ _).symm

/-- Nothing stands in the way of an operation on an object that was opened for `mode`. -/
structure Unobstructed (mode : OpenMode) (operation : Operation) (attached : Attached) : Prop where
  quiet : attached.remote.faults = ∅
  allocatable : attached.stream.window.limit < Window.allocationBound
  writable : attached.stream.dirty = true → mode.writable = true
  permitted : operation.Permitted mode
  fits : operation.FitsAt attached.stream.here
  present : attached.content? ≠ none

/-- Nothing stands in the way of a stream whose operation is not obstructed. -/
theorem Unobstructed.steady {operation : Operation}
    (unobstructed : Unobstructed descriptor.mode operation attached) :
    attached.Steady descriptor :=
  ⟨unobstructed.quiet, unobstructed.allocatable, unobstructed.writable⟩

/-- An operation takes its cost, unless something is in its way and it is hindered. -/
theorem perform_pays (coherent : attached.Coherent descriptor)
    (near : attached.stream.here < PlainFile.positionBound) {operation : Operation}
    (addressable : operation.Addressable) :
    attached.Pays (attached.stream.cost operation) (Unobstructed descriptor.mode operation attached)
      (perform operation attached) := by
  have inReach : attached.InReach descriptor := inReach_of_lt (coherent.reach_lt near)
  cases operation with
  | read buffer =>
      apply Pays.map
      apply (read_pays coherent inReach addressable).mono
      exact fun met => ⟨met.steady.ready _, met.permitted, met.present⟩
  | write data =>
      apply Pays.map
      apply (write_pays coherent near addressable).mono
      exact fun met => ⟨met.steady, met.permitted, met.fits⟩
  | putByte byte =>
      apply Pays.map
      rw [putByte_eq]
      apply Pays.map
      apply (write_pays coherent near (by simp [Word.signedBound])).mono
      exact fun met => ⟨met.steady, met.permitted, byte_within near byte⟩
  | getByte =>
      apply Pays.map
      rw [getByte_eq]
      apply Pays.map
      apply (read_pays coherent inReach (by simp [Word.signedBound])).mono
      exact fun met => ⟨met.steady.ready _, met.permitted, met.present⟩
  | seek target =>
      apply Pays.map
      exact (seek_pays coherent inReach target).mono fun met => met.steady.calm
  | tell =>
      have stays : ((tell : StreamAction Nat) attached).2 = attached :=
        maintains_eq fun _ => maintains_tell
      apply Pays.map
      exact .inl (asks_nil (congrArg (·.remote) stays))
  | flush =>
      apply Pays.map
      exact (flush_pays coherent inReach).mono fun met => met.steady.calm
  | remotePosition =>
      apply Pays.map
      exact .inl (Link.asked_position attached.stream.object attached.remote)

/-- A free read leaves the remote side as it is. -/
theorem read_of_free (coherent : attached.Coherent descriptor) {buffer : Bytes}
    (free : attached.stream.FreeRead buffer.length) :
    (read buffer attached).2.remote = attached.remote := by
  by_cases empty : buffer = []
  · simp [read, empty]
  · rcases free with nothing | ⟨clean, enough⟩
    · exact (empty (List.length_eq_zero_iff.mp nothing)).elim
    · obtain ⟨cached, took, length, -⟩ := take_apply coherent clean buffer.length
      rw [Nat.min_eq_right enough] at length
      simp only [read, empty, ↓reduceIte, Action.bind_apply, flush_of_clean clean, took, length,
        Action.pure_apply]

/-- So does a free write. -/
theorem write_of_free (coherent : attached.Coherent descriptor) {data : Bytes}
    (free : data.length ≤ attached.stream.window.spare) :
    (write data attached).2.remote = attached.remote := by
  by_cases empty : data = []
  · simp [write, empty]
  · rw [write_put coherent empty (Nat.min_eq_right free).symm, if_pos rfl]

/-- What the window can do alone leaves the remote side as it is. -/
theorem perform_of_free (coherent : attached.Coherent descriptor)
    (inReach : attached.InReach descriptor) {operation : Operation}
    (free : attached.stream.Free operation) :
    (perform operation attached).2.remote = attached.remote := by
  cases operation with
  | read buffer =>
      rw [perform, Action.map_apply]
      exact read_of_free coherent free
  | write data =>
      rw [perform, Action.map_apply]
      exact write_of_free coherent free
  | putByte byte =>
      rw [perform, Action.map_apply, putByte_eq, Action.map_apply]
      exact write_of_free coherent free
  | getByte =>
      rw [perform, Action.map_apply, getByte_eq, Action.map_apply]
      exact read_of_free coherent free
  | seek target =>
      rw [perform, Action.map_apply]
      by_cases contains : attached.stream.Contains target
      · obtain ⟨position, after, ended, same, -⟩ := seek_of_contains coherent inReach contains
        rw [ended]
        exact same
      · obtain ⟨number, refused⟩ :=
          seek_of_nowhere inReach (free.resolve_left contains)
        rw [refused]
  | tell =>
      rw [perform, Action.map_apply]
      exact congrArg (·.remote) (maintains_eq fun _ => maintains_tell)
  | flush =>
      rw [perform, Action.map_apply, flush_of_clean free]
  | remotePosition => exact free.elim

section Opened

variable {remote opened : Remote} {stream : CachedStream} {path : String} {mode : OpenMode}
  {sizes : BufferSizes} {operation : Operation}

/-- Whatever state a stream has come to, an operation that its window can serve takes no call and
leaves the remote side as it is, and every other one takes some. It takes exactly its cost, unless
it was hindered. The seeks that lead nowhere, and take no call, are those that are refused. -/
theorem costs_exactly (honest : remote.faults.Honest) (ordered : sizes.initial ≤ sizes.max)
    (succeeded : openStream path mode sizes remote = (.ok stream, opened))
    (visited : Visited ⟨stream, opened⟩ attached)
    (near : attached.stream.here < PlainFile.positionBound) (addressable : operation.Addressable) :
    (attached.stream.Free operation ↔ attached.stream.cost operation = []) ∧
    (attached.stream.Free operation → (perform operation attached).2.remote = attached.remote) ∧
    (∀ target, (∃ number, (seek target attached).1 = .error (.invalidSeek number)) ↔
      attached.stream.goal? target = none) ∧
    (¬attached.Hindered (perform operation attached) ∨ Unobstructed mode operation attached →
      attached.Asks (attached.stream.cost operation) (perform operation attached).2) := by
  obtain ⟨first, initial, rfl, -⟩ := coherent_of_openStream honest ordered succeeded
  obtain ⟨descriptor, tracks⟩ := visited.tracks initial
  have coherent := tracks.coherent
  have inReach : attached.InReach descriptor := inReach_of_lt (coherent.reach_lt near)
  refine ⟨attached.stream.free_iff operation, perform_of_free coherent inReach,
    seek_refused_iff coherent inReach, fun goesWell => ?_⟩
  have pays := perform_pays coherent near addressable
  rw [tracks.mode] at pays
  rcases pays with asks | ⟨hindered, obstructed⟩
  · exact asks
  · rcases goesWell with free | unobstructed
    · exact (free hindered).elim
    · exact (obstructed unobstructed).elim

/-- A read of two bytes fills a window of twelve, although a fault is in store for the next
write. -/
theorem costs_exactly_first_read :
    ∃ (stream : CachedStream) (opened : Remote),
      openStream "a" .readWrite ⟨2, 16⟩ .hesitant = (.ok stream, opened) ∧
      Attached.Asks ⟨stream, opened⟩ [.position ⟨1⟩, .readObject ⟨1⟩ 12]
        (perform (.read [0, 0]) ⟨stream, opened⟩).2 := by
  have succeeded : openStream "a" .readWrite ⟨2, 16⟩ .hesitant =
      (.ok (fresh ⟨1⟩ "a" ⟨2, 16⟩), (openStream "a" .readWrite ⟨2, 16⟩ .hesitant).2) := rfl
  have addressable : (Operation.read [0, 0]).Addressable := by decide
  obtain ⟨-, -, -, exactly⟩ := costs_exactly Remote.honest_hesitant (by decide) succeeded .start
    (by decide) addressable
  refine ⟨_, _, succeeded, exactly (.inl ?_)⟩
  rintro (failed | swallowed)
  · exact failed _ rfl
  · exact absurd swallowed (by decide)

end Opened

end CachedStream

end RemoteStreams
