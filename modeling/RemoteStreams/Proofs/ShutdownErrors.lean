import RemoteStreams.Proofs.Checks
import RemoteStreams.Proofs.Shutdown

/-! # The error of a shutdown

A shutdown lets every stream and then the session fail, but it reports one failure only
(`RemoteStreams.Streams.shutdown_reports`). It succeeds if nothing failed. A failure to disconnect
takes the place of whatever failed before it (`RemoteStreams.Streams.shutdown_forgets_stream`).
-/

namespace RemoteStreams

open Remote

namespace Outcome

variable {ε : Type} {first second : Outcome ε Unit}

/-- What two things come to that are both done: the first failure, if one of them failed. -/
def followedBy (first second : Outcome ε Unit) : Outcome ε Unit :=
  match first with
  | .ok () => second
  | .error cause => .error cause
  | .broken breach => .broken breach

theorem followedBy_eq_ok_iff :
    first.followedBy second = .ok () ↔ first = .ok () ∧ second = .ok () := by
  cases first <;> simp [followedBy]

end Outcome

namespace CachedStream

/-- A stream that could not be written back reports that, else whether its object could be
closed. -/
theorem close_outcome (stream : CachedStream) (before : Remote) {outcome : Outcome StreamError Unit}
    {kept : Attached}
    (flushed : flush ⟨stream, before.noting (.closingCached stream.path)⟩ = (outcome, kept)) :
    (stream.close before).1 =
      outcome.followedBy ((Link.closeObject stream.object kept.remote).1.mapError .remote) := by
  have returns := Link.closeObject_returns stream.object kept.remote
  generalize closed : Link.closeObject stream.object kept.remote = ended at returns
  obtain ⟨answer, after⟩ := ended
  cases outcome with
  | broken breach => rw [close, settle_of_broken flushed, Outcome.followedBy]
  | ok done =>
      cases answer with
      | broken breach => exact (returns breach rfl).elim
      | ok done' | error cause' =>
          simp [close, settle, Action.bind_apply, Action.attempt, flushed, ask_apply, closed,
            Outcome.followedBy]
  | error cause =>
      cases answer with
      | broken breach => exact (returns breach rfl).elim
      | ok done' | error cause' =>
          simp [close, settle, Action.bind_apply, Action.attempt, flushed, ask_apply, closed,
            Outcome.followedBy]

end CachedStream

namespace Streams

variable {results : List (StreamId × Outcome StreamError Unit)} {left : Outcome RemoteError Unit}

/-- The first failure of a shutdown, the streams in their order and then the session. -/
def firstFailure (results : List (StreamId × Outcome StreamError Unit))
    (left : Outcome RemoteError Unit) : Outcome StreamError Unit :=
  results.foldr (fun result later => result.2.followedBy later) (left.mapError .remote)

/-- There is no first failure exactly if nothing failed. -/
theorem firstFailure_eq_ok_iff :
    firstFailure results left = .ok () ↔ (∀ result ∈ results, result.2 = .ok ()) ∧ left = .ok () := by
  induction results with
  | nil => cases left <;> simp [firstFailure]
  | cons result results others =>
      have goesOn : firstFailure (result :: results) left =
          result.2.followedBy (firstFailure results left) := rfl
      rw [goesOn, Outcome.followedBy_eq_ok_iff, others, List.forall_mem_cons, and_assoc]

/-- If no check fails, the first failure is the first error of a stream, or else that of the
session. -/
theorem firstFailure_of_whole (whole : Whole results) (left : Outcome RemoteError Unit) :
    firstFailure results left = (firstError results).elim (left.mapError .remote) .error := by
  induction results with
  | nil => rfl
  | cons result results others =>
      obtain ⟨id, outcome⟩ := result
      have goesOn : firstFailure ((id, outcome) :: results) left =
          outcome.followedBy (firstFailure results left) := rfl
      rw [goesOn, others fun result member => whole result (.tail _ member)]
      cases outcome with
      | ok done => rfl
      | error cause => rfl
      | broken breach => exact (whole _ (.head _) breach rfl).elim

/-- A check that fails when a stream is closed ends the loop. -/
theorem closeLowest_broken (count : Nat) (streams : Streams)
    (torn : ¬Whole (closeEach (streams.table.drain count).1 streams.remote).1) :
    ∃ breach, (closeLowest count streams).1 = .broken breach := by
  induction count generalizing streams with
  | zero => exact (torn (by simp [SlotTable.drain, closeEach, Whole])).elim
  | succ count others =>
      unfold SlotTable.drain at torn
      cases lowest : streams.table.lowest? with
      | none => exact (torn (by simp [lowest, closeEach, Whole])).elim
      | some first =>
          obtain ⟨id, entry⟩ := first
          simp only [lowest, closeEach] at torn
          generalize closes : entry.close streams.remote = ended at torn
          obtain ⟨outcome, closed⟩ := ended
          have next := others ((streams.withTable (streams.table.release id)).withRemote
            (closed.reporting id outcome))
          simp only [withTable, withRemote] at next
          cases outcome with
          | broken breach =>
              refine ⟨breach, ?_⟩
              simp [closeLowest, Action.bind_apply, lowest, Action.attempt, onRemote_apply,
                closes, withTable, withRemote]
          | ok done =>
              obtain ⟨breach, broken⟩ := next fun whole =>
                torn (List.forall_mem_cons.mpr ⟨by simp, whole⟩)
              refine ⟨breach, ?_⟩
              simpa [closeLowest, Action.bind_apply, lowest, Action.attempt, onRemote_apply,
                closes, withTable, withRemote, Remote.reporting] using broken
          | error cause =>
              obtain ⟨breach, broken⟩ := next fun whole =>
                torn (List.forall_mem_cons.mpr ⟨by simp, whole⟩)
              refine ⟨breach, ?_⟩
              simp only [Remote.reporting] at broken
              generalize ends : closeLowest count _ = ended at broken
              obtain ⟨_, after⟩ := ended
              obtain rfl := broken
              simp [closeLowest, Action.bind_apply, lowest, Action.attempt, onRemote_apply,
                closes, withTable, withRemote, note, Remote.note, Action.map_apply, ends]

/-- A shutdown is abandoned exactly if the close of one of the streams is. -/
theorem shutdown_returns_iff (streams : Streams) :
    (∀ breach, (shutdown streams).1 ≠ .broken breach) ↔
      Whole (closeEach streams.table.entries streams.remote).1 := by
  constructor
  · intro returns
    refine Classical.byContradiction fun torn => ?_
    obtain ⟨breach, broken⟩ := closeLowest_broken streams.table.capacity streams torn
    generalize ends : closeLowest streams.table.capacity streams = ended at broken
    obtain ⟨_, after⟩ := ended
    obtain rfl := broken
    exact returns breach (by simp [shutdown, Action.bind_apply, ends])
  · intro whole breach
    rw [shutdown_apply streams whole]
    rcases Link.disconnect_ends (closeEach streams.table.entries streams.remote).2 with
      ⟨cause, refused⟩ | ⟨after, gone, -⟩
    · simp [refused, farewell]
    · cases first : firstError (closeEach streams.table.entries streams.remote).1 <;>
        simp [gone, farewell, first]

/-- A stream of the table reports what closing it in its turn comes to. -/
theorem closeEach_reports {entries earlier later : List (StreamId × CachedStream)} {id : StreamId}
    {entry : CachedStream} (split : entries = earlier ++ (id, entry) :: later) (remote : Remote) :
    (id, (entry.close (closeEach earlier remote).2).1) ∈ (closeEach entries remote).1 := by
  rw [split, closeEach_append, closeEach]
  exact List.mem_append_right _ (.head _)

/-- What a shutdown reports, if closing the streams had these results, no check failed on the way,
and disconnecting ended like this. -/
structure ReportsFirst (results : List (StreamId × Outcome StreamError Unit))
    (disconnected : Outcome RemoteError Unit) (reported : Outcome StreamError Unit) : Prop where
  /-- The shutdown succeeds exactly if all of that did. -/
  ok_iff : reported = .ok () ↔ (∀ result ∈ results, result.2 = .ok ()) ∧ disconnected = .ok ()
  /-- If the session was disconnected, the first failure of all is reported. -/
  of_ok : disconnected = .ok () → reported = firstFailure results disconnected
  /-- If not, the failure to disconnect is reported, also if a stream failed before. -/
  of_error : ∀ cause, disconnected = .error cause → reported = .error (.remote cause)
  /-- So the first failure is lost exactly if a stream failed before, and for another reason. -/
  lost_iff : reported ≠ firstFailure results disconnected ↔ ∃ cause first,
    disconnected = .error cause ∧ firstError results = some first ∧ first ≠ .remote cause

/-- A session that was disconnected leaves the first failure to be reported. -/
theorem reportsFirst_of_ok (whole : Whole results) :
    ReportsFirst results (.ok ()) (farewell results (.ok ())) := by
  have reported : farewell results (.ok ()) = firstFailure results (.ok ()) := by
    rw [firstFailure_of_whole whole]
    rfl
  rw [reported]
  exact ⟨firstFailure_eq_ok_iff, fun _ => rfl, by simp, by simp⟩

/-- The failure to disconnect is reported instead of what the streams reported. -/
theorem reportsFirst_of_error (whole : Whole results) (cause : RemoteError) :
    ReportsFirst results (.error cause) (farewell results (.error cause)) := by
  refine ⟨by simp [farewell], by simp, by simp [farewell], ?_⟩
  rw [firstFailure_of_whole whole]
  cases first : firstError results <;> simp [farewell, eq_comm]

/-- How a shutdown ends. It `closed` the streams with these `results`, and that is how the session
`ended`. -/
structure ShutdownEnds (streams : Streams)
    (results : List (StreamId × Outcome StreamError Unit)) (closed : Remote)
    (ended : Outcome RemoteError Unit × Remote) : Prop where
  closes : closeEach streams.table.entries streams.remote = (results, closed)
  disconnects : Link.disconnect closed = ended
  /-- Each stream of the table is closed once, in the order of the ids. -/
  answers : results.map Prod.fst = streams.table.entries.map Prod.fst
  ascending : streams.table.entries.Pairwise fun first second => first.1.slot < second.1.slot
  entries : ∀ id entry, (id, entry) ∈ streams.table.entries ↔ streams.table.find? id = some entry
  /-- It reports the failure to write its window back, or else the failure to close its object. -/
  result : ∀ earlier id entry later outcome kept,
    streams.table.entries = earlier ++ (id, entry) :: later →
    CachedStream.flush ⟨entry, (closeEach earlier streams.remote).2.noting
      (.closingCached entry.path)⟩ = (outcome, kept) →
    (id, outcome.followedBy ((Link.closeObject entry.object kept.remote).1.mapError .remote)) ∈
      results
  /-- The shutdown is not abandoned exactly if no close was. -/
  returns_iff : (∀ breach, (shutdown streams).1 ≠ .broken breach) ↔ Whole results
  reports : Whole results → ReportsFirst results ended.1 (shutdown streams).1
  /-- No check fails for streams that a program can come to. -/
  whole : streams.Attainable → Whole results

/-- Whatever streams there are and whatever fails, this is how a shutdown ends. It closes each
stream and disconnects the session, but if that fails, it does not report a stream that failed
before. -/
theorem shutdown_reports (streams : Streams) :
    ∃ results closed ended, ShutdownEnds streams results closed ended := by
  refine ⟨_, _, _, rfl, rfl, ids_closeEach _ _, streams.table.pairwise_entries,
    fun _ _ => SlotTable.mem_entries, ?_, shutdown_returns_iff streams, fun whole => ?_, ?_⟩
  · intro earlier id entry later outcome kept split flushed
    rw [← entry.close_outcome _ flushed]
    exact closeEach_reports split streams.remote
  · rw [shutdown_apply streams whole]
    rcases Link.disconnect_ends (closeEach streams.table.entries streams.remote).2 with
      ⟨cause, refused⟩ | ⟨after, gone, -⟩
    · rw [refused]
      exact reportsFirst_of_error whole cause
    · rw [gone]
      exact reportsFirst_of_ok whole
  · intro attainable
    obtain ⟨-, near, settings, past, orderly⟩ := attainable.orderly
    exact (orderly.held near).shut.whole

/-- Both of two objects are open. -/
def bothOpen : Streams :=
  ((Deed.openStream "remote:b" "r+").perform
    (((Deed.openStream "remote:a" "r+").perform (twoObjects.armed ∅)).2.armed ∅)).2

/-- A program can come there, whatever fails next. -/
theorem attainable_bothOpen {faults : FaultPlan} (honest : faults.Honest) :
    (bothOpen.armed faults).Attainable := by
  have opened : Course (fun _ plan => plan.Honest) twoObjects _ _ :=
    Course.start.proceed (.openStream "remote:a" "r+") FaultPlan.honest_empty (by decide) trivial
  have both := opened.proceed (.openStream "remote:b" "r+") FaultPlan.honest_empty (by decide)
    trivial
  exact ⟨_, _, _, _, _, _, faults, few_created 2 _, both, by decide, honest, rfl⟩

/-- A close that is refused is refused honestly. -/
theorem honest_reluctant : reluctant.Honest := by
  have refuses : Fault.Honest .refused := trivial
  exact FaultPlan.honest_empty.arm .closeObject refuses 0 (some 1)

/-- The stream that could not be closed is what a shutdown reports, if nothing else fails. -/
theorem shutdown_reports_stream : (bothOpen.armed reluctant).Attainable ∧
    (shutdown (bothOpen.armed reluctant)).1 =
      .error (.remote (.generic (.injected .closeObject))) := by
  have attainable := attainable_bothOpen honest_reluctant
  obtain ⟨results, closed, ended, ends⟩ := shutdown_reports (bothOpen.armed reluctant)
  have gone := (ends.reports (ends.whole attainable)).of_ok
  obtain rfl : _ = results := congrArg Prod.fst ends.closes
  obtain rfl : _ = closed := congrArg Prod.snd ends.closes
  obtain rfl := ends.disconnects
  exact ⟨attainable, gone rfl⟩

/-- The stream that could not be closed is not what a shutdown reports, if the session could not be
disconnected either. -/
theorem shutdown_forgets_stream : ∃ streams results closed ended, streams.Attainable ∧
    closeEach streams.table.entries streams.remote = (results, closed) ∧
    Link.disconnect closed = ended ∧
    firstFailure results ended.1 = .error (.remote (.generic (.injected .closeObject))) ∧
    (shutdown streams).1 = .error (.remote (.generic (.injected .disconnect))) := by
  have refuses : Fault.Honest .refused := trivial
  have whole : Whole [(⟨0⟩, .error (.remote (.generic (.injected .closeObject)))),
      (⟨1⟩, .ok ())] := by simp [Whole]
  refine ⟨bothOpen.armed (reluctant.insert .disconnect (.arm .refused 0 none)), _, _, _,
    attainable_bothOpen (honest_reluctant.arm .disconnect refuses 0 none), rfl, rfl, rfl, ?_⟩
  rw [shutdown_apply _ (by exact whole)]
  rfl

end Streams

end RemoteStreams
