import RemoteStreams.Proofs.Runs

/-! # Unsaved bytes

Bytes that a stream accepted are unsaved until its object is closed: they are in its dirty window,
or they are staged for the object, which is then to be uploaded
(`RemoteStreams.Attached.Unsaved`). A write that takes bytes leaves the stream unsaved
(`RemoteStreams.CachedStream.perform_took`), and no operation makes it forget that
(`RemoteStreams.CachedStream.perform_keeping`), whatever faults are met and wherever the stream is.
In particular a window is taken for clean only after what it held was staged.
-/

namespace RemoteStreams

open Remote

/-- What is to be uploaded still is when the object has drifted. -/
theorem Descriptor.Drifts.uploads {earlier later : Descriptor} (drifted : earlier.Drifts later)
    (uploads : earlier.upload? ≠ none) : later.upload? ≠ none := by
  rcases drifted.content with same | ⟨old, kept, new, now, staged, changed, counts⟩
  · rwa [Descriptor.upload?, same]
  · cases kept with
    | false => simp [Descriptor.upload?, staged] at uploads
    | true => simp [Descriptor.upload?, changed, counts rfl]

/-- What is staged for an open object is to be uploaded. -/
def Remote.Modified (remote : Remote) (object : ObjectId) : Prop :=
  ∃ descriptor, remote.Serves object descriptor ∧ descriptor.upload? ≠ none

/-- An object is open. -/
def Remote.Opens (remote : Remote) (object : ObjectId) : Prop :=
  ∃ descriptor, remote.Serves object descriptor

/-- Bytes are in the dirty window, or staged for the object. -/
def Attached.Unsaved (attached : Attached) : Prop :=
  attached.stream.dirty = true ∧ attached.stream.window.occupied ≠ [] ∨
    attached.remote.Modified attached.stream.object

/-- The number of bytes that an operation took from its caller. -/
def Answer.taken : Answer → Nat
  | accepted count => count
  | byte _ => 1
  | filled _ _ | next _ | position _ | done => 0

/-- An operation that ended so took bytes. -/
def Outcome.Took (outcome : Outcome StreamError Answer) : Prop :=
  ∃ answer, outcome = .ok answer ∧ 0 < answer.taken

/-- An answer that counts no bytes has taken none. -/
theorem Outcome.not_took_map {α : Type} {outcome : Outcome StreamError α} {convert : α → Answer}
    (none : ∀ value, (convert value).taken = 0) : ¬(outcome.map convert).Took := by
  rintro ⟨answer, ended, some⟩
  obtain ⟨value⟩ | _ | _ := outcome
  · obtain rfl := Outcome.ok.inj ended
    exact Nat.ne_of_gt some (none value)
  · contradiction
  · contradiction

namespace Window

/-- The occupied part did not get smaller. -/
structure Grows (before after : Window) : Prop where
  extent : before.extent ≤ after.extent
  capacity : before.capacity ≤ after.capacity

variable {ε : Type} {before after : Window}

/-- A window holds something exactly if it has room and bytes in it. -/
theorem occupied_ne_nil {window : Window} :
    window.occupied ≠ [] ↔ 0 < window.capacity ∧ 0 < window.extent := by
  rw [occupied, ne_eq, List.take_eq_nil_iff, not_or, capacity, List.length_pos_iff,
    Nat.pos_iff_ne_zero, and_comm]

/-- A window that grows goes on holding something. -/
theorem Grows.occupied (grows : before.Grows after) (present : before.occupied ≠ []) :
    after.occupied ≠ [] := by
  obtain ⟨room, reach⟩ := occupied_ne_nil.mp present
  exact occupied_ne_nil.mpr
    ⟨Nat.lt_of_lt_of_le room grows.capacity, Nat.lt_of_lt_of_le reach grows.extent⟩

theorem Grows.refl (window : Window) : window.Grows window := ⟨Nat.le_refl _, Nat.le_refl _⟩

/-- Consuming bytes leaves them in the window. -/
theorem grows_consumed (window : Window) (count : Nat) : window.Grows (window.consumed count) where
  extent := by
    simp only [extent, consumed]
    omega
  capacity := Nat.le_refl _

/-- Going back leaves them there as well. -/
theorem grows_returned (window : Window) (count : Nat) : window.Grows (window.returned count) where
  extent := by
    simp only [extent, returned]
    omega
  capacity := Nat.le_refl _

/-- A patch may only make the window hold more. -/
theorem grows_patched (window : Window) (patch : Bytes) : window.Grows (window.patched patch) where
  extent := by
    simp only [extent, patched]
    omega
  capacity := by
    simp only [capacity, patched, Bytes.length_overlay]
    omega

theorem maintains_checkBounds {holds : Window → Prop} :
    Action.Maintains holds (checkBounds : Action Window ε Unit) :=
  .bind .get fun _ => .ensure _

/-- Putting bytes lets a window grow. -/
theorem grows_put (window : Window) (source : Bytes) :
    window.Grows ((put source : Action Window ε Nat) window).2 := by
  have kept : Action.Maintains window.Grows (checkBounds >>= fun _ =>
      pure (source.take window.spare).length : Action Window ε Nat) :=
    .bind maintains_checkBounds fun _ => .pure _
  exact kept _ (window.grows_patched _)

/-- The bytes that a window took are in its occupied part. -/
theorem occupied_of_put {window : Window} {source : Bytes} {count : Nat}
    (took : (put source : Action Window ε Nat) window = (.ok count, after)) (some : 0 < count) :
    after.occupied ≠ [] := by
  obtain ⟨_, _, opened, took⟩ := Action.bind_eq_ok_iff.mp took
  obtain ⟨rfl, rfl⟩ : window = _ ∧ window = _ := by simpa using opened
  obtain ⟨_, changed, put, took⟩ := Action.bind_eq_ok_iff.mp took
  obtain rfl : window.patched (source.take window.spare) = changed := by simpa using put
  obtain ⟨_, checked, passed, took⟩ := Action.bind_eq_ok_iff.mp took
  have stays : Action.Maintains (· = window.patched (source.take window.spare))
      (checkBounds : Action Window ε Unit) := maintains_checkBounds
  have kept := stays _ rfl
  rw [passed] at kept
  dsimp only at kept
  simp only [Action.pure_apply, Prod.mk.injEq, Outcome.ok.injEq] at took
  obtain ⟨rfl, rfl⟩ := took
  rw [kept, occupied_ne_nil]
  simp only [capacity, extent, patched, Bytes.length_overlay]
  omega

/-- Shifting a window lets it grow, even if it is refused. -/
theorem grows_shift (window : Window) (delta : Int) :
    window.Grows ((shift delta : Action Window ε Unit) window).2 := by
  by_cases inside : window.canShift delta = true
  · by_cases forward : 0 ≤ delta
    · have moved : (shift delta : Action Window ε Unit) window =
          checkBounds (window.consumed delta.natAbs) := by
        simp [shift, Action.bind_apply, Action.ensure, inside, forward]
      rw [moved]
      exact maintains_checkBounds _ (window.grows_consumed _)
    · have moved : (shift delta : Action Window ε Unit) window =
          checkBounds (window.returned delta.natAbs) := by
        simp [shift, Action.bind_apply, Action.ensure, inside, forward]
      rw [moved]
      exact maintains_checkBounds _ (window.grows_returned _)
  · have stays : ((shift delta : Action Window ε Unit) window).2 = window := by
      simp [shift, Action.bind_apply, Action.ensure, inside]
    rw [stays]
    exact .refl window

end Window

section Modified

variable {object : ObjectId} {descriptor : Descriptor} {before after : Remote} {data : Bytes}
  {count : Nat}

/-- No bytes are written of no data. -/
theorem Session.writeObject_nil (serves : before.Serves object descriptor)
    (wrote : writeObject object [] before = (.ok count, after)) : count = 0 := by
  by_cases writable : descriptor.mode.writable = true
  · cases content : descriptor.content with
    | recorded size =>
        simp [writeObject, Action.bind_apply, descriptor_apply serves, writable, content] at wrote
    | staged staged modified =>
        simp only [writeObject, Action.bind_apply, descriptor_apply serves, writable, content,
          Bool.not_true, Bool.false_eq_true, ↓reduceIte, Action.pure_apply, Prod.mk.injEq,
          Outcome.ok.injEq] at wrote
        exact wrote.1.symm
  · simp [writeObject, Action.bind_apply, descriptor_apply serves, writable] at wrote

/-- Bytes that an object took are to be uploaded. -/
theorem Session.writeObject_modifies (serves : before.Serves object descriptor)
    (wrote : writeObject object data before = (.ok count, after)) (some : 0 < count) :
    after.Modified object := by
  have present : data ≠ [] := by
    rintro rfl
    exact Nat.ne_of_gt some (writeObject_nil serves wrote)
  obtain ⟨moved, drifts⟩ := SessionRequest.drifts (.writeObject object data) serves rfl (by simp)
  have effect := SessionRequest.writeObject_effect before object data
  rw [SessionRequest.perform, Action.map_apply, wrote] at effect drifts
  refine ⟨moved, drifts.serves, ?_⟩
  cases effect with
  | failed unanswered => exact (unanswered _ rfl).elim
  | moved idle => simp [SessionRequest.moves?, present] at idle
  | written _ _ _ session =>
      have found := drifts.serves.found
      dsimp only at session found
      rw [session, Session.update, FiniteMap.find?_insert_self] at found
      simp [← Option.some.inj found, Descriptor.upload?, Descriptor.write]

/-- A write that took bytes has modified the object. -/
theorem Link.writeObject_modifies (serves : before.Serves object descriptor)
    (wrote : writeObject object data before = (.ok count, after)) (some : 0 < count) :
    after.Modified object := by
  have called := serves.calling (.writeObject object data)
  rcases announce_cases serves.honest (.writeObject object data) with
    ⟨cause, refused, -⟩ | ⟨fault, passed, allows⟩
  · simp [writeObject, Action.bind_apply, refused] at wrote
  · simp only [writeObject, Action.bind_apply, passed] at wrote
    obtain ⟨taken, between, answered, delivered⟩ := Action.bind_eq_ok_iff.mp wrote
    simp only [Action.pure_apply, allows.reported, Prod.mk.injEq, Outcome.ok.injEq] at delivered
    obtain ⟨rfl, rfl⟩ := delivered
    exact Session.writeObject_modifies called.serves answered some

end Modified

namespace CachedStream

/-- What is to be uploaded stays so while the object is used. -/
theorem lasting_modified (object : ObjectId) : Lasting object (·.Modified object) :=
  .of_drifts fun ⟨_, serves, uploads⟩ further =>
    have ⟨final, drifts⟩ := further serves
    ⟨final, drifts.serves, drifts.drifted.uploads uploads⟩

/-- So does an object that is open. -/
theorem lasting_opens (object : ObjectId) : Lasting object (·.Opens object) :=
  .of_drifts fun ⟨_, serves⟩ further =>
    have ⟨final, drifts⟩ := further serves
    ⟨final, drifts.serves⟩

variable {attached after : Attached} {object : ObjectId}

/-- Moving the object back changes nothing of the stream but what is in step. -/
theorem rewindObject_state (attached : Attached) :
    ∃ synced, (rewindObject attached).2.stream = attached.stream.syncedTo synced := by
  by_cases here : attached.stream.synced = 0
  · have idle : rewindObject attached = (.ok (), attached) := by
      simp [rewindObject, Action.bind_apply, here]
    exact ⟨attached.stream.synced, by rw [idle]; rfl⟩
  · simp only [rewindObject, Action.bind_apply, current_apply, here, ↓reduceIte, ask_apply]
    generalize Link.seekObject _ _ _ = ended
    obtain ⟨_ | _ | _, remote⟩ := ended
    · exact ⟨0, rfl⟩
    · exact ⟨attached.stream.synced, rfl⟩
    · exact ⟨attached.stream.synced, rfl⟩

/-- A window is taken for clean only after the object took all of it. -/
theorem writeBack_ends (attached : Attached) :
    (∃ remote, Link.writeObject attached.stream.object attached.stream.window.occupied
        attached.remote = (.ok attached.stream.window.occupied.length, remote) ∧
      ∃ event, (writeBack attached).2.remote = remote.noting event ∧
        (writeBack attached).2.stream.dirty = false) ∨
    (∀ done, (writeBack attached).1 ≠ .ok done) ∧
      ∃ synced, (writeBack attached).2.stream = attached.stream.syncedTo synced := by
  simp only [writeBack, Action.bind_apply, current_apply, ask_apply]
  generalize Link.writeObject _ _ _ = ended
  obtain ⟨written | cause | breach, remote⟩ := ended
  · by_cases whole : written = attached.stream.window.occupied.length
    · subst whole
      exact .inl ⟨remote, rfl, _, by simp; rfl, by simp [Action.bind_apply]⟩
    · refine .inr ⟨by simp [whole], written, ?_⟩
      simp [whole, syncedTo]
  · exact .inr ⟨by simp, attached.stream.synced, rfl⟩
  · exact .inr ⟨by simp, attached.stream.synced, rfl⟩

/-- A stream on an open object that has unsaved bytes. -/
structure Keeping (object : ObjectId) (attached : Attached) : Prop where
  on : On object (·.Opens object) attached
  unsaved : attached.Unsaved

/-- An object that is modified keeps what is unsaved. -/
theorem Keeping.of_modified (on : On object (·.Modified object) attached) :
    Keeping object attached := by
  obtain ⟨rfl, descriptor, serves, uploads⟩ := on
  exact ⟨⟨rfl, descriptor, serves⟩, .inr ⟨descriptor, serves, uploads⟩⟩

/-- What is unsaved stays so as long as the window stays dirty and does not shrink, and the object
stays modified. -/
theorem Keeping.later (keeping : Keeping object attached) (on : On object (·.Opens object) after)
    (dirty : attached.stream.dirty = true → after.stream.dirty = true)
    (grows : attached.stream.window.Grows after.stream.window)
    (modified : On object (·.Modified object) attached → On object (·.Modified object) after) :
    Keeping object after := by
  rcases keeping.unsaved with ⟨marked, present⟩ | staged
  · exact ⟨on, .inl ⟨dirty marked, grows.occupied present⟩⟩
  · exact .of_modified (modified ⟨keeping.on.1, keeping.on.1 ▸ staged⟩)

/-- The flush of a clean window does nothing. -/
theorem flush_of_clean (clean : attached.stream.dirty = false) :
    flush attached = (.ok (), attached) := by
  simp [flush, Action.bind_apply, clean]

/-- A flush that goes through has staged what the window held, and if it fails the window still
holds it. -/
theorem flush_keeping (keeping : Keeping object attached) :
    On object (·.Modified object) (flush attached).2 ∧ (flush attached).2.stream.dirty = false ∨
      (∀ done, (flush attached).1 ≠ .ok done) ∧ Keeping object (flush attached).2 := by
  by_cases dirty : attached.stream.dirty = true
  · obtain ⟨synced, rewound⟩ := rewindObject_state attached
    have between : Keeping object (rewindObject attached).2 :=
      keeping.later ((lasting_opens object).rewindObject _ keeping.on) (by rw [rewound]; exact id)
        (by rw [rewound]; exact .refl _) ((lasting_modified object).rewindObject _)
    have flushed : flush attached = (rewindObject >>= fun _ => writeBack) attached := by
      simp [flush, Action.bind_apply, dirty]
    rw [flushed, Action.bind_apply]
    generalize rewindObject attached = ended at between ⊢
    obtain ⟨_ | _ | _, middle⟩ := ended
    · rcases writeBack_ends middle with
        ⟨remote, wrote, event, noted, clean⟩ | ⟨failed, synced, same⟩
      · refine .inl ⟨?_, clean⟩
        rcases between.unsaved with ⟨-, present⟩ | staged
        · have on := (lasting_opens object).writeBack middle between.on
          obtain ⟨descriptor, serves⟩ := between.on.2
          rw [between.on.1] at wrote
          have modified :=
            Link.writeObject_modifies serves wrote (List.length_pos_iff.mpr present)
          exact ⟨on.1, noted ▸ (lasting_modified object).noting _ event modified⟩
        · exact (lasting_modified object).writeBack _ ⟨between.on.1, between.on.1 ▸ staged⟩
      · exact .inr ⟨failed, between.later ((lasting_opens object).writeBack _ between.on)
          (by rw [same]; exact id) (by rw [same]; exact .refl _)
          ((lasting_modified object).writeBack _)⟩
    · exact .inr ⟨by simp, between⟩
    · exact .inr ⟨by simp, between⟩
  · have clean : attached.stream.dirty = false := by simpa using dirty
    rw [flush_of_clean clean]
    rcases keeping.unsaved with ⟨marked, -⟩ | staged
    · exact (dirty marked).elim
    · exact .inl ⟨⟨keeping.on.1, keeping.on.1 ▸ staged⟩, clean⟩

/-- What begins with a flush keeps unsaved bytes if it keeps what is staged. -/
theorem flush_bind_keeping {α : Type} {next : Unit → StreamAction α}
    (staged : Action.Maintains (On object (·.Modified object)) (flush >>= next))
    (keeping : Keeping object attached) : Keeping object ((flush >>= next) attached).2 := by
  rcases flush_keeping keeping with ⟨modified, clean⟩ | ⟨failed, kept⟩
  · generalize flushed : flush attached = ended at modified clean
    obtain ⟨_ | _ | _, after⟩ := ended
    · -- The flush need not be made once more, for the window is clean now.
      have same : (flush >>= next) attached = (flush >>= next) after := by
        rw [Action.bind_apply, Action.bind_apply, flushed, flush_of_clean clean]
      rw [same]
      exact .of_modified (staged after modified)
    · rw [Action.bind_apply, flushed]
      exact .of_modified modified
    · rw [Action.bind_apply, flushed]
      exact .of_modified modified
  · rw [Action.bind_apply]
    generalize flush attached = ended at failed kept
    obtain ⟨_ | _ | _, after⟩ := ended
    · exact (failed _ rfl).elim
    · exact kept
    · exact kept

/-- A read keeps what is unsaved. -/
theorem read_keeping (buffer : Bytes) : Action.Maintains (Keeping object) (read buffer) := by
  intro attached keeping
  have staged := (lasting_modified object).read buffer
  by_cases empty : buffer = []
  · simpa [read, empty] using keeping
  · unfold read at staged ⊢
    rw [if_neg empty] at staged ⊢
    exact flush_bind_keeping staged keeping

/-- What lets the window grow keeps what is unsaved. -/
theorem onWindow_keeping {ε α : Type} {body : Action Window ε α}
    (grows : ∀ window : Window, window.Grows (body window).2) :
    Action.Maintains (Keeping object) (onWindow body) := fun _ keeping =>
  keeping.later keeping.on id (grows _) id

/-- An event keeps what is unsaved. -/
theorem note_keeping {ε : Type} (event : Event) :
    Action.Maintains (Keeping object) (note event : Action Attached ε Unit) := fun _ keeping =>
  keeping.later ((lasting_opens object).note event _ keeping.on) id (.refl _)
    ((lasting_modified object).note event _)

/-- A seek keeps what is unsaved. -/
theorem seek_keeping (target : SeekTarget) : Action.Maintains (Keeping object) (seek target) := by
  refine .bind (maintains_localShift target) fun shift => ?_
  split
  · exact .bind (onWindow_keeping fun window => window.grows_shift _) fun _ => maintains_tell
  · exact .bind (maintains_resolve target) fun goal _ keeping =>
      flush_bind_keeping ((lasting_modified object).seekResolved target goal) keeping

/-- What goes past the window keeps what is unsaved. -/
theorem writePastWindow_keeping (rest : Bytes) :
    Action.Maintains (Keeping object) (writePastWindow rest) := fun _ keeping =>
  flush_bind_keeping ((lasting_modified object).writePastWindow rest) keeping

/-- The second part of a write keeps what is unsaved. -/
theorem writeRest_keeping (cached : Nat) (rest : Bytes) :
    Action.Maintains (Keeping object) (writeRest cached rest) := by
  refine .bind (.attempt (writePastWindow_keeping rest)) fun answer => ?_
  split
  · exact .ite (.pure _) (.abandon _)
  · exact .ite (.fail _) (maintains_current_bind fun _ => .bind (note_keeping _) fun _ => .pure _)

/-- A write keeps what is unsaved. -/
theorem write_keeping (data : Bytes) : Action.Maintains (Keeping object) (write data) := by
  refine .ite (.pure _) (.bind (onWindow_keeping fun window => window.grows_put data)
    fun cached => ?_)
  refine .bind (fun _ keeping => ?_) fun _ => .ite (.pure _) (writeRest_keeping _ _)
  exact keeping.later keeping.on (fun dirty => by simp [dirty]) (.refl _) id

/-- A question for the position keeps what is unsaved. -/
theorem askPosition_keeping :
    Action.Maintains (Keeping object) (ask (Link.position object)) := fun _ keeping =>
  keeping.later ((lasting_opens object).askPosition _ keeping.on) id (.refl _)
    ((lasting_modified object).askPosition _)

/-- So does the user who asks for it. -/
theorem remotePosition_keeping : Action.Maintains (Keeping object) remotePosition := by
  intro attached keeping
  have asked := askPosition_keeping attached keeping
  rw [← keeping.on.1] at asked
  exact keeping.on.1 ▸ asked

section Took

variable {α : Type} {value : α}

/-- What the remote side was asked for successfully, it has answered, and the stream is as
before. -/
theorem ask_eq_ok {request : RemoteAction α}
    (asked : ask request attached = (.ok value, after)) :
    request attached.remote = (.ok value, after.remote) ∧ after.stream = attached.stream := by
  rw [ask_apply] at asked
  generalize request attached.remote = ended at asked ⊢
  obtain ⟨_ | _ | _, remote⟩ := ended
  · simp only [Outcome.mapError_ok, Prod.mk.injEq, Outcome.ok.injEq] at asked
    obtain ⟨rfl, rfl⟩ := asked
    exact ⟨rfl, rfl⟩
  · simp at asked
  · simp at asked

/-- Bytes that went past the window are staged, or they are in the window by now. -/
theorem writePastWindow_took {rest : Bytes} {count : Nat}
    (opens : On object (·.Opens object) attached)
    (wrote : writePastWindow rest attached = (.ok count, after)) (some : 0 < count) :
    Keeping object after := by
  obtain ⟨_, flushed, flushes, wrote⟩ := Action.bind_eq_ok_iff.mp wrote
  obtain ⟨_, rebased, rebases, wrote⟩ := Action.bind_eq_ok_iff.mp wrote
  have lasting := lasting_opens object
  have on := lasting.flush attached opens
  rw [flushes] at on
  replace on := lasting.rebase flushed on
  rw [rebases] at on
  rw [Action.bind_apply, current_apply] at wrote
  dsimp only at wrote
  rw [Action.ite_apply] at wrote
  split at wrote
  · have opened := lasting.noting _ (.writeBypasses rebased.stream.path rest.length) on.2
    rw [Action.bind_apply, note_apply] at wrote
    dsimp only at wrote
    obtain ⟨taken, asked, asks, wrote⟩ := Action.bind_eq_ok_iff.mp wrote
    obtain ⟨_, anchored, anchors, wrote⟩ := Action.bind_eq_ok_iff.mp wrote
    obtain ⟨rfl, rfl⟩ : taken = count ∧ anchored = after := by simpa using wrote
    obtain ⟨descriptor, serves⟩ := opened
    obtain ⟨answered, same⟩ := ask_eq_ok asks
    rw [on.1] at answered
    have staged := (lasting_modified object).anchorAfterDirect taken asked
      ⟨same ▸ on.1, Link.writeObject_modifies serves answered some⟩
    rw [anchors] at staged
    exact .of_modified staged
  · obtain ⟨_, roomy, makes, wrote⟩ := Action.bind_eq_ok_iff.mp wrote
    have opened := lasting.makeRoom rest.length rebased on
    rw [makes] at opened
    rw [Action.bind_apply, modify_apply] at wrote
    dsimp only at wrote
    obtain ⟨taken, filled, puts, wrote⟩ := Action.bind_eq_ok_iff.mp wrote
    obtain ⟨_, ensured, ensures, wrote⟩ := Action.bind_eq_ok_iff.mp wrote
    obtain ⟨rfl, rfl⟩ : taken = count ∧ ensured = after := by simpa using wrote
    have checked : Action.Maintains (Keeping object) (Action.ensure (taken = rest.length)
        .windowTooSmall : StreamAction Unit) := .ensure _
    rw [onWindow_apply, Prod.mk.injEq] at puts
    obtain ⟨took, rfl⟩ := puts
    have present := Window.occupied_of_put (Prod.ext took rfl) some
    have kept := checked ⟨{ roomy.stream with
      dirty := true, window := (Window.put rest roomy.stream.window).2 }, roomy.remote⟩
      ⟨⟨opened.1, opened.2⟩, .inl ⟨rfl, present⟩⟩
    exact (congrArg (fun ended => Keeping object ended.2) ensures).mp kept

/-- If the window took nothing, a write has taken what went past it. -/
theorem writeRest_zero {rest : Bytes} {count : Nat}
    (wrote : writeRest 0 rest attached = (.ok count, after)) :
    writePastWindow rest attached = (.ok count, after) := by
  simp only [writeRest, Action.bind_apply, Action.attempt, ↓reduceIte] at wrote
  generalize writePastWindow rest attached = ended at wrote ⊢
  obtain ⟨_ | _ | _, final⟩ := ended
  · simp only [Word.add, Nat.zero_add, Action.ite_apply, Action.pure_apply,
      Action.abandon_apply] at wrote
    split at wrote
    · exact wrote
    · simp at wrote
  · simp at wrote
  · simp at wrote

/-- If the window took something, the write has. -/
theorem writeRest_pos {cached count : Nat} {rest : Bytes} (some : 0 < cached)
    (wrote : writeRest cached rest attached = (.ok count, after)) : 0 < count := by
  simp only [writeRest, Action.bind_apply, Action.attempt, Nat.ne_of_gt some, ↓reduceIte] at wrote
  generalize writePastWindow rest attached = ended at wrote
  obtain ⟨_ | _ | _, final⟩ := ended
  · simp only [Word.add, Action.ite_apply, Action.pure_apply, Action.abandon_apply] at wrote
    split at wrote
    · simp only [Prod.mk.injEq, Outcome.ok.injEq] at wrote
      omega
    · simp at wrote
  · simp only [Action.bind_apply, current_apply, note_apply, Action.pure_apply, Prod.mk.injEq,
      Outcome.ok.injEq] at wrote
    exact wrote.1 ▸ some
  · simp at wrote

/-- A write that took bytes leaves them unsaved. -/
theorem write_took {data : Bytes} {count : Nat} (opens : On object (·.Opens object) attached)
    (wrote : write data attached = (.ok count, after)) (some : 0 < count) :
    Keeping object after := by
  by_cases empty : data = []
  · simp only [write, empty, ↓reduceIte, Action.pure_apply, Prod.mk.injEq,
      Outcome.ok.injEq] at wrote
    omega
  · unfold write at wrote
    rw [if_neg empty] at wrote
    obtain ⟨cached, put, puts, wrote⟩ := Action.bind_eq_ok_iff.mp wrote
    rw [onWindow_apply, Prod.mk.injEq] at puts
    obtain ⟨took, rfl⟩ := puts
    rw [Action.bind_apply, modify_apply] at wrote
    dsimp only at wrote
    by_cases none : cached = 0
    · have short : ¬cached = data.length := by
        have present := List.length_pos_iff.mpr empty
        omega
      rw [if_neg short, none] at wrote
      exact writePastWindow_took (by exact ⟨opens.1, opens.2⟩) (writeRest_zero wrote) some
    · have present := Window.occupied_of_put (Prod.ext took rfl) (Nat.pos_of_ne_zero none)
      have kept : Action.Maintains (Keeping object) (if cached = data.length then Pure.pure cached
          else writeRest cached (data.drop cached)) := .ite (.pure _) (writeRest_keeping _ _)
      have final := kept ⟨{ attached.stream with
        window := (Window.put data attached.stream.window).2
        dirty := attached.stream.dirty || cached ≠ 0 }, attached.remote⟩
        ⟨⟨opens.1, opens.2⟩, .inl ⟨by simp [none], present⟩⟩
      exact (congrArg (fun ended => Keeping object ended.2) wrote).mp final

/-- The one byte of a write is taken if the window may hold a byte. -/
theorem write_byte_ne_zero {descriptor : Descriptor} (coherent : attached.Coherent descriptor)
    (near : attached.stream.here < PlainFile.positionBound)
    (roomy : 0 < attached.stream.window.limit) (byte : UInt8) :
    (write [byte] attached).1 ≠ .ok 0 := by
  rcases write_cases coherent near (byte_within near byte) with
    ⟨count, final, moved, wrote, -, -, progress, -⟩ | ⟨cause, final, moved, failed, -⟩
  · rw [wrote]
    intro none
    exact Nat.ne_of_gt (progress Nat.one_pos roomy) (Outcome.ok.inj none)
  · rw [failed]
    simp

/-- Bytes that an operation took are unsaved. -/
theorem perform_took {operation : Operation} (opens : On object (·.Opens object) attached)
    (whole : ∀ byte, operation = .putByte byte → (write [byte] attached).1 ≠ .ok 0)
    (took : (perform operation attached).1.Took) :
    Keeping object (perform operation attached).2 := by
  cases operation with
  | write data =>
      simp only [perform, Action.map_apply] at took ⊢
      generalize wrote : write data attached = result at took ⊢
      obtain ⟨count | _ | _, after⟩ := result
      · obtain ⟨_, ended, some⟩ := took
        obtain rfl := Outcome.ok.inj ended
        exact write_took opens wrote some
      · simp [Outcome.Took] at took
      · simp [Outcome.Took] at took
  | putByte byte =>
      have present := whole byte rfl
      simp only [perform, putByte, Action.map_apply, Action.bind_apply] at took ⊢
      generalize wrote : write [byte] attached = result at took present ⊢
      obtain ⟨count | _ | _, after⟩ := result
      · have some : count ≠ 0 := fun none => present (congrArg _ none)
        exact write_took opens wrote (Nat.pos_of_ne_zero some)
      · simp [Outcome.Took] at took
      · simp [Outcome.Took] at took
  | read | getByte | seek | tell | flush | remotePosition =>
      simp only [perform, Action.map_apply] at took
      exact absurd took (Outcome.not_took_map fun _ => rfl)

end Took

/-- Unsaved bytes are not forgotten, whatever a stream is asked for. -/
theorem perform_keeping (operation : Operation) :
    Action.Maintains (Keeping object) (perform operation) := by
  cases operation with
  | read buffer => exact (read_keeping buffer).map _
  | write data => exact (write_keeping data).map _
  | putByte byte => exact ((write_keeping [byte]).bind fun _ => .pure _).map _
  | getByte => exact ((read_keeping [0]).bind fun _ => .ite (.pure _) (.pure _)).map _
  | seek target => exact (seek_keeping target).map _
  | tell => exact maintains_tell.map _
  | flush =>
      have flushes : Action.Maintains (Keeping object) (flush >>= Pure.pure) := fun _ keeping =>
        flush_bind_keeping (((lasting_modified object).flush).bind fun _ => .pure _) keeping
      rw [bind_pure] at flushes
      exact flushes.map _
  | remotePosition => exact remotePosition_keeping.map _

end CachedStream

end RemoteStreams
