import RemoteStreams.Proofs.Unsaved

/-! # Calls on the session

What the steps of a stream ask its session for. The calls that the session makes on its store in
turn are left out (`RemoteStreams.Remote.asked`), since they depend on the mode in which the object
is open and not on the stream. A step that goes through has asked for certain calls and no others
(`RemoteStreams.Attached.Asks`), and which these are can be told from the stream before the step.
-/

namespace RemoteStreams

open Remote

/-- The session uses this on its store. -/
def Primitive.onStore : Primitive → Bool
  | .storePut | .storeGet | .storeGetRange | .storeHead => true
  | _ => false

/-- The calls on the session so far, oldest first. -/
def Remote.asked (remote : Remote) : List Call :=
  remote.calls.filter fun call => !call.primitive.onStore

/-- A call that is not on the store is one more that was asked for. -/
theorem Remote.asked_calling (remote : Remote) {call : Call}
    (direct : call.primitive.onStore = false) :
    (remote.calling call).asked = remote.asked ++ [call] := by
  simp [asked, calling, List.filter_append, direct]

/-- Calls on the store are not counted. -/
theorem Remote.lasting_asked (calls : List Call) :
    Remote.Lasting (·.onStore = true) fun remote => remote.asked = calls :=
  lasting_calls (fun call stores => by simp [stores]) calls

namespace Link

variable {α : Type}

/-- What the session does for a call is no other call on the session. -/
theorem asked_announce_bind {call : Call} (direct : call.primitive.onStore = false)
    {next : Option Fault → RemoteAction α}
    (silent : ∀ calls fault, Action.Maintains (fun remote => remote.asked = calls) (next fault))
    (remote : Remote) : ((announce call >>= next) remote).2.asked = remote.asked ++ [call] := by
  have called := remote.asked_calling direct
  rw [Action.bind_apply]
  rcases announce_ends call remote with ⟨cause, refused⟩ | ⟨fault, passed⟩
  · rw [refused]
    exact called
  · rw [passed]
    exact silent _ fault _ called

open Action.Maintains

/-- A read is one call, however it ends. -/
theorem asked_readObject (object : ObjectId) (buffer : Bytes) (remote : Remote) :
    (readObject object buffer remote).2.asked =
      remote.asked ++ [.readObject object buffer.length] :=
  asked_announce_bind rfl (fun calls _ =>
    bind ((lasting_asked calls).readObject rfl object _) fun _ => pure _) remote

/-- A write is one call, however it ends. -/
theorem asked_writeObject (object : ObjectId) (data : Bytes) (remote : Remote) :
    (writeObject object data remote).2.asked = remote.asked ++ [.writeObject object data] :=
  asked_announce_bind rfl (fun calls _ =>
    bind ((lasting_asked calls).writeObject object _) fun _ => pure _) remote

/-- A seek is one call, however it ends. -/
theorem asked_seekObject (object : ObjectId) (target : SeekTarget) (remote : Remote) :
    (seekObject object target remote).2.asked = remote.asked ++ [.seekObject object target] :=
  asked_announce_bind rfl (fun calls _ =>
    bind ((lasting_asked calls).seekObject object target) fun _ => pure _) remote

/-- A question for the position is one call, however it ends. -/
theorem asked_position (object : ObjectId) (remote : Remote) :
    (position object remote).2.asked = remote.asked ++ [.position object] :=
  asked_announce_bind rfl (fun calls _ =>
    bind ((lasting_asked calls).seekObject object (.current 0)) fun _ => pure _) remote

end Link

namespace Attached

/-- A step that asked the session for these calls. -/
def Asks (before : Attached) (calls : List Call) (after : Attached) : Prop :=
  after.remote.asked = before.remote.asked ++ calls

variable {before middle after : Attached} {calls : List Call}

/-- Calls add up over steps. -/
theorem Asks.trans {first second : List Call} (earlier : before.Asks first middle)
    (later : middle.Asks second after) : before.Asks (first ++ second) after := by
  simp only [Asks] at *
  rw [later, earlier, List.append_assoc]

/-- A step that leaves the remote side alone asks for nothing. -/
theorem asks_nil (same : after.remote = before.remote) : before.Asks [] after := by
  rw [Asks, same, List.append_nil]

end Attached

namespace CachedStream

open Attached

/-- What it takes to write the window back: the object is moved to where the window begins, unless
it is there, and takes the window. -/
def flushCost (stream : CachedStream) : List Call :=
  if stream.dirty then
    (if stream.synced = 0 then [] else [.seekObject stream.object (.start stream.base)]) ++
      [.writeObject stream.object stream.window.occupied]
  else
    []

/-- What it takes to fetch `missing` bytes: the whole window is filled, if it may grow to more than
twice as many, or they are read around it. -/
def fetchCost (stream : CachedStream) (missing : Nat) : List Call :=
  if missing = 0 then
    []
  else if 2 * missing + 8 ≤ stream.window.limit then
    [.position stream.object,
      .readObject stream.object (max stream.window.capacity (2 * missing + 8))]
  else
    [.readObject stream.object missing, .position stream.object]

/-- What it takes to write past the window: the window is written back and begins where the object
is then, and what no window may hold goes around it. -/
def overflowCost (stream : CachedStream) (rest : Bytes) : List Call :=
  stream.flushCost ++ .position stream.object ::
    if stream.window.limit < rest.length then
      [.writeObject stream.object rest, .position stream.object]
    else
      []

variable {α : Type} {attached after : Attached} {value : α} {descriptor : Descriptor}

/-- A step that maintains everything leaves the state alone. -/
theorem maintains_eq {ε : Type} {body : Action Attached ε α}
    (looks : ∀ holds : Attached → Prop, Action.Maintains holds body) :
    (body attached).2 = attached :=
  looks (· = attached) attached rfl

/-- What maintains everything changes nothing. -/
theorem looks_only {ε : Type} {body : Action Attached ε α} {outcome : Outcome ε α}
    (looks : ∀ holds : Attached → Prop, Action.Maintains holds body)
    (looked : body attached = (outcome, after)) : after = attached := by
  have stays : (body attached).2 = attached := maintains_eq looks
  rwa [looked] at stays

/-- What the remote side is asked for is one call, and leaves the stream as it is. -/
theorem asks_of_ask {request : RemoteAction α} {call : Call}
    (asks : ∀ remote, (request remote).2.asked = remote.asked ++ [call])
    (answered : ask request attached = (.ok value, after)) :
    after.stream = attached.stream ∧ attached.Asks [call] after := by
  obtain ⟨granted, same⟩ := ask_eq_ok answered
  have asked := asks attached.remote
  rw [granted] at asked
  exact ⟨same, asked⟩

/-- An object is moved back by one seek, and only if it is not where the window begins. -/
theorem rewindObject_asks (rewound : rewindObject attached = (.ok (), after)) :
    after.stream = attached.stream.syncedTo 0 ∧
      attached.Asks (if attached.stream.synced = 0 then []
        else [.seekObject attached.stream.object (.start attached.stream.base)]) after := by
  by_cases here : attached.stream.synced = 0
  · have idle : rewindObject attached = (.ok (), attached) := by
      simp [rewindObject, Action.bind_apply, here]
    obtain rfl := (Prod.mk.inj (rewound.symm.trans idle)).2
    rw [if_pos here]
    exact ⟨by rw [syncedTo, ← here], asks_nil rfl⟩
  · simp only [rewindObject, Action.bind_apply (current), current_apply, here, ↓reduceIte] at rewound
    obtain ⟨_, middle, sought, rewound⟩ := Action.bind_eq_ok_iff.mp rewound
    obtain ⟨same, asks⟩ := asks_of_ask (Link.asked_seekObject _ _) sought
    rw [modify_apply] at rewound
    obtain rfl := (Prod.mk.inj rewound).2
    rw [if_neg here]
    exact ⟨by rw [same]; rfl, asks⟩

/-- A window is written back by one write of all that it holds. -/
theorem writeBack_asks (wrote : writeBack attached = (.ok (), after)) :
    (∃ synced, after.stream = { attached.stream with synced, dirty := false }) ∧
      attached.Asks [.writeObject attached.stream.object attached.stream.window.occupied] after := by
  simp only [writeBack, Action.bind_apply current, current_apply] at wrote
  obtain ⟨written, middle, took, wrote⟩ := Action.bind_eq_ok_iff.mp wrote
  obtain ⟨same, asks⟩ := asks_of_ask (Link.asked_writeObject _ _) took
  rw [Action.bind_apply, modify_apply] at wrote
  dsimp only at wrote
  rw [Action.ite_apply] at wrote
  split at wrote
  · rw [Action.bind_apply, note_apply] at wrote
    dsimp only at wrote
    rw [modify_apply] at wrote
    obtain rfl := (Prod.mk.inj wrote).2
    exact ⟨⟨written, by rw [same]⟩, asks⟩
  · simp at wrote

/-- A flush that goes through leaves the window clean, where it is. -/
theorem flush_asks (flushed : flush attached = (.ok (), after)) :
    (∃ synced, after.stream = { attached.stream with synced, dirty := false }) ∧
      attached.Asks attached.stream.flushCost after := by
  cases dirty : attached.stream.dirty with
  | false =>
      obtain rfl : attached = after :=
        (Prod.mk.inj ((flush_of_clean dirty).symm.trans flushed)).2
      have free : attached.stream.flushCost = [] := by simp [flushCost, dirty]
      rw [free]
      exact ⟨⟨attached.stream.synced, by rw [← dirty]⟩, asks_nil rfl⟩
  | true =>
      simp only [flush, Action.bind_apply current, current_apply, dirty, ↓reduceIte] at flushed
      obtain ⟨_, middle, rewound, wrote⟩ := Action.bind_eq_ok_iff.mp flushed
      obtain ⟨rewinds, back⟩ := rewindObject_asks rewound
      obtain ⟨⟨synced, wrote⟩, taken⟩ := writeBack_asks wrote
      rw [rewinds] at wrote taken
      rw [flushCost, dirty, if_pos rfl]
      exact ⟨⟨synced, wrote⟩, back.trans taken⟩

/-- A window is moved to another place for the price of a question where the object is. -/
theorem rebase_asks (rebased : rebase attached = (.ok (), after)) :
    (∃ base, after.stream = attached.stream.anchored base) ∧
      attached.Asks [.position attached.stream.object] after := by
  obtain ⟨_, checked, clean, found⟩ := Action.bind_eq_ok_iff.mp rebased
  have stays := looks_only (fun _ => maintains_requireClean) clean
  rw [stays, Action.bind_apply, current_apply] at found
  obtain ⟨position, middle, answered, anchored⟩ := Action.bind_eq_ok_iff.mp found
  obtain ⟨same, asks⟩ := asks_of_ask (Link.asked_position _) answered
  rw [anchor_apply] at anchored
  obtain rfl := (Prod.mk.inj anchored).2
  exact ⟨⟨position, by rw [same]⟩, asks⟩

/-- After a transfer around the window the object is asked where it is, whether it tells or not. -/
theorem anchorAfterDirect_asks (moved : Nat) (attached : Attached) :
    attached.Asks [.position attached.stream.object] (anchorAfterDirect moved attached).2 := by
  have asks := Link.asked_position attached.stream.object attached.remote
  simp only [anchorAfterDirect, Action.bind_apply, current_apply, Action.attempt, onRemote_apply]
  generalize Link.position attached.stream.object attached.remote = ended at asks ⊢
  obtain ⟨position | cause | breach, remote⟩ := ended
  · exact asks
  · by_cases fits : attached.stream.base + moved < Word.bound
    · simp only [Action.bind_apply, note_apply, Word.add_apply fits, modify_apply]
      exact asks
    · simp only [Action.bind_apply, note_apply, Word.add, if_neg fits]
      exact asks
  · exact asks

/-- A window is filled by a question where the object is and a read of its whole size. -/
theorem fill_asks (filled : fill attached = (.ok (), after)) :
    attached.Asks [.position attached.stream.object,
      .readObject attached.stream.object attached.stream.window.capacity] after := by
  obtain ⟨_, checked, settled, found⟩ := Action.bind_eq_ok_iff.mp filled
  have stays := looks_only (fun _ => maintains_requireSettled) settled
  rw [stays, Action.bind_apply, current_apply] at found
  obtain ⟨position, told, answered, reads⟩ := Action.bind_eq_ok_iff.mp found
  obtain ⟨-, first⟩ := asks_of_ask (Link.asked_position _) answered
  rw [Action.bind_apply, anchor_apply] at reads
  obtain ⟨⟨count, bytes⟩, read, delivered, loads⟩ := Action.bind_eq_ok_iff.mp reads
  obtain ⟨-, second⟩ := asks_of_ask (Link.asked_readObject _ _) delivered
  obtain ⟨_, accepted, accepts, counted⟩ := Action.bind_eq_ok_iff.mp loads
  rw [modify_apply] at counted
  obtain rfl := (Prod.mk.inj counted).2
  have same : accepted.remote = read.remote := congrArg (·.2.remote) accepts.symm
  exact (congrArg Remote.asked same).trans (first.trans second)

/-- A read around the window is a read of just what is missing, and a question where that led. -/
theorem readDirect_asks {buffer : Bytes} {delivered : Nat × Bytes}
    (passed : readDirect buffer attached = (.ok delivered, after)) :
    attached.Asks [.readObject attached.stream.object buffer.length,
      .position attached.stream.object] after := by
  rw [readDirect, Action.bind_apply, current_apply] at passed
  dsimp only at passed
  rw [Action.bind_apply, note_apply] at passed
  dsimp only at passed
  obtain ⟨_, checked, settled, begins⟩ := Action.bind_eq_ok_iff.mp passed
  have stays := looks_only (fun _ => maintains_requireSettled) settled
  obtain ⟨base, found, tells, reads⟩ := Action.bind_eq_ok_iff.mp begins
  have still := looks_only (fun _ => maintains_tell) tells
  rw [still, stays, Action.bind_apply, anchor_apply] at reads
  obtain ⟨⟨count, filled⟩, read, delivers, anchors⟩ := Action.bind_eq_ok_iff.mp reads
  obtain ⟨same, first⟩ := asks_of_ask (Link.asked_readObject _ _) delivers
  obtain ⟨_, anchored, asked, ends⟩ := Action.bind_eq_ok_iff.mp anchors
  obtain rfl := (Prod.mk.inj ends).2
  have second := anchorAfterDirect_asks count read
  rw [asked, same] at second
  exact first.trans second

/-- A fetch that goes through asks for what is missing in one of two ways. -/
theorem fetch_asks (coherent : attached.Coherent descriptor) {buffer : Bytes}
    (present : buffer ≠ []) {delivered : Nat × Bytes}
    (fetched : fetch buffer attached = (.ok delivered, after)) :
    attached.Asks (attached.stream.fetchCost buffer.length) after := by
  have some : buffer.length ≠ 0 := by simpa using present
  rw [fetch, Action.bind_apply, current_apply] at fetched
  dsimp only at fetched
  rw [Action.ite_apply] at fetched
  split at fetched
  · next large =>
      have narrow : ¬2 * buffer.length + 8 ≤ attached.stream.window.limit := by
        have room := roomFor_le buffer.length
        omega
      rw [fetchCost, if_neg some, if_neg narrow]
      exact readDirect_asks fetched
  · next large =>
      obtain ⟨_, roomy, grew, fills⟩ := Action.bind_eq_ok_iff.mp fetched
      obtain ⟨_, filled, full, takes⟩ := Action.bind_eq_ok_iff.mp fills
      obtain ⟨taken, took, consumed, ends⟩ := Action.bind_eq_ok_iff.mp takes
      obtain rfl := (Prod.mk.inj ends).2
      have same : took.remote = filled.remote := congrArg (·.2.remote) consumed.symm
      rcases coherent.grow_cases (Nat.not_lt.mp large) with ⟨grown, kept⟩ | ⟨failed, -⟩
      · obtain rfl := (Prod.mk.inj (grew.symm.trans grown)).2
        have size := attached.stream.window.capacity_grown (roomFor buffer.length)
        have allocated : (attached.stream.window.grown (roomFor buffer.length)).capacity <
            Window.allocationBound := kept.advances.coherent.allocated
        have asks : attached.Asks [.position attached.stream.object, .readObject
            attached.stream.object (attached.stream.window.grown (roomFor buffer.length)).capacity]
              filled := fill_asks full
        have room : roomFor buffer.length = 2 * buffer.length + 8 := by
          rw [size] at allocated
          simp only [roomFor, Word.saturate, Word.bound, Window.allocationBound] at *
          omega
        rw [size, room] at asks
        rw [fetchCost, if_neg some, if_pos (by omega)]
        exact (congrArg Remote.asked same).trans asks
      · rw [failed] at grew
        simp at grew

/-- Memory is no matter of the session. -/
theorem asked_makeRoom (count : Nat) (attached : Attached) :
    (makeRoom count attached).2.remote.asked = attached.remote.asked := by
  simp only [makeRoom, Action.bind_apply, current_apply, Action.ite_apply]
  split <;> rfl

/-- A write past the window that goes through wrote the window back, if that was dirty, and asked
where the object is then, and all but that only if the rest is large. -/
theorem writePastWindow_asks {rest : Bytes} {count : Nat}
    (wrote : writePastWindow rest attached = (.ok count, after)) :
    attached.Asks (attached.stream.overflowCost rest) after := by
  obtain ⟨_, flushed, flushes, wrote⟩ := Action.bind_eq_ok_iff.mp wrote
  obtain ⟨_, rebased, rebases, wrote⟩ := Action.bind_eq_ok_iff.mp wrote
  obtain ⟨⟨synced, clean⟩, first⟩ := flush_asks flushes
  obtain ⟨⟨base, emptied⟩, second⟩ := rebase_asks rebases
  have object : rebased.stream.object = attached.stream.object := by rw [emptied, clean]; rfl
  have limit : rebased.stream.window.limit = attached.stream.window.limit := by
    rw [emptied, clean]
    rfl
  have both := first.trans second
  rw [clean] at both
  rw [Action.bind_apply, current_apply] at wrote
  dsimp only at wrote
  rw [Action.ite_apply] at wrote
  split at wrote
  · next large =>
      rw [limit] at large
      rw [Action.bind_apply, note_apply] at wrote
      dsimp only at wrote
      obtain ⟨written, around, asks, anchors⟩ := Action.bind_eq_ok_iff.mp wrote
      obtain ⟨same, third⟩ := asks_of_ask (Link.asked_writeObject _ _) asks
      obtain ⟨_, anchored, asked, ends⟩ := Action.bind_eq_ok_iff.mp anchors
      obtain rfl := (Prod.mk.inj ends).2
      have fourth := anchorAfterDirect_asks written around
      rw [asked, same] at fourth
      have all := both.trans (third.trans fourth)
      simp only [object] at all
      rw [overflowCost, if_pos large]
      simpa using all
  · next small =>
      rw [limit] at small
      obtain ⟨_, roomy, makes, puts⟩ := Action.bind_eq_ok_iff.mp wrote
      rw [Action.bind_apply, modify_apply] at puts
      dsimp only at puts
      obtain ⟨taken, filled, fills, ensures⟩ := Action.bind_eq_ok_iff.mp puts
      obtain ⟨_, ensured, passed, ends⟩ := Action.bind_eq_ok_iff.mp ensures
      obtain rfl := (Prod.mk.inj ends).2
      have made := asked_makeRoom rest.length rebased
      rw [makes] at made
      have put : filled.remote = roomy.remote := congrArg (·.2.remote) fills.symm
      have kept := looks_only (fun _ => .ensure _) passed
      rw [overflowCost, if_neg small, kept]
      exact ((congrArg Remote.asked put).trans made).trans both

end CachedStream

end RemoteStreams
