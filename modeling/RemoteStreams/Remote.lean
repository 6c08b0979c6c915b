import RemoteStreams.Action
import RemoteStreams.Event
import RemoteStreams.Fault
import RemoteStreams.Session.Basic
import RemoteStreams.Window

/-!
# The remote side

The remote side is an object store with a session on it, together with the
faults that are in store for its calls and for requests for memory, the calls made
so far and the log. The primitives of the object store are defined here: whole
objects are put and got, a range of an object is got, and its size is asked for.
-/

namespace RemoteStreams

/-- An object store, the session on it, and what happens between the two. -/
structure Remote where
  objects : FiniteMap ObjectPath Bytes
  session : Session
  faults : FaultPlan
  /-- The calls made so far, oldest first. -/
  calls : List Call
  /-- The events reported so far, oldest first. -/
  log : List Event

/-- A step of the remote side. -/
abbrev RemoteAction (α : Type) : Type := Action Remote RemoteError α

namespace Remote

variable {ε : Type}

/-- A remote side that holds `objects`, with a session that was never connected. -/
def create (objects : FiniteMap ObjectPath Bytes) (remembersSizes : Bool) : Remote where
  objects := objects
  session := .create remembersSizes
  faults := ∅
  calls := []
  log := []

/-- The remote side after an event. -/
def noting (remote : Remote) (event : Event) : Remote :=
  { remote with log := remote.log ++ [event] }

/-- Reports an event. -/
def note (event : Event) : Action Remote ε Unit := .modify (·.noting event)

/-- Changes the session. -/
def modifySession (change : Session → Session) : Action Remote ε Unit :=
  .modify fun remote => { remote with session := change remote.session }

/-- The remote side after `call` was made and its fault was used up. -/
def calling (remote : Remote) (call : Call) : Remote :=
  { remote with
    calls := remote.calls ++ [call]
    faults := remote.faults.advance call.primitive }

/-- The remote side after memory was asked for. -/
def requesting (remote : Remote) : Remote :=
  { remote with faults := remote.faults.advance .allocate }

/-- Whether there is memory for a buffer of `size` bytes. There is none for very large buffers,
and any other may meet a fault as well. -/
def affords (remote : Remote) (size : Nat) : Bool :=
  decide (size < Window.allocationBound) && (remote.faults.next .allocate).isNone

/-- Asks for the memory for a buffer of `size` bytes and tells whether it is granted. -/
def request (size : Nat) : Action Remote ε Bool := do
  let remote ← .get
  .set remote.requesting
  pure (remote.affords size)

/-- Makes a call. A fault that refuses it ends it here, any other is handed on. -/
def announce (call : Call) : RemoteAction (Option Fault) := do
  let remote ← .get
  let fault := remote.faults.next call.primitive
  .set (remote.calling call)
  match fault.bind (Fault.refusal? call) with
  | some refusal => .fail refusal
  | none => pure fault

/-- Stores `data` as the object at `location`. -/
def put (location : ObjectPath) (data : Bytes) : RemoteAction Unit := do
  let _ ← announce (.storePut location data)
  .modify fun remote => { remote with objects := remote.objects.insert location data }

/-- The object at `location`. -/
def object (location : ObjectPath) : RemoteAction Bytes := do
  let remote ← .get
  match remote.objects.find? location with
  | some data => pure data
  | none => .fail (.missing location)

/-- Gets the object at `location`. -/
def fetch (location : ObjectPath) : RemoteAction Bytes := do
  let _ ← announce (.storeGet location)
  object location

/-- Gets the object at `location` from `start` up to `stop` or to its end. -/
def fetchRange (location : ObjectPath) (start stop : Nat) : RemoteAction Bytes := do
  let fault ← announce (.storeGetRange location start stop)
  let data ← object location
  if data.length ≤ start then
    .fail (.generic (.rangePastEnd start data.length))
  else
    pure (Fault.delivered fault (data.slice start stop))

/-- Asks for the size of the object at `location`. -/
def size (location : ObjectPath) : RemoteAction Nat := do
  let _ ← announce (.storeHead location)
  let data ← object location
  pure data.length

/-- A request for memory is answered at once. It uses up a fault, and nothing else changes. -/
@[simp] theorem request_apply (size : Nat) (remote : Remote) :
    (request size : Action Remote ε Bool) remote = (.ok (remote.affords size), remote.requesting) :=
  rfl

/-- What is granted is not too large. -/
theorem lt_of_affords {remote : Remote} {size : Nat} (granted : remote.affords size = true) :
    size < Window.allocationBound := by
  rw [affords, Bool.and_eq_true, decide_eq_true_eq] at granted
  exact granted.1

/-- What is too large is never granted. -/
theorem not_affords {remote : Remote} {size : Nat} (large : Window.allocationBound ≤ size) :
    remote.affords size = false := by
  simp [affords, Nat.not_lt.mpr large]

/-- Without faults, everything is granted that is not too large. -/
theorem affords_of_quiet {remote : Remote} {size : Nat} (quiet : remote.faults = ∅)
    (small : size < Window.allocationBound) : remote.affords size = true := by
  simp [affords, quiet, small]

/-- A request for memory brings no faults. -/
theorem quiet_requesting {remote : Remote} (quiet : remote.faults = ∅) :
    remote.requesting.faults = ∅ := by
  simp [requesting, quiet]

/-- The objects in the order of their paths. -/
def listing (remote : Remote) : List (ObjectPath × Bytes) :=
  remote.objects.entries.mergeSort fun first second => !(second.1.text < first.1.text)

end Remote

end RemoteStreams
