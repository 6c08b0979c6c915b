import RemoteStreams.Bytes
import RemoteStreams.Call
import RemoteStreams.Error
import RemoteStreams.FiniteMap
import RemoteStreams.Word

/-!
# Faults

The remote side may misbehave. A fault refuses a call, lets only a part of its
bytes travel, or falsifies its answer. Memory may be short as well: any fault
that a request for memory meets refuses it. A fault plan fixes for each primitive
which of its coming calls or requests meet a fault, in any pattern; the plan that
is empty leaves the remote side alone and grants all memory there is.
-/

namespace RemoteStreams

/-- A way for a call to go wrong. -/
inductive Fault where
  /-- The call fails and has no effect. -/
  | refused
  /-- The call fails as though its object were not there, and has no effect. -/
  | missing
  /-- Only the first `count` bytes travel, and the answer says so. -/
  | shortened (count : Nat)
  /-- The call is carried out, but its answer is off by `excess`: a number is that
  much larger, and bytes are that many more. -/
  | falsified (excess : Int)
  /-- A ranged read of the store answers with these bytes, whatever was asked for. -/
  | substituted (answer : Bytes)
deriving DecidableEq, Repr

/-- What the calls of one primitive meet, in order. -/
structure Schedule where
  /-- The fault of the call with a given number. -/
  fault : Nat → Option Fault
  /-- How many calls have been made. -/
  made : Nat

namespace Schedule

/-- After `skip` calls, `fault` meets the next calls: as many as `times` says, or all. -/
def arm (fault : Fault) (skip : Nat) (times : Option Nat) : Schedule where
  fault number :=
    if number < skip then none
    else if times.all (fun count => number < skip + count) then some fault
    else none
  made := 0

/-- What the next call meets. -/
def next (schedule : Schedule) : Option Fault := schedule.fault schedule.made

/-- The schedule after one more call. -/
def advance (schedule : Schedule) : Schedule := { schedule with made := schedule.made + 1 }

end Schedule

/-- What the calls of the remote side and the requests for memory meet. -/
abbrev FaultPlan := FiniteMap Primitive Schedule

namespace FaultPlan

/-- What the next call of `primitive` meets. -/
def next (plan : FaultPlan) (primitive : Primitive) : Option Fault :=
  (plan.find? primitive).bind Schedule.next

/-- The plan after one more call of `primitive`. -/
def advance (plan : FaultPlan) (primitive : Primitive) : FaultPlan :=
  match plan.find? primitive with
  | some schedule => plan.insert primitive schedule.advance
  | none => plan

@[simp] theorem next_empty (primitive : Primitive) : next ∅ primitive = none := rfl

@[simp] theorem advance_empty (primitive : Primitive) : advance ∅ primitive = ∅ := rfl

end FaultPlan

namespace Fault

/-- The byte that fills an answer with more bytes than there are. -/
def filler : UInt8 := 0xAA

/-- The error with which a fault refuses a call, if it does. -/
def refusal? (call : Call) : Fault → Option RemoteError
  | .refused => some (.generic (.injected call.primitive))
  | .missing => some (.notFound call.path (Failure.injected call.primitive).text)
  | .shortened _ | .falsified _ | .substituted _ => none

/-- The bytes of a transfer that travel. -/
def travelling (fault : Option Fault) (data : Bytes) : Bytes :=
  match fault with
  | some (.shortened count) => data.take count
  | _ => data

/-- The number that reaches the caller as the answer `number`. -/
def reported (fault : Option Fault) (number : Nat) : Nat :=
  match fault with
  | some (.falsified excess) => Word.wrap (number + excess)
  | _ => number

/-- The bytes that reach the caller of a ranged read as the answer `data`. -/
def delivered (fault : Option Fault) (data : Bytes) : Bytes :=
  match fault with
  | some (.shortened count) => data.take count
  | some (.falsified excess) =>
      if 0 ≤ excess then data ++ List.replicate excess.natAbs filler
      else data.take (data.length - excess.natAbs)
  | some (.substituted answer) => answer
  | _ => data

@[simp] theorem travelling_none (data : Bytes) : travelling none data = data := rfl

@[simp] theorem reported_none (number : Nat) : reported none number = number := rfl

@[simp] theorem delivered_none (data : Bytes) : delivered none data = data := rfl

end Fault

end RemoteStreams
