import RemoteStreams.Remote

/-! # Honest faults

A fault is honest if whoever meets it can tell: the call is refused and has no
effect, or only a part of its bytes travels and the answer says so. Under a plan
of honest faults an announced call is refused, which takes a plan that is not
empty, or goes through (`RemoteStreams.Remote.announce_cases`).
-/

namespace RemoteStreams

/-- The call fails without effect, or transfers a part and says so. -/
def Fault.Honest : Fault → Prop
  | .refused | .missing | .shortened _ => True
  | .falsified _ | .substituted _ => False

namespace FaultPlan

/-- All faults in store are honest, in whatever pattern they come. -/
def Honest (plan : FaultPlan) : Prop :=
  ∀ primitive schedule number fault, plan.find? primitive = some schedule →
    schedule.fault number = some fault → fault.Honest

/-- What a call may meet that goes through: nothing, or a fault that cuts it short. -/
def Allows (plan : FaultPlan) (fault : Option Fault) : Prop :=
  fault = none ∨ plan ≠ ∅ ∧ ∃ count, fault = some (.shortened count)

theorem honest_empty : Honest ∅ := by
  intro primitive schedule number fault found
  simp at found

/-- A plan stays honest while its faults are used up. -/
theorem Honest.advance {plan : FaultPlan} (honest : plan.Honest) (primitive : Primitive) :
    (plan.advance primitive).Honest := by
  intro other schedule number fault found met
  unfold FaultPlan.advance at found
  split at found
  · next own present =>
      rw [FiniteMap.find?_insert] at found
      by_cases same : other = primitive
      · simp only [same, ↓reduceIte, Option.some.injEq] at found
        subst found
        exact honest primitive own number fault present met
      · simp only [same, ↓reduceIte] at found
        exact honest other schedule number fault found met
  · exact honest other schedule number fault found met

/-- Honest faults may be armed at any time. -/
theorem Honest.arm {plan : FaultPlan} (honest : plan.Honest) (primitive : Primitive)
    {fault : Fault} (own : fault.Honest) (skip : Nat) (times : Option Nat) :
    Honest (plan.insert primitive (.arm fault skip times)) := by
  intro other schedule number struck found met
  rw [FiniteMap.find?_insert] at found
  by_cases same : other = primitive
  · simp only [same, ↓reduceIte, Option.some.injEq] at found
    subst found
    simp only [Schedule.arm] at met
    split at met
    · simp at met
    · split at met
      · exact Option.some.inj met ▸ own
      · simp at met
  · simp only [same, ↓reduceIte] at found
    exact honest other schedule number struck found met

variable {plan : FaultPlan} {fault : Option Fault}

/-- An honest plan does not change the numbers that are reported. -/
theorem Allows.reported (allows : plan.Allows fault) (number : Nat) :
    Fault.reported fault number = number := by
  rcases allows with rfl | ⟨_, count, rfl⟩ <;> rfl

/-- A front part of the bytes travels, and all of them if no faults are in store. -/
theorem Allows.travelling (allows : plan.Allows fault) (data : Bytes) :
    ∃ count, count ≤ data.length ∧ Fault.travelling fault data = data.take count ∧
      (plan = ∅ → count = data.length) := by
  rcases allows with rfl | ⟨armed, count, rfl⟩
  · exact ⟨data.length, Nat.le_refl _, List.take_length.symm, fun _ => rfl⟩
  · refine ⟨min count data.length, Nat.min_le_right _ _, ?_, fun empty => (armed empty).elim⟩
    exact List.take_eq_take_min

/-- What the store answers is cut short as a transfer is. -/
theorem Allows.delivered (allows : plan.Allows fault) (data : Bytes) :
    Fault.delivered fault data = Fault.travelling fault data := by
  rcases allows with rfl | ⟨_, count, rfl⟩ <;> rfl

end FaultPlan

namespace Remote

theorem quiet_calling {before : Remote} (quiet : before.faults = ∅) (call : Call) :
    (before.calling call).faults = ∅ := by
  simp [calling, quiet]

/-- An announced call is refused and leaves nothing but its trace, or it goes through. -/
theorem announce_cases {before : Remote} (honest : before.faults.Honest) (call : Call) :
    (∃ cause, announce call before = (.error cause, before.calling call) ∧ before.faults ≠ ∅) ∨
      ∃ fault, announce call before = (.ok fault, before.calling call) ∧
        before.faults.Allows fault := by
  cases met : before.faults.next call.primitive with
  | none =>
      refine .inr ⟨none, ?_, .inl rfl⟩
      simp [announce, Action.bind_apply, met]
  | some fault =>
      obtain ⟨schedule, found, struck⟩ := Option.bind_eq_some_iff.mp met
      have armed : before.faults ≠ ∅ := by
        intro empty
        rw [empty] at found
        simp at found
      have kind := honest call.primitive schedule schedule.made fault found struck
      cases fault with
      | refused =>
          refine .inl ⟨.generic (.injected call.primitive), ?_, armed⟩
          simp [announce, Action.bind_apply, met, Fault.refusal?]
      | missing =>
          refine .inl ⟨.notFound call.path (Failure.injected call.primitive).text, ?_, armed⟩
          simp [announce, Action.bind_apply, met, Fault.refusal?]
      | shortened count =>
          refine .inr ⟨some (.shortened count), ?_, .inr ⟨armed, count, rfl⟩⟩
          simp [announce, Action.bind_apply, met, Fault.refusal?]
      | falsified excess => exact kind.elim
      | substituted answer => exact kind.elim

end Remote

end RemoteStreams
