import RemoteStreams.Action
import RemoteStreams.Error

/-! # Actions in step

Two actions are in step if they end alike from any two states that correspond, and leave states
that correspond again (`RemoteStreams.Action.InStep`). What is put together from actions in step
is in step, so that two runs of one program can be compared step by step, even if the states they
run on differ in what the program does not look at.

Errors may name an object or a stream by its id. Ids are given out in the order in which things
are opened, so they tell about others as well; apart from them, two errors may be the same
(`RemoteStreams.StreamError.Same`).
-/

namespace RemoteStreams

/-- Two operations end in the same way, with values and errors that correspond. -/
inductive Outcome.Matches {ε α β : Type} (same : ε → ε → Prop) (alike : α → β → Prop) :
    Outcome ε α → Outcome ε β → Prop
  | ok {first : α} {second : β} (values : alike first second) :
      Matches same alike (.ok first) (.ok second)
  | error {first second : ε} (causes : same first second) :
      Matches same alike (.error first) (.error second)
  | broken (breach : Breach) : Matches same alike (.broken breach) (.broken breach)

/-- From states that correspond, two actions end alike and leave states that correspond. -/
def Action.InStep {σ τ ε α β : Type} (states : σ → τ → Prop) (same : ε → ε → Prop)
    (alike : α → β → Prop) (first : Action σ ε α) (second : Action τ ε β) : Prop :=
  ∀ before other, states before other →
    (first before).1.Matches same alike (second other).1 ∧
      states (first before).2 (second other).2

namespace Action.InStep

variable {σ τ ε ε' α β γ δ : Type} {states : σ → τ → Prop} {same : ε → ε → Prop}
  {same' : ε' → ε' → Prop} {alike : α → β → Prop} {alike' : γ → δ → Prop}

theorem pure {first : α} {second : β} (values : alike first second) :
    InStep states same alike (Pure.pure first) (Pure.pure second) :=
  fun _ _ correspond => ⟨.ok values, correspond⟩

theorem fail {first second : ε} (causes : same first second) :
    InStep states same alike (Action.fail first) (Action.fail second) :=
  fun _ _ correspond => ⟨.error causes, correspond⟩

theorem abandon (breach : Breach) :
    InStep states same alike (Action.abandon breach) (Action.abandon breach) :=
  fun _ _ correspond => ⟨.broken breach, correspond⟩

/-- Two choices are in step if they are made alike and their branches are in step. -/
theorem ite {condition condition' : Prop} [Decidable condition] [Decidable condition']
    (agree : condition ↔ condition') {first first' : Action σ ε α} {second second' : Action τ ε β}
    (holds : InStep states same alike first second)
    (fails : InStep states same alike first' second') :
    InStep states same alike (if condition then first else first')
      (if condition' then second else second') := by
  by_cases condition
  · next holding => rwa [if_pos holding, if_pos (agree.mp holding)]
  · next failing => rwa [if_neg failing, if_neg (failing ∘ agree.mpr)]

/-- Two checks are in step if they check the same. -/
theorem ensure {condition condition' : Prop} [Decidable condition] [Decidable condition']
    (agree : condition ↔ condition') (breach : Breach) :
    InStep states same Eq (Action.ensure condition breach) (Action.ensure condition' breach) :=
  .ite agree (.pure rfl) (.abandon breach)

/-- What is put together from actions in step is in step. -/
theorem bind {first : Action σ ε α} {second : Action τ ε β} {next : α → Action σ ε γ}
    {next' : β → Action τ ε δ} (begins : InStep states same alike first second)
    (goesOn : ∀ value value', alike value value' →
      InStep states same alike' (next value) (next' value')) :
    InStep states same alike' (first >>= next) (second >>= next') := by
  intro before other correspond
  obtain ⟨ended, after⟩ := begins before other correspond
  rw [bind_apply, bind_apply]
  generalize first before = result at ended after
  generalize second other = result' at ended after
  obtain ⟨outcome, left⟩ := result
  obtain ⟨outcome', right⟩ := result'
  cases ended with
  | ok values => exact goesOn _ _ values left right after
  | error causes => exact ⟨.error causes, after⟩
  | broken breach => exact ⟨.broken breach, after⟩

/-- The same value is delivered on both sides, which go on with it. -/
theorem bind_eq {first : Action σ ε α} {second : Action τ ε α} {next : α → Action σ ε γ}
    {next' : α → Action τ ε δ} (begins : InStep states same Eq first second)
    (goesOn : ∀ value, InStep states same alike' (next value) (next' value)) :
    InStep states same alike' (first >>= next) (second >>= next') :=
  begins.bind fun value _ equal => equal ▸ goesOn value

/-- Actions in step stay so when the same is made of their values. -/
theorem map {first : Action σ ε α} {second : Action τ ε α} (convert : α → γ)
    (begins : InStep states same Eq first second) :
    InStep states same Eq (convert <$> first) (convert <$> second) := by
  rw [← bind_pure_comp, ← bind_pure_comp]
  exact begins.bind_eq fun value => .pure rfl

/-- Actions in step stay so when their errors are converted to errors that are the same again. -/
theorem mapError {first : Action σ ε α} {second : Action τ ε β} {convert : ε → ε'}
    (begins : InStep states same alike first second)
    (kept : ∀ cause cause', same cause cause' → same' (convert cause) (convert cause')) :
    InStep states same' alike (first.mapError convert) (second.mapError convert) := by
  intro before other correspond
  obtain ⟨ended, after⟩ := begins before other correspond
  simp only [Action.mapError]
  generalize first before = result at ended after
  generalize second other = result' at ended after
  obtain ⟨outcome, left⟩ := result
  obtain ⟨outcome', right⟩ := result'
  cases ended with
  | ok values => exact ⟨.ok values, after⟩
  | error causes => exact ⟨.error (kept _ _ causes), after⟩
  | broken breach => exact ⟨.broken breach, after⟩

/-- Both sides fail together, and go on with errors that correspond. -/
theorem attempt_bind {first : Action σ ε α} {second : Action τ ε β}
    {next : Except ε α → Action σ ε' γ} {next' : Except ε β → Action τ ε' δ}
    (begins : InStep states same alike first second)
    (delivers : ∀ value value', alike value value' →
      InStep states same' alike' (next (.ok value)) (next' (.ok value')))
    (fails : ∀ cause cause', same cause cause' →
      InStep states same' alike' (next (.error cause)) (next' (.error cause'))) :
    InStep states same' alike' (first.attempt >>= next) (second.attempt >>= next') := by
  intro before other correspond
  obtain ⟨ended, after⟩ := begins before other correspond
  simp only [bind_apply, Action.attempt]
  generalize first before = result at ended after
  generalize second other = result' at ended after
  obtain ⟨outcome, left⟩ := result
  obtain ⟨outcome', right⟩ := result'
  cases ended with
  | ok values => exact delivers _ _ values left right after
  | error causes => exact fails _ _ causes left right after
  | broken breach => exact ⟨.broken breach, after⟩

end Action.InStep

/-- The failure without the id of an object. -/
def Failure.anonymous : Failure → Failure
  | .notOpen _ => .notOpen ⟨0⟩
  | .notReadable _ => .notReadable ⟨0⟩
  | .notWritable _ => .notWritable ⟨0⟩
  | .nothingStaged _ => .nothingStaged ⟨0⟩
  | .seekOutOfRange _ target => .seekOutOfRange ⟨0⟩ target
  | failure => failure

/-- The error without the id of an object. -/
def RemoteError.anonymous : RemoteError → RemoteError
  | .generic failure => .generic failure.anonymous
  | cause => cause

/-- The error without the id of an object or a stream. -/
def StreamError.anonymous : StreamError → StreamError
  | .remote cause => .remote cause.anonymous
  | .badHandle _ => .badHandle ⟨0⟩
  | cause => cause

/-- Two errors that differ in ids only. -/
def RemoteError.Same (first second : RemoteError) : Prop := first.anonymous = second.anonymous

/-- Two errors that differ in ids only. -/
def StreamError.Same (first second : StreamError) : Prop := first.anonymous = second.anonymous

theorem StreamError.Same.refl (cause : StreamError) : cause.Same cause := rfl

/-- Errors of the remote side that are the same stay so when they are handed on. -/
theorem StreamError.Same.remote {first second : RemoteError} (same : first.Same second) :
    (StreamError.remote first).Same (.remote second) :=
  congrArg StreamError.remote same

/-- Every outcome corresponds to itself if every error does. -/
theorem Outcome.Matches.refl {ε α : Type} {same : ε → ε → Prop}
    (reflexive : ∀ cause, same cause cause) (outcome : Outcome ε α) :
    outcome.Matches same Eq outcome := by
  cases outcome with
  | ok value => exact .ok rfl
  | error cause => exact .error (reflexive cause)
  | broken breach => exact .broken breach

/-- Outcomes still correspond once the same is made of their values. -/
theorem Outcome.Matches.map {ε α β : Type} {same : ε → ε → Prop} {first second : Outcome ε α}
    (convert : α → β) (corresponds : first.Matches same Eq second) :
    (first.map convert).Matches same Eq (second.map convert) := by
  cases corresponds with
  | ok values => exact .ok (congrArg convert values)
  | error causes => exact .error causes
  | broken breach => exact .broken breach

/-- Outcomes that correspond are the same without ids. -/
theorem Outcome.Matches.anonymous {α : Type} {first second : Outcome StreamError α}
    (corresponds : first.Matches StreamError.Same Eq second) :
    first.mapError StreamError.anonymous = second.mapError StreamError.anonymous := by
  cases corresponds with
  | ok values => rw [values]
  | error causes => exact congrArg Outcome.error causes
  | broken breach => rfl

end RemoteStreams
