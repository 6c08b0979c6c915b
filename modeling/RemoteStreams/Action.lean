import RemoteStreams.Outcome

/-!
# Actions

An action changes a state and ends with an outcome. The state it leaves behind
counts in every case: an action that fails half way keeps what it did until
then. Errors can be looked at with `attempt`; a breach passes through.
-/

namespace RemoteStreams

/-- A step on a state `σ` that may fail with an `ε`. -/
def Action (σ ε α : Type) : Type := σ → Outcome ε α × σ

namespace Action

variable {σ τ ε ε' α β : Type}

/-- Delivers `value` and changes nothing. -/
protected def pure (value : α) : Action σ ε α := fun state => (.ok value, state)

/-- Goes on with `next` if `first` delivers a value. -/
protected def bind (first : Action σ ε α) (next : α → Action σ ε β) : Action σ ε β :=
  fun state =>
    match first state with
    | (.ok value, state) => next value state
    | (.error cause, state) => (.error cause, state)
    | (.broken breach, state) => (.broken breach, state)

instance : Monad (Action σ ε) where
  pure := Action.pure
  bind := Action.bind

/-- The current state. -/
def get : Action σ ε σ := fun state => (.ok state, state)

/-- Replaces the state. -/
def set (state : σ) : Action σ ε Unit := fun _ => (.ok (), state)

/-- Changes the state. -/
def modify (change : σ → σ) : Action σ ε Unit := fun state => (.ok (), change state)

/-- Ends with an error. -/
def fail (cause : ε) : Action σ ε α := fun state => (.error cause, state)

/-- Ends with a breach. -/
def abandon (breach : Breach) : Action σ ε α := fun state => (.broken breach, state)

/-- Ends with `breach` unless `condition` holds. -/
def ensure (condition : Prop) [Decidable condition] (breach : Breach) : Action σ ε Unit :=
  if condition then pure () else abandon breach

/-- Delivers the error of `body`, if it ends with one, as a value. -/
def attempt (body : Action σ ε α) : Action σ ε' (Except ε α) := fun state =>
  match body state with
  | (.ok value, state) => (.ok (.ok value), state)
  | (.error cause, state) => (.ok (.error cause), state)
  | (.broken breach, state) => (.broken breach, state)

/-- Runs `body` on a part of a larger state. -/
def within (part : τ → σ) (replace : σ → τ → τ) (body : Action σ ε α) : Action τ ε α :=
  fun whole =>
    let (outcome, inner) := body (part whole)
    (outcome, replace inner whole)

/-- Converts the error of `body`. -/
def mapError (convert : ε → ε') (body : Action σ ε α) : Action σ ε' α := fun state =>
  let (outcome, state) := body state
  (outcome.mapError convert, state)

@[simp] theorem pure_apply (value : α) (state : σ) :
    (pure value : Action σ ε α) state = (.ok value, state) := rfl

/-- A sequence of actions stops at the first one that delivers no value, in the state that this one
left. -/
theorem bind_apply (first : Action σ ε α) (next : α → Action σ ε β) (state : σ) :
    (first >>= next) state =
      match first state with
      | (.ok value, state) => next value state
      | (.error cause, state) => (.error cause, state)
      | (.broken breach, state) => (.broken breach, state) := rfl

/-- What is made of a value changes neither the state nor a failure. -/
theorem map_apply (convert : α → β) (body : Action σ ε α) (state : σ) :
    (convert <$> body) state = ((body state).1.map convert, (body state).2) := by
  change Action.bind body (fun value => Action.pure (convert value)) state = _
  unfold Action.bind
  rcases body state with ⟨_ | _ | _, _⟩ <;> rfl

@[simp] theorem get_apply (state : σ) : (get : Action σ ε σ) state = (.ok state, state) := rfl

@[simp] theorem set_apply (replacement state : σ) :
    (set replacement : Action σ ε Unit) state = (.ok (), replacement) := rfl

@[simp] theorem modify_apply (change : σ → σ) (state : σ) :
    (modify change : Action σ ε Unit) state = (.ok (), change state) := rfl

@[simp] theorem fail_apply (cause : ε) (state : σ) :
    (fail cause : Action σ ε α) state = (.error cause, state) := rfl

@[simp] theorem abandon_apply (breach : Breach) (state : σ) :
    (abandon breach : Action σ ε α) state = (.broken breach, state) := rfl

/-- A choice between two actions is made before either of them sees the state. -/
@[simp] theorem ite_apply (condition : Prop) [Decidable condition]
    (first second : Action σ ε α) (state : σ) :
    (if condition then first else second) state =
      if condition then first state else second state := by
  split <;> rfl

/-- A sequence delivers a value exactly when both of its steps do. -/
theorem bind_eq_ok_iff {first : Action σ ε α} {next : α → Action σ ε β} {before after : σ}
    {value : β} :
    (first >>= next) before = (.ok value, after) ↔
      ∃ middle between, first before = (.ok middle, between) ∧
        next middle between = (.ok value, after) := by
  rw [bind_apply]
  constructor
  · intro delivered
    split at delivered
    · exact ⟨_, _, ‹_›, delivered⟩
    · simp at delivered
    · simp at delivered
  · rintro ⟨middle, between, firstDelivers, nextDelivers⟩
    rw [firstDelivers]
    exact nextDelivers

/-- Values that are handed on as they are leave an action what it is. -/
theorem id_map_apply (body : Action σ ε α) (state : σ) : (id <$> body) state = body state := by
  change Action.bind body Action.pure state = body state
  unfold Action.bind
  split <;> simp_all [Action.pure]

/-- Three actions in a row end alike however they are put together. -/
theorem bind_assoc_apply {γ : Type} (first : Action σ ε α) (second : α → Action σ ε β)
    (third : β → Action σ ε γ) (state : σ) :
    (first >>= second >>= third) state = (first >>= fun value => second value >>= third) state := by
  simp only [bind_apply]
  rcases first state with ⟨_ | _ | _, _⟩ <;> rfl

instance : LawfulMonad (Action σ ε) :=
  LawfulMonad.mk' (Action σ ε) (fun body => funext (id_map_apply body)) (fun _ _ => rfl)
    (fun first second third => funext (bind_assoc_apply first second third))

end Action

end RemoteStreams
