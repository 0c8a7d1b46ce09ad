import RegisterLink.Error

/-!
# Actions

An action works on a state. It completes with a value, fails with an error, or waits for something
that never comes; in every case the state it leaves behind is known. Actions run one after the
other, and the first that does not complete ends the sequence.
-/
namespace RegisterLink

inductive Outcome (α : Type) where
  | done (value : α)
  | failed (error : Error)
  | blocked
  deriving DecidableEq, Repr

/-- Work on a state of type `σ` that ends with a value of type `α`, if it completes. -/
def Action (σ α : Type) : Type := σ → Outcome α × σ

namespace Action

variable {σ τ α β : Type}

protected def pure (value : α) : Action σ α := fun state => (.done value, state)

/-- Goes on with `next` if the first action completes. -/
protected def bind (act : Action σ α) (next : α → Action σ β) : Action σ β := fun state =>
  match act state with
  | (.done value, state) => next value state
  | (.failed error, state) => (.failed error, state)
  | (.blocked, state) => (.blocked, state)

instance : Monad (Action σ) where
  pure := Action.pure
  bind := Action.bind

def fail (error : Error) : Action σ α := fun state => (.failed error, state)

/-- Completes or fails as a computation did that needs no state. -/
def ofExcept : Except Error α → Action σ α
  | .ok value => pure value
  | .error error => fail error

/-- Runs an action on one part of a state and puts back what it leaves of that part. -/
def within (part : σ → τ) (replace : σ → τ → σ) (act : Action τ α) : Action σ α := fun state =>
  let (outcome, rest) := act (part state)
  (outcome, replace state rest)

theorem bind_of_done {act : Action σ α} {next : α → Action σ β} {state after : σ} {value : α}
    (h : act state = (.done value, after)) : (act >>= next) state = next value after := by
  change Action.bind act next state = _
  rw [Action.bind, h]

theorem bind_of_failed {act : Action σ α} {next : α → Action σ β} {state after : σ} {error : Error}
    (h : act state = (.failed error, after)) :
    (act >>= next) state = (.failed error, after) := by
  change Action.bind act next state = _
  rw [Action.bind, h]

theorem bind_of_blocked {act : Action σ α} {next : α → Action σ β} {state after : σ}
    (h : act state = (.blocked, after)) : (act >>= next) state = (.blocked, after) := by
  change Action.bind act next state = _
  rw [Action.bind, h]

end Action

end RegisterLink
