import KeyChart.Error

/-!
# Operations that may fail half-way

An operation on a state that can stop with an error. What it did before it
stopped stays done; operations that change nothing when they fail are made from
functions that only hand back a state on success.
-/

namespace KeyChart

/-- An operation on a state, with a result or an error. -/
abbrev Attempt (σ α : Type) : Type := ExceptT Error (StateM σ) α

namespace Attempt

variable {σ τ α : Type}

/-- An operation that changes the state only if it succeeds. -/
def atomic (f : σ → Except Error (α × σ)) : Attempt σ α :=
  ExceptT.mk fun s =>
    match f s with
    | .ok (a, s') => (.ok a, s')
    | .error e => (.error e, s)

/-- A question about the state. -/
def ask (f : σ → Except Error α) : Attempt σ α :=
  ExceptT.mk fun s => (f s, s)

/-- A result or an error that does not depend on the state. -/
def ofExcept (r : Except Error α) : Attempt σ α := ask fun _ => r

/-- An operation on a part of the state. -/
def within (part : σ → τ) (put : τ → σ → σ) (op : Attempt τ α) : Attempt σ α :=
  ExceptT.mk fun s =>
    let (r, t) := op.run.run (part s)
    (r, put t s)

end Attempt

end KeyChart
