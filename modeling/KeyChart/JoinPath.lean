import KeyChart.ForeignKey

/-!
# Join paths

A path leads from one table to another across foreign keys, step by step.
-/

namespace KeyChart

/-- One step across a foreign key, in the direction in which it is joined. -/
structure JoinStep where
  constraint : ConstraintId
  source : KeySide
  target : KeySide
  deriving DecidableEq, Repr, Inhabited

/-- The same step in the other direction. -/
def JoinStep.reverse (s : JoinStep) : JoinStep := ⟨s.constraint, s.target, s.source⟩

/-- A chain of steps from a table. -/
structure JoinPath where
  source : String
  steps : List JoinStep
  deriving DecidableEq, Repr, Inhabited

namespace JoinPath

/-- The path that stays where it is. -/
def stay (table : String) : JoinPath := ⟨table, []⟩

/-- The table in which a path ends. -/
def destination (p : JoinPath) : String :=
  (p.steps.getLast?.map (·.target.table)).getD p.source

/-- The constraints along a path. -/
def signature (p : JoinPath) : List ConstraintId := p.steps.map JoinStep.constraint

/-- The first constraint of a path. -/
def firstConstraint? (p : JoinPath) : Option ConstraintId := p.signature.head?

/-- The tables that a path visits, in order. -/
def tables (p : JoinPath) : List String := p.source :: p.steps.map (·.target.table)

/-- The path with one more step. -/
def extend (p : JoinPath) (s : JoinStep) : JoinPath := ⟨p.source, p.steps ++ [s]⟩

/-- The same joins from the destination back to the source. -/
def reverse (p : JoinPath) : JoinPath := ⟨p.destination, p.steps.reverse.map JoinStep.reverse⟩

/-- A path in messages: `A -[c0]-> B`. -/
def label (p : JoinPath) : String :=
  p.source ++ String.join (p.steps.map fun s =>
    " -[" ++ s.constraint.label ++ "]-> " ++ s.target.table)

end JoinPath

end KeyChart
