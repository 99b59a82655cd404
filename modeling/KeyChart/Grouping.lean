import KeyChart.ResultSet
import KeyChart.Schema

/-!
# Rows by outer row

A nested mark's result names, for each row, the outer row that it belongs to.
The rows are grouped by it, down to the form and the bits of the value, in the
order in which the outer rows first appear.
-/

namespace KeyChart

/-- The rows of one outer row, by position. -/
structure RowGroup where
  parent : Value
  rows : List Nat

namespace RowGroup

/-- Adds a row to the group of its outer row. -/
def add (parent : Value) (row : Nat) : List RowGroup → List RowGroup
  | [] => [⟨parent, [row]⟩]
  | g :: rest =>
    if g.parent.same parent then ⟨g.parent, g.rows ++ [row]⟩ :: rest
    else g :: add parent row rest

/-- Adds rows by the outer rows that they name, counting from `row`. -/
def addAll (groups : List RowGroup) (row : Nat) : List Value → List RowGroup
  | [] => groups
  | parent :: rest => addAll (add parent row groups) (row + 1) rest

/-- The rows of a result by outer row. Without a column for it they are one
group under null. -/
def ofResult (r : ResultSet) : List RowGroup :=
  match r.column? parentId with
  | none => [⟨.null, List.range r.rows.length⟩]
  | some parents => addAll [] 0 parents

end RowGroup

end KeyChart
