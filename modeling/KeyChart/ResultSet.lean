import KeyChart.Value

/-!
# Query results

Rows of values under column names. A column is found by the first name that
equals the one asked for; a row as a record keeps the last of equal names.
-/

namespace KeyChart

/-- Column names and rows of values. -/
structure ResultSet where
  columns : List String := []
  rows : List (List Value) := []
  deriving Inhabited

namespace ResultSet

/-- Position of a column. -/
def columnIndex? (r : ResultSet) (name : String) : Option Nat :=
  r.columns.findIdx? (· == name)

/-- The values of one column, from top to bottom. -/
def column? (r : ResultSet) (name : String) : Option (List Value) :=
  (r.columnIndex? name).map fun i => r.rows.map fun row => row.getD i .null

/-- One cell. -/
def value? (r : ResultSet) (row : Nat) (name : String) : Option Value :=
  (r.columnIndex? name).bind fun i => r.rows[row]?.map fun cells => cells.getD i .null

/-- One row as a record. -/
def record? (r : ResultSet) (row : Nat) : Option Record :=
  r.rows[row]?.map fun cells => SortedMap.ofList (r.columns.zip cells)

/-- The values of some rows in one column, empty cells if there is no such
column. -/
def pick (r : ResultSet) (name : String) (rows : List Nat) : List Value :=
  match r.columnIndex? name with
  | some i => rows.map fun row => (r.rows[row]?.getD []).getD i .null
  | none => rows.map fun _ => .null

end ResultSet

end KeyChart
