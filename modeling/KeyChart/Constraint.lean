import KeyChart.Table

/-!
# Constraints

What a catalog registers about its tables: candidate keys and foreign keys.
-/

namespace KeyChart

/-- A registered fact about one or two tables. -/
inductive Constraint where
  | primaryKey (table : String) (key : Key)
  | unique (table : String) (key : Key)
  | foreignKey (fk : ForeignKey)
  deriving DecidableEq

namespace Constraint

/-- The tables that a constraint is about. -/
def tables : Constraint → List String
  | primaryKey table _ | unique table _ => [table]
  | foreignKey fk => [fk.first.table, fk.second.table]

/-- The foreign key, if the constraint is one. -/
def foreignKey? : Constraint → Option ForeignKey
  | foreignKey fk => some fk
  | _ => none

end Constraint

end KeyChart
