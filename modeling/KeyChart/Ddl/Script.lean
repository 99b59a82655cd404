import KeyChart.Schema

/-!
# Declarations of a script

What a data definition script declares: tables with their columns and keys,
and foreign keys, each list in declaration order.
-/

namespace KeyChart.Ddl

/-- A declared column. `sqlType` is the text of its type. -/
structure ColumnDecl where
  name : String
  sqlType : String
  type : ColumnType
  notNull : Bool := false
  deriving DecidableEq, Repr

/-- A declared table. No primary key is an empty one. -/
structure TableDecl where
  name : String
  columns : List ColumnDecl := []
  primaryKey : List String := []
  uniques : List (List String) := []
  deriving DecidableEq, Repr

/-- A declared foreign key, from columns of its table to columns of the target. -/
structure ForeignKeyDecl where
  name : Option String
  table : String
  columns : List String
  target : String
  targetColumns : List String
  deriving DecidableEq, Repr

/-- The declarations of a script. -/
structure Script where
  tables : List TableDecl := []
  foreignKeys : List ForeignKeyDecl := []
  deriving DecidableEq, Repr

/-- The declarations of one script and then those of another. -/
def Script.append (a b : Script) : Script :=
  ⟨a.tables ++ b.tables, a.foreignKeys ++ b.foreignKeys⟩

end KeyChart.Ddl
