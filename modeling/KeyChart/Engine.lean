import KeyChart.Attempt
import KeyChart.ResultSet
import KeyChart.Schema

/-!
# Engines

What answers queries and stores rows. An engine is a record of operations on a
state of its own, so that anything that keeps tables can serve as one.
-/

namespace KeyChart

/-- A column of a table to be created. -/
structure ColumnDef where
  name : String
  sqlType : String
  primaryKey : Bool := false
  deriving DecidableEq, Repr

/-- A column in the statement that creates its table. -/
def ColumnDef.toSql (c : ColumnDef) : String :=
  quoteIdent c.name ++ " " ++ c.sqlType ++ if c.primaryKey then " PRIMARY KEY" else ""

/-- The statement that creates a table. -/
def createTableSql (name : String) (columns : List ColumnDef) : String :=
  "CREATE TABLE " ++ quoteIdent name ++ " (" ++
    ", ".intercalate (columns.map ColumnDef.toSql) ++ ")"

/-- A constraint that an engine reports about a table. -/
inductive TableConstraint where
  | primaryKey (columns : List String)
  | unique (columns : List String)
  | foreignKey (columns : List String) (target : String) (targetColumns : List String)
  deriving DecidableEq, Repr

/-- The operations of an engine. -/
structure Engine (σ : Type) where
  /-- Runs a query and collects its rows. -/
  execute : String → Attempt σ ResultSet
  /-- Runs statements that return no rows. -/
  run : String → Attempt σ Unit
  createTable : String → List ColumnDef → Attempt σ Unit
  /-- Stores the rows of a query in a new table. -/
  createTableAs : String → String → Attempt σ Unit
  dropTable : String → Attempt σ Unit
  /-- Creates or replaces a view. -/
  createView : String → String → Attempt σ Unit
  insertRows : String → List String → List (List Value) → Attempt σ Unit
  /-- The columns of a table in order, none if it does not exist. -/
  columns : String → Attempt σ (List Attribute)
  constraints : String → Attempt σ (List TableConstraint)

end KeyChart
