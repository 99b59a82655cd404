import KeyChart.Drawing.Svg
import KeyChart.Engine

/-!
# Rehearsals

Stand-ins for an engine and a renderer. The engine holds no rows: it notes every
call, hands out results that were prepared, and remembers only which columns a
table has. Both can be told to refuse some of their calls.
-/

namespace KeyChart.Rehearsal

/-- A call of an engine. -/
inductive Call where
  | execute (sql : String)
  | run (sql : String)
  | createTable (name : String) (columns : List ColumnDef)
  | createTableAs (name query : String)
  | dropTable (name : String)
  | createView (name query : String)
  | insertRows (table : String) (columns : List String) (rows : List (List Value))
  | columns (table : String)
  | constraints (table : String)

/-- The name of the operation that is called. -/
def Call.operation : Call → String
  | execute _ => "execute"
  | run _ => "run"
  | createTable _ _ => "create_table"
  | createTableAs _ _ => "create_table_as"
  | dropTable _ => "drop_table"
  | createView _ _ => "create_view"
  | insertRows _ _ _ => "insert_rows"
  | columns _ => "columns"
  | constraints _ => "constraints"

/-- What is remembered of a table. -/
structure KnownTable where
  columns : List Attribute
  constraints : List TableConstraint

/-- The state of the engine. `refused` says by operation which of its calls,
counted from zero, fail; `calls` are the calls so far, the last one first. -/
structure Script where
  results : List ResultSet
  tables : SortedMap String KnownTable
  refused : List (String × List Nat)
  calls : List Call

/-- Notes a call; a refused one fails. -/
def note (call : Call) : Attempt Script Unit := do
  let s ← get
  let count := (s.calls.filter (·.operation == call.operation)).length
  set { s with calls := call :: s.calls }
  if ((s.refused.lookup call.operation).getD []).contains count then
    throw (.render (call.operation ++ " failed"))

/-- Changes what is remembered of the tables. -/
def remember (f : SortedMap String KnownTable → SortedMap String KnownTable) :
    Attempt Script Unit :=
  modify fun s => { s with tables := f s.tables }

/-- The engine. Without a prepared result left, a query returns nothing. -/
def engine : Engine Script where
  execute sql := do
    note (.execute sql)
    let s ← get
    match s.results with
    | [] => return {}
    | result :: rest =>
      set { s with results := rest }
      return result
  run sql := note (.run sql)
  createTable name columns := do
    note (.createTable name columns)
    let attributes := columns.map fun c => (⟨c.name, ColumnType.ofSql c.sqlType⟩ : Attribute)
    remember fun tables => tables.insert name ⟨attributes, []⟩
  createTableAs name query := note (.createTableAs name query)
  dropTable name := do
    note (.dropTable name)
    remember fun tables => tables.erase name
  createView name query := note (.createView name query)
  insertRows table columns rows := note (.insertRows table columns rows)
  columns table := do
    note (.columns table)
    return (((← get).tables.find? table).map KnownTable.columns).getD []
  constraints table := do
    note (.constraints table)
    return (((← get).tables.find? table).map KnownTable.constraints).getD []

/-- A renderer of SVG that refuses some of its calls, counted from zero; its
state is the number of calls so far. -/
def renderer (m : TextMetrics) (refused : List Nat) : Renderer Nat where
  draw shape arrays box := do
    let count ← get
    set (count + 1)
    if refused.contains count then throw (.render "draw failed")
    return Svg.draw m shape arrays box
  compose box fragments := .ok (Svg.compose box fragments)

end KeyChart.Rehearsal
