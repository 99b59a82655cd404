import KeyChart.Catalog.Load
import KeyChart.Chart.Basic
import KeyChart.Engine

/-!
# Sessions

A chart together with the states of the engine that answers its queries and the
renderer that draws it. The operations here ask both; what they have done
before a failure stays done.
-/

namespace KeyChart

/-- A chart and the states of what it works with. -/
structure Session (σ ρ : Type) where
  chart : Chart
  engine : σ
  renderer : ρ

/-- What a chart works with. -/
structure Backend (σ ρ : Type) where
  engine : Engine σ
  renderer : Renderer ρ

namespace Session

variable {σ ρ α : Type}

/-- An operation of the engine. -/
def onEngine (op : Attempt σ α) : Attempt (Session σ ρ) α :=
  Attempt.within Session.engine (fun engine s => { s with engine }) op

/-- An operation of the renderer. -/
def onRenderer (op : Attempt ρ α) : Attempt (Session σ ρ) α :=
  Attempt.within Session.renderer (fun renderer s => { s with renderer }) op

/-- An operation on the catalog. -/
def onCatalog (op : Attempt Catalog α) : Attempt (Session σ ρ) α :=
  Attempt.within (fun s => s.chart.catalog)
    (fun catalog s => { s with chart := { s.chart with catalog } }) op

/-- An edit of the chart. -/
def edit (f : Chart → Except Error (α × Chart)) : Attempt (Session σ ρ) α :=
  Attempt.atomic fun s => (f s.chart).map fun (a, chart) => (a, { s with chart })

/-- A question about the chart. -/
def ask (f : Chart → Except Error α) : Attempt (Session σ ρ) α :=
  Attempt.ask fun s => f s.chart

/-- Changes one mark, if it is known. -/
def updateMark (id : MarkId) (f : Mark → Mark) : Attempt (Session σ ρ) Unit :=
  edit fun c => (c.mark id).map fun m => ((), { c with marks := c.marks.insert id (f m) })

/-! ## Tables -/

/-- Runs a script in the engine and registers what it declares. -/
def loadDdl (b : Backend σ ρ) (sql : String) : Attempt (Session σ ρ) (List String) := do
  onEngine (b.engine.run sql)
  onCatalog (Catalog.loadDdl sql)

/-- Registers a constraint that the engine reports about a table. A foreign key
to a table that the catalog does not know is passed over. -/
def importConstraint (table : String) : TableConstraint → Attempt Catalog Unit
  | .primaryKey columns => Attempt.atomic fun c =>
      (c.addConstraint none (.primaryKey table (SortedSet.ofList columns))).map fun r => ((), r.2)
  | .unique columns => Attempt.atomic fun c =>
      (c.addConstraint none (.unique table (SortedSet.ofList columns))).map fun r => ((), r.2)
  | .foreignKey columns target targetColumns => Attempt.atomic fun c =>
      if c.containsTable target then
        (c.addForeignKey table columns target targetColumns).map fun r => ((), r.2)
      else .ok ((), c)

/-- Registers a table of the engine with its constraints. -/
def importTable (b : Backend σ ρ) (name : String) : Attempt (Session σ ρ) Unit := do
  let columns ← onEngine (b.engine.columns name)
  if columns.isEmpty then throw (.unknownTable name)
  let constraints ← onEngine (b.engine.constraints name)
  let table ← Attempt.ofExcept (Table.ofAttributes name columns)
  onCatalog (Attempt.atomic fun c => (c.addTable table).map fun c => ((), c))
  for constraint in constraints do
    onCatalog (importConstraint name constraint)

/-- Stores the rows of a query as a table and registers it. -/
def deriveTable (b : Backend σ ρ) (name query : String) : Attempt (Session σ ρ) Unit := do
  if (← get).chart.catalog.containsTable name then throw (.duplicateTable name)
  onEngine (b.engine.createTableAs name query)
  importTable b name

end Session

end KeyChart
