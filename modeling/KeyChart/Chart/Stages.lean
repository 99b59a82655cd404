import KeyChart.Chart.Session

/-!
# The stages of a mark

What each stage of a mark does: ask the engine for its rows, place them in the
boxes of their outer rows, draw them, and store what was drawn as a table that
other marks can refer to.
-/

namespace KeyChart

/-! ## What is stored -/

/-- The box of a drawn row. -/
def elementBox? (element : Record) : Option Box := do
  let number (name : String) := (element.find? name).bind Value.toFloat?
  let x ← number "x"
  let y ← number "y"
  return ⟨x, y, (number "width").getD 0, (number "height").getD 0⟩

/-- A drawn row as it is stored: without its identity, numbers as floats. -/
def storedElement (element : Record) : Record :=
  (element.filter fun name _ => name != rowId).mapValues fun _ v => v.coerceNumeric

/-- The kinds of the columns that hold drawn rows: text as soon as one row holds
something that is neither a number nor null. -/
def storedTypes (elements : List Record) : SortedMap String ColumnType :=
  elements.foldl
    (fun types element =>
      element.entries.foldl
        (fun types e =>
          let before := (types.find? e.1).getD .numeric
          let isText := !(e.2.isNull || e.2.isNumeric)
          types.insert e.1 (if isText then .string else before))
        types)
    .empty

/-- A table as it is stored: columns after the row identity, and rows that start
with it. -/
structure StoredTable where
  columns : List Attribute
  rows : List (List Value)

/-- The columns of a stored table with the row identity. -/
def StoredTable.allColumns (t : StoredTable) : List Attribute := ⟨rowId, .numeric⟩ :: t.columns

/-- Drawn rows as a table, in the order of their identities. -/
def storedTable (attributes : SortedMap Int Record) : StoredTable :=
  let elements := attributes.mapValues fun _ element => storedElement element
  let columns := (storedTypes elements.values).entries.map fun e => (⟨e.1, e.2⟩ : Attribute)
  { columns
    rows := elements.entries.map fun e =>
      .int e.1 :: columns.map fun column => (e.2.find? column.name).getD .null }

/-- The definitions of the columns of a table of drawn rows. -/
def columnDefs (columns : List Attribute) : List ColumnDef :=
  columns.map fun a =>
    if a.name = rowId then ⟨a.name, "INTEGER", true⟩ else ⟨a.name, a.type.toSql, false⟩

namespace Session

variable {σ ρ : Type}

/-- Asks the engine for the rows of a mark; the query also becomes a view. -/
def runQuery (b : Backend σ ρ) (id : MarkId) : Attempt (Session σ ρ) Unit := do
  let query ← ask fun c => c.compile id
  let m ← ask fun c => c.mark id
  onEngine (b.engine.createView (m.table ++ "_q") query.sql)
  let result ← onEngine (b.engine.execute query.sql)
  updateMark id fun m => { m with query := some query, result := some result }

/-- The boxes of an outer mark's drawn rows, by row identity. -/
def elementBoxes (m : Mark) : List (Int × Box) :=
  m.attributes.entries.filterMap fun e => (elementBox? e.2).map fun box => (e.1, box)

/-- The box of the outer row of a group: that of the drawn row, or the mark's own
box if it stands in no other mark. -/
def boxOf (c : Chart) (id : MarkId) : Except Error (Value → Option Box) :=
  match c.nests.find? id with
  | some (.mark nest) =>
    (c.mark nest.outer).map fun outer =>
      let boxes := elementBoxes outer
      fun parent => parent.toInt?.bind fun row => boxes.lookup row
  | some (.root box) => .ok fun _ => some box
  | none => .ok fun _ => some c.config.box

/-- Places the rows of a mark. -/
def runLayout (id : MarkId) : Attempt (Session σ ρ) Unit := do
  let box ← ask fun c => boxOf c id
  updateMark id fun m => m.layOut box

/-- Drawn rows by identity; of rows with one identity the last counts, and a row
without one is left out. -/
def drawnRows (drawings : List Drawing) : SortedMap Int Record :=
  (drawings.flatMap Drawing.elements).foldl
    (fun rows element =>
      match (element.find? rowId).bind Value.toInt? with
      | some row => rows.insert row element
      | none => rows)
    .empty

/-- Draws the placed rows of a mark. -/
def runRender (b : Backend σ ρ) (id : MarkId) : Attempt (Session σ ρ) Unit := do
  let m ← ask fun c => c.mark id
  let drawings ← m.partitions.mapM fun p => onRenderer (b.renderer.draw m.shape p.arrays p.box)
  edit fun c => .ok ((), { c with fragments := c.fragments.insert id (drawings.map Drawing.fragment) })
  updateMark id fun m => { m with attributes := drawnRows drawings }

/-- Creates the table of a mark's drawn rows and ties its row identity to that of
the mark's source. -/
def createMarkTable (b : Backend σ ρ) (table source : String) (columns : List Attribute) :
    Attempt (Session σ ρ) Unit := do
  onEngine (b.engine.createTable table (columnDefs columns))
  let registered ← Attempt.ofExcept (Table.ofAttributes table columns true)
  onCatalog (Attempt.atomic fun c => (c.addTable registered).map fun c => ((), c))
  onCatalog (Attempt.atomic fun c =>
    (c.addConstraint none (.primaryKey table (SortedSet.ofList [rowId]))).map fun r => ((), r.2))
  onCatalog (Attempt.atomic fun c =>
    (c.addForeignKey table [rowId] source [rowId]).map fun r => ((), r.2))

/-- Empties the table of a mark's drawn rows. If its columns are not those that
are wanted now, the table is made anew. -/
def prepareMarkTable (b : Backend σ ρ) (table source : String) (wanted : List Attribute) :
    Attempt (Session σ ρ) Unit := do
  let present ← onEngine (b.engine.columns table)
  if present = wanted && (← get).chart.catalog.containsTable table then
    onEngine (b.engine.run ("DELETE FROM " ++ quoteIdent table))
  else
    unless present.isEmpty do
      onEngine (b.engine.dropTable table)
    if (← get).chart.catalog.containsTable table then
      onCatalog (Attempt.atomic fun c => (c.dropTable table).map fun r => ((), r.2))
    createMarkTable b table source wanted

/-- Stores the drawn rows of a mark. -/
def runPersist (b : Backend σ ρ) (id : MarkId) : Attempt (Session σ ρ) Unit := do
  let m ← ask fun c => c.mark id
  let stored := storedTable m.attributes
  prepareMarkTable b m.table m.source stored.allColumns
  onEngine (b.engine.insertRows m.table (stored.allColumns.map Attribute.name) stored.rows)

/-- Runs one stage of one mark. -/
def runTask (b : Backend σ ρ) (t : Task) : Attempt (Session σ ρ) Unit :=
  match t.stage with
  | .query => runQuery b t.mark
  | .layout => runLayout t.mark
  | .render => runRender b t.mark
  | .persist => runPersist b t.mark

/-- Brings every mark up to date. What was drawn before is dropped first, unless
the marks cannot be ordered. -/
def run (b : Backend σ ρ) : Attempt (Session σ ρ) Unit := do
  edit fun c => c.setLevels.map fun c => ((), c)
  let _ ← ask fun c => c.sortedMarks
  edit fun c => .ok ((), { c with fragments := .empty })
  let s ← get
  let (outcome, schedule, s) := s.chart.schedule.execute (fun _ t => runTask b t) s
  set { s with chart := { s.chart with schedule } }
  Attempt.ofExcept outcome

/-- Everything drawn, as a document, in the order of the marks. -/
def document (b : Backend σ ρ) : Attempt (Session σ ρ) String :=
  ask fun c => do
    let order ← c.sortedMarks
    let fragments := order.flatMap fun id => (c.fragments.find? id).getD []
    b.renderer.compose c.config.box fragments

end Session

end KeyChart
