import KeyChart.Mark.Placement
import KeyChart.Nest
import KeyChart.Schedule.Basic

/-!
# Charts

A chart holds a catalog of tables, the marks drawn over them, and how the marks
depend on each other: a mark may refer to others, and it may stand inside the
rows of another or inside a given box. Every edit below either succeeds or
leaves the chart as it was.
-/

namespace KeyChart

/-- The settings of a chart. Tables of drawn marks are named `stem_n`. -/
structure ChartConfig where
  width : Float := 800
  height : Float := 600
  tableStem : String := "mark"

/-- The box of the whole chart. -/
def ChartConfig.box (c : ChartConfig) : Box := ⟨0, 0, c.width, c.height⟩

/-- Where a mark stands: in a given box, or inside the rows of another mark. -/
inductive Nesting where
  | root (box : Box)
  | mark (nest : MarkNest)

/-- The mark in whose rows a nested mark stands. -/
def Nesting.outer? : Nesting → Option MarkId
  | root _ => none
  | mark nest => some nest.outer

/-- Tables, marks and their relations. `refs` are the dependencies that arise
from references, `nests` is by inner mark, `fragments` is what was drawn, and
`nextMark` has not been given out. -/
structure Chart where
  config : ChartConfig
  catalog : Catalog
  marks : SortedMap MarkId Mark
  nests : SortedMap MarkId Nesting
  refs : SortedSet Dependency
  schedule : Schedule
  fragments : SortedMap MarkId (List String)
  warnings : List Warning
  nextMark : Nat

namespace Chart

/-- The chart without tables and marks. -/
def ofConfig (config : ChartConfig) : Chart where
  config
  catalog := .empty
  marks := .empty
  nests := .empty
  refs := .empty
  schedule := .empty
  fragments := .empty
  warnings := []
  nextMark := 0

/-- The mark of an identity. -/
def mark (c : Chart) (id : MarkId) : Except Error Mark :=
  match c.marks.find? id with
  | some m => .ok m
  | none => .error (.unknownMark id)

/-- The warnings of nestings, then those of the marks' queries. -/
def allWarnings (c : Chart) : List Warning :=
  c.warnings ++ c.marks.values.flatMap fun m => (m.query.map MarkQuery.warnings).getD []

/-- The tables that hold drawn rows now, by mark. -/
def markTables (c : Chart) : SortedMap MarkId String :=
  (c.marks.filter fun _ m => c.catalog.containsTable m.table).mapValues fun _ m => m.table

/-- The mark in whose rows a mark stands. -/
def outer? (c : Chart) (id : MarkId) : Option MarkId :=
  (c.nests.find? id).bind Nesting.outer?

/-- The path from a nested mark's table to that of its outer mark. -/
def parentPath? (c : Chart) (id : MarkId) : Option JoinPath :=
  match c.nests.find? id with
  | some (.mark nest) => some nest.path
  | _ => none

/-- The query of a mark. References to marks need those to have been stored. -/
def compile (c : Chart) (id : MarkId) : Except Error MarkQuery :=
  match c.mark id with
  | .error e => .error e
  | .ok m => m.compile c.catalog (c.parentPath? id) c.markTables

/-! ## Adding marks -/

/-- Checks that a channel's reference can be followed: a mark has to be known,
and a table has to be reached. -/
def checkReference (c : Chart) (source : String) (channel : Channel) : Except Error Unit :=
  match channel.foreign? with
  | none => .ok ()
  | some ref =>
    match ref.target with
    | .mark id => (c.mark id).map fun _ => ()
    | _ => (Reference.resolve c.catalog source .empty ref).map fun _ => ()

/-- The name of the table for a new mark's drawn rows, and the catalog after
choosing it. -/
def newMarkTable (c : Chart) (id : MarkId) : String × Catalog :=
  let name := Catalog.numberedName c.config.tableStem id.index
  if c.catalog.containsTable name then c.catalog.freshTableName c.config.tableStem
  else (name, c.catalog)

/-- Registers a mark and the dependencies that its references make. -/
def insertMark (c : Chart) (m : Mark) : Chart :=
  { c with
    marks := c.marks.insert m.id m
    refs := m.refs.members.foldl (fun refs r => refs.insert ⟨r, m.id⟩) c.refs
    schedule := m.refs.members.foldl (fun g r => g.addDependency r m.id) (c.schedule.addMark m.id) }

/-- Adds a declared mark. -/
def addMark (c : Chart) (spec : MarkSpec) : Except Error (MarkId × Chart) := do
  let _ ← c.catalog.table spec.source
  let channels ← spec.classify c.catalog
  channels.forM fun channel => c.checkReference spec.source channel.2
  let id : MarkId := ⟨c.nextMark⟩
  let (table, catalog) := c.newMarkTable id
  let c := { c with catalog, nextMark := c.nextMark + 1 }
  return (id, c.insertMark (Mark.ofSpec id spec channels table))

/-! ## Nesting marks -/

/-- Fails unless the mark is known and stands nowhere yet. -/
def checkUnnested (c : Chart) (id : MarkId) : Except Error Unit :=
  match c.mark id with
  | .error e => .error e
  | .ok _ => if c.nests.contains id then .error (.alreadyNested id) else .ok ()

/-- The two ends of a new nesting. -/
def nestEnds (c : Chart) (inner outer : MarkId) : Except Error (NestEnd × NestEnd) := do
  c.checkUnnested inner
  if inner = outer then throw (.nestedInItself inner)
  let innerMark ← c.mark inner
  let outerMark ← c.mark outer
  return (⟨inner, innerMark.source⟩, ⟨outer, outerMark.source⟩)

/-- Registers a nesting; the inner mark then depends on the outer one. -/
def insertNest (c : Chart) (nest : MarkNest) : Chart :=
  { c with
    nests := c.nests.insert nest.inner (.mark nest)
    schedule := c.schedule.addDependency nest.outer nest.inner }

/-- Gives a mark a box of its own. -/
def nestInRoot (c : Chart) (id : MarkId) (box : Box) : Except Error Chart :=
  (c.checkUnnested id).map fun _ => { c with nests := c.nests.insert id (.root box) }

/-- Nests a mark in another along the shortest path between their tables. -/
def nest (c : Chart) (inner outer : MarkId) : Except Error Chart := do
  let ends ← c.nestEnds inner outer
  let (nest, warnings) ← MarkNest.shortest c.catalog ends.1 ends.2
  return { c with warnings := c.warnings ++ warnings }.insertNest nest

/-- Nests a mark in another along a key with the given attributes of the inner
mark's table. -/
def nestOn (c : Chart) (inner outer : MarkId) (attrs : List String) : Except Error Chart := do
  let ends ← c.nestEnds inner outer
  let nest ← MarkNest.byAttributes c.catalog ends.1 ends.2 attrs
  return c.insertNest nest

/-- Nests a mark in another along a given foreign key. -/
def nestVia (c : Chart) (inner outer : MarkId) (constraint : ConstraintId) :
    Except Error Chart := do
  let ends ← c.nestEnds inner outer
  let nest ← MarkNest.across c.catalog ends.1 ends.2 constraint
  return c.insertNest nest

/-! ## Order and levels -/

/-- The level of a mark, at most `fuel` below a mark without an outer mark. -/
def levelWithin (c : Chart) : Nat → MarkId → Option Nat
  | 0, _ => none
  | fuel + 1, id =>
    match c.outer? id with
    | none => some 0
    | some outer => (c.levelWithin fuel outer).map (· + 1)

/-- The level of a mark: how many marks it stands in. There is none if its outer
marks go round in a circle; without a circle no mark comes twice. -/
def level? (c : Chart) (id : MarkId) : Option Nat := c.levelWithin c.marks.keys.length id

/-- Sets the levels of all marks. -/
def setLevels (c : Chart) : Except Error Chart :=
  let endless := c.marks.keys.filter fun id => (c.level? id).isNone
  if endless.isEmpty then
    .ok { c with marks := c.marks.mapValues fun id m => { m with level := (c.level? id).getD 0 } }
  else .error (.cycle endless)

/-- The edges from each mark that has to come first to the mark that needs it. -/
def dependencyEdges (c : Chart) : List (MarkId × MarkId) :=
  c.refs.members.map Dependency.edge ++
    c.nests.entries.filterMap fun e => e.2.outer?.map fun outer => (outer, e.1)

/-- The marks in an order in which outer marks and marks that are referred to
come first. -/
def sortedMarks (c : Chart) : Except Error (List MarkId) :=
  Schedule.orderMarks c.marks.keys c.dependencyEdges

end Chart

end KeyChart
