import KeyChart.Mark.Reference
import KeyChart.Query.Statement

/-!
# The query of a mark

A mark's channels, filters and sort keys become one statement with one row for
each row of the mark's table. References that follow the same joins share a
sub-query, and references to the same column of it share a result column. A
nested mark's statement also pairs each row with its outer row.
-/

namespace KeyChart

open Query

/-- A condition on a mark's rows. `column` is an attribute or a channel. -/
structure Filter where
  column : String
  comparison : Comparison
  value : Value

/-- A sort key of a mark's rows. `column` is an attribute or a channel. -/
structure OrderBy where
  column : String
  descending : Bool
  deriving DecidableEq, Repr

/-- What a mark asks for. -/
structure Request where
  source : String
  channels : List (String × Channel)
  filters : List Filter
  orderBy : List OrderBy

/-- A mark's statement, the result column behind each channel that has one, the
joined paths, and the warnings that arose. -/
structure MarkQuery where
  statement : Statement
  columns : SortedMap String String
  paths : List JoinPath
  warnings : List Warning

/-- The text of a query. -/
def MarkQuery.sql (q : MarkQuery) : String := q.statement.toSql

namespace MarkQuery

/-! ## Planning -/

/-- A column that a sub-query is asked for, and its name in the result. -/
structure PlannedColumn where
  column : Option String
  aggregate : Option Aggregate
  resultName : String
  deriving DecidableEq, Repr

/-- A sub-query along one path. -/
structure PlannedJoin where
  name : String
  path : JoinPath
  columns : List PlannedColumn
  deriving DecidableEq, Repr

/-- What is planned for the channels so far. `used` holds the names of result
columns, `columns` and `places` say by channel where its values are found. -/
structure Plan where
  used : SortedSet String
  joins : List PlannedJoin
  columns : SortedMap String String
  places : SortedMap String QualifiedColumn
  warnings : List Warning

/-- The plan without channels: the names of the table's own columns are used. -/
def Plan.start (source : Table) : Plan where
  used := SortedSet.ofList (source.schema.names ++ [rowId, parentId])
  joins := []
  columns := .empty
  places := .empty
  warnings := []

/-- The first of `stem`, `stem_1`, `stem_2`, ... that is not used. -/
def numbered (used : SortedSet String) (stem : String) : String :=
  if stem ∉ used then stem
  else
    let names := (List.range' 1 (used.members.length + 1)).map fun n => stem ++ "_" ++ toString n
    (names.find? (· ∉ used)).getD stem

/-- A name for a result column: its own name if that is free, or else one made
with the channel's name, with a number behind it if need be. -/
def freshName (used : SortedSet String) (base channel : String) : String :=
  if base ∉ used then base else numbered used (base ++ "_" ++ channel)

/-- Whether a sub-query is along the given joins. -/
def PlannedJoin.follows (j : PlannedJoin) (path : JoinPath) : Bool :=
  j.path.signature == path.signature && j.path.destination == path.destination

/-- Whether a planned column is the one that a reference asks for. -/
def PlannedColumn.serves (column : PlannedColumn) (r : ForeignRef) : Bool :=
  column.column == r.column && column.aggregate == r.aggregate

/-- Asks a sub-query for the column of a reference; the result is its name. A
column that is asked for again keeps its name. -/
def PlannedJoin.ask (j : PlannedJoin) (used : SortedSet String) (channel : String)
    (r : ForeignRef) : PlannedJoin × String :=
  match j.columns.find? (·.serves r) with
  | some column => (j, column.resultName)
  | none =>
    let resultName := freshName used r.baseName channel
    ({ j with columns := j.columns ++ [⟨r.column, r.aggregate, resultName⟩] }, resultName)

/-- Asks the sub-query along a path, a new one if there is none yet, for the
column of a reference. The first sub-query of the list has the given number. -/
def askAlong (used : SortedSet String) (channel : String) (r : ForeignRef) (path : JoinPath) :
    Nat → List PlannedJoin → List PlannedJoin × QualifiedColumn
  | number, [] =>
    let (join, resultName) := PlannedJoin.ask ⟨"p" ++ toString number, path, []⟩ used channel r
    ([join], ⟨join.name, resultName⟩)
  | number, join :: rest =>
    if join.follows path then
      let (join, resultName) := join.ask used channel r
      (join :: rest, ⟨join.name, resultName⟩)
    else
      let (rest, place) := askAlong used channel r path (number + 1) rest
      (join :: rest, place)

/-- Adds a reference of a channel that is resolved to a path. -/
def Plan.addReference (p : Plan) (channel : String) (r : ForeignRef) (path : JoinPath)
    (found : List Warning) : Plan :=
  let (joins, place) := askAlong p.used channel r path 0 p.joins
  { used := p.used.insert place.column
    joins
    columns := p.columns.insert channel place.column
    places := p.places.insert channel place
    warnings := p.warnings ++ found }

/-- Adds a channel: an attribute is found among the mark's own rows, a reference
in a sub-query; any other channel needs nothing of the query. -/
def Plan.addChannel (c : Catalog) (source : String) (markTables : SortedMap MarkId String)
    (p : Plan) (name : String) (channel : Channel) : Except Error Plan :=
  match channel.column?, channel.foreign? with
  | some attr, _ =>
    .ok { p with
      columns := p.columns.insert name attr
      places := p.places.insert name ⟨baseName, attr⟩ }
  | none, some r =>
    match Reference.resolve c source markTables r with
    | .error e => .error e
    | .ok (path, found) => .ok (p.addReference name r path found)
  | none, none => .ok p

/-- Adds channels in order. -/
def Plan.addChannels (c : Catalog) (source : String) (markTables : SortedMap MarkId String) :
    Plan → List (String × Channel) → Except Error Plan
  | p, [] => .ok p
  | p, (name, channel) :: rest =>
    match p.addChannel c source markTables name channel with
    | .error e => .error e
    | .ok p => Plan.addChannels c source markTables p rest

/-! ## Sub-queries -/

/-- The joins along some steps, the first of which leaves the table at the given
place. -/
def chainJoins (c : Catalog) : Nat → List JoinStep → Except Error (List ChainJoin)
  | _, [] => .ok []
  | place, step :: rest =>
    match c.table step.source.table, c.table step.target.table with
    | .error e, _ => .error e
    | .ok _, .error e => .error e
    | .ok source, .ok target =>
      let pairs : List (ChainColumn × ChainColumn) :=
        (step.source.attrs.zip step.target.attrs).map fun p =>
          (⟨place, source.column p.1⟩, ⟨place + 1, target.column p.2⟩)
      (chainJoins c (place + 1) rest).map (⟨step.target.table, pairs⟩ :: ·)

/-- The chain of tables along a path. -/
def chainAlong (c : Catalog) (path : JoinPath) (isOuter : Bool) : Except Error Chain :=
  (chainJoins c 0 path.steps).map fun joins => ⟨path.source, joins, isOuter⟩

/-- The mark's own rows: their identity and every declared column. -/
def baseSubquery (source : Table) : Subquery where
  name := baseName
  items := ⟨none, ⟨0, source.column rowId⟩, some rowId⟩ ::
    (source.schema.names.filter (· ≠ rowId)).map fun attr => ⟨none, ⟨0, .declared attr⟩, none⟩
  chain := ⟨source.name, [], false⟩
  groupBy := []

/-- The rows paired with their outer rows, along the path to the outer table. A
path without steps pairs each row with itself. -/
def parentSubquery (c : Catalog) (path : JoinPath) : Except Error Subquery :=
  match c.table path.source, c.table path.destination with
  | .error e, _ => .error e
  | .ok _, .error e => .error e
  | .ok source, .ok outer =>
    (chainAlong c path false).map fun chain =>
      { name := parentName
        items :=
          [⟨none, ⟨0, source.column rowId⟩, some rowId⟩,
           ⟨none, ⟨path.steps.length, outer.column rowId⟩, some parentId⟩]
        chain
        groupBy := [] }

/-- The rows with the columns of the table at the end of a path. If one of the
columns is a summary, the rows are grouped by all that are not, and rows that
meet nothing are kept. -/
def pathSubquery (c : Catalog) (join : PlannedJoin) : Except Error Subquery :=
  match c.table join.path.source, c.table join.path.destination with
  | .error e, _ => .error e
  | .ok _, .error e => .error e
  | .ok source, .ok target =>
    let grouped := join.columns.any (·.aggregate.isSome)
    let sourceId : ChainColumn := ⟨0, source.column rowId⟩
    let value (column : PlannedColumn) : ChainColumn :=
      ⟨join.path.steps.length, target.column (column.column.getD rowId)⟩
    let plain := join.columns.filter (·.aggregate.isNone)
    (chainAlong c join.path grouped).map fun chain =>
      { name := join.name
        items := ⟨none, sourceId, some rowId⟩ ::
          join.columns.map fun column => ⟨column.aggregate, value column, some column.resultName⟩
        chain
        groupBy := if grouped then sourceId :: plain.map value else [] }

/-! ## Statements -/

/-- Where the values of an attribute or a channel are found. Attributes come
first. -/
def placeOf (source : Table) (p : Plan) (column : String) : Except Error QualifiedColumn :=
  if source.hasAttribute column then .ok ⟨baseName, column⟩
  else
    match p.places.find? column with
    | some place => .ok place
    | none => .error (.missingAttribute source.name column)

/-- A filter of the mark as a condition of the statement. -/
def conditionOf (source : Table) (p : Plan) (f : Filter) : Except Error Condition :=
  (placeOf source p f.column).map fun place => ⟨place, f.comparison, f.value⟩

/-- A sort key of the mark as one of the statement. -/
def sortKeyOf (source : Table) (p : Plan) (o : OrderBy) : Except Error SortKey :=
  (placeOf source p o.column).map fun place => ⟨place, o.descending⟩

/-- The query of a mark. `parent` is the path to the outer mark's table. Rows
without sort keys come in the order of their identities. -/
def compile (c : Catalog) (r : Request) (parent : Option JoinPath)
    (markTables : SortedMap MarkId String) : Except Error MarkQuery := do
  let source ← c.table r.source
  let plan ← Plan.addChannels c r.source markTables (Plan.start source) r.channels
  let parents ← (parent.toList).mapM (parentSubquery c)
  let paths ← plan.joins.mapM (pathSubquery c)
  let conditions ← r.filters.mapM (conditionOf source plan)
  let order ← r.orderBy.mapM (sortKeyOf source plan)
  let statement : Statement :=
    { subqueries := baseSubquery source :: parents ++ paths
      selected := (parents.map fun _ => ⟨parentName, parentId⟩) ++
        plan.joins.flatMap fun j => j.columns.map fun column => ⟨j.name, column.resultName⟩
      joins := (parents.map fun s => ⟨s.name, false⟩) ++ plan.joins.map fun j => ⟨j.name, true⟩
      conditions
      order := if order.isEmpty then [⟨⟨baseName, rowId⟩, false⟩] else order }
  return ⟨statement, plan.columns, plan.joins.map PlannedJoin.path, plan.warnings⟩

end MarkQuery

end KeyChart
