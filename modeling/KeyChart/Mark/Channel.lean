import KeyChart.Arrangement
import KeyChart.Catalog.Basic
import KeyChart.Scale

/-!
# Channels

A channel is one visible property of a mark: its position, its size, its
colour. As declared it maps to a constant, a column of the mark's table, a
column of another table or mark, a scaled column, a part of an arrangement or a
function of the row. Classifying a declaration checks it against the catalog
and settles which of these it is.
-/

namespace KeyChart

/-- A summary of many values. -/
inductive Aggregate where
  | count
  | min
  | max
  | median
  | avg
  deriving DecidableEq, Repr, Inhabited

namespace Aggregate

/-- The summary of a name, in any letter case. -/
def ofName? (name : String) : Option Aggregate :=
  match String.ofList (name.toList.map Char.toLower) with
  | "count" => some count
  | "min" => some min
  | "max" => some max
  | "median" => some median
  | "avg" | "mean" => some avg
  | _ => none

/-- The function of query text. -/
def toSql : Aggregate → String
  | count => "COUNT"
  | min => "MIN"
  | max => "MAX"
  | median => "median"
  | avg => "AVG"

/-- The name of a summary in the names of result columns. -/
def label : Aggregate → String
  | count => "count"
  | min => "min"
  | max => "max"
  | median => "median"
  | avg => "avg"

end Aggregate

/-- The table or mark that a reference names. -/
inductive RefSource where
  | table (name : String)
  | mark (id : MarkId)
  deriving DecidableEq, Repr

/-- A reference as declared. `column` may spell a summary, as in `avg(v)`. -/
structure RefSpec where
  column : String
  source : Option RefSource := none
  searchKey : Option (List String) := none
  via : Option ConstraintId := none
  aggregate : Option Aggregate := none
  transform : Option (Value → Value) := none

/-- A channel as declared. -/
inductive Mapping where
  | literal (v : Value)
  | field (name : String)
  | get (spec : RefSpec)
  | scaled (inner : Mapping) (scale : Scale)
  | layout (arrangement : Arrangement) (part : Option BoxPart)
  | callback (f : Record → Value)

/-- Where a reference looks for its column: in a table, in a mark's drawn rows,
or in the nearest table that has it. -/
inductive RefTarget where
  | table (name : String)
  | mark (id : MarkId)
  | search
  deriving DecidableEq, Repr

/-- A reference to a column that the mark's own table does not supply. Only a
count has no column. -/
structure ForeignRef where
  column : Option String
  aggregate : Option Aggregate
  target : RefTarget
  searchKey : Option (List String)
  via : Option ConstraintId
  transform : Option (Value → Value)

/-- The name of the result column, before it is made unique: `a` or `avg_v`. -/
def ForeignRef.baseName (r : ForeignRef) : String :=
  match r.aggregate, r.column with
  | some aggregate, some column => aggregate.label ++ "_" ++ column
  | some aggregate, none => aggregate.label
  | none, some column => column
  | none, none => "value"

/-- A classified channel. -/
inductive Channel where
  | constant (v : Value)
  | column (attr : String) (transform : Option (Value → Value))
  | foreign (ref : ForeignRef)
  | scaled (source : Channel) (scale : Scale)
  | layout (arrangement : Arrangement) (part : BoxPart)
  | callback (f : Record → Value)

namespace Channel

/-- The foreign reference behind a channel. -/
def foreign? : Channel → Option ForeignRef
  | foreign ref => some ref
  | scaled source _ => source.foreign?
  | _ => none

/-- The attribute of the mark's table behind a channel. -/
def column? : Channel → Option String
  | column attr _ => some attr
  | scaled source _ => source.column?
  | _ => none

/-- The mark that a channel refers to. -/
def referencedMark? (c : Channel) : Option MarkId :=
  match c.foreign?.map ForeignRef.target with
  | some (.mark id) => some id
  | _ => none

/-- The function that a channel's values go through. -/
def transform? : Channel → Option (Value → Value)
  | column _ transform => transform
  | foreign ref => ref.transform
  | scaled source _ => source.transform?
  | _ => none

/-! ## Classification -/

/-- The part of a text after the first opening parenthesis, and the part before. -/
def splitCall (cs : List Char) : Option (List Char × List Char) :=
  match cs.dropWhile (· ≠ '(') with
  | [] => none
  | _ :: rest => some (cs.takeWhile (· ≠ '('), rest)

/-- Splits a summary off a column text: `count`, `avg(v)`, `count(*)` or just `v`. -/
def parseColumn (text : String) : Option Aggregate × Option String :=
  let text := Text.trim text
  let call? : Option (Aggregate × List Char) :=
    (splitCall text.toList).bind fun (name, rest) =>
      if rest.getLast? = some ')' then
        (Aggregate.ofName? (Text.trim (String.ofList name))).map fun a => (a, rest.dropLast)
      else none
  if Aggregate.ofName? text = some .count then (some .count, none)
  else
    match call? with
    | some (aggregate, inner) =>
      let inner := Text.trim (String.ofList inner)
      (some aggregate, if inner = "" || inner = "*" then none else some inner)
    | none => (none, some text)

/-- Where a reference that is not to the mark's own table looks. A named table
has to have the column, and of all other tables at least one. -/
def findTarget (c : Catalog) (source : String) (spec : RefSpec) (column : Option String) :
    Except Error RefTarget :=
  match spec.source with
  | some (.mark id) => .ok (.mark id)
  | some (.table name) =>
    match c.table name with
    | .error e => .error e
    | .ok t =>
      match column with
      | some attr =>
        if t.hasAttribute attr then .ok (.table name) else .error (.missingAttribute name attr)
      | none => .ok (.table name)
  | none =>
    match column with
    | none => .error (.invalidChannel spec.column .aggregateNeedsTable)
    | some attr =>
      if (c.tablesWithAttribute attr source).isEmpty then .error (.missingAttribute source attr)
      else .ok .search

/-- Whether a reference may be to the mark's own table. -/
def mayBeOwn (spec : RefSpec) (source : String) : Bool :=
  match spec.source with
  | none => true
  | some (.table name) => name == source
  | some (.mark _) => false

/-- Classifies a reference. A plain column of the mark's own table is not
foreign unless a join is asked for. -/
def classifyGet (c : Catalog) (table : Table) (source : String) (spec : RefSpec) :
    Except Error Channel :=
  let parsed := parseColumn spec.column
  let aggregate := spec.aggregate.or parsed.1
  let elsewhere : Except Error Channel :=
    (findTarget c source spec parsed.2).map fun target =>
      .foreign ⟨parsed.2, aggregate, target, spec.searchKey, spec.via, spec.transform⟩
  if aggregate.isNone && spec.searchKey.isNone && spec.via.isNone && mayBeOwn spec source then
    match parsed.2 with
    | some attr =>
      if table.hasAttribute attr then .ok (.column attr spec.transform) else elsewhere
    | none => elsewhere
  else elsewhere

/-- Classifies a declaration for a channel of a mark over a known table. -/
def classifyOver (c : Catalog) (table : Table) (source name : String) :
    Mapping → Except Error Channel
  | .literal v => .ok (.constant v)
  | .field attr =>
    if table.hasAttribute attr then .ok (.column attr none)
    else .error (.missingAttribute source attr)
  | .get spec => classifyGet c table source spec
  | .scaled inner scale =>
    match classifyOver c table source name inner with
    | .error e => .error e
    | .ok (.column attr transform) => .ok (.scaled (.column attr transform) scale)
    | .ok (.foreign ref) => .ok (.scaled (.foreign ref) scale)
    | .ok _ => .error (.invalidChannel name .notScalable)
  | .layout arrangement part =>
    match part.or (BoxPart.ofChannel? name) with
    | none => .error (.invalidChannel name .noLayoutPart)
    | some part =>
      match arrangement.weightColumn? with
      | some weight =>
        if table.schema.declares weight then .ok (.layout arrangement part)
        else .error (.missingAttribute source weight)
      | none => .ok (.layout arrangement part)
  | .callback f => .ok (.callback f)

/-- Classifies a declaration for a channel of a mark. The names by which rows
are known during layout cannot be channels. -/
def classify (c : Catalog) (source name : String) (mapping : Mapping) : Except Error Channel :=
  if name = rowId || name = parentId then .error (.invalidChannel name .reservedName)
  else
    match c.table source with
    | .error e => .error e
    | .ok table => classifyOver c table source name mapping

end Channel

end KeyChart
