import KeyChart.Error
import KeyChart.Schema

/-!
# Tables

A table as the catalog knows it: its columns and its candidate keys. The row
identity alone is always a key, and the first one.
-/

namespace KeyChart

/-- A registered table. `derived` marks the tables that hold drawn marks. -/
structure Table where
  name : String
  displayName : String
  schema : Schema
  keys : List Key
  derived : Bool

namespace Table

/-- A table without further keys. -/
def ofSchema (name : String) (schema : Schema) (derived : Bool := false) : Table :=
  ⟨name, name, schema, [SortedSet.ofList [rowId]], derived⟩

/-- A table with the given columns. -/
def ofAttributes (name : String) (attributes : List Attribute) (derived : Bool := false) :
    Except Error Table :=
  match Schema.ofAttributes attributes with
  | .ok schema => .ok (ofSchema name schema derived)
  | .error repeated => .error (.duplicateAttribute repeated)

/-- Whether the table has an attribute: a declared one, or the row identity. -/
def hasAttribute (t : Table) (name : String) : Bool :=
  name == rowId || t.schema.declares name

/-- Whether the row identity is a declared column. -/
def hasExplicitRowId (t : Table) : Bool := t.schema.declares rowId

/-- Whether some attributes are, as a set, a candidate key. -/
def isKey (t : Table) (attrs : List String) : Bool :=
  t.keys.contains (SortedSet.ofList attrs)

/-- The first of some attributes that the table lacks. -/
def missing? (t : Table) (attrs : List String) : Option String :=
  attrs.find? fun a => !t.hasAttribute a

/-- The table with one more candidate key, unless it has it already. -/
def addKey (t : Table) (key : Key) : Except Error Table :=
  match t.missing? key.members with
  | some attr => .error (.missingAttribute t.name attr)
  | none => .ok (if t.keys.contains key then t else { t with keys := t.keys ++ [key] })

/-- The column that holds an attribute: the engine's own row identity if the
table is asked for one that it does not declare. -/
def column (t : Table) (attr : String) : ColumnName :=
  if attr == rowId && !t.hasExplicitRowId then .implicitRowId else .declared attr

/-- The query text for an attribute of this table. -/
def columnSql (t : Table) (attr : String) : String := (t.column attr).toSql

end Table

/-- The foreign key between attributes of two tables. Its cardinality follows
from the tables' candidate keys as they are now; if only the second side is a
key, the sides change places. -/
def ForeignKey.between (t1 : Table) (x : List String) (t2 : Table) (y : List String) :
    Except Error ForeignKey :=
  let first : KeySide := ⟨t1.name, x⟩
  let second : KeySide := ⟨t2.name, y⟩
  if x.isEmpty || x.length ≠ y.length then .error (.arityMismatch first second)
  else
    match t1.missing? x, t2.missing? y with
    | some attr, _ => .error (.missingAttribute t1.name attr)
    | none, some attr => .error (.missingAttribute t2.name attr)
    | none, none =>
      .ok (match t1.isKey x, t2.isKey y with
        | true, true => ⟨first, second, .oneOne⟩
        | true, false => ⟨first, second, .oneMany⟩
        | false, true => ⟨second, first, .oneMany⟩
        | false, false => ⟨first, second, .manyMany⟩)

end KeyChart
