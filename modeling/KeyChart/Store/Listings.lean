import KeyChart.Store.KeyRows

/-!
# What is read off the lists of a store

A store lists the columns of a relation, its unique keys and the columns of its
foreign keys. Columns and constraints are told from these lists alone, so a store
is here only what it answers when it is asked for them.
-/

namespace KeyChart.Store

/-- A column as it is listed. Its place in the primary key is counted from one, and
is zero outside of the key. -/
structure ColumnRow where
  name : String
  sqlType : String
  place : Nat
  deriving DecidableEq, Repr

/-- The order of places, and of names where two are the same. -/
def ColumnRow.upTo (a b : ColumnRow) : Bool :=
  a.place < b.place || (a.place = b.place && a.name ≤ b.name)

/-- Puts a column in its place. -/
def placeColumn (column : ColumnRow) : List ColumnRow → List ColumnRow
  | [] => [column]
  | c :: rest => if column.upTo c then column :: c :: rest else c :: placeColumn column rest

/-- The columns that have places, in the order of these. -/
def keyColumns (columns : List ColumnRow) : List ColumnRow :=
  (columns.filter fun column => 0 < column.place).foldr placeColumn []

/-- The primary key. -/
def primaryKeyOf (columns : List ColumnRow) : List String :=
  (keyColumns columns).map ColumnRow.name

/-- The column with the first place in the primary key, or the row identity. -/
def firstKeyColumn (columns : List ColumnRow) : String :=
  ((columns.find? fun column => column.place = 1).map ColumnRow.name).getD rowId

/-- The keys of a table before its foreign keys: the primary key, if there is one, and
the unique keys. -/
def keysOf (columns : List ColumnRow) (uniques : List (List String)) : List TableConstraint :=
  let key := primaryKeyOf columns
  (if key.isEmpty then [] else [.primaryKey key]) ++ uniques.map .unique

/-- What a store answers when it is asked for the columns of a relation, its unique
keys and the rows of its foreign keys. -/
structure Listings where
  columns : String → Except Error (List ColumnRow)
  uniqueKeys : String → Except Error (List (List String))
  foreignKeys : String → Except Error (List KeyRow)

namespace Listings

/-- The columns of a relation with their kinds. -/
def attributes (l : Listings) (name : String) : Except Error (List Attribute) :=
  (l.columns name).map fun columns => columns.map fun c => ⟨c.name, ColumnType.ofSql c.sqlType⟩

/-- The primary key of a relation, if it has columns. -/
def primaryKey (l : Listings) (name : String) : List String :=
  primaryKeyOf ((l.columns name).toOption.getD [])

/-- The column of a target that is meant where a foreign key leaves it open. -/
def openTarget (l : Listings) (target : String) : String :=
  firstKeyColumn ((l.columns target).toOption.getD [])

/-- The constraints of a relation: its keys and then its foreign keys. None can be told
if a foreign key leaves it to a relation what it is to and that one cannot tell. -/
def constraints (l : Listings) (name : String) : Except Error (List TableConstraint) := do
  let columns ← l.columns name
  let uniques ← l.uniqueKeys name
  let rows ← l.foreignKeys name
  let _ ← (rows.filter fun row => row.targetColumn.isNone).mapM fun row => l.columns row.target
  return keysOf columns uniques ++ foreignKeysOf l.openTarget rows

end Listings

end KeyChart.Store
