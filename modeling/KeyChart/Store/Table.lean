import KeyChart.Error
import KeyChart.Store.Affinity

/-!
# Stored tables

A table has columns, keys and rows, and every row has a numeric identity. A
primary key that is one column of the type `INTEGER` is that identity; any
other primary key and every unique key is a list of columns in which no two rows
may agree. Names are the same in any letter case.
-/

namespace KeyChart.Store

/-- A declared column. -/
structure StoreColumn where
  name : String
  sqlType : String
  deriving DecidableEq, Repr, Inhabited

/-- A declared foreign key; without target columns it is to the target's primary
key. -/
structure StoreKey where
  columns : List String
  target : String
  targetColumns : List String
  deriving DecidableEq, Repr

/-- A stored row. -/
structure StoreRow where
  identity : Int
  cells : List Value

/-- A table. Its rows are in the order of their identities. -/
structure StoreTable where
  columns : List StoreColumn
  primaryKey : List String
  uniques : List (List String)
  foreignKeys : List StoreKey
  rows : List StoreRow := []

/-- The form of a name in which names are compared. -/
def folded (name : String) : String := String.ofList (name.toList.map Char.toLower)

/-- Position of a column in a list of names. -/
def position? (names : List String) (name : String) : Option Nat :=
  names.findIdx? fun n => folded n == folded name

/-- Whether a name stands for the row identity where no column has it. -/
def isIdentityName (name : String) : Bool :=
  ["rowid", "_rowid_", "oid"].contains (folded name)

/-- Whether a name can be written in query text, which a NUL would end. -/
def isWritable (name : String) : Bool := name.toList.all (· ≠ '\x00')

namespace StoreTable

/-- The names of the columns. -/
def names (t : StoreTable) : List String := t.columns.map StoreColumn.name

/-- The affinity of a column. -/
def affinityAt (t : StoreTable) (position : Nat) : Affinity :=
  ((t.columns[position]?).map fun c => Affinity.ofType c.sqlType).getD .blob

/-- The column that is the row identity. -/
def identityColumn? (t : StoreTable) : Option Nat :=
  match t.primaryKey with
  | [name] =>
    (position? t.names name).filter fun i =>
      (t.columns[i]?.map fun c => folded c.sqlType == "integer").getD false
  | _ => none

/-- The name under which the row identity is read. -/
def identityName (t : StoreTable) : String :=
  (t.identityColumn?.bind fun i => t.names[i]?).getD "rowid"

/-! ## Declarations -/

/-- The names of a key as the columns spell them. -/
def spelled? (t : StoreTable) (key : List String) : Option (List String) :=
  key.mapM fun name => (position? t.names name).bind fun i => t.names[i]?

/-- Drops unique keys that are listed before, among them the primary key unless
that is the row identity. -/
def distinctUniques (t : StoreTable) : List (List String) :=
  t.uniques.foldl
    (fun seen key =>
      if seen.contains key || (t.identityColumn?.isNone && key == t.primaryKey) then seen
      else seen ++ [key])
    []

/-- A table as declared. It has columns of different names, and its keys are made
of them. A foreign key has as many target columns as columns, or none. -/
def declare (t : StoreTable) : Except Error StoreTable :=
  let trimmed := t.columns.map fun c =>
    { c with sqlType := String.ofList (trimSpaces c.sqlType.toList) }
  let t := { t with columns := trimmed }
  let writable : Bool :=
    t.columns.all (fun c => isWritable c.name && isWritable c.sqlType) &&
      t.foreignKeys.all fun k => isWritable k.target && k.targetColumns.all isWritable
  let declared? : Option StoreTable := do
    let primaryKey ← t.spelled? t.primaryKey
    let uniques ← t.uniques.mapM t.spelled?
    let foreignKeys ← t.foreignKeys.mapM fun k => (t.spelled? k.columns).map fun columns =>
      { k with columns := columns }
    return { t with primaryKey := primaryKey, uniques := uniques, foreignKeys := foreignKeys }
  let wellFormed : Bool :=
    writable && !t.columns.isEmpty && (Schema.repeated? [] (t.names.map folded)).isNone &&
      t.uniques.all (fun key => !key.isEmpty) &&
      t.foreignKeys.all fun k =>
        !k.columns.isEmpty &&
          (k.targetColumns.isEmpty || k.targetColumns.length == k.columns.length)
  match declared? with
  | some t => if wellFormed then .ok { t with uniques := t.distinctUniques } else .error .store
  | none => .error .store

/-! ## Rows -/

/-- Positions of the columns of a key. -/
def positions (t : StoreTable) (key : List String) : List Nat :=
  key.filterMap (position? t.names)

/-- The keys besides the row identity that no two rows may agree on. -/
def rowKeys (t : StoreTable) : List (List String) :=
  if t.identityColumn?.isSome || t.primaryKey.isEmpty then t.uniques
  else t.primaryKey :: t.uniques

/-- Whether two rows agree in all columns of a key. -/
def clashOn (key : List Nat) (a b : List Value) : Bool :=
  key.all fun i => clash (a.getD i .null) (b.getD i .null)

/-- The identity of the next row that is given none: the one after the last, and
where that is the greatest of all, one that is free in the lower half. -/
def nextIdentity (t : StoreTable) : Int :=
  let identities := t.rows.map StoreRow.identity
  match identities.getLast? with
  | none => 1
  | some last =>
    if last < Decimal.maxInt64 then last + 1
    else (identities.filter fun n => n ≤ Decimal.maxInt64 / 2).foldl max 0 + 1

/-- What a column named in an insertion sets. -/
inductive Place where
  | cell (position : Nat)
  | identity
  deriving DecidableEq

/-- What a name stands for in an insertion. -/
def place? (t : StoreTable) (name : String) : Option Place :=
  match position? t.names name with
  | some i => some (if t.identityColumn? = some i then .identity else .cell i)
  | none => if isIdentityName name then some .identity else none

/-- The row that some values make. Of two values for a cell the first counts, and of
two for the identity the last; other cells stay empty. -/
def newRow (t : StoreTable) (given : List (Place × Value)) : Except Error StoreRow := do
  let asked := ((given.filter fun g => g.1 = .identity).getLast?.map Prod.snd).getD .null
  let identity ←
    match Affinity.numeric.store asked with
    | .null => .ok t.nextIdentity
    | .int n => .ok n
    | _ => .error .store
  let cells := t.columns.mapIdx fun i column =>
    if t.identityColumn? = some i then Value.int identity
    else
      (Affinity.ofType column.sqlType).store
        (((given.find? fun g => g.1 = .cell i).map Prod.snd).getD .null)
  return ⟨identity, cells⟩

/-- Puts a row in its place. -/
def placeRow (row : StoreRow) : List StoreRow → List StoreRow
  | [] => [row]
  | r :: rest => if row.identity < r.identity then row :: r :: rest else r :: placeRow row rest

/-- Adds a row that agrees with no other on its identity or a key. -/
def addRow (t : StoreTable) (row : StoreRow) : Except Error StoreTable :=
  let taken := t.rows.any fun r =>
    r.identity == row.identity || t.rowKeys.any fun key => clashOn (t.positions key) r.cells row.cells
  if taken then .error .store else .ok { t with rows := placeRow row t.rows }

end StoreTable

end KeyChart.Store
