import KeyChart.Attempt
import KeyChart.Store.Link
import KeyChart.Store.Listings
import KeyChart.Store.Selection

/-!
# A store of tables

Tables of rows, and views that select columns of a table or of another view.
Rows that a foreign key ties to others can be added only where these are, and a
table can be dropped only while no row of another table refers to it. An
operation that fails leaves the store as it was.
-/

namespace KeyChart.Store

/-- A table, or a selection of columns of another relation. -/
inductive Relation where
  | table (t : StoreTable)
  | view (columns : List String) (source : String)

/-- Relations by name. -/
structure TableStore where
  relations : SortedMap String Relation

namespace TableStore

/-- The store without tables. -/
def empty : TableStore := ⟨.empty⟩

/-- The relation of a name. -/
def relation? (s : TableStore) (name : String) : Option Relation := s.relations.find? (folded name)

/-- The table of a name. -/
def table? (s : TableStore) (name : String) : Option StoreTable :=
  match s.relation? name with
  | some (.table t) => some t
  | _ => none

/-- Sets the relation of a name. -/
def put (s : TableStore) (name : String) (r : Relation) : TableStore :=
  ⟨s.relations.insert (folded name) r⟩

/-! ## Reading -/

/-- What a relation selects of a table, looking through at most `fuel` views. -/
def readWithin (s : TableStore) : Nat → String → Except Error Selection
  | 0, _ => .error .store
  | fuel + 1, name =>
    match s.relation? name with
    | none => .error .store
    | some (.table t) => .ok t.whole
    | some (.view columns source) => (s.readWithin fuel source).map fun c => c.select columns

/-- What a relation selects of a table. No chain of views is longer than the list of
relations, unless it goes round in a circle. -/
def read (s : TableStore) (name : String) : Except Error Selection :=
  if isWritable name then s.readWithin (s.relations.entries.length + 1) name else .error .store

/-- All rows of a relation. -/
def scan (s : TableStore) (name : String) : Except Error ResultSet :=
  (s.read name).map fun c => ⟨c.names, c.rows⟩

/-! ## Tables and views -/

/-- The beginning of the names that a store keeps for itself. -/
def reservedStem : String := "sqlite_"

/-- Whether a new relation can have a name: it is free and not reserved. -/
def isFree (s : TableStore) (name : String) : Bool :=
  isWritable name && (s.relation? name).isNone && !(folded name).startsWith reservedStem

/-- Creates a table as declared. -/
def createTable (s : TableStore) (name : String) (t : StoreTable) : Except Error TableStore := do
  let t ← t.declare
  if s.isFree name then .ok (s.put name (.table t)) else .error .store

/-- Creates a table with a selection of columns and their rows. -/
def createTableAs (s : TableStore) (name : String) (columns : List String) (source : String) :
    Except Error TableStore := do
  if columns.isEmpty || !columns.all isWritable then throw .store
  let selected := (← s.read source).select columns
  let typed := selected.columns.map fun (c, _) =>
    (⟨c.name, (Affinity.ofType c.sqlType).typeName⟩ : StoreColumn)
  let rows := selected.rows.mapIdx fun i cells => (⟨i + 1, cells⟩ : StoreRow)
  s.createTable name ⟨typed, [], [], [], rows⟩

/-- Drops a view, if it exists. -/
def dropView (s : TableStore) (name : String) : Except Error TableStore :=
  match s.relation? name with
  | some (.table _) => .error .store
  | _ => if isWritable name then .ok ⟨s.relations.erase (folded name)⟩ else .error .store

/-- Creates a view. What it selects is looked up when it is read. -/
def addView (s : TableStore) (name : String) (columns : List String) (source : String) :
    Except Error TableStore :=
  if s.isFree name && !columns.isEmpty && (source :: columns).all isWritable then
    .ok (s.put name (.view columns source))
  else .error .store

/-- A change of the store. -/
def change (f : TableStore → Except Error TableStore) : Attempt TableStore Unit :=
  Attempt.atomic fun s => (f s).map fun s => ((), s)

/-- Creates or replaces a view. Where the new one cannot be created the old one is
gone all the same. -/
def createView (name : String) (columns : List String) (source : String) :
    Attempt TableStore Unit := do
  change fun s => s.dropView name
  change fun s => s.addView name columns source

/-- Whether a row of another table refers to a row of the named table. -/
def isReferred (s : TableStore) (name : String) (t : StoreTable) : Bool :=
  s.relations.entries.any fun (other, r) =>
    match r with
    | .view _ _ => false
    | .table source =>
      other ≠ folded name && source.foreignKeys.any fun k =>
        folded k.target == folded name &&
          match Link.between? source t k with
          | none => false
          | some link => t.rows.any fun found => source.rows.any fun row =>
              link.refers source t row found

/-- Drops a table, if it exists and no other table's row refers to it. -/
def dropTable (s : TableStore) (name : String) : Except Error TableStore :=
  match s.relation? name with
  | some (.view _ _) => .error .store
  | some (.table t) =>
    if s.isReferred name t then .error .store else .ok ⟨s.relations.erase (folded name)⟩
  | none => if isWritable name then .ok s else .error .store

/-! ## Rows -/

/-- The links of a table's foreign keys, with their targets; an error if a target is
missing or cannot be matched. -/
def linksOf (s : TableStore) (t : StoreTable) : Except Error (List (Link × String)) :=
  t.foreignKeys.mapM fun k =>
    match (s.table? k.target).bind fun target => Link.between? t target k with
    | some link => .ok (link, k.target)
    | none => .error .store

/-- Adds a row that has all its counterparts. -/
def addRow (s : TableStore) (name : String) (links : List (Link × String)) (t : StoreTable)
    (row : StoreRow) : Except Error StoreTable :=
  let tied : Bool := links.all fun (link, target) =>
    let own : Bool := folded target == folded name
    link.holds (if own then t else (s.table? target).getD t) own row
  if tied then t.addRow row else .error .store

/-- Adds rows, all or none. -/
def insertRows (s : TableStore) (name : String) (columns : List String)
    (rows : List (List Value)) : Except Error TableStore := do
  let some t := s.table? name | throw .store
  let some places := columns.mapM t.place? | throw .store
  if columns.isEmpty || !(name :: columns).all isWritable then throw .store
  let links ← s.linksOf t
  let t ← rows.foldlM (fun (held : StoreTable) values => do
    if values.length ≠ columns.length then throw .store
    s.addRow name links held (← held.newRow (places.zip values))) t
  return s.put name (.table t)

/-! ## Introspection -/

/-- A name as far as it is heard: up to a NUL. -/
def heard (name : String) : String := String.ofList (name.toList.takeWhile (· ≠ '\x00'))

/-- The place of a column in a key, counted from one; zero if it is not in the key. -/
def keyPlace (key : List String) (name : String) : Nat :=
  if name ∈ key then key.idxOf name + 1 else 0

/-- The columns of a relation, none if it does not exist. The columns of a view are in
no primary key. -/
def columnRows (s : TableStore) (name : String) : Except Error (List ColumnRow) :=
  match s.relation? name with
  | none => .ok []
  | some relation =>
    let key := match relation with
      | .table t => t.primaryKey
      | .view _ _ => []
    (s.read name).map fun selected => selected.columns.map fun (c, _) =>
      ⟨c.name, c.sqlType, keyPlace key c.name⟩

/-- The foreign keys of a table as rows, the last declared key first. -/
def keyRows (t : StoreTable) : List KeyRow :=
  (t.foreignKeys.reverse.mapIdx fun number key =>
    key.columns.mapIdx fun i column =>
      (⟨number, key.target, column, key.targetColumns[i]?⟩ : KeyRow)).flatten

/-- The lists of a store. Of unique keys and foreign keys the last declared comes first. -/
def listings (s : TableStore) : Listings where
  columns name := s.columnRows (heard name)
  uniqueKeys name := .ok (((s.table? (heard name)).map fun t => t.uniques.reverse).getD [])
  foreignKeys name := .ok (((s.table? (heard name)).map keyRows).getD [])

end TableStore

end KeyChart.Store
