import KeyChart.Constraint
import KeyChart.JoinGraph

/-!
# The catalog

The tables that are known by name and the constraints on them. Constraints are
numbered in the order in which they are registered, and no number is given out
twice, not even after a table and its constraints are gone.

An operation that fails leaves the catalog as it was.
-/

namespace KeyChart

/-- A registered constraint and its declared name. -/
structure CatalogEntry where
  name : Option String
  constraint : Constraint
  deriving DecidableEq

/-- Tables by name and constraints by number. `nextId` has not been given out. -/
structure Catalog where
  tables : SortedMap String Table
  constraints : SortedMap ConstraintId CatalogEntry
  nextId : Nat

namespace Catalog

/-- The catalog without tables. -/
def empty : Catalog := ⟨.empty, .empty, 0⟩

instance : Inhabited Catalog := ⟨empty⟩

/-- Whether a table is known. -/
def containsTable (c : Catalog) (name : String) : Bool := c.tables.contains name

/-- The table of a name. -/
def table (c : Catalog) (name : String) : Except Error Table :=
  match c.tables.find? name with
  | some t => .ok t
  | none => .error (.unknownTable name)

/-- Registers a table under its name. -/
def addTable (c : Catalog) (t : Table) : Except Error Catalog :=
  if c.containsTable t.name then .error (.duplicateTable t.name)
  else .ok { c with tables := c.tables.insert t.name t }

/-- Gives a known table one more candidate key. -/
def addKey (c : Catalog) (name : String) (key : Key) : Except Error Catalog :=
  match c.table name with
  | .error e => .error e
  | .ok t =>
    match t.addKey key with
    | .error e => .error e
    | .ok t => .ok { c with tables := c.tables.insert name t }

/-- Changes the name under which a known table is shown. -/
def setDisplayName (c : Catalog) (name displayName : String) : Except Error Catalog :=
  match c.table name with
  | .error e => .error e
  | .ok t => .ok { c with tables := c.tables.insert name { t with displayName } }

/-- The first side of a list that is not in the catalog, as an error. -/
def checkSides (c : Catalog) : List KeySide → Except Error Unit
  | [] => .ok ()
  | side :: rest =>
    match c.table side.table with
    | .error e => .error e
    | .ok t =>
      match t.missing? side.attrs with
      | some attr => .error (.missingAttribute t.name attr)
      | none => c.checkSides rest

/-- What registering a constraint does to the tables: a key becomes a candidate
key, a foreign key needs both its sides. -/
def applyConstraint (c : Catalog) : Constraint → Except Error Catalog
  | .primaryKey table key | .unique table key => c.addKey table key
  | .foreignKey fk => (c.checkSides [fk.first, fk.second]).map fun _ => c

/-- Registers a constraint under the next number. -/
def addConstraint (c : Catalog) (name : Option String) (k : Constraint) :
    Except Error (ConstraintId × Catalog) :=
  match c.applyConstraint k with
  | .error e => .error e
  | .ok c =>
    let id : ConstraintId := ⟨c.nextId⟩
    .ok (id, { c with constraints := c.constraints.insert id ⟨name, k⟩, nextId := c.nextId + 1 })

/-- Registers a foreign key between two known tables. -/
def addForeignKey (c : Catalog) (t1 : String) (x : List String) (t2 : String) (y : List String)
    (name : Option String := none) : Except Error (ConstraintId × Catalog) :=
  match c.table t1, c.table t2 with
  | .error e, _ => .error e
  | .ok _, .error e => .error e
  | .ok first, .ok second =>
    match ForeignKey.between first x second y with
    | .error e => .error e
    | .ok fk => c.addConstraint name (.foreignKey fk)

/-- A registered constraint. -/
def constraint? (c : Catalog) (id : ConstraintId) : Option Constraint :=
  (c.constraints.find? id).map CatalogEntry.constraint

/-- The declared name of a constraint. -/
def constraintName? (c : Catalog) (id : ConstraintId) : Option String :=
  (c.constraints.find? id).bind CatalogEntry.name

/-- The foreign key of a number. -/
def foreignKey (c : Catalog) (id : ConstraintId) : Except Error ForeignKey :=
  match (c.constraint? id).bind Constraint.foreignKey? with
  | some fk => .ok fk
  | none => .error (.notForeignKey id)

/-- The foreign keys in the order of their numbers. -/
def foreignKeys (c : Catalog) : List (ConstraintId × ForeignKey) :=
  c.constraints.entries.filterMap fun e => e.2.constraint.foreignKey?.map fun fk => (e.1, fk)

/-- Removes a table and every constraint about it. -/
def dropTable (c : Catalog) (name : String) : Except Error (Table × Catalog) :=
  match c.table name with
  | .error e => .error e
  | .ok t =>
    .ok (t, { c with
      tables := c.tables.erase name
      constraints := c.constraints.filter fun _ e => !e.constraint.tables.contains name })

/-- The name made of a stem and a number. -/
def numberedName (stem : String) (n : Nat) : String := stem ++ "_" ++ toString n

/-- The next number with which a stem makes the name of no known table. With
one number more than there are tables, one of them is free. -/
def freshNumber (c : Catalog) (stem : String) : Nat :=
  ((List.range' c.nextId (c.tables.entries.length + 1)).find? fun n =>
    !c.containsTable (numberedName stem n)).getD c.nextId

/-- A name with the given stem that no table has. The numbers tried are used up. -/
def freshTableName (c : Catalog) (stem : String) : String × Catalog :=
  let n := c.freshNumber stem
  (numberedName stem n, { c with nextId := n + 1 })

/-- The tables other than `source` that declare an attribute, by name. Tables of
drawn marks are left out; those are only reached by naming the mark. -/
def tablesWithAttribute (c : Catalog) (attr source : String) : List String :=
  (c.tables.values.filter fun t =>
    !t.derived && t.name != source && t.schema.declares attr).map Table.name

end Catalog

end KeyChart
