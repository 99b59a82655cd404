import KeyChart.Attempt
import KeyChart.Catalog.Basic
import KeyChart.Ddl.Parser

/-!
# Loading declarations

A script is loaded in two rounds, first the tables with their keys and then the
foreign keys, so that the order of its statements does not matter. Foreign keys
to or from tables that the catalog does not know are passed over. Loading stops
at the first error, and what was registered before it stays.
-/

namespace KeyChart.Catalog

/-- Registers a declared table with its keys. -/
def loadTable (decl : Ddl.TableDecl) : Attempt Catalog String := do
  let attributes := decl.columns.map fun column => ⟨column.name, column.type⟩
  let table ← Attempt.ofExcept (Table.ofAttributes decl.name attributes)
  Attempt.atomic fun c => (c.addTable table).map fun c => ((), c)
  unless decl.primaryKey.isEmpty do
    let _ ← Attempt.atomic fun (c : Catalog) =>
      c.addConstraint none (.primaryKey decl.name (SortedSet.ofList decl.primaryKey))
  for columns in decl.uniques do
    let _ ← Attempt.atomic fun (c : Catalog) =>
      c.addConstraint none (.unique decl.name (SortedSet.ofList columns))
  return decl.name

/-- Registers a declared foreign key if both its tables are known. -/
def loadForeignKey (decl : Ddl.ForeignKeyDecl) : Attempt Catalog Unit := do
  let c ← get
  if c.containsTable decl.table && c.containsTable decl.target then
    let _ ← Attempt.atomic fun (c : Catalog) =>
      c.addForeignKey decl.table decl.columns decl.target decl.targetColumns decl.name

/-- Registers the declarations of a script; the result names its tables. -/
def loadScript (script : Ddl.Script) : Attempt Catalog (List String) := do
  let names ← script.tables.mapM loadTable
  for decl in script.foreignKeys do
    loadForeignKey decl
  return names

/-- Registers the declarations of a script's text. -/
def loadDdl (sql : String) : Attempt Catalog (List String) := do
  let script ← Attempt.ofExcept ((Ddl.parse sql).mapError Error.ddl)
  loadScript script

end KeyChart.Catalog
