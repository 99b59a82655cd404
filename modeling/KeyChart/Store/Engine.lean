import KeyChart.Store.Basic

/-!
# The store as an engine

A store answers what an engine is asked about tables and rows. It has no reader
of query text, and refuses whatever needs one.
-/

namespace KeyChart.Store

/-- The table of some column definitions. Two of them cannot be the primary key. -/
def ofDefs (columns : List ColumnDef) : Except Error StoreTable :=
  let primary := (columns.filter ColumnDef.primaryKey).map ColumnDef.name
  if 1 < primary.length then .error .store
  else .ok ⟨columns.map fun c => ⟨c.name, c.sqlType⟩, primary, [], [], []⟩

/-- The store as an engine. -/
def TableStore.engine : Engine TableStore where
  execute _ := throw .store
  run _ := throw .store
  createTable name columns := change fun s => do s.createTable name (← ofDefs columns)
  createTableAs _ _ := throw .store
  dropTable name := change fun s => s.dropTable name
  createView _ _ := throw .store
  insertRows table columns rows := change fun s => s.insertRows table columns rows
  columns table := Attempt.ask fun s => s.listings.attributes table
  constraints table := Attempt.ask fun s => s.listings.constraints table

end KeyChart.Store
