import KeyChart.Catalog.Basic

/-!
# Paths between tables of a catalog

The searches of the graph of joins, asked of a catalog: both ends have to be
known tables, and a constraint to cross has to be a foreign key.
-/

namespace KeyChart.Catalog

/-- The graph of the catalog's foreign keys. -/
def joinGraph (c : Catalog) : JoinGraph := JoinGraph.ofForeignKeys c.foreignKeys

/-- Fails unless both tables are known. -/
def checkTables (c : Catalog) (source destination : String) : Except Error Unit :=
  match c.table source, c.table destination with
  | .error e, _ => .error e
  | .ok _, .error e => .error e
  | .ok _, .ok _ => .ok ()

/-- Every shortest path between two tables. -/
def shortestPaths (c : Catalog) (source destination : String) : Except Error (List JoinPath) :=
  (c.checkTables source destination).map fun _ => c.joinGraph.shortestPaths source destination

/-- The first shortest path between two tables. -/
def shortestPath? (c : Catalog) (source destination : String) :
    Except Error (Option JoinPath) :=
  (c.checkTables source destination).map fun _ => c.joinGraph.shortestPath? source destination

/-- The first shortest path from the destination to the source, walked
backwards: one row of the source meets many of the destination. -/
def reversePath? (c : Catalog) (source destination : String) :
    Except Error (Option JoinPath) :=
  (c.checkTables source destination).map fun _ =>
    (c.joinGraph.shortestPath? destination source).map JoinPath.reverse

/-- A path across a required foreign key. -/
def pathAcross (c : Catalog) (source destination : String) (required : ConstraintId) :
    Except Error JoinPath :=
  match c.checkTables source destination, c.foreignKey required with
  | .error e, _ => .error e
  | .ok _, .error e => .error e
  | .ok _, .ok _ => c.joinGraph.pathAcross? source destination required

end KeyChart.Catalog
