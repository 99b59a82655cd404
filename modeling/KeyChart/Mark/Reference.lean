import KeyChart.Catalog.Paths
import KeyChart.Mark.Channel

/-!
# Resolving references

Which joins a foreign reference follows. Without a hint it is the first
shortest path; a search key or a constraint picks the path, and a search takes
the nearest table that has the column. A summary may also follow a path
backwards, from one row to many, where no forward path exists.
-/

namespace KeyChart.Reference

/-- A path across a foreign key, backwards for a summary if there is none
forwards. -/
def pathAcross (c : Catalog) (source target : String) (fanOut : Bool) (id : ConstraintId) :
    Except Error JoinPath :=
  match c.pathAcross source target id with
  | .error (.noPath s t) =>
    if fanOut then (c.pathAcross target source id).map JoinPath.reverse
    else .error (.noPath s t)
  | r => r

/-- The first path across one of some foreign keys; without any, the last
failure. -/
def firstAcross (c : Catalog) (source target : String) (fanOut : Bool) :
    Error → List ConstraintId → Except Error JoinPath
  | failure, [] => .error failure
  | _, id :: rest =>
    match pathAcross c source target fanOut id with
    | .ok path => .ok path
    | .error e => firstAcross c source target fanOut e rest

/-- The path to a table, and a warning if there are several shortest ones. -/
def pathTo (c : Catalog) (source target : String) (r : ForeignRef) :
    Except Error (JoinPath × List Warning) :=
  let fanOut := r.aggregate.isSome
  match r.searchKey, r.via with
  | some key, _ =>
    let candidates := (c.foreignKeys.filter fun k => k.2.matchesSide source key).map (·.1)
    (firstAcross c source target fanOut (.noMatchingConstraint source target key) candidates).map
      fun path => (path, [])
  | none, some id => (pathAcross c source target fanOut id).map fun path => (path, [])
  | none, none =>
    match c.shortestPaths source target with
    | .error e => .error e
    | .ok (path :: others) =>
      .ok (path, if others.isEmpty then []
        else [⟨r.baseName, (path :: others).map JoinPath.label, path.label⟩])
    | .ok [] =>
      let backwards := if fanOut then c.reversePath? source target else .ok none
      match backwards with
      | .error e => .error e
      | .ok (some path) => .ok (path, [])
      | .ok none => .error (.noPath source target)

/-- The attribute that a search looks for. -/
def searchedAttr (r : ForeignRef) : String := r.column.getD r.baseName

/-- The paths to those of some tables that can be reached. -/
def reachable (c : Catalog) (source : String) (r : ForeignRef) :
    List String → Except Error (List (JoinPath × List Warning))
  | [] => .ok []
  | target :: rest =>
    match pathTo c source target r with
    | .ok hit => (reachable c source r rest).map (hit :: ·)
    | .error (.noPath _ _) | .error (.noMatchingConstraint _ _ _) => reachable c source r rest
    | .error e => .error e

/-- The shortest path to a table that has the attribute. Of equally near ones
the first by name counts, and a warning lists all that can be reached. -/
def search (c : Catalog) (source : String) (r : ForeignRef) :
    Except Error (JoinPath × List Warning) :=
  let attr := searchedAttr r
  match reachable c source r (c.tablesWithAttribute attr source) with
  | .error e => .error e
  | .ok hits =>
    match hits.mergeSort fun a b => a.1.steps.length ≤ b.1.steps.length with
    | [] => .error (.noPath source attr)
    | (path, warnings) :: others =>
      let ambiguity : List Warning :=
        if others.isEmpty then []
        else [⟨attr, path.destination :: others.map (·.1.destination), path.destination⟩]
      .ok (path, warnings ++ ambiguity)

/-- The path of a reference from a mark's table. Marks stand for the tables
that hold their drawn rows. -/
def resolve (c : Catalog) (source : String) (markTables : SortedMap MarkId String)
    (r : ForeignRef) : Except Error (JoinPath × List Warning) :=
  match r.target with
  | .table name => pathTo c source name r
  | .mark id =>
    match markTables.find? id with
    | none => .error (.unknownMark id)
    | some name => pathTo c source name r
  | .search => search c source r

end KeyChart.Reference
