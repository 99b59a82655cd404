import KeyChart.Error
import KeyChart.JoinPath

/-!
# The graph of joins

The steps along which a join keeps every row single: from the many side of a
one-to-many key to its one side, and both ways across a one-to-one key. Paths
are searched breadth first, and, where they have to cross a given constraint,
depth first behind it. Both searches try the steps of a table in the order of
their constraints.
-/

namespace KeyChart

/-- The steps that joins may take, in the order of their constraints. -/
structure JoinGraph where
  steps : List JoinStep
  deriving DecidableEq, Repr

namespace JoinGraph

/-- The steps that one foreign key allows. -/
def stepsAcross (id : ConstraintId) (fk : ForeignKey) : List JoinStep :=
  let step : JoinStep := ⟨id, fk.second, fk.first⟩
  match fk.cardinality with
  | .oneOne => [step, step.reverse]
  | .oneMany => [step]
  | .manyMany => []

/-- The graph of some foreign keys. -/
def ofForeignKeys (keys : List (ConstraintId × ForeignKey)) : JoinGraph :=
  ⟨keys.flatMap fun k => stepsAcross k.1 k.2⟩

/-- The steps that leave a table. -/
def leaving (g : JoinGraph) (table : String) : List JoinStep :=
  g.steps.filter (·.source.table == table)

/-- The steps across one constraint, by the table that they leave. -/
def crossing (g : JoinGraph) (id : ConstraintId) : List JoinStep :=
  (g.steps.filter (·.constraint == id)).mergeSort fun a b => a.source.table ≤ b.source.table

/-! ## Shortest paths -/

/-- Every way to lengthen a path by a step to a table that it does not visit. -/
def extensions (g : JoinGraph) (p : JoinPath) : List JoinPath :=
  ((g.leaving p.destination).filter (·.target.table ∉ p.tables)).map p.extend

/-- Of paths with one signature, the first. -/
def distinctSignatures : List JoinPath → List JoinPath
  | [] => []
  | p :: rest => p :: (distinctSignatures rest).filter (·.signature ≠ p.signature)

/-- The shortest lengthenings of some paths that reach a table, by at most
`fuel` steps. -/
def reach (g : JoinGraph) (destination : String) : Nat → List JoinPath → List JoinPath
  | 0, _ => []
  | fuel + 1, frontier =>
    let next := frontier.flatMap g.extensions
    let found := next.filter (·.destination == destination)
    if found.isEmpty then reach g destination fuel next else distinctSignatures found

/-- Every shortest path between two tables. No path that visits each table once
has more steps than the graph. -/
def shortestPaths (g : JoinGraph) (source destination : String) : List JoinPath :=
  if source = destination then [JoinPath.stay source]
  else g.reach destination g.steps.length [JoinPath.stay source]

/-- The first shortest path between two tables. -/
def shortestPath? (g : JoinGraph) (source destination : String) : Option JoinPath :=
  (g.shortestPaths source destination).head?

/-! ## Paths across a constraint -/

/-- The first way, depth first, from a table to the destination through tables
that are still open. -/
def descend? (g : JoinGraph) (destination : String) (opened : List String) (table : String) :
    Option (List JoinStep) :=
  if table = destination then some []
  else
    (g.leaving table).findSome? fun s =>
      if _h : s.target.table ∈ opened then
        (descend? g destination (opened.erase s.target.table) s.target.table).map (s :: ·)
      else none
termination_by opened.length
decreasing_by
  have := List.length_erase_of_mem _h
  have := List.length_pos_of_mem _h
  omega

/-- The tables that a search may still enter once a path has been walked: those
off the path, and the destination, but not the table in which the path ends. -/
def openTables (g : JoinGraph) (walked : JoinPath) (destination : String) : List String :=
  ((g.steps.map (·.target.table)).eraseDups).filter fun t =>
    (t = destination || t ∉ walked.tables) && t ≠ walked.destination

/-- The ways to enter a constraint: the first shortest path to each table that
a step across it leaves, with the step. Nearer tables come first. -/
def approaches (g : JoinGraph) (source : String) (required : ConstraintId) : List JoinPath :=
  let entries := (g.crossing required).filterMap fun s =>
    (g.shortestPath? source s.source.table).map fun p => (p, s)
  (entries.mergeSort fun a b => a.1.steps.length ≤ b.1.steps.length).map fun e => e.1.extend e.2

/-- A path that crosses the required constraint before any other beyond the
shortest way to it. -/
def pathAcross? (g : JoinGraph) (source destination : String) (required : ConstraintId) :
    Except Error JoinPath :=
  let found := (g.approaches source required).findSome? fun walked =>
    (g.descend? destination (g.openTables walked destination) walked.destination).map fun tail =>
      (⟨walked.source, walked.steps ++ tail⟩ : JoinPath)
  match found with
  | some path => .ok path
  | none => .error (.noPath source destination)

end JoinGraph

end KeyChart
