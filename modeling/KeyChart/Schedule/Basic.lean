import KeyChart.Attempt
import KeyChart.Schedule.Order

/-!
# Schedules

Which marks have to be brought up to date before which others, and how far each
task has come. A mark depends on another if it reads what the other has stored:
its first stage then waits for the last stage of the other.
-/

namespace KeyChart

/-- `target` reads what `source` has stored. -/
structure Dependency where
  source : MarkId
  target : MarkId
  deriving DecidableEq, Repr, Inhabited

namespace Dependency

/-- Dependencies are ordered by source, then by target. -/
def order : Dependency → Dependency → Ordering :=
  compareLex (compareOn Dependency.source) (compareOn Dependency.target)

instance : Ord Dependency := ⟨order⟩

instance : Std.TransOrd Dependency :=
  inferInstanceAs (Std.TransCmp
    (compareLex (compareOn Dependency.source) (compareOn Dependency.target)))

/-- A dependency as an edge. -/
def edge (d : Dependency) : MarkId × MarkId := (d.source, d.target)

end Dependency

/-- Marks, the dependencies between them, and the state of each task. -/
structure Schedule where
  marks : SortedSet MarkId
  dependencies : SortedSet Dependency
  states : SortedMap Task TaskState

namespace Schedule

/-- The schedule without marks. -/
def empty : Schedule := ⟨.empty, .empty, .empty⟩

instance : Inhabited Schedule := ⟨empty⟩

/-- The tasks of a mark, in order. -/
def tasksOf (m : MarkId) : List Task := Stage.all.map fun s => ⟨m, s⟩

/-- Adds a mark with all its tasks pending; a known mark keeps its states. -/
def addMark (g : Schedule) (m : MarkId) : Schedule :=
  if m ∈ g.marks then g
  else
    { g with
      marks := g.marks.insert m
      states := (tasksOf m).foldl (fun states t => states.insert t .pending) g.states }

/-- Adds a dependency and both its marks. -/
def addDependency (g : Schedule) (source target : MarkId) : Schedule :=
  let g := (g.addMark source).addMark target
  { g with dependencies := g.dependencies.insert ⟨source, target⟩ }

/-- The state of a task. -/
def state? (g : Schedule) (t : Task) : Option TaskState := g.states.find? t

/-- The dependencies as edges between marks. -/
def edges (g : Schedule) : List (MarkId × MarkId) := g.dependencies.members.map Dependency.edge

/-- An order of marks in which edges go forward, or the marks that keep it from
existing. -/
def orderMarks (marks : List MarkId) (edges : List (MarkId × MarkId)) :
    Except Error (List MarkId) :=
  (topologicalOrder marks edges id).mapError Error.cycle

/-- The marks in an order in which each comes after those it depends on. -/
def markOrder (g : Schedule) : Except Error (List MarkId) := orderMarks g.marks.members g.edges

/-- The edges between the tasks of some marks: each stage waits for the one
before, and the first for the last stage of every mark depended on. -/
def taskEdges (g : Schedule) (marks : List MarkId) : List (Task × Task) :=
  (marks.flatMap fun m => (tasksOf m).zip (tasksOf m).tail) ++
    g.dependencies.members.map fun d => (⟨d.source, .persist⟩, ⟨d.target, .query⟩)

/-- The rank of a task: the place of its mark in an order, then its stage. -/
def taskRank (marks : List MarkId) (t : Task) : Nat :=
  Stage.all.length * marks.idxOf t.mark + t.stage.rank

/-- Every task in an order in which each comes after those it waits for. -/
def taskOrder (g : Schedule) : Except Error (List Task) :=
  match g.markOrder with
  | .error e => .error e
  | .ok marks =>
    match topologicalOrder (marks.flatMap tasksOf) (g.taskEdges marks) (taskRank marks) with
    | .ok tasks => .ok tasks
    | .error left => .error (.cycle (SortedSet.ofList (left.map Task.mark)).members)

/-- The schedule with the state of one task set. -/
def setState (g : Schedule) (t : Task) (s : TaskState) : Schedule :=
  { g with states := g.states.insert t s }

/-- The schedule with every task pending. -/
def reset (g : Schedule) : Schedule :=
  { g with states := g.states.mapValues fun _ _ => .pending }

/-- What runs a task: it sees the schedule with that task running, and acts on a
state of its own. -/
abbrev Runner (σ : Type) := Schedule → Task → Attempt σ Unit

/-- Runs some tasks in turn, up to the first failure. -/
def runTasks {σ : Type} (run : Runner σ) :
    List Task → Schedule → σ → Except Error Unit × Schedule × σ
  | [], g, s => (.ok (), g, s)
  | t :: rest, g, s =>
    let running := g.setState t .running
    match (run running t).run.run s with
    | (.ok (), s) => runTasks run rest (running.setState t .complete) s
    | (.error e, s) => (.error (.taskFailure t e), running.setState t .failed, s)

/-- Runs every task in order, from a fresh start. It stops at the first failure:
that task is then failed, and those after it are pending. -/
def execute {σ : Type} (run : Runner σ) (g : Schedule) (s : σ) :
    Except Error Unit × Schedule × σ :=
  match g.taskOrder with
  | .error e => (.error e, g, s)
  | .ok tasks => runTasks run tasks g.reset s

end Schedule

end KeyChart
