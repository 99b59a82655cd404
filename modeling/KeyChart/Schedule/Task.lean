import KeyChart.Ids

/-!
# Tasks

Bringing a mark up to date takes four stages in a fixed order. A task is one
stage of one mark.
-/

namespace KeyChart

/-- The stages of a mark: ask the engine for its rows, place them, draw them,
and store what was drawn. -/
inductive Stage where
  | query
  | layout
  | render
  | persist
  deriving DecidableEq, Repr, Inhabited

namespace Stage

/-- The stages in the order in which they run. -/
def all : List Stage := [query, layout, render, persist]

/-- The place of a stage in that order. -/
def rank : Stage → Nat
  | query => 0
  | layout => 1
  | render => 2
  | persist => 3

/-- The name of a stage. -/
def label : Stage → String
  | query => "query"
  | layout => "layout"
  | render => "render"
  | persist => "persist"

theorem rank_injective {a b : Stage} (h : a.rank = b.rank) : a = b := by
  cases a <;> cases b <;> simp_all [rank]

end Stage

/-- One stage of one mark. -/
structure Task where
  mark : MarkId
  stage : Stage
  deriving DecidableEq, Repr, Inhabited

namespace Task

/-- Tasks are ordered by mark, then by stage. -/
def order : Task → Task → Ordering :=
  compareLex (compareOn fun t => t.mark.index) (compareOn fun t => t.stage.rank)

instance : Ord Task := ⟨order⟩

instance : Std.TransOrd Task :=
  inferInstanceAs (Std.TransCmp
    (compareLex (compareOn fun t : Task => t.mark.index) (compareOn fun t : Task => t.stage.rank)))

instance : Std.LawfulEqOrd Task where
  eq_of_compare {a b} h := by
    obtain ⟨⟨m⟩, s⟩ := a
    obtain ⟨⟨n⟩, t⟩ := b
    have ⟨hmark, hstage⟩ := compareLex_eq_eq.mp h
    have hm : m = n := Nat.compare_eq_eq.mp hmark
    have hs : s = t := Stage.rank_injective (Nat.compare_eq_eq.mp hstage)
    rw [hm, hs]

/-- A task in messages: `m0:query`. -/
def label (t : Task) : String := t.mark.label ++ ":" ++ t.stage.label

end Task

/-- How far a task has come. -/
inductive TaskState where
  | pending
  | running
  | complete
  | failed
  deriving DecidableEq, Repr, Inhabited

end KeyChart
