import KeyChart.Proofs.Schedule.Execution

/-!
# Which order is chosen

Of the nodes that are free the least comes next, so there is only one order that
can be chosen. More edges change it only if they go backward in it, and nodes that
come in rising order and go forward stay as they are. Tasks are ranked by the place
of their mark and by their stage: a mark's tasks come in one piece, and the pieces
in the order of the marks.
-/

namespace KeyChart

namespace Order

variable {α κ : Type} [Ord α] [Ord κ] {key : α → κ} {edges edges' : List (α × α)}

/-! ## The least node -/

section Least

/-- The node of a list that comes before all others. -/
def Least (key : α → κ) (as : List α) (a : α) : Prop :=
  a ∈ as ∧ ∀ b ∈ as, b ≠ a → byKey key a b = .lt

variable {as bs : List α} {a b c : α}

theorem byKey_of_lt {rank : α → Nat} (h : rank a < rank b) : byKey rank a b = .lt := by
  simp [byKey, compareLex, compareOn, Nat.compare_eq_lt.mpr h]

theorem Least.of_mem_iff (h : Least key as a) (hmem : ∀ b, b ∈ as ↔ b ∈ bs) : Least key bs a :=
  ⟨(hmem a).mp h.1, fun b hb => h.2 b ((hmem b).mpr hb)⟩

variable [Std.TransOrd α] [Std.TransOrd κ]

instance : Std.TransCmp (byKey key) :=
  inferInstanceAs (Std.TransCmp (compareLex (compareOn key) compare))

theorem Least.eq (ha : Least key as a) (hb : Least key as b) : a = b := by
  by_contra hne
  exact Std.OrientedCmp.not_lt_of_lt (ha.2 b hb.1 (Ne.symm hne)) (hb.2 a ha.1 hne)

/-- A node that comes after another one does not change which is the least. -/
theorem Least.cons_of_lt (h : Least key (b :: as) a) (hbc : c ≠ b → byKey key b c = .lt) :
    Least key (c :: b :: as) a := by
  refine ⟨List.mem_cons_of_mem _ h.1, ?_⟩
  intro x hx hne
  rcases List.mem_cons.mp hx with rfl | hx
  · by_cases hxb : x = b
    · exact h.2 x (by simp [hxb]) hne
    · by_cases hba : b = a
      · exact hba ▸ hbc hxb
      · exact Std.TransCmp.lt_trans (h.2 b (by simp) hba) (hbc hxb)
  · exact h.2 x hx hne

variable [Std.LawfulEqOrd α]

instance : Std.LawfulEqCmp (byKey key) where
  eq_of_compare h := Std.LawfulEqCmp.eq_of_compare (compareLex_eq_eq.mp h).2

theorem byKey_lt_of_not_lt (hne : b ≠ a) (h : byKey key b a ≠ .lt) : byKey key a b = .lt := by
  have hswap : byKey key a b = (byKey key b a).swap := Std.OrientedCmp.eq_swap
  rw [hswap]
  cases hba : byKey key b a with
  | lt => exact absurd hba h
  | eq => exact absurd (Std.LawfulEqCmp.eq_of_compare hba) hne
  | gt => rfl

theorem least_foldl (bs : List α) (best : α) :
    Least key (best :: bs)
      (bs.foldl (fun best b => if byKey key b best = .lt then b else best) best) := by
  induction bs generalizing best with
  | nil => exact ⟨by simp, fun b hb hne => absurd (List.mem_singleton.mp hb) hne⟩
  | cons c rest ih =>
    rw [List.foldl_cons]
    split
    case isTrue hlt => exact (ih c).cons_of_lt fun _ => hlt
    case isFalse hnot =>
      refine ((ih best).cons_of_lt (c := c) fun hne => byKey_lt_of_not_lt hne hnot).of_mem_iff ?_
      intro b
      simp only [List.mem_cons]
      exact or_left_comm

theorem least?_eq_some_iff : least? key as = some a ↔ Least key as a := by
  cases as with
  | nil => exact iff_of_false (by simp [least?]) (by simp [Least])
  | cons b rest =>
    simp only [least?, Option.some.injEq]
    constructor
    · rintro rfl
      exact least_foldl rest b
    · exact (least_foldl rest b).eq

end Least

/-! ## More edges -/

variable [DecidableEq α]

variable [Std.TransOrd α] [Std.LawfulEqOrd α] [Std.TransOrd κ] {nodes order left : List α}

/-- A node that comes first although more edges are to be respected is free with
these, and it is still the least of what is free. -/
theorem extend_of_forward (h : ∀ e ∈ edges, e ∈ edges') {fuel : Nat}
    (horder : extend edges key fuel left = (order, [])) (hforward : Forward edges' order) :
    extend edges' key fuel left = (order, []) := by
  induction fuel generalizing left order with
  | zero => exact horder
  | succ fuel ih =>
    cases hleast : least? key (free edges left) with
    | none =>
      rw [extend_none hleast] at horder
      cases horder
      exact extend_none rfl
    | some a =>
      rw [extend_some hleast] at horder
      obtain ⟨rfl, hrest⟩ := Prod.mk.inj horder
      obtain ⟨hfree, hless⟩ := least?_eq_some_iff.mp hleast
      have ha := (mem_free.mp hfree).1
      have hfree' : a ∈ free edges' left := by
        refine mem_free.mpr ⟨ha, fun b hb hmem => hforward.1 b hb ?_⟩
        rcases List.mem_cons.mp ((List.perm_cons_erase ha).mem_iff.mp hmem) with rfl | hmem
        · exact List.mem_cons_self
        · have hperm := extend_perm edges key fuel (left.erase a)
          rw [hrest, List.append_nil] at hperm
          exact List.mem_cons_of_mem _ (hperm.mem_iff.mpr hmem)
      have hleast' : least? key (free edges' left) = some a :=
        least?_eq_some_iff.mpr ⟨hfree', fun b hb => hless b (free_subset h hb)⟩
      have hextend := ih (Prod.ext rfl hrest) hforward.2
      rw [extend_some hleast', hextend]

/-- More edges leave an order as it is exactly if they go forward in it. -/
theorem topologicalOrder_append_iff {more : List (α × α)}
    (horder : topologicalOrder nodes edges key = .ok order) :
    topologicalOrder nodes (edges ++ more) key = .ok order ↔ Forward more order := by
  constructor
  · intro h
    exact (forward_append_iff.mp (topologicalOrder_eq_ok h).2).2
  · intro hmore
    have hforward := (topologicalOrder_eq_ok horder).2
    simp only [topologicalOrder] at horder ⊢
    split at horder
    case isTrue hleft =>
      cases horder
      have hextend : extend edges key nodes.length nodes =
          ((extend edges key nodes.length nodes).1, []) :=
        Prod.ext rfl (List.isEmpty_iff.mp hleft)
      rw [extend_of_forward (fun e he => List.mem_append_left _ he) hextend
        (forward_append_iff.mpr ⟨hforward, hmore⟩)]
      rfl
    case isFalse => cases horder

/-- What comes in rising order already, and goes forward, is left as it is. -/
theorem topologicalOrder_of_rising (hrising : nodes.Pairwise fun a b => byKey key a b = .lt)
    (hforward : Forward edges nodes) : topologicalOrder nodes edges key = .ok nodes := by
  have hextend : extend edges key nodes.length nodes = (nodes, []) := by
    induction nodes with
    | nil => rfl
    | cons a rest ih =>
      obtain ⟨hfirst, hrest⟩ := List.pairwise_cons.mp hrising
      have hleast : least? key (free edges (a :: rest)) = some a := by
        refine least?_eq_some_iff.mpr ⟨mem_free.mpr ⟨by simp, hforward.1⟩, ?_⟩
        intro b hb hne
        exact hfirst b ((List.mem_cons.mp (mem_free.mp hb).1).resolve_left hne)
      rw [List.length_cons, extend_some hleast, List.erase_cons_head, ih hrest hforward.2]
  rw [topologicalOrder, hextend]
  rfl

end Order

namespace Schedule

open KeyChart.Order

variable {g : Schedule} {marks : List MarkId} {σ : Type}

theorem taskRank_lt_iff {u t : Task} : taskRank marks u < taskRank marks t ↔
    marks.idxOf u.mark < marks.idxOf t.mark ∨
      (marks.idxOf u.mark = marks.idxOf t.mark ∧ u.stage.rank < t.stage.rank) := by
  have hbelow : ∀ s : Stage, s.rank < 4 := by
    intro s
    cases s <;> decide
  have hu := hbelow u.stage
  have ht := hbelow t.stage
  simp only [taskRank, Stage.all, List.length_cons, List.length_nil]
  omega

/-- Where marks come once, their tasks come in rising order. -/
theorem pairwise_taskRank (h : marks.Nodup) :
    (marks.flatMap tasksOf).Pairwise fun u t => taskRank marks u < taskRank marks t := by
  refine List.pairwise_flatMap.mpr ⟨?_, ?_⟩
  · intro m _
    simp [tasksOf, Stage.all, taskRank_lt_iff, Stage.rank]
  · refine (pairwise_idxOf h).imp ?_
    intro a b hlt u hu t ht
    obtain rfl := mem_tasksOf.mp hu
    obtain rfl := mem_tasksOf.mp ht
    exact taskRank_lt_iff.mpr (.inl hlt)

/-- The second round leaves the tasks as they come mark by mark. -/
theorem orderTasks_eq (hg : g.Closed) (h : g.markOrder = .ok marks) :
    topologicalOrder (marks.flatMap tasksOf) (g.taskEdges marks) (taskRank marks) =
      .ok (marks.flatMap tasksOf) := by
  obtain ⟨hperm, hforward⟩ := topologicalOrder_eq_ok (orderMarks_eq_ok.mp h)
  have hends : ∀ e ∈ g.edges, e.1 ∈ marks ∧ e.2 ∈ marks := by
    intro e he
    exact (hg.edges_mem e he).imp hperm.mem_iff.mpr hperm.mem_iff.mpr
  have hrising := pairwise_taskRank (hperm.nodup_iff.mpr g.marks.nodup_members)
  -- Every edge goes up in rank, so the rising order is forward and its least node always free.
  exact topologicalOrder_of_rising (hrising.imp byKey_of_lt)
    (forward_of_rank _ (taskRank_lt hforward hends) hrising)

/-- The tasks come mark by mark. -/
theorem taskOrder_eq (hg : g.Closed) (h : g.markOrder = .ok marks) :
    g.taskOrder = .ok (marks.flatMap tasksOf) := by
  simp only [taskOrder, h, orderTasks_eq hg h]

/-- The order of the tasks is the order of the marks with the four stages in the place of each
mark. The second round never fails, and where the marks have no order the tasks fail by the
same cycle. -/
theorem tasks_follow_marks (hg : Reachable g) :
    (g.taskOrder = g.markOrder.map fun marks => marks.flatMap fun m =>
      [⟨m, .query⟩, ⟨m, .layout⟩, ⟨m, .render⟩, ⟨m, .persist⟩]) ∧
    (∀ marks, g.markOrder = .ok marks → ∃ tasks,
      topologicalOrder (marks.flatMap tasksOf) (g.taskEdges marks) (taskRank marks) = .ok tasks) ∧
    ∀ e, g.markOrder = .error e → ∃ left, e = .cycle left ∧ g.taskOrder = .error (.cycle left) := by
  have hclosed := hg.wellFormed_idle.1.closed
  refine ⟨?_, fun marks h => ⟨_, orderTasks_eq hclosed h⟩, ?_⟩
  · cases h : g.markOrder with
    | ok marks => exact taskOrder_eq hclosed h
    | error e => simp only [taskOrder, h, Except.map]
  · intro e h
    obtain ⟨left, rfl⟩ := orderMarks_eq_error h
    exact ⟨left, rfl, by simp only [taskOrder, h]⟩

/-- Two marks that have to be there before each other. -/
def circleOfMarks : Schedule := (empty.addDependency ⟨0⟩ ⟨1⟩).addDependency ⟨1⟩ ⟨0⟩

/-- The tasks of the mark that is depended on come first; in a circle both marks are named. -/
theorem tasks_follow_marks_pair :
    pairOfMarks.taskOrder = .ok
        [⟨⟨1⟩, .query⟩, ⟨⟨1⟩, .layout⟩, ⟨⟨1⟩, .render⟩, ⟨⟨1⟩, .persist⟩,
         ⟨⟨0⟩, .query⟩, ⟨⟨0⟩, .layout⟩, ⟨⟨0⟩, .render⟩, ⟨⟨0⟩, .persist⟩] ∧
      circleOfMarks.taskOrder = .error (.cycle [⟨0⟩, ⟨1⟩]) := by
  have hpair : pairOfMarks.markOrder = .ok [⟨1⟩, ⟨0⟩] := by decide +kernel
  have hcircle : circleOfMarks.markOrder = .error (.cycle [⟨0⟩, ⟨1⟩]) := by decide +kernel
  have hreachable : Reachable pairOfMarks := .addDependency _ _ .empty
  have hreachable' : Reachable circleOfMarks := .addDependency _ _ (.addDependency _ _ .empty)
  constructor
  · rw [(tasks_follow_marks hreachable).1, hpair]
    rfl
  · obtain ⟨left, heq, horder⟩ := (tasks_follow_marks hreachable').2.2 _ hcircle
    rw [heq, horder]

/-- In rising order, what is less comes before. -/
theorem mem_before_iff {α : Type} {rank : α → Nat} {before after : List α} {u t : α}
    (h : (before ++ t :: after).Pairwise fun a b => rank a < rank b)
    (hu : u ∈ before ++ t :: after) : u ∈ before ↔ rank u < rank t := by
  obtain ⟨-, hafter, hbefore⟩ := List.pairwise_append.mp h
  constructor
  · exact fun hu => hbefore u hu t (by simp)
  · intro hlt
    rcases List.mem_append.mp hu with hu | hu
    · exact hu
    · rcases List.mem_cons.mp hu with rfl | hu
      · exact absurd hlt (Nat.lt_irrefl _)
      · exact absurd ((List.pairwise_cons.mp hafter).1 u hu) (Nat.lt_asymm hlt)

/-- A mark's query sees the rows of another mark stored in the same run exactly if
the other mark comes before it. -/
theorem stored_iff_before (hg : Reachable g) (h : g.markOrder = .ok marks) (run : Runner σ) (s : σ)
    {call : Call} (hcall : call ∈ calls run g s) {a b : MarkId} (ha : a ∈ marks)
    (hb : call.task = ⟨b, .query⟩) :
    call.seen.state? ⟨a, .persist⟩ = some .complete ↔ marks.idxOf a < marks.idxOf b := by
  have hwell := hg.wellFormed_idle.1
  obtain ⟨tasks, horder, htasks⟩ := taskOrder_of_not_cyclic hwell.closed
    ((markOrder_isOk_iff hwell.closed).mp ⟨marks, h⟩)
  obtain rfl : tasks = marks.flatMap tasksOf :=
    Except.ok.inj (horder.symm.trans (taskOrder_eq hwell.closed h))
  have hmarks := (topologicalOrder_eq_ok (orderMarks_eq_ok.mp h)).1
  have hrising := pairwise_taskRank (hmarks.nodup_iff.mpr g.marks.nodup_members)
  have hmem : (⟨a, .persist⟩ : Task) ∈ marks.flatMap tasksOf := mem_flatMap_tasksOf.mpr ha
  have hran := ran_of_order run s horder
  obtain ⟨before, after, hlog⟩ := List.append_of_mem hcall
  -- The tasks before the call are those of lower rank, and just these are complete.
  obtain ⟨more, hmore⟩ := hran.task_prefix
  rw [hlog, List.map_append, List.map_cons, List.append_assoc, List.cons_append] at hmore
  have hbefore : (⟨a, .persist⟩ : Task) ∈ before.map Call.task ↔ marks.idxOf a < marks.idxOf b := by
    rw [← hmore] at hrising hmem
    rw [mem_before_iff hrising hmem, taskRank_lt_iff, hb]
    simp [Stage.rank]
  have hseen := hran.seen (hwell.progress htasks) hlog ⟨a, .persist⟩
  rw [if_neg (by simp [hb]), List.nil_append, if_pos hmem] at hseen
  rw [hseen, ← hbefore]
  split
  case isTrue hin => simp [hin]
  case isFalse hout => simp [hout]

end Schedule

end KeyChart
