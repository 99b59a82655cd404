import KeyChart.Proofs.Schedule.Order
import KeyChart.Proofs.SortedMap
import KeyChart.Schedule.Basic

/-!
# The order of tasks

Tasks are ordered in two rounds, marks first. If the marks have an order then so
have the tasks: the place of the mark and the stage together grow along every
edge. So only a cycle of dependencies keeps tasks from being ordered. In the
order a task comes after all earlier stages of its mark and after the last stage
of every mark that its mark depends on.
-/

namespace KeyChart

instance : Std.LawfulEqOrd Dependency where
  eq_of_compare {a b} h := by
    obtain ⟨source, target⟩ := a
    obtain ⟨source', target'⟩ := b
    have ⟨hsource, htarget⟩ := compareLex_eq_eq.mp h
    have hs : source = source' := Std.LawfulEqCmp.eq_of_compare hsource
    have ht : target = target' := Std.LawfulEqCmp.eq_of_compare htarget
    rw [hs, ht]

/-- A stage that is not the first has one right before it. -/
theorem Stage.exists_previous {b : Stage} (h : 0 < b.rank) : ∃ a : Stage, b.rank = a.rank + 1 := by
  cases b with
  | query => cases h
  | layout => exact ⟨.query, rfl⟩
  | render => exact ⟨.layout, rfl⟩
  | persist => exact ⟨.render, rfl⟩

namespace Schedule

open KeyChart.Order

variable {g : Schedule} {marks : List MarkId}

/-- Whether a mark depends on itself, be it through others. -/
def Cyclic (g : Schedule) : Prop :=
  ∃ m, Relation.TransGen (fun a b => (⟨a, b⟩ : Dependency) ∈ g.dependencies) m m

/-- Whether a task has to wait for another: for an earlier stage of its mark, or
for the last stage of a mark on which its mark depends. -/
def Awaits (g : Schedule) (u t : Task) : Prop :=
  (u.mark = t.mark ∧ u.stage.rank < t.stage.rank) ∨
    (u.stage = .persist ∧ ⟨u.mark, t.mark⟩ ∈ g.dependencies)

/-- Dependencies are between known marks. -/
def Closed (g : Schedule) : Prop :=
  ∀ d ∈ g.dependencies, d.source ∈ g.marks ∧ d.target ∈ g.marks

/-! ## Marks -/

theorem mem_edges {a b : MarkId} : (a, b) ∈ g.edges ↔ ⟨a, b⟩ ∈ g.dependencies := by
  simp only [edges, List.mem_map, Dependency.edge, Prod.mk.injEq]
  constructor
  · rintro ⟨d, hd, rfl, rfl⟩
    exact hd
  · intro h
    exact ⟨_, h, rfl, rfl⟩

theorem cyclic_iff : g.Cyclic ↔ Order.Cyclic g.edges := by
  simp only [Cyclic, Order.Cyclic, Reaches, mem_edges]

theorem Closed.edges_mem (hg : g.Closed) :
    ∀ e ∈ g.edges, e.1 ∈ g.marks.members ∧ e.2 ∈ g.marks.members := by
  rintro ⟨a, b⟩ he
  exact hg _ (mem_edges.mp he)

theorem orderMarks_eq_ok {edges : List (MarkId × MarkId)} {nodes order : List MarkId} :
    orderMarks nodes edges = .ok order ↔ topologicalOrder nodes edges id = .ok order := by
  unfold orderMarks
  cases topologicalOrder nodes edges id <;> simp [Except.mapError]

theorem orderMarks_eq_error {edges : List (MarkId × MarkId)} {nodes : List MarkId} {e : Error}
    (h : orderMarks nodes edges = .error e) : ∃ left, e = .cycle left := by
  unfold orderMarks at h
  cases horder : topologicalOrder nodes edges id with
  | ok order => simp [horder, Except.mapError] at h
  | error left =>
    simp only [horder, Except.mapError, Except.error.injEq] at h
    exact ⟨left, h.symm⟩

/-- Marks have an order exactly if no mark depends on itself. -/
theorem markOrder_isOk_iff (hg : g.Closed) : (∃ marks, g.markOrder = .ok marks) ↔ ¬ g.Cyclic := by
  rw [cyclic_iff, ← topologicalOrder_isOk_iff id hg.edges_mem]
  simp only [markOrder, orderMarks_eq_ok]

/-! ## Tasks -/

theorem mem_tasksOf {m : MarkId} {t : Task} : t ∈ tasksOf m ↔ t.mark = m := by
  obtain ⟨m', s⟩ := t
  cases s <;> simp [tasksOf, Stage.all, eq_comm]

theorem nodup_tasksOf (m : MarkId) : (tasksOf m).Nodup := by
  simp [tasksOf, Stage.all]

theorem mem_flatMap_tasksOf {t : Task} : t ∈ marks.flatMap tasksOf ↔ t.mark ∈ marks := by
  simp [List.mem_flatMap, mem_tasksOf]

theorem nodup_flatMap_tasksOf (h : marks.Nodup) : (marks.flatMap tasksOf).Nodup := by
  refine List.nodup_flatMap.mpr ⟨fun m _ => nodup_tasksOf m, ?_⟩
  refine h.imp ?_
  intro m m' hne t ht ht'
  exact hne ((mem_tasksOf.mp ht).symm.trans (mem_tasksOf.mp ht'))

theorem mem_taskEdges {u t : Task} :
    (u, t) ∈ g.taskEdges marks ↔
      (u.mark = t.mark ∧ u.mark ∈ marks ∧ t.stage.rank = u.stage.rank + 1) ∨
      (u.stage = .persist ∧ t.stage = .query ∧ ⟨u.mark, t.mark⟩ ∈ g.dependencies) := by
  have hchain : ∀ m, (u, t) ∈ (tasksOf m).zip (tasksOf m).tail ↔
      u.mark = m ∧ t.mark = m ∧ t.stage.rank = u.stage.rank + 1 := by
    intro m
    obtain ⟨mu, su⟩ := u
    obtain ⟨mt, st⟩ := t
    cases su <;> cases st <;> simp [tasksOf, Stage.all, Stage.rank]
  rw [taskEdges, List.mem_append, List.mem_flatMap, List.mem_map]
  refine or_congr ?_ ?_
  · constructor
    · rintro ⟨m, hm, hmem⟩
      obtain ⟨rfl, hsame, hrank⟩ := (hchain m).mp hmem
      exact ⟨hsame.symm, hm, hrank⟩
    · rintro ⟨hsame, hm, hrank⟩
      exact ⟨u.mark, hm, (hchain _).mpr ⟨rfl, hsame.symm, hrank⟩⟩
  · constructor
    · rintro ⟨d, hd, heq⟩
      cases heq
      exact ⟨rfl, rfl, hd⟩
    · obtain ⟨mu, su⟩ := u
      obtain ⟨mt, st⟩ := t
      rintro ⟨rfl, rfl, hd⟩
      exact ⟨⟨mu, mt⟩, hd, rfl⟩

/-- The edges between the tasks of some marks are between them. -/
theorem taskEdges_mem (hends : ∀ e ∈ g.edges, e.1 ∈ marks ∧ e.2 ∈ marks) :
    ∀ e ∈ g.taskEdges marks, e.1 ∈ marks.flatMap tasksOf ∧ e.2 ∈ marks.flatMap tasksOf := by
  rintro ⟨u, t⟩ he
  rw [mem_flatMap_tasksOf, mem_flatMap_tasksOf]
  rcases mem_taskEdges.mp he with ⟨hsame, hm, -⟩ | ⟨-, -, hd⟩
  · exact ⟨hm, hsame ▸ hm⟩
  · exact hends _ (mem_edges.mpr hd)

/-- The rank of tasks grows along edges. -/
theorem taskRank_lt (hforward : Forward g.edges marks)
    (hends : ∀ e ∈ g.edges, e.1 ∈ marks ∧ e.2 ∈ marks) (u t : Task)
    (h : (u, t) ∈ g.taskEdges marks) : taskRank marks u < taskRank marks t := by
  rcases mem_taskEdges.mp h with ⟨hsame, -, hrank⟩ | ⟨hpersist, hquery, hd⟩
  · rw [taskRank, taskRank, hsame, hrank]
    omega
  · -- The mark depended on comes earlier, by at least as many ranks as a mark has stages.
    have hedge := mem_edges.mpr hd
    obtain ⟨hu, ht⟩ := hends _ hedge
    have hlt := hforward.idxOf_lt hedge hu ht
    simp only [taskRank, hpersist, hquery, Stage.rank, Stage.all, List.length_cons, List.length_nil]
    omega

/-- Within a mark, every stage leads to every later one. -/
theorem reaches_later_stage {m : MarkId} {a b : Stage} (hm : m ∈ marks) (h : a.rank < b.rank) :
    Reaches (g.taskEdges marks) ⟨m, a⟩ ⟨m, b⟩ := by
  induction hn : b.rank generalizing b with
  | zero => omega
  | succ n ih =>
    obtain ⟨p, hp⟩ := Stage.exists_previous (Nat.zero_lt_of_lt h)
    have hlast : ((⟨m, p⟩, ⟨m, b⟩) : Task × Task) ∈ g.taskEdges marks :=
      mem_taskEdges.mpr (.inl ⟨rfl, hm, hp⟩)
    by_cases hap : a.rank = p.rank
    · obtain rfl := Stage.rank_injective hap
      exact .single hlast
    · exact (ih (by omega) (by omega)).tail hlast

/-- What a task waits for leads to it by edges. -/
theorem Awaits.reaches {u t : Task} (h : g.Awaits u t) (ht : t.mark ∈ marks) :
    Reaches (g.taskEdges marks) u t := by
  obtain ⟨mu, su⟩ := u
  obtain ⟨mt, st⟩ := t
  rcases h with ⟨rfl, hrank⟩ | ⟨rfl, hd⟩
  · exact reaches_later_stage ht hrank
  · have hfirst : ((⟨mu, .persist⟩, ⟨mt, .query⟩) : Task × Task) ∈ g.taskEdges marks :=
      mem_taskEdges.mpr (.inr ⟨rfl, rfl, hd⟩)
    by_cases hquery : st = .query
    · rw [hquery]
      exact .single hfirst
    · have hrank : Stage.query.rank < st.rank := by
        cases st with
        | query => exact absurd rfl hquery
        | layout | render | persist => decide
      exact .head hfirst (reaches_later_stage ht hrank)

/-- Every task once, none before a task that it waits for. -/
structure Executable (g : Schedule) (tasks : List Task) : Prop where
  nodup : tasks.Nodup
  mem : ∀ t, t ∈ tasks ↔ t.mark ∈ g.marks
  awaited : ∀ before t after, tasks = before ++ t :: after → ∀ u, g.Awaits u t → u ∈ before

theorem taskOrder_of_cyclic (hg : g.Closed) (h : g.Cyclic) :
    ∃ left, g.taskOrder = .error (.cycle left) := by
  cases hmarks : g.markOrder with
  | ok marks => exact absurd h ((markOrder_isOk_iff hg).mp ⟨marks, hmarks⟩)
  | error e =>
    obtain ⟨left, rfl⟩ := orderMarks_eq_error hmarks
    exact ⟨left, by simp [taskOrder, hmarks]⟩

/-- Unless a mark depends on itself, the tasks have an order. -/
theorem taskOrder_of_not_cyclic (hg : g.Closed) (h : ¬ g.Cyclic) :
    ∃ tasks, g.taskOrder = .ok tasks ∧ g.Executable tasks := by
  obtain ⟨marks, hmarks⟩ := (markOrder_isOk_iff hg).mpr h
  obtain ⟨hperm, hforward⟩ := topologicalOrder_eq_ok (orderMarks_eq_ok.mp hmarks)
  have hmem : ∀ {m}, m ∈ marks ↔ m ∈ g.marks := hperm.mem_iff
  have hends : ∀ e ∈ g.edges, e.1 ∈ marks ∧ e.2 ∈ marks := by
    intro e he
    exact (hg.edges_mem e he).imp hmem.mpr hmem.mpr
  have htaskEnds := taskEdges_mem hends
  -- The second round cannot fail: the order of the marks ranks the tasks.
  obtain ⟨tasks, htasks⟩ := (topologicalOrder_isOk_iff (taskRank marks) htaskEnds).mpr
    (not_cyclic_of_rank (taskRank marks) (taskRank_lt hforward hends))
  obtain ⟨htaskPerm, htaskForward⟩ := topologicalOrder_eq_ok htasks
  have hmemTask : ∀ t, t ∈ tasks ↔ t.mark ∈ g.marks := by
    intro t
    rw [htaskPerm.mem_iff, mem_flatMap_tasksOf, hmem]
  refine ⟨tasks, by simp [taskOrder, hmarks, htasks], ?_, hmemTask, ?_⟩
  · exact htaskPerm.nodup_iff.mpr (nodup_flatMap_tasksOf (hperm.nodup_iff.mpr g.marks.nodup_members))
  · intro before t after horder u hu
    have ht : t.mark ∈ marks := by
      rw [hmem, ← hmemTask, horder]
      simp
    refine htaskForward.mem_before_of_reaches ?_ (hu.reaches ht) horder
    exact fun e he => htaskPerm.mem_iff.mpr (htaskEnds e he).1

end Schedule

end KeyChart
