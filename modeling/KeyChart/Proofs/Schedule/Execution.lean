import KeyChart.Proofs.Schedule.Runs

/-!
# Executions

What an execution does, for every schedule that can be built and every runner.
The states that an earlier execution left behind do not matter: an execution
starts by taking every task for pending.
-/

namespace KeyChart.Schedule

open Attempt

/-- The schedules that can be built. An execution leaves one behind whether it
succeeds or fails, and there may be any number of them. -/
inductive Reachable : Schedule → Prop where
  | empty : Reachable empty
  | addMark {g : Schedule} (m : MarkId) : Reachable g → Reachable (g.addMark m)
  | addDependency {g : Schedule} (source target : MarkId) :
      Reachable g → Reachable (g.addDependency source target)
  | execute {g : Schedule} {σ : Type} (run : Runner σ) (s : σ) :
      Reachable g → Reachable (execute run g s).2.1

/-- Dependencies are between known marks, and just the tasks of known marks have
a state, whichever it is. -/
structure WellFormed (g : Schedule) : Prop where
  closed : g.Closed
  known : ∀ t, (g.state? t).isSome = true ↔ t.mark ∈ g.marks

variable {g g' : Schedule} {tasks rest : List Task} {σ : Type}

/-! ## Building schedules -/

theorem state?_addMark {m : MarkId} (hm : m ∉ g.marks) (t : Task) :
    (g.addMark m).state? t = if t.mark = m then some .pending else g.state? t := by
  rw [addMark, if_neg hm, state?, SortedMap.find?_foldl_insert]
  simp only [mem_tasksOf]
  rfl

theorem addMark_of_mem {m : MarkId} (hm : m ∈ g.marks) : g.addMark m = g := if_pos hm

theorem addMark_marks {m m' : MarkId} : m' ∈ (g.addMark m).marks ↔ m' = m ∨ m' ∈ g.marks := by
  by_cases hm : m ∈ g.marks
  · rw [addMark_of_mem hm]
    constructor
    · exact Or.inr
    · rintro (rfl | h)
      · exact hm
      · exact h
  · rw [addMark, if_neg hm]
    exact SortedSet.mem_insert

theorem addMark_dependencies (g : Schedule) (m : MarkId) :
    (g.addMark m).dependencies = g.dependencies := by
  unfold addMark
  split <;> rfl

theorem addDependency_marks {source target m : MarkId} :
    m ∈ (g.addDependency source target).marks ↔ m = target ∨ m = source ∨ m ∈ g.marks :=
  addMark_marks.trans (or_congr_right addMark_marks)

theorem addDependency_dependencies {source target : MarkId} {d : Dependency} :
    d ∈ (g.addDependency source target).dependencies ↔ d = ⟨source, target⟩ ∨ d ∈ g.dependencies := by
  refine SortedSet.mem_insert.trans (or_congr_right ?_)
  rw [addMark_dependencies, addMark_dependencies]

theorem WellFormed.addMark (hg : g.WellFormed) (m : MarkId) : (g.addMark m).WellFormed where
  closed := by
    intro d hd
    rw [addMark_dependencies] at hd
    exact (hg.closed d hd).imp (fun h => addMark_marks.mpr (.inr h))
      (fun h => addMark_marks.mpr (.inr h))
  known := by
    intro t
    by_cases hm : m ∈ g.marks
    · rw [addMark_of_mem hm]
      exact hg.known t
    · rw [state?_addMark hm, addMark_marks]
      by_cases ht : t.mark = m
      · simp [ht]
      · simp [ht, hg.known t]

theorem WellFormed.addDependency (hg : g.WellFormed) (source target : MarkId) :
    (g.addDependency source target).WellFormed where
  closed := by
    have hboth := (hg.addMark source).addMark target
    intro d hd
    rcases SortedSet.mem_insert.mp hd with rfl | hd
    · exact ⟨addMark_marks.mpr (.inr (addMark_marks.mpr (.inl rfl))), addMark_marks.mpr (.inl rfl)⟩
    · exact hboth.closed d hd
  known := ((hg.addMark source).addMark target).known

theorem WellFormed.setState (hg : g.WellFormed) {t : Task} (ht : t.mark ∈ g.marks)
    (s : TaskState) : (g.setState t s).WellFormed where
  closed := hg.closed
  known := by
    intro u
    rw [state?_setState]
    by_cases hu : u = t
    · rw [if_pos hu, hu]
      exact iff_of_true rfl ht
    · rw [if_neg hu]
      exact hg.known u

@[simp] theorem state?_reset (g : Schedule) (t : Task) :
    g.reset.state? t = (g.state? t).map fun _ => .pending := by
  simp [state?, reset]

theorem WellFormed.reset (hg : g.WellFormed) : g.reset.WellFormed where
  closed := hg.closed
  known := by
    intro t
    rw [state?_reset, Option.isSome_map]
    exact hg.known t

theorem Ran.wellFormed {calls : List Call} {result : Except Error Unit}
    (h : Ran g rest calls result g') (hg : g.WellFormed) (hrest : ∀ t ∈ rest, t.mark ∈ g.marks) :
    g'.WellFormed := by
  induction h with
  | done => exact hg
  | @complete g g' t rest calls result _ ih =>
    have ht : t.mark ∈ g.marks := hrest t (by simp)
    exact ih ((hg.setState ht .running).setState ht .complete) fun u hu => hrest u (by simp [hu])
  | failed g t rest e =>
    have ht : t.mark ∈ g.marks := hrest t (by simp)
    exact (hg.setState ht .running).setState ht .failed

/-! ## Executing them -/

theorem execute_of_order_error (run : Runner σ) (s : σ) {e : Error} (h : g.taskOrder = .error e) :
    execute run g s = (.error e, g, s) := by
  simp only [execute, h]

theorem execute_of_order (run : Runner σ) (s : σ) (h : g.taskOrder = .ok tasks) :
    execute run g s = runTasks run tasks g.reset s := by
  simp only [execute, h]

/-- What every call of the runner keeps, an execution keeps. -/
theorem execute_keeps {I : σ → Prop} {run : Runner σ} (h : ∀ g t, (run g t).Keeps I)
    (g : Schedule) {s : σ} (hs : I s) : I (execute run g s).2.2 := by
  cases horder : g.taskOrder with
  | error e =>
    rw [execute_of_order_error run s horder]
    exact hs
  | ok tasks =>
    rw [execute_of_order run s horder]
    exact runTasks_keeps h tasks g.reset hs

/-- After an execution that succeeds all tasks of known marks are done. -/
theorem execute_takes {I : List Task → σ → Prop} {E : σ → Prop} (run : Runner σ)
    (hg : g.WellFormed) (h : ∀ done g t, Takes (I done) (run g t) (fun _ => I (done ++ [t])) E)
    (hE : ∀ s, I [] s → E s) {s : σ} (hs : I [] s) :
    ((execute run g s).1 = .ok () → ∃ tasks, (∀ t, t ∈ tasks ↔ t.mark ∈ g.marks) ∧
      I tasks (execute run g s).2.2) ∧
    ∀ e, (execute run g s).1 = .error e → E (execute run g s).2.2 := by
  by_cases hcyclic : g.Cyclic
  · obtain ⟨left, hleft⟩ := taskOrder_of_cyclic hg.closed hcyclic
    rw [execute_of_order_error run s hleft]
    constructor
    · intro hok
      cases hok
    · intro _ _
      exact hE s hs
  · obtain ⟨tasks, horder, ht⟩ := taskOrder_of_not_cyclic hg.closed hcyclic
    obtain ⟨hok, herror⟩ := runTasks_takes h tasks [] g.reset hs
    rw [execute_of_order run s horder]
    exact ⟨fun hrun => ⟨tasks, ht.mem, hok hrun⟩, herror⟩

/-- An execution of ordered tasks is a run of them, from a fresh start. -/
theorem ran_of_order (run : Runner σ) (s : σ) (h : g.taskOrder = .ok tasks) :
    Ran g.reset tasks (calls run g s) (execute run g s).1 (execute run g s).2.1 := by
  obtain ⟨log, hlog, hran⟩ := runTasks_logged run tasks g.reset [] s
  have hcalls : calls run g s = log := by
    rw [calls, execute_of_order _ _ h, hlog]
    rfl
  rw [hcalls, execute_of_order run s h]
  exact hran

/-- An execution changes nothing but states. -/
theorem execute_unchanged (run : Runner σ) (g : Schedule) (s : σ) :
    (execute run g s).2.1.marks = g.marks ∧
      (execute run g s).2.1.dependencies = g.dependencies := by
  cases h : g.taskOrder with
  | error e =>
    rw [execute_of_order_error run s h]
    exact ⟨rfl, rfl⟩
  | ok tasks => exact (ran_of_order run s h).unchanged

/-- Recording the calls of an execution does not change it. -/
theorem execute_logged (g : Schedule) (run : Runner σ) (s : σ) :
    execute (logged run) g ([], s) =
      ((execute run g s).1, (execute run g s).2.1, calls run g s, (execute run g s).2.2) := by
  cases h : g.taskOrder with
  | error e => simp [calls, execute_of_order_error _ _ h]
  | ok tasks =>
    obtain ⟨log, hlog, -⟩ := runTasks_logged run tasks g.reset [] s
    rw [calls, execute_of_order _ _ h, execute_of_order _ _ h, hlog]

/-- At the start of a run nothing is done, whatever states there were. -/
theorem WellFormed.progress (hg : g.WellFormed) (ht : g.Executable tasks) :
    Progress tasks [] g.reset := by
  intro t
  rw [state?_reset]
  by_cases hmem : t ∈ tasks
  · obtain ⟨s, hs⟩ := Option.isSome_iff_exists.mp ((hg.known t).mpr ((ht.mem t).mp hmem))
    simp [hs, hmem]
  · have hnone : g.state? t = none := by
      rw [← Option.not_isSome_iff_eq_none, hg.known t, ← ht.mem t]
      exact hmem
    simp [hnone, hmem]

theorem WellFormed.execute (hg : g.WellFormed) (run : Runner σ) (s : σ) :
    (execute run g s).2.1.WellFormed := by
  by_cases hcyclic : g.Cyclic
  · obtain ⟨left, hleft⟩ := taskOrder_of_cyclic hg.closed hcyclic
    rw [execute_of_order_error run s hleft]
    exact hg
  · obtain ⟨tasks, horder, ht⟩ := taskOrder_of_not_cyclic hg.closed hcyclic
    exact (ran_of_order run s horder).wellFormed hg.reset fun t hmem => (ht.mem t).mp hmem

/-- An execution leaves no task running that was not running before. -/
theorem WellFormed.not_running (hg : g.WellFormed) (run : Runner σ) (s : σ)
    (hidle : ∀ t, g.state? t ≠ some .running) (t : Task) :
    (Schedule.execute run g s).2.1.state? t ≠ some .running := by
  by_cases hcyclic : g.Cyclic
  · obtain ⟨left, hleft⟩ := taskOrder_of_cyclic hg.closed hcyclic
    rw [execute_of_order_error run s hleft]
    exact hidle t
  · obtain ⟨tasks, horder, ht⟩ := taskOrder_of_not_cyclic hg.closed hcyclic
    exact (ran_of_order run s horder).idle (hg.progress ht) t

theorem wellFormed_empty : WellFormed empty where
  closed := by
    intro d hd
    exact absurd hd (SortedSet.not_mem_empty d)
  known := by simp [state?, empty]

theorem idle_addMark (hg : ∀ t, g.state? t ≠ some .running) (m : MarkId) (t : Task) :
    (g.addMark m).state? t ≠ some .running := by
  by_cases hm : m ∈ g.marks
  · rw [addMark_of_mem hm]
    exact hg t
  · rw [state?_addMark hm]
    split
    · simp
    · exact hg t

/-- Between executions schedules are well-formed and nothing is running. -/
theorem Reachable.wellFormed_idle (hg : Reachable g) :
    g.WellFormed ∧ ∀ t, g.state? t ≠ some .running := by
  induction hg with
  | empty => exact ⟨wellFormed_empty, by simp [state?, Schedule.empty]⟩
  | addMark m _ ih => exact ⟨ih.1.addMark m, idle_addMark ih.2 m⟩
  | addDependency source target _ ih =>
    exact ⟨ih.1.addDependency source target, idle_addMark (idle_addMark ih.2 source) target⟩
  | execute run s _ ih => exact ⟨ih.1.execute run s, ih.1.not_running run s ih.2⟩

/-! ## What executions do -/

/-- How an execution goes for which the tasks have an order. -/
structure RunsInOrder (run : Runner σ) (g : Schedule) (s : σ) (tasks : List Task) : Prop where
  called : (calls run g s).map Call.task <+: tasks
  once : ((calls run g s).map Call.task).Nodup
  seen : ∀ call ∈ calls run g s, call.seen.state? call.task = some .running ∧
    (∀ u, g.Awaits u call.task → call.seen.state? u = some .complete) ∧
    ∀ u, call.seen.state? u = some .running → u = call.task
  all_ok : (∀ call ∈ calls run g s, call.outcome = .ok ()) →
    (execute run g s).1 = .ok () ∧ (calls run g s).map Call.task = tasks ∧
      ∀ t, t.mark ∈ g.marks → (execute run g s).2.1.state? t = some .complete
  stopped : ∀ before call after e, calls run g s = before ++ call :: after →
    call.outcome = .error e →
    after = [] ∧ (execute run g s).1 = .error (.taskFailure call.task e) ∧
      ∀ t, t.mark ∈ g.marks → (execute run g s).2.1.state? t =
        some (if t = call.task then .failed
          else if t ∈ before.map Call.task then .complete else .pending)

/-- A call comes behind everything that its task waits for. -/
theorem awaited_of_call {log before after : List Call} {call : Call} (ht : g.Executable tasks)
    (hcalled : log.map Call.task <+: tasks) (hlog : log = before ++ call :: after) {u : Task}
    (hu : g.Awaits u call.task) : u ∈ before.map Call.task := by
  obtain ⟨more, hmore⟩ := hcalled
  refine ht.awaited _ _ (after.map Call.task ++ more) ?_ u hu
  rw [← hmore, hlog]
  simp

/-- A call sees its task running, what that waits for complete, and no other
task running. -/
theorem Ran.sees {start : Schedule} {log : List Call} {result : Except Error Unit}
    (h : Ran start tasks log result g') (hstart : Progress tasks [] start)
    (ht : g.Executable tasks) {call : Call} (hcall : call ∈ log) :
    call.seen.state? call.task = some .running ∧
      (∀ u, g.Awaits u call.task → call.seen.state? u = some .complete) ∧
      ∀ u, call.seen.state? u = some .running → u = call.task := by
  obtain ⟨before, after, hlog⟩ := List.append_of_mem hcall
  have hamid := h.seen hstart hlog
  rw [List.nil_append] at hamid
  refine ⟨by simp [hamid call.task], ?_, fun u hu => hamid.eq_of_running hu⟩
  intro u hu
  have hbefore := awaited_of_call ht h.task_prefix hlog hu
  have hne : u ≠ call.task := by
    -- No task is called twice, so what comes before a call is not its task.
    rintro rfl
    have hnodup := h.task_prefix.sublist.nodup ht.nodup
    rw [hlog, List.map_append, List.map_cons] at hnodup
    exact (List.nodup_append.mp hnodup).2.2 _ hbefore _ (by simp) rfl
  rw [hamid u, if_neg hne, if_pos hbefore]

theorem runsInOrder (hg : g.WellFormed) (ht : g.Executable tasks) (horder : g.taskOrder = .ok tasks)
    (run : Runner σ) (s : σ) : RunsInOrder run g s tasks := by
  have hran := ran_of_order run s horder
  have hstart := hg.progress ht
  refine ⟨hran.task_prefix, hran.task_prefix.sublist.nodup ht.nodup, ?_, ?_, ?_⟩
  · intro call hcall
    exact hran.sees hstart ht hcall
  · intro hok
    obtain ⟨hresult, htasks, hprogress⟩ := hran.all_ok hstart hok
    refine ⟨hresult, htasks, ?_⟩
    intro t hmark
    rw [hprogress t, List.nil_append, if_pos ((ht.mem t).mpr hmark)]
  · intro before call after e hlog he
    obtain ⟨hafter, hresult, hamid⟩ := hran.stopped hstart hlog he
    refine ⟨hafter, hresult, ?_⟩
    intro t hmark
    rw [hamid t, List.nil_append, if_pos ((ht.mem t).mpr hmark)]
    by_cases hself : t = call.task
    · rw [if_pos hself, if_pos hself]
    · by_cases hbefore : t ∈ before.map Call.task
      · rw [if_neg hself, if_neg hself, if_pos hbefore, if_pos hbefore]
      · rw [if_neg hself, if_neg hself, if_neg hbefore, if_neg hbefore]

/-- If marks depend on themselves, an execution fails and does nothing else.
Otherwise it calls the runner for the tasks in order, each behind all that it
waits for, and stops at the first failure. Afterwards no task is running. -/
theorem execute_in_order (hg : Reachable g) (run : Runner σ) (s : σ) :
    execute (logged run) g ([], s) =
      ((execute run g s).1, (execute run g s).2.1, calls run g s, (execute run g s).2.2) ∧
    (g.Cyclic → calls run g s = [] ∧ ∃ left, execute run g s = (.error (.cycle left), g, s)) ∧
    (¬ g.Cyclic → ∃ tasks, g.taskOrder = .ok tasks ∧ (∀ t, t ∈ tasks ↔ t.mark ∈ g.marks) ∧
      RunsInOrder run g s tasks) ∧
    ∀ t, (execute run g s).2.1.state? t ≠ some .running := by
  obtain ⟨hwell, hidle⟩ := hg.wellFormed_idle
  refine ⟨execute_logged g run s, ?_, ?_, hwell.not_running run s hidle⟩
  · intro hcyclic
    obtain ⟨left, hleft⟩ := taskOrder_of_cyclic hwell.closed hcyclic
    refine ⟨?_, left, execute_of_order_error run s hleft⟩
    rw [calls, execute_of_order_error _ _ hleft]
  · intro hcyclic
    obtain ⟨tasks, horder, ht⟩ := taskOrder_of_not_cyclic hwell.closed hcyclic
    exact ⟨tasks, horder, ht.mem, runsInOrder hwell ht horder run s⟩

/-- The second mark has to be there before the first. -/
def pairOfMarks : Schedule := empty.addDependency ⟨1⟩ ⟨0⟩

/-- Counts its calls and fails to lay out the first mark. -/
def failsAtLayout : Runner Nat := fun _ t =>
  if t = ⟨⟨0⟩, .layout⟩ then throw (.unknownMark ⟨7⟩) else modify (· + 1)

/-- The whole second mark and the query of the first are done, the layout of the
first has failed, and its other stages are still to come. -/
theorem execute_in_order_pair :
    (execute failsAtLayout pairOfMarks 0).1 =
        .error (.taskFailure ⟨⟨0⟩, .layout⟩ (.unknownMark ⟨7⟩)) ∧
      (execute failsAtLayout pairOfMarks 0).2.1.state? ⟨⟨1⟩, .persist⟩ = some .complete ∧
      (execute failsAtLayout pairOfMarks 0).2.1.state? ⟨⟨0⟩, .layout⟩ = some .failed ∧
      (execute failsAtLayout pairOfMarks 0).2.1.state? ⟨⟨0⟩, .render⟩ = some .pending := by
  have hreachable : Reachable pairOfMarks := .addDependency _ _ .empty
  have hdone : ((calls failsAtLayout pairOfMarks 0).take 5).map Call.task =
      tasksOf ⟨1⟩ ++ [⟨⟨0⟩, .query⟩] := by decide +kernel
  have hlast : ((calls failsAtLayout pairOfMarks 0).drop 5).map (fun c => (c.task, c.outcome)) =
      [(⟨⟨0⟩, .layout⟩, .error (.unknownMark ⟨7⟩))] := by decide +kernel
  obtain ⟨call, hcall, heq⟩ := List.map_eq_singleton_iff.mp hlast
  obtain ⟨htask, houtcome⟩ := Prod.mk.inj heq
  have hsplit : calls failsAtLayout pairOfMarks 0 =
      (calls failsAtLayout pairOfMarks 0).take 5 ++ call :: [] := by
    rw [← hcall, List.take_append_drop]
  have hacyclic : ¬ pairOfMarks.Cyclic := by
    intro hcyclic
    rw [((execute_in_order hreachable failsAtLayout 0).2.1 hcyclic).1] at hsplit
    simp at hsplit
  obtain ⟨tasks, -, -, hruns⟩ :=
    (execute_in_order hreachable failsAtLayout 0).2.2.1 hacyclic
  obtain ⟨-, hresult, hstates⟩ := hruns.stopped _ _ _ _ hsplit houtcome
  rw [htask, hdone] at hstates
  refine ⟨by rw [hresult, htask], ?_, ?_, ?_⟩
  · exact hstates ⟨⟨1⟩, .persist⟩ (by decide +kernel)
  · exact hstates ⟨⟨0⟩, .layout⟩ (by decide +kernel)
  · exact hstates ⟨⟨0⟩, .render⟩ (by decide +kernel)

end KeyChart.Schedule
