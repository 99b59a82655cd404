import KeyChart.Proofs.Attempt
import KeyChart.Proofs.Schedule.Tasks

/-!
# Runs of tasks

A run calls the runner for one task after the other and stops at the first call
that fails. The calls are recorded with the schedule that each of them saw. What
a schedule says of its tasks depends on how far the run has come and on nothing
else: whatever states there were before, the tasks behind it are complete and
those ahead of it are pending.
-/

namespace KeyChart.Schedule

open Attempt

/-- A call of the runner: what it saw, for which task it was called, and how it
ended. -/
structure Call where
  seen : Schedule
  task : Task
  outcome : Except Error Unit

/-- The runner that also records its calls. -/
def logged {σ : Type} (run : Runner σ) : Runner (List Call × σ) := fun g t =>
  ExceptT.mk fun s =>
    let (outcome, s') := (run g t).run.run s.2
    (outcome, s.1 ++ [⟨g, t, outcome⟩], s')

/-- The calls of an execution. -/
def calls {σ : Type} (run : Runner σ) (g : Schedule) (s : σ) : List Call :=
  (execute (logged run) g ([], s)).2.2.1

/-- A run of tasks from one schedule to another, with its calls and its result. -/
inductive Ran : Schedule → List Task → List Call → Except Error Unit → Schedule → Prop where
  | done (g : Schedule) : Ran g [] [] (.ok ()) g
  | complete {g g' : Schedule} {t : Task} {rest : List Task} {calls : List Call}
      {result : Except Error Unit} :
      Ran ((g.setState t .running).setState t .complete) rest calls result g' →
      Ran g (t :: rest) (⟨g.setState t .running, t, .ok ()⟩ :: calls) result g'
  | failed (g : Schedule) (t : Task) (rest : List Task) (e : Error) :
      Ran g (t :: rest) [⟨g.setState t .running, t, .error e⟩] (.error (.taskFailure t e))
        ((g.setState t .running).setState t .failed)

/-- Recording changes neither the result nor the states, and what is recorded
are the calls of the run. -/
theorem runTasks_logged {σ : Type} (run : Runner σ) (tasks : List Task) (g : Schedule)
    (log : List Call) (s : σ) :
    ∃ calls, runTasks (logged run) tasks g (log, s) =
        ((runTasks run tasks g s).1, (runTasks run tasks g s).2.1, log ++ calls,
          (runTasks run tasks g s).2.2) ∧
      Ran g tasks calls (runTasks run tasks g s).1 (runTasks run tasks g s).2.1 := by
  induction tasks generalizing g log s with
  | nil => exact ⟨[], by simp [runTasks], .done g⟩
  | cons t rest ih =>
    have hcall : ((logged run) (g.setState t .running) t).run.run (log, s) =
        (((run (g.setState t .running) t).run.run s).1,
          log ++ [⟨g.setState t .running, t, ((run (g.setState t .running) t).run.run s).1⟩],
          ((run (g.setState t .running) t).run.run s).2) := rfl
    simp only [runTasks, hcall]
    -- Both runs now go on from the outcome of one call.
    generalize (run (g.setState t .running) t).run.run s = r
    obtain ⟨outcome, s'⟩ := r
    cases outcome with
    | error e => exact ⟨_, rfl, .failed g t rest e⟩
    | ok u =>
      obtain ⟨calls, hruns, hran⟩ := ih ((g.setState t .running).setState t .complete)
        (log ++ [⟨g.setState t .running, t, .ok ()⟩]) s'
      refine ⟨_ :: calls, hruns.trans ?_, .complete hran⟩
      rw [List.append_assoc]
      rfl

/-- What every call of the runner keeps, a run keeps. -/
theorem runTasks_keeps {σ : Type} {I : σ → Prop} {run : Runner σ}
    (h : ∀ g t, (run g t).Keeps I) (tasks : List Task) (g : Schedule) {s : σ} (hs : I s) :
    I (runTasks run tasks g s).2.2 := by
  induction tasks generalizing g s with
  | nil => exact hs
  | cons t rest ih =>
    have hcall : I ((run (g.setState t .running) t).run.run s).2 := h (g.setState t .running) t s hs
    simp only [runTasks]
    generalize (run (g.setState t .running) t).run.run s = r at hcall ⊢
    obtain ⟨outcome, s'⟩ := r
    cases outcome with
    | error e => exact hcall
    | ok u => exact ih _ hcall

/-- What holds of a state behind the tasks that are done, if every call of the runner
takes it on by its task, holds behind all tasks after a run that succeeds. -/
theorem runTasks_takes {σ : Type} {I : List Task → σ → Prop} {E : σ → Prop} {run : Runner σ}
    (h : ∀ done g t, Takes (I done) (run g t) (fun _ => I (done ++ [t])) E)
    (tasks done : List Task) (g : Schedule) {s : σ} (hs : I done s) :
    ((runTasks run tasks g s).1 = .ok () → I (done ++ tasks) (runTasks run tasks g s).2.2) ∧
      ∀ e, (runTasks run tasks g s).1 = .error e → E (runTasks run tasks g s).2.2 := by
  induction tasks generalizing done g s with
  | nil =>
    rw [List.append_nil]
    constructor
    · intro _
      exact hs
    · intro e he
      cases he
  | cons t rest ih =>
    obtain ⟨hok, herror⟩ := h done (g.setState t .running) t s hs
    simp only [runTasks]
    generalize (run (g.setState t .running) t).run.run s = r at hok herror ⊢
    obtain ⟨outcome, s'⟩ := r
    cases outcome with
    | error e =>
      constructor
      · intro h
        cases h
      · intro _ _
        exact herror e s' rfl
    | ok u =>
      rw [List.append_cons]
      exact ih (done ++ [t]) _ (hok u s' rfl)

/-! ## States along a run -/

@[simp] theorem state?_setState (g : Schedule) (t u : Task) (s : TaskState) :
    (g.setState t s).state? u = if u = t then some s else g.state? u := by
  simp [state?, setState]

/-- A run of the given tasks has come past those that are done. -/
def Progress (tasks done : List Task) (g : Schedule) : Prop :=
  ∀ t, g.state? t =
    if t ∈ done then some .complete else if t ∈ tasks then some .pending else none

/-- The states while one task is in the given state, behind those that are done. -/
def Amid (tasks done : List Task) (t : Task) (s : TaskState) (g : Schedule) : Prop :=
  ∀ u, g.state? u = if u = t then some s
    else if u ∈ done then some .complete else if u ∈ tasks then some .pending else none

variable {tasks done rest : List Task} {g g' : Schedule} {calls : List Call}
  {result : Except Error Unit}

theorem Progress.running (h : Progress tasks done g) (t : Task) :
    Amid tasks done t .running (g.setState t .running) := by
  intro u
  rw [state?_setState, h u]

theorem Amid.setState {t : Task} {s : TaskState} (h : Amid tasks done t s g) (s' : TaskState) :
    Amid tasks done t s' (g.setState t s') := by
  intro u
  rw [state?_setState, h u]
  split <;> rfl

theorem Amid.complete {t : Task} (h : Amid tasks done t .complete g) :
    Progress tasks (done ++ [t]) g := by
  intro u
  rw [h u]
  by_cases hu : u = t
  · simp [hu]
  · simp [hu]

/-- A call that succeeds takes the run past its task. -/
theorem Progress.step (h : Progress tasks done g) (t : Task) :
    Progress tasks (done ++ [t]) ((g.setState t .running).setState t .complete) :=
  ((h.running t).setState .complete).complete

theorem Progress.ne_running (h : Progress tasks done g) (t : Task) :
    g.state? t ≠ some .running := by
  rw [h t]
  split
  · simp
  · split <;> simp

theorem Amid.eq_of_running {t u : Task} {s : TaskState} (h : Amid tasks done t s g)
    (hu : g.state? u = some .running) : u = t := by
  by_contra hne
  rw [h u, if_neg hne] at hu
  split at hu
  · simp at hu
  · split at hu <;> simp at hu

/-! ## What holds of every run -/

theorem Ran.task_prefix (h : Ran g rest calls result g') : calls.map Call.task <+: rest := by
  induction h with
  | done => exact List.nil_prefix
  | complete _ ih => exact List.cons_prefix_cons.mpr ⟨rfl, ih⟩
  | failed g t rest e => exact List.cons_prefix_cons.mpr ⟨rfl, List.nil_prefix⟩

/-- A call sees its own task running and those before it complete. -/
theorem Ran.seen (h : Ran g rest calls result g') (hg : Progress tasks done g)
    {before after : List Call} {call : Call} (hcalls : calls = before ++ call :: after) :
    Amid tasks (done ++ before.map Call.task) call.task .running call.seen := by
  -- Along the run, the tasks of the calls made so far move over to those that are done.
  induction h generalizing done before with
  | done => simp at hcalls
  | @complete g g' t rest calls result _ ih =>
    cases before with
    | nil =>
      simp only [List.nil_append, List.cons.injEq] at hcalls
      obtain ⟨rfl, -⟩ := hcalls
      simpa using hg.running t
    | cons first before =>
      simp only [List.cons_append, List.cons.injEq] at hcalls
      obtain ⟨rfl, hcalls⟩ := hcalls
      simpa using ih (hg.step t) hcalls
  | failed g t rest e =>
    cases before with
    | nil =>
      simp only [List.nil_append, List.cons.injEq] at hcalls
      obtain ⟨rfl, -⟩ := hcalls
      simpa using hg.running t
    | cons first before => simp at hcalls

/-- If all calls succeed, the run comes to its end. -/
theorem Ran.all_ok (h : Ran g rest calls result g') (hg : Progress tasks done g)
    (hok : ∀ call ∈ calls, call.outcome = .ok ()) :
    result = .ok () ∧ calls.map Call.task = rest ∧ Progress tasks (done ++ rest) g' := by
  induction h generalizing done with
  | done g => exact ⟨rfl, rfl, by simpa using hg⟩
  | @complete g g' t rest calls result _ ih =>
    obtain ⟨hresult, htasks, hprogress⟩ := ih (hg.step t) fun call hcall => hok call (by simp [hcall])
    refine ⟨hresult, by simp [htasks], ?_⟩
    simpa using hprogress
  | failed g t rest e => simpa using hok _ (List.mem_singleton.mpr rfl)

/-- A call that fails is the last one. -/
theorem Ran.stopped (h : Ran g rest calls result g') (hg : Progress tasks done g)
    {before after : List Call} {call : Call} {e : Error} (hcalls : calls = before ++ call :: after)
    (he : call.outcome = .error e) :
    after = [] ∧ result = .error (.taskFailure call.task e) ∧
      Amid tasks (done ++ before.map Call.task) call.task .failed g' := by
  induction h generalizing done before with
  | done => simp at hcalls
  | @complete g g' t rest calls result _ ih =>
    cases before with
    | nil =>
      simp only [List.nil_append, List.cons.injEq] at hcalls
      obtain ⟨rfl, -⟩ := hcalls
      cases he
    | cons first before =>
      simp only [List.cons_append, List.cons.injEq] at hcalls
      obtain ⟨rfl, hcalls⟩ := hcalls
      simpa using ih (hg.step t) hcalls
  | failed g t rest e' =>
    cases before with
    | nil =>
      simp only [List.nil_append, List.cons.injEq] at hcalls
      obtain ⟨rfl, rfl⟩ := hcalls
      cases he
      refine ⟨rfl, rfl, ?_⟩
      simpa using (hg.running t).setState .failed
    | cons first before => simp at hcalls

/-- Either every call succeeds, or there is one that does not. -/
theorem all_ok_or_failing (calls : List Call) :
    (∀ call ∈ calls, call.outcome = .ok ()) ∨
      ∃ before call after e, calls = before ++ call :: after ∧ call.outcome = .error e := by
  by_cases hok : ∀ call ∈ calls, call.outcome = .ok ()
  · exact .inl hok
  · simp only [not_forall] at hok
    obtain ⟨call, hcall, hfails⟩ := hok
    obtain ⟨before, after, heq⟩ := List.append_of_mem hcall
    cases he : call.outcome with
    | ok u => exact absurd he hfails
    | error e => exact .inr ⟨before, call, after, e, heq, he⟩

/-- After a run no task is running. -/
theorem Ran.idle (h : Ran g rest calls result g') (hg : Progress tasks done g) (t : Task) :
    g'.state? t ≠ some .running := by
  rcases all_ok_or_failing calls with hok | ⟨before, call, after, e, hcalls, he⟩
  · exact (h.all_ok hg hok).2.2.ne_running t
  · obtain ⟨-, -, hamid⟩ := h.stopped hg hcalls he
    intro ht
    have hself := hamid call.task
    rw [if_pos rfl, ← hamid.eq_of_running ht, ht] at hself
    cases hself

/-- A run changes states only, and only those of its tasks. -/
theorem Ran.unchanged (h : Ran g rest calls result g') :
    g'.marks = g.marks ∧ g'.dependencies = g.dependencies := by
  induction h with
  | done => exact ⟨rfl, rfl⟩
  | complete _ ih => exact ih
  | failed => exact ⟨rfl, rfl⟩

end KeyChart.Schedule
