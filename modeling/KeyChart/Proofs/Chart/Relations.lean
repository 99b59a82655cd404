import KeyChart.Proofs.Chart.Operations
import KeyChart.Rehearsal

/-!
# How marks depend on each other

A dependency between marks is recorded twice: as a reference or a nesting, and in
the schedule. The two records agree whatever is done to a session, since every
edit that adds to the one adds to the other, and a run puts back the schedule
that it took. So both order the marks alike, and a run of marks in a circle stops
before it starts.
-/

namespace KeyChart

open Attempt

/-! ## Dependencies on several marks -/

namespace Schedule

variable {g : Schedule} {sources : List MarkId} {target : MarkId}

theorem Reachable.addDependencies (sources : List MarkId) (target : MarkId) (hg : Reachable g) :
    Reachable (sources.foldl (fun g r => g.addDependency r target) g) := by
  induction sources generalizing g with
  | nil => exact hg
  | cons r rest ih => exact ih (hg.addDependency r target)

theorem addDependencies_marks (htarget : target ∈ g.marks) {m : MarkId} :
    m ∈ (sources.foldl (fun g r => g.addDependency r target) g).marks ↔
      m ∈ sources ∨ m ∈ g.marks := by
  induction sources generalizing g with
  | nil => simp
  | cons r rest ih =>
    rw [List.foldl_cons, ih (addDependency_marks.mpr (.inl rfl)), addDependency_marks,
      List.mem_cons]
    constructor
    · rintro (h | rfl | rfl | h)
      · exact .inl (.inr h)
      · exact .inr htarget
      · exact .inl (.inl rfl)
      · exact .inr h
    · rintro ((rfl | h) | h)
      · exact .inr (.inr (.inl rfl))
      · exact .inl h
      · exact .inr (.inr (.inr h))

theorem addDependencies_dependencies {d : Dependency} :
    d ∈ (sources.foldl (fun g r => g.addDependency r target) g).dependencies ↔
      (d.target = target ∧ d.source ∈ sources) ∨ d ∈ g.dependencies := by
  induction sources generalizing g with
  | nil => simp
  | cons r rest ih =>
    rw [List.foldl_cons, ih, addDependency_dependencies, List.mem_cons]
    constructor
    · rintro (⟨ht, hs⟩ | rfl | h)
      · exact .inl ⟨ht, .inr hs⟩
      · exact .inl ⟨rfl, .inl rfl⟩
      · exact .inr h
    · rintro (⟨rfl, rfl | hs⟩ | h)
      · exact .inr (.inl rfl)
      · exact .inl ⟨rfl, hs⟩
      · exact .inr (.inr h)

end Schedule

/-! ## The two records -/

namespace Chart

variable {c c' : Chart} {id inner outer : MarkId}

/-- Marks are known by the numbers that were given out, and the schedule knows
the same ones. Its dependencies are the recorded references and the nestings, a
reference is recorded exactly if a channel makes it, and it is to a mark with a
lower number. -/
structure Recorded (c : Chart) : Prop where
  built : Schedule.Reachable c.schedule
  numbered : ∀ id, c.Knows id ↔ id.index < c.nextMark
  scheduled : ∀ id, id ∈ c.schedule.marks ↔ c.Knows id
  dependencies : ∀ d, d ∈ c.schedule.dependencies ↔
    d ∈ c.refs ∨ c.outer? d.target = some d.source
  referred : ∀ d, d ∈ c.refs ↔ ∃ m, c.mark d.target = .ok m ∧ d.source ∈ m.refs
  earlier : ∀ d ∈ c.refs, d.source.index < d.target.index
  inner : ∀ id nest, c.nests.find? id = some (.mark nest) → nest.inner = id

theorem recorded_ofConfig (config : ChartConfig) : (ofConfig config).Recorded where
  built := .empty
  numbered id := by simp [Knows, mark, ofConfig]
  scheduled id := by simp [Knows, mark, ofConfig, Schedule.empty]
  dependencies d := by simp [ofConfig, Schedule.empty, outer?]
  referred d := by simp [ofConfig, mark]
  earlier d hd := absurd hd (SortedSet.not_mem_empty d)
  inner id nest h := by cases h

theorem outer?_insert (c : Chart) (id id' : MarkId) (n : Nesting) :
    { c with nests := c.nests.insert id n }.outer? id' =
      if id' = id then n.outer? else c.outer? id' := by
  unfold outer?
  rw [SortedMap.find?_insert]
  split <;> rfl

theorem exists_declared {marks marks' : SortedMap MarkId Mark}
    (h : ∀ id, (marks.find? id).map Mark.declared = (marks'.find? id).map Mark.declared)
    {m : Mark} (hm : marks.find? id = some m) :
    ∃ m', marks'.find? id = some m' ∧ m'.declared = m.declared := by
  have hmap := h id
  rw [hm, Option.map_some] at hmap
  exact Option.map_eq_some_iff.mp hmap.symm

/-- What is recorded of marks does not depend on the work done for them. -/
theorem Recorded.withMarks (hc : c.Recorded) {marks : SortedMap MarkId Mark}
    (hmarks : ∀ id, (marks.find? id).map Mark.declared = (c.marks.find? id).map Mark.declared) :
    { c with marks }.Recorded := by
  have hknows : ∀ id, { c with marks }.Knows id ↔ c.Knows id := by
    intro id
    constructor
    · rintro ⟨m, hm⟩
      obtain ⟨m', hm', -⟩ := exists_declared hmarks (mark_eq_ok.mp hm)
      exact ⟨m', mark_eq_ok.mpr hm'⟩
    · rintro ⟨m, hm⟩
      obtain ⟨m', hm', -⟩ := exists_declared (fun id => (hmarks id).symm) (mark_eq_ok.mp hm)
      exact ⟨m', mark_eq_ok.mpr hm'⟩
  refine ⟨hc.built, fun id => (hknows id).trans (hc.numbered id),
    fun id => (hc.scheduled id).trans (hknows id).symm, hc.dependencies, ?_, hc.earlier, hc.inner⟩
  intro d
  rw [hc.referred d]
  constructor
  · rintro ⟨m, hm, hd⟩
    obtain ⟨m', hm', hsame⟩ := exists_declared (fun id => (hmarks id).symm) (mark_eq_ok.mp hm)
    have hrefs : m'.refs = m.refs := (congrArg Mark.refs hsame :)
    exact ⟨m', mark_eq_ok.mpr hm', hrefs ▸ hd⟩
  · rintro ⟨m, hm, hd⟩
    obtain ⟨m', hm', hsame⟩ := exists_declared hmarks (mark_eq_ok.mp hm)
    have hrefs : m'.refs = m.refs := (congrArg Mark.refs hsame :)
    exact ⟨m', mark_eq_ok.mpr hm', hrefs ▸ hd⟩

theorem Recorded.insertNest (hc : c.Recorded) (h : c.Nests inner outer c') : c'.Recorded := by
  obtain ⟨⟨hinner, hfree⟩, houter, nest, warnings, rfl, rfl, rfl⟩ := h
  have hnone : c.outer? nest.inner = none := by
    rw [outer?, hfree]
    rfl
  exact
    { built := hc.built.addDependency _ _
      numbered := hc.numbered
      scheduled := by
        -- Both marks were known, so no mark is new to the schedule.
        intro id
        refine Schedule.addDependency_marks.trans ?_
        rw [hc.scheduled id]
        constructor
        · rintro (rfl | rfl | h)
          · exact hinner
          · exact houter
          · exact h
        · exact fun h => .inr (.inr h)
      dependencies := by
        intro d
        refine Schedule.addDependency_dependencies.trans ?_
        have houter? : ({ c with warnings }.insertNest nest).outer? d.target =
            if d.target = nest.inner then some nest.outer else c.outer? d.target :=
          outer?_insert c nest.inner d.target (.mark nest)
        rw [hc.dependencies d, houter?]
        by_cases htarget : d.target = nest.inner
        · rw [if_pos htarget, htarget, hnone]
          constructor
          · rintro (rfl | h | h)
            · exact .inr rfl
            · exact .inl h
            · cases h
          · rintro (h | h)
            · exact .inr (.inl h)
            · obtain ⟨source, target⟩ := d
              cases h
              cases htarget
              exact .inl rfl
        · rw [if_neg htarget]
          constructor
          · rintro (rfl | h)
            · exact absurd rfl htarget
            · exact h
          · exact .inr
      referred := hc.referred
      earlier := hc.earlier
      inner := by
        intro id n hn
        have hfind := SortedMap.find?_insert c.nests nest.inner id (.mark nest)
        by_cases hid : id = nest.inner
        · rw [if_pos hid] at hfind
          cases hfind.symm.trans hn
          exact hid.symm
        · rw [if_neg hid] at hfind
          exact hc.inner id n (hfind.symm.trans hn) }

theorem Recorded.insertBox (hc : c.Recorded) (hfree : c.nests.find? id = none) (box : Box) :
    { c with nests := c.nests.insert id (.root box) }.Recorded := by
  have houter : ∀ id', { c with nests := c.nests.insert id (.root box) }.outer? id' =
      c.outer? id' := by
    intro id'
    rw [outer?_insert]
    split
    case isTrue hid =>
      rw [hid, outer?, hfree]
      rfl
    case isFalse => rfl
  refine ⟨hc.built, hc.numbered, hc.scheduled, ?_, hc.referred, hc.earlier, ?_⟩
  · intro d
    rw [houter]
    exact hc.dependencies d
  · intro id' nest hnest
    have hfind := SortedMap.find?_insert c.nests id id' (.root box)
    split at hfind
    · cases hfind.symm.trans hnest
    · exact hc.inner id' nest (hfind.symm.trans hnest)

theorem Recorded.execute (hc : c.Recorded) {τ : Type} (run : Schedule.Runner τ) (s : τ) :
    { c with schedule := (c.schedule.execute run s).2.1 }.Recorded := by
  obtain ⟨hmarks, hdependencies⟩ := Schedule.execute_unchanged run c.schedule s
  refine ⟨hc.built.execute run s, hc.numbered, ?_, ?_, hc.referred, hc.earlier, hc.inner⟩
  · intro id
    dsimp only
    rw [hmarks]
    exact hc.scheduled id
  · intro d
    dsimp only
    rw [hdependencies]
    exact hc.dependencies d

theorem keptByRelating_recorded : KeptByRelating Recorded where
  catalog hc := ⟨hc.built, hc.numbered, hc.scheduled, hc.dependencies, hc.referred, hc.earlier,
    hc.inner⟩
  fragments hc := ⟨hc.built, hc.numbered, hc.scheduled, hc.dependencies, hc.referred, hc.earlier,
    hc.inner⟩
  marks hmarks hc := hc.withMarks hmarks
  execute run s hc := hc.execute run s
  nest h hc := hc.insertNest h
  box box _ hfree hc := hc.insertBox hfree box

/-! ### Adding a mark -/

section AddMark

variable {spec : MarkSpec} {channels : List (String × Channel)}

/-- Whether a channel of a mark that is added refers to a mark. -/
def Refers (channels : List (String × Channel)) (r : MarkId) : Prop :=
  ∃ channel ∈ channels, channel.2.referencedMark? = some r

theorem mem_refs_ofSpec {table : String} {r : MarkId} :
    r ∈ (Mark.ofSpec id spec channels table).refs ↔ Refers channels r := by
  rw [Mark.refs, SortedSet.mem_ofList, List.mem_filterMap]
  exact Iff.rfl

theorem knows_of_refers
    (hchecks : ∀ channel ∈ channels, c.checkReference spec.source channel.2 = .ok ())
    {r : MarkId} (hr : Refers channels r) : c.Knows r := by
  obtain ⟨channel, hchannel, hr⟩ := hr
  have hcheck := hchecks channel hchannel
  unfold Channel.referencedMark? at hr
  unfold checkReference at hcheck
  cases hforeign : channel.2.foreign? with
  | none => simp [hforeign] at hr
  | some ref =>
    cases htarget : ref.target with
    | mark id =>
      simp only [hforeign, Option.map_some, htarget, Option.some.injEq] at hr hcheck
      obtain ⟨m, hm, -⟩ := Except.map_eq_ok.mp hcheck
      exact ⟨m, hr ▸ hm⟩
    | table name => simp [hforeign, htarget] at hr
    | search => simp [hforeign, htarget] at hr

theorem mark_withMark :
    (c.withMark spec channels).mark id =
      if id = ⟨c.nextMark⟩ then
        .ok (Mark.ofSpec ⟨c.nextMark⟩ spec channels (c.newMarkTable ⟨c.nextMark⟩).1)
      else c.mark id := by
  unfold mark
  have hfind : (c.withMark spec channels).marks.find? id = if id = ⟨c.nextMark⟩ then
      some (Mark.ofSpec ⟨c.nextMark⟩ spec channels (c.newMarkTable ⟨c.nextMark⟩).1)
      else c.marks.find? id := SortedMap.find?_insert _ _ _ _
  rw [hfind]
  by_cases hid : id = ⟨c.nextMark⟩
  · rw [if_pos hid, if_pos hid]
  · rw [if_neg hid, if_neg hid]

theorem knows_withMark :
    (c.withMark spec channels).Knows id ↔ id = ⟨c.nextMark⟩ ∨ c.Knows id := by
  unfold Knows
  rw [mark_withMark]
  split
  case isTrue h => simp [h]
  case isFalse h => simp [h]

theorem mem_refs_withMark {d : Dependency} :
    d ∈ (c.withMark spec channels).refs ↔
      (d.target = ⟨c.nextMark⟩ ∧ Refers channels d.source) ∨ d ∈ c.refs := by
  let m := Mark.ofSpec ⟨c.nextMark⟩ spec channels (c.newMarkTable ⟨c.nextMark⟩).1
  have hrefs : (c.withMark spec channels).refs =
      (m.refs.members.map fun r => (⟨r, ⟨c.nextMark⟩⟩ : Dependency)).foldl
        SortedSet.insert c.refs := (List.foldl_map).symm
  rw [hrefs, SortedSet.mem_foldl_insert, List.mem_map]
  refine or_congr_left ?_
  constructor
  · rintro ⟨r, hr, rfl⟩
    exact ⟨rfl, mem_refs_ofSpec.mp hr⟩
  · rintro ⟨htarget, hr⟩
    refine ⟨d.source, mem_refs_ofSpec.mpr hr, ?_⟩
    rw [← htarget]

theorem mem_scheduled_withMark :
    id ∈ (c.withMark spec channels).schedule.marks ↔
      Refers channels id ∨ id = ⟨c.nextMark⟩ ∨ id ∈ c.schedule.marks := by
  have hnew : (⟨c.nextMark⟩ : MarkId) ∈ (c.schedule.addMark ⟨c.nextMark⟩).marks :=
    Schedule.addMark_marks.mpr (.inl rfl)
  refine (Schedule.addDependencies_marks hnew).trans ?_
  exact or_congr mem_refs_ofSpec Schedule.addMark_marks

theorem mem_dependencies_withMark {d : Dependency} :
    d ∈ (c.withMark spec channels).schedule.dependencies ↔
      (d.target = ⟨c.nextMark⟩ ∧ Refers channels d.source) ∨ d ∈ c.schedule.dependencies := by
  refine Schedule.addDependencies_dependencies.trans (or_congr ?_ ?_)
  · exact and_congr_right fun _ => mem_refs_ofSpec
  · rw [Schedule.addMark_dependencies]

theorem Recorded.withMark (hc : c.Recorded)
    (hchecks : ∀ channel ∈ channels, c.checkReference spec.source channel.2 = .ok ()) :
    (c.withMark spec channels).Recorded where
  built := (hc.built.addMark _).addDependencies _ _
  numbered := by
    intro id
    have hnext : (c.withMark spec channels).nextMark = c.nextMark + 1 := rfl
    rw [knows_withMark, hc.numbered id, hnext, Nat.lt_succ_iff_lt_or_eq, or_comm]
    refine or_congr_right ?_
    constructor
    · rintro rfl
      rfl
    · exact fun h => congrArg MarkId.mk h
  scheduled := by
    -- A mark that is referred to was known, so only the new one is new to the schedule.
    intro id
    rw [mem_scheduled_withMark, knows_withMark, hc.scheduled id]
    constructor
    · rintro (h | h)
      · exact .inr (knows_of_refers hchecks h)
      · exact h
    · exact .inr
  dependencies := by
    intro d
    rw [mem_dependencies_withMark, mem_refs_withMark, hc.dependencies d, or_assoc]
    exact Iff.rfl
  referred := by
    intro d
    rw [mem_refs_withMark, mark_withMark, hc.referred d]
    by_cases htarget : d.target = ⟨c.nextMark⟩
    · have hnew : ¬ c.Knows ⟨c.nextMark⟩ := fun h => Nat.lt_irrefl _ ((hc.numbered _).mp h)
      rw [if_pos htarget]
      constructor
      · rintro (⟨-, hr⟩ | ⟨m, hm, -⟩)
        · exact ⟨_, rfl, mem_refs_ofSpec.mpr hr⟩
        · exact absurd ⟨m, htarget ▸ hm⟩ hnew
      · rintro ⟨m, hm, hr⟩
        cases hm
        exact .inl ⟨htarget, mem_refs_ofSpec.mp hr⟩
    · rw [if_neg htarget]
      simp [htarget]
  earlier := by
    intro d hd
    rcases mem_refs_withMark.mp hd with ⟨htarget, hr⟩ | hd
    · rw [htarget]
      exact (hc.numbered _).mp (knows_of_refers hchecks hr)
    · exact hc.earlier d hd
  inner := hc.inner

end AddMark

theorem Recorded.addMark (hc : c.Recorded) {spec : MarkSpec} (h : c.addMark spec = .ok (id, c')) :
    c'.Recorded := by
  obtain ⟨channels, -, hchecks, rfl⟩ := addMark_inserts h
  exact hc.withMark hchecks

/-! ## What follows -/

theorem Recorded.mem_dependencyEdges (hc : c.Recorded) {e : MarkId × MarkId} :
    e ∈ c.dependencyEdges ↔ e ∈ c.schedule.edges := by
  obtain ⟨source, target⟩ := e
  rw [Schedule.mem_edges, hc.dependencies, dependencyEdges, List.mem_append, List.mem_map,
    List.mem_filterMap]
  refine or_congr ?_ ?_
  · constructor
    · rintro ⟨d, hd, heq⟩
      cases heq
      exact hd
    · intro hd
      exact ⟨_, hd, rfl⟩
  · simp only [outer?, Option.bind_eq_some_iff, SortedMap.find?_eq_some_iff_mem,
      Option.map_eq_some_iff, Prod.mk.injEq]
    constructor
    · rintro ⟨⟨id, n⟩, hn, outer, houter, rfl, rfl⟩
      exact ⟨n, hn, houter⟩
    · rintro ⟨n, hn, houter⟩
      exact ⟨(target, n), hn, source, houter, rfl, rfl⟩

/-- Both records put the marks into one order, or fail alike. -/
theorem Recorded.sortedMarks_eq (hc : c.Recorded) : c.sortedMarks = c.schedule.markOrder := by
  have hnodes : c.schedule.marks.members = c.marks.keys := by
    refine SortedSet.members_eq_keys ?_
    intro id
    rw [hc.scheduled id]
    exact exists_congr fun m => mark_eq_ok
  unfold sortedMarks Schedule.markOrder Schedule.orderMarks
  rw [hnodes, Order.topologicalOrder_congr fun e => hc.mem_dependencyEdges]

theorem Recorded.sortedMarks_isOk_iff (hc : c.Recorded) :
    (∃ order, c.sortedMarks = .ok order) ↔ ¬ Order.Cyclic c.dependencyEdges := by
  rw [hc.sortedMarks_eq, Schedule.markOrder_isOk_iff hc.built.wellFormed_idle.1.closed,
    Schedule.cyclic_iff, Order.Cyclic, Order.Cyclic, Order.Reaches, Order.Reaches]
  simp only [hc.mem_dependencyEdges]

end Chart

namespace Session

variable {σ ρ : Type}

/-! ## What operations do to relations -/

theorem operated_recorded (b : Backend σ ρ) (config : ChartConfig) (engine : σ) (renderer : ρ)
    (ops : List (Operation σ)) :
    (operated b (start config engine renderer) ops).chart.Recorded :=
  operated_keeps Chart.keptByRelating_recorded b (fun h hc => hc.addMark h) ops
    (Chart.recorded_ofConfig config)

/-- A mark that others refer to was there before them. -/
theorem exists_before_of_referred (b : Backend σ ρ) (config : ChartConfig) (engine : σ)
    (renderer : ρ) (ops : List (Operation σ)) {d : Dependency}
    (hd : d ∈ (operated b (start config engine renderer) ops).chart.refs) :
    ∃ before after, ops = before ++ after ∧
      (operated b (start config engine renderer) before).chart.Knows d.source ∧
      ¬ (operated b (start config engine renderer) before).chart.Knows d.target := by
  have hrecorded := operated_recorded b config engine renderer ops
  obtain ⟨m, hm, -⟩ := (hrecorded.referred d).mp hd
  have htarget := (hrecorded.numbered _).mp ⟨m, hm⟩
  obtain ⟨before, after, rfl, hnext⟩ := exists_nextMark b (s := start config engine renderer) rfl
    ops (Nat.le_of_lt htarget)
  have hbefore := operated_recorded b config engine renderer before
  refine ⟨before, after, rfl, (hbefore.numbered _).mpr ?_, ?_⟩
  · rw [hnext]
    exact hrecorded.earlier d hd
  · rw [hbefore.numbered, hnext]
    exact Nat.lt_irrefl _

/-! ### Runs of marks in a circle -/

theorem setLevels_eq (c : Chart) :
    (∃ left, c.setLevels = .error (.cycle left)) ∨
      ∃ level : MarkId → Nat, c.setLevels = .ok
        { c with marks := c.marks.mapValues fun id m => { m with level := level id } } := by
  unfold Chart.setLevels
  dsimp only
  split
  · exact .inr ⟨_, rfl⟩
  · exact .inl ⟨_, rfl⟩

/-- Marks in a circle cannot be run: at most levels are set, and neither the
engine nor the renderer is asked anything. -/
theorem run_of_circle {s : Session σ ρ} (hs : s.chart.Recorded)
    (hcircle : Order.Cyclic s.chart.dependencyEdges) :
    ∃ left, ∃ level : MarkId → Mark → Nat, ∀ b : Backend σ ρ, (run b).run.run s =
      (.error (.cycle left), { s with chart := { s.chart with
        marks := s.chart.marks.mapValues fun id m => { m with level := level id m } } }) := by
  rcases setLevels_eq s.chart with ⟨left, hleft⟩ | ⟨level, hlevel⟩
  · refine ⟨left, fun _ m => m.level, fun b => ?_⟩
    have hsame : (s.chart.marks.mapValues fun _ m => { m with level := m.level }) = s.chart.marks :=
      s.chart.marks.mapValues_self
    rw [hsame]
    exact run_bind_of_error (run_edit_of_error (by rw [hleft]; rfl))
  · obtain ⟨left, hleft⟩ : ∃ left, s.chart.sortedMarks = .error (.cycle left) := by
      cases hsorted : s.chart.sortedMarks with
      | ok order => exact absurd hcircle (hs.sortedMarks_isOk_iff.mp ⟨order, hsorted⟩)
      | error e =>
        obtain ⟨left, rfl⟩ := Schedule.orderMarks_eq_error hsorted
        exact ⟨left, rfl⟩
    refine ⟨left, fun id _ => level id, fun b => ?_⟩
    refine (run_bind_of_ok (run_edit_of_ok (by rw [hlevel]; rfl))).trans ?_
    -- Levels do not enter the order.
    refine run_bind_of_error (congrArg (·, _) ?_)
    refine Eq.trans ?_ hleft
    unfold Chart.sortedMarks
    dsimp only
    rw [SortedMap.keys_mapValues]
    rfl

/-- What holds of the relations between the marks of a session. -/
structure Related (s : Session σ ρ) : Prop where
  recorded : s.chart.Recorded
  ordered : s.chart.sortedMarks = s.chart.schedule.markOrder
  sorts : (∃ order, s.chart.sortedMarks = .ok order) ↔ ¬ Order.Cyclic s.chart.dependencyEdges
  stops : Order.Cyclic s.chart.dependencyEdges →
    ∃ left, ∃ level : MarkId → Mark → Nat, ∀ b : Backend σ ρ, (run b).run.run s =
      (.error (.cycle left), { s with chart := { s.chart with
        marks := s.chart.marks.mapValues fun id m => { m with level := level id m } } })

end Session

open Session

/-- Whatever is done to a session, both records of the relations between its
marks agree and order the marks alike, a mark refers only to marks that were
there before it, and it stays where it was put. Marks in a circle cannot be run:
the schedule, what was drawn, the engine and the renderer stay as they were. -/
theorem relations_agree {σ ρ : Type} (b : Backend σ ρ) (config : ChartConfig) (engine : σ)
    (renderer : ρ) (ops : List (Operation σ)) :
    (operated b (start config engine renderer) ops).Related ∧
    (∀ d ∈ (operated b (start config engine renderer) ops).chart.refs,
      ∃ before after, ops = before ++ after ∧
        (operated b (start config engine renderer) before).chart.Knows d.source ∧
        ¬ (operated b (start config engine renderer) before).chart.Knows d.target) ∧
    ∀ more id n,
      (operated b (start config engine renderer) ops).chart.nests.find? id = some n →
      (operated b (start config engine renderer) (ops ++ more)).chart.nests.find? id = some n := by
  have hrecorded := operated_recorded b config engine renderer ops
  refine ⟨⟨hrecorded, hrecorded.sortedMarks_eq, hrecorded.sortedMarks_isOk_iff,
    run_of_circle hrecorded⟩, ?_, ?_⟩
  · intro d hd
    exact exists_before_of_referred b config engine renderer ops hd
  · intro more id n hn
    rw [operated_append]
    exact operated_nested b more hn

/-- An engine with one table. -/
def oneTable : Rehearsal.Script where
  results := []
  tables := SortedMap.ofList [("T", ⟨[⟨"id", .numeric⟩], [.primaryKey ["id"]]⟩)]
  refused := []
  calls := []

/-- A mark that refers to another, which is then nested in it. -/
def circle : Session Rehearsal.Script Nat :=
  operated ⟨Rehearsal.engine, Rehearsal.renderer {} []⟩ (start {} oneTable 0)
    [.call (.importTable "T"), .call (.addMark { source := "T", shape := .rect }),
      .call (.addMark
        { source := "T", shape := .rect
          channels := [("data", .get { column := "id", source := some (.mark ⟨0⟩) })] }),
      .call (.nest ⟨0⟩ ⟨1⟩)]

/-- The two marks wait for each other, so that neither is run. -/
theorem relations_agree_circle :
    circle.chart.dependencyEdges = [(⟨0⟩, ⟨1⟩), (⟨1⟩, ⟨0⟩)] ∧
      ∃ left, ∀ b : Backend Rehearsal.Script Nat, ((run b).run.run circle).1 =
        .error (.cycle left) := by
  have hedges : circle.chart.dependencyEdges = [(⟨0⟩, ⟨1⟩), (⟨1⟩, ⟨0⟩)] := by decide +kernel
  refine ⟨hedges, ?_⟩
  have hcircle : Order.Cyclic circle.chart.dependencyEdges := by
    have hthere : Order.Reaches circle.chart.dependencyEdges ⟨0⟩ ⟨1⟩ := .single (by simp [hedges])
    exact ⟨⟨0⟩, hthere.tail (by simp [hedges])⟩
  obtain ⟨left, level, hrun⟩ := (relations_agree _ _ _ _ _).1.stops hcircle
  exact ⟨left, fun b => congrArg Prod.fst (hrun b)⟩

end KeyChart
