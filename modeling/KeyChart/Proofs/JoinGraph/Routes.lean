import KeyChart.JoinGraph

/-!
# Where searches lead

A search hands back a route: steps of the graph, each from where the one before
ended, that end in the destination. A shortest path visits no table twice. A path
across a constraint is two such routes with a step across the constraint between
them, so a step that stays on its table can only be the required one.
-/

namespace KeyChart

/-- Steps that lead from one table to another, each from where the one before
ended. -/
def Leads : String → List JoinStep → String → Prop
  | a, [], b => a = b
  | a, s :: rest, b => s.source.table = a ∧ Leads s.target.table rest b

/-- The tables that steps enter. -/
def entered (steps : List JoinStep) : List String := steps.map (·.target.table)

theorem leads_append {a b : String} {l l' : List JoinStep} :
    Leads a (l ++ l') b ↔ ∃ m, Leads a l m ∧ Leads m l' b := by
  induction l generalizing a with
  | nil => simp [Leads]
  | cons s rest ih => simp [Leads, ih, and_assoc]

/-- Walked backwards, steps lead from their end to their start. -/
theorem Leads.reverse {a b : String} {l : List JoinStep} (h : Leads a l b) :
    Leads b (l.reverse.map JoinStep.reverse) a := by
  induction l generalizing a with
  | nil => exact Eq.symm h
  | cons s rest ih =>
    obtain ⟨hs, hrest⟩ := h
    rw [List.reverse_cons, List.map_append]
    exact leads_append.mpr ⟨_, ih hrest, rfl, hs⟩

theorem Leads.destination_eq {a b : String} {l : List JoinStep} (h : Leads a l b) :
    (JoinPath.mk a l).destination = b := by
  induction l generalizing a with
  | nil => exact h
  | cons s rest ih =>
    have hrest := ih h.2
    cases rest with
    | nil => exact h.2
    | cons s' rest =>
      simp only [JoinPath.destination, List.getLast?_cons_cons] at hrest ⊢
      cases hlast : (s' :: rest).getLast? with
      | none => simp at hlast
      | some last =>
        rw [hlast] at hrest
        exact hrest

/-- Steps end where they start or in a table that they enter. -/
theorem Leads.end_mem {a b : String} {l : List JoinStep} (h : Leads a l b) :
    b ∈ a :: entered l := by
  induction l generalizing a with
  | nil => simp [show a = b from h]
  | cons s rest ih => exact List.mem_cons_of_mem _ (ih h.2)

/-- A step leaves the start or a table entered before it. -/
theorem Leads.source_mem {a b : String} {l l' : List JoinStep} {s : JoinStep}
    (h : Leads a (l ++ s :: l') b) : s.source.table ∈ a :: entered l := by
  obtain ⟨m, hl, hs, -⟩ := leads_append.mp h
  rw [hs]
  exact hl.end_mem

namespace JoinGraph

variable {g : JoinGraph} {a b : String}

/-- Steps of the graph that lead from one table to another and enter no table
twice. -/
structure Route (g : JoinGraph) (a : String) (steps : List JoinStep) (b : String) : Prop where
  mem : ∀ s ∈ steps, s ∈ g.steps
  leads : Leads a steps b
  nodup : (a :: entered steps).Nodup

theorem Route.stay (g : JoinGraph) (a : String) : g.Route a [] a :=
  ⟨by simp, rfl, by simp [entered]⟩

theorem Route.snoc {l : List JoinStep} {s : JoinStep} (h : g.Route a l b) (hs : s ∈ g.steps)
    (hb : s.source.table = b) (hnew : s.target.table ∉ a :: entered l) :
    g.Route a (l ++ [s]) s.target.table where
  mem := by
    intro s' hs'
    rcases List.mem_append.mp hs' with hs' | hs'
    · exact h.mem s' hs'
    · rw [List.mem_singleton.mp hs']
      exact hs
  leads := leads_append.mpr ⟨b, h.leads, hb, rfl⟩
  nodup := by
    rw [entered, List.map_append, ← List.cons_append]
    refine List.nodup_append.mpr ⟨h.nodup, by simp, ?_⟩
    intro t ht u hu htu
    have hu : u = s.target.table := by simpa using hu
    exact hnew (hu ▸ htu ▸ ht)

theorem Route.cons {l : List JoinStep} {s : JoinStep} (h : g.Route s.target.table l b)
    (hs : s ∈ g.steps) (hnew : s.source.table ∉ s.target.table :: entered l) :
    g.Route s.source.table (s :: l) b where
  mem := by
    intro s' hs'
    rcases List.mem_cons.mp hs' with rfl | hs'
    · exact hs
    · exact h.mem s' hs'
  leads := ⟨rfl, h.leads⟩
  nodup := List.nodup_cons.mpr ⟨hnew, h.nodup⟩

/-- No step of a route stays on its table. -/
theorem Route.source_ne_target {l : List JoinStep} {s : JoinStep} (h : g.Route a l b)
    (hs : s ∈ l) : s.source.table ≠ s.target.table := by
  obtain ⟨before, rest, rfl⟩ := List.append_of_mem hs
  have hsource := h.leads.source_mem
  have hnodup := h.nodup
  rw [entered, List.map_append, ← List.cons_append] at hnodup
  exact (List.nodup_append.mp hnodup).2.2 _ hsource _ (by simp)

theorem Route.destination_eq {p : JoinPath} (h : g.Route p.source p.steps b) :
    p.destination = b := h.leads.destination_eq

theorem extend_destination (p : JoinPath) (s : JoinStep) :
    (p.extend s).destination = s.target.table := by
  simp [JoinPath.extend, JoinPath.destination]

theorem tables_destination (p : JoinPath) : p.tables[p.steps.length]? = some p.destination := by
  obtain ⟨source, steps⟩ := p
  rcases List.eq_nil_or_concat steps with rfl | ⟨front, s, rfl⟩
  · rfl
  · simp [JoinPath.tables, JoinPath.destination]

theorem destination_mem_tables (p : JoinPath) : p.destination ∈ p.tables :=
  List.mem_of_getElem? (tables_destination p)

/-! ## Shortest paths -/

theorem mem_leaving {s : JoinStep} : s ∈ g.leaving a ↔ s ∈ g.steps ∧ s.source.table = a := by
  simp [leaving]

theorem mem_extensions {p q : JoinPath} :
    q ∈ g.extensions p ↔
      ∃ s ∈ g.leaving p.destination, s.target.table ∉ p.tables ∧ p.extend s = q := by
  simp [extensions, and_assoc]

theorem route_of_mem_extensions {p q : JoinPath} (h : g.Route p.source p.steps p.destination)
    (hq : q ∈ g.extensions p) :
    q.source = p.source ∧ g.Route q.source q.steps q.destination := by
  obtain ⟨s, hs, hnew, rfl⟩ := mem_extensions.mp hq
  obtain ⟨hmem, hsource⟩ := mem_leaving.mp hs
  have hroute := h.snoc hmem hsource hnew
  refine ⟨rfl, ?_⟩
  rw [show (p.extend s).destination = s.target.table from hroute.leads.destination_eq]
  exact hroute

theorem mem_of_mem_distinctSignatures {p : JoinPath} {ps : List JoinPath}
    (h : p ∈ distinctSignatures ps) : p ∈ ps := by
  induction ps with
  | nil => exact h
  | cons q rest ih =>
    rcases List.mem_cons.mp h with rfl | h
    · simp
    · exact List.mem_cons_of_mem _ (ih (List.mem_filter.mp h).1)

/-- Whatever the rounds find is a route, as long as they start from routes. -/
theorem route_of_mem_reach {fuel : Nat} {frontier : List JoinPath} {p : JoinPath}
    (hfrontier : ∀ q ∈ frontier, q.source = a ∧ g.Route q.source q.steps q.destination)
    (h : p ∈ g.reach b fuel frontier) : p.source = a ∧ g.Route p.source p.steps b := by
  induction fuel generalizing frontier with
  | zero => simp [reach] at h
  | succ fuel ih =>
    have hnext : ∀ q ∈ frontier.flatMap g.extensions,
        q.source = a ∧ g.Route q.source q.steps q.destination := by
      intro q hq
      obtain ⟨q', hq', hq⟩ := List.mem_flatMap.mp hq
      obtain ⟨hsource, hroute⟩ := hfrontier q' hq'
      obtain ⟨hq, hroute⟩ := route_of_mem_extensions hroute hq
      exact ⟨hq.trans hsource, hroute⟩
    simp only [reach] at h
    split at h
    · exact ih hnext h
    · obtain ⟨hmem, hdest⟩ := List.mem_filter.mp (mem_of_mem_distinctSignatures h)
      have hdest : p.destination = b := by simpa using hdest
      exact hdest ▸ hnext p hmem

theorem route_of_mem_shortestPaths {p : JoinPath} (h : p ∈ g.shortestPaths a b) :
    p.source = a ∧ g.Route a p.steps b := by
  unfold shortestPaths at h
  split at h
  case isTrue hab =>
    rw [List.mem_singleton.mp h, ← hab]
    exact ⟨rfl, Route.stay g a⟩
  case isFalse =>
    have hstart : ∀ q ∈ [JoinPath.stay a],
        q.source = a ∧ g.Route q.source q.steps q.destination := by
      intro q hq
      rw [List.mem_singleton.mp hq]
      exact ⟨rfl, Route.stay g a⟩
    obtain ⟨hsource, hroute⟩ := route_of_mem_reach hstart h
    exact ⟨hsource, hsource ▸ hroute⟩

theorem route_of_shortestPath? {p : JoinPath} (h : g.shortestPath? a b = some p) :
    p.source = a ∧ g.Route a p.steps b :=
  route_of_mem_shortestPaths (List.mem_of_mem_head? h)

/-! ## Paths across a constraint -/

/-- A descent enters open tables only, each at most once. -/
theorem route_of_descend? {opened : List String} {tail : List JoinStep} (hopened : opened.Nodup)
    (ha : a ∉ opened) (h : g.descend? b opened a = some tail) :
    g.Route a tail b ∧ ∀ t ∈ entered tail, t ∈ opened := by
  -- A step closes the table that it enters, so fewer are open for the rest of the descent.
  induction hn : opened.length using Nat.strongRecOn generalizing opened a tail with
  | _ n ih =>
    rw [descend?] at h
    split at h
    case isTrue hab =>
      cases h
      exact ⟨hab ▸ Route.stay g a, by simp [entered]⟩
    case isFalse =>
      obtain ⟨s, hs, h⟩ := List.exists_of_findSome?_eq_some h
      obtain ⟨hmem, hsource⟩ := mem_leaving.mp hs
      split at h
      case isFalse => cases h
      case isTrue hopen =>
        obtain ⟨rest, hrest, rfl⟩ := Option.map_eq_some_iff.mp h
        have hlen := List.length_erase_of_mem hopen
        have hpos := List.length_pos_of_mem hopen
        obtain ⟨hroute, hentered⟩ := ih (opened.erase s.target.table).length (by omega)
          (hopened.erase _) hopened.not_mem_erase hrest rfl
        have hinside : ∀ t ∈ entered (s :: rest), t ∈ opened := by
          intro t ht
          rcases List.mem_cons.mp ht with rfl | ht
          · exact hopen
          · exact List.mem_of_mem_erase (hentered t ht)
        subst hsource
        exact ⟨hroute.cons hmem fun hin => ha (hinside _ hin), hinside⟩

theorem nodup_eraseDups (ts : List String) : ts.eraseDups.Nodup := by
  induction hn : ts.length using Nat.strongRecOn generalizing ts with
  | _ n ih =>
    cases ts with
    | nil => simp
    | cons t rest =>
      rw [List.eraseDups_cons]
      have hlen := List.length_filter_le (fun u => !u == t) rest
      simp only [List.length_cons] at hn
      refine List.nodup_cons.mpr ⟨?_, ih _ (by omega) _ rfl⟩
      simp [List.mem_eraseDups]

theorem nodup_openTables (g : JoinGraph) (walked : JoinPath) (b : String) :
    (g.openTables walked b).Nodup :=
  (nodup_eraseDups _).filter _

theorem destination_not_mem_openTables (g : JoinGraph) (walked : JoinPath) (b : String) :
    walked.destination ∉ g.openTables walked b := by
  simp [openTables]

theorem mem_crossing {s : JoinStep} {id : ConstraintId} :
    s ∈ g.crossing id ↔ s ∈ g.steps ∧ s.constraint = id := by
  simp [crossing]

theorem mem_approaches {walked : JoinPath} {id : ConstraintId} :
    walked ∈ g.approaches a id ↔
      ∃ p s, s ∈ g.crossing id ∧ g.shortestPath? a s.source.table = some p ∧
        walked = p.extend s := by
  simp only [approaches, List.mem_map, List.mem_mergeSort, List.mem_filterMap,
    Option.map_eq_some_iff]
  constructor
  · rintro ⟨⟨p, s⟩, ⟨s', hs', p', hp', heq⟩, rfl⟩
    cases heq
    exact ⟨p, s, hs', hp', rfl⟩
  · rintro ⟨p, s, hs, hp, rfl⟩
    exact ⟨(p, s), ⟨s, hs, p, hp, rfl⟩, rfl⟩

/-- A path across a constraint is the first shortest path to one of its steps, that
step, and what a descent behind them finds. -/
theorem approach_of_pathAcross? {p : JoinPath} {id : ConstraintId}
    (h : g.pathAcross? a b id = .ok p) :
    ∃ before s after, p = ⟨a, before ++ s :: after⟩ ∧ s ∈ g.crossing id ∧
      g.shortestPath? a s.source.table = some ⟨a, before⟩ ∧
      g.descend? b (g.openTables (JoinPath.extend ⟨a, before⟩ s) b) s.target.table = some after := by
  simp only [pathAcross?] at h
  split at h
  case h_2 => cases h
  case h_1 path hfound =>
    cases h
    obtain ⟨walked, hwalked, hp⟩ := List.exists_of_findSome?_eq_some hfound
    obtain ⟨after, hafter, rfl⟩ := Option.map_eq_some_iff.mp hp
    obtain ⟨q, s, hs, hq, rfl⟩ := mem_approaches.mp hwalked
    obtain ⟨rfl, -⟩ := route_of_shortestPath? hq
    rw [extend_destination] at hafter
    exact ⟨q.steps, s, after, by simp [JoinPath.extend], hs, hq, hafter⟩

/-- The ways up to the step and behind it are routes. -/
theorem pathAcross?_eq_ok {p : JoinPath} {id : ConstraintId}
    (h : g.pathAcross? a b id = .ok p) :
    ∃ before s after, p = ⟨a, before ++ s :: after⟩ ∧ s ∈ g.steps ∧ s.constraint = id ∧
      g.Route a before s.source.table ∧ g.Route s.target.table after b := by
  obtain ⟨before, s, after, rfl, hs, hway, hafter⟩ := approach_of_pathAcross? h
  obtain ⟨hmem, hid⟩ := mem_crossing.mp hs
  have hclosed := g.destination_not_mem_openTables (JoinPath.extend ⟨a, before⟩ s) b
  rw [extend_destination] at hclosed
  exact ⟨before, s, after, rfl, hmem, hid, (route_of_shortestPath? hway).2,
    (route_of_descend? (g.nodup_openTables _ b) hclosed hafter).1⟩

/-- The facts about a path across a constraint that do not depend on how it was
found. -/
theorem pathAcross?_follows {p : JoinPath} {id : ConstraintId}
    (h : g.pathAcross? a b id = .ok p) :
    p.source = a ∧ (∀ s ∈ p.steps, s ∈ g.steps) ∧ Leads a p.steps b ∧
      ∀ s ∈ p.steps, s.source.table = s.target.table → s.constraint = id := by
  obtain ⟨before, s, after, rfl, hs, hid, hbefore, hafter⟩ := pathAcross?_eq_ok h
  refine ⟨rfl, ?_, leads_append.mpr ⟨_, hbefore.leads, rfl, hafter.leads⟩, ?_⟩
  · intro s' hs'
    rcases List.mem_append.mp hs' with hs' | hs'
    · exact hbefore.mem s' hs'
    · rcases List.mem_cons.mp hs' with rfl | hs'
      · exact hs
      · exact hafter.mem s' hs'
  · intro s' hs' hloop
    rcases List.mem_append.mp hs' with hs' | hs'
    · exact absurd hloop (hbefore.source_ne_target hs')
    · rcases List.mem_cons.mp hs' with rfl | hs'
      · exact hid
      · exact absurd hloop (hafter.source_ne_target hs')

end JoinGraph

end KeyChart
