import KeyChart.Proofs.JoinGraph.Shortest

/-!
# Paths across a constraint

A search across a constraint walks the first shortest path to a table that the
constraint leaves, crosses it, and descends to the destination. It tries the nearest
table first, so if the constraint leaves the source, it is crossed first; and a descent
takes the first way that leads on, so what is found comes first in the order of words.

Where the approach passes the table that lies behind the constraint, the path visits
that table twice, and where it passes the destination, that one. Nowhere else does a
path come back to a table.
-/

namespace KeyChart

namespace JoinGraph

variable {g : JoinGraph} {a b : String} {l : List JoinStep} {id : ConstraintId}

/-! ## Descents -/

/-- A descent finds the first of the routes through open tables, by the words of their
constraints. -/
theorem descend?_first (hg : g.Ordered) {opened : List String} (hopened : opened.Nodup)
    (ha : a ∉ opened) {tail : List JoinStep} (h : g.descend? b opened a = some tail)
    (hroute : g.Route a l b) (hentered : ∀ t ∈ entered l, t ∈ opened) :
    l = tail ∨ Earlier (tail.map JoinStep.constraint) (l.map JoinStep.constraint) := by
  induction l generalizing opened a tail with
  | nil =>
    rw [descend?, if_pos (show a = b from hroute.leads)] at h
    cases h
    exact .inl rfl
  | cons s rest ih =>
    obtain ⟨hs, hrest⟩ := hroute.tail
    have hopen : s.target.table ∈ opened := hentered _ (by simp [entered])
    have hne : a ≠ b := by
      rintro rfl
      exact ha (hentered _ hrest.leads.end_mem)
    have hinside : ∀ t ∈ entered rest, t ∈ opened.erase s.target.table := by
      intro t ht
      have hne : t ≠ s.target.table := by
        rintro rfl
        exact (List.nodup_cons.mp hrest.nodup).1 ht
      exact (List.mem_erase_of_ne hne).mpr (hentered t (List.mem_cons_of_mem _ ht))
    have hleads := (descend?_isSome_iff (hopened.erase s.target.table)
      hopened.not_mem_erase).mpr ⟨rest, hrest, hinside⟩
    rw [descend?, if_neg hne] at h
    obtain ⟨front, s', back, hsplit, hs', hnone⟩ := List.findSome?_eq_some_iff.mp h
    split at hs'
    case isFalse => cases hs'
    case isTrue hopen' =>
      obtain ⟨tail', htail', rfl⟩ := Option.map_eq_some_iff.mp hs'
      rw [hsplit, List.mem_append, List.mem_cons] at hs
      -- No step before the one that was taken leads on, but the first step of the route does.
      rcases hs with hs | rfl | hs
      · have hstuck := hnone s hs
        rw [dif_pos hopen, Option.map_eq_none_iff] at hstuck
        rw [hstuck] at hleads
        cases hleads
      · rcases ih (hopened.erase _) hopened.not_mem_erase htail' hrest hinside with rfl | hearlier
        · exact .inl rfl
        · exact .inr (.cons hearlier)
      · have hapart : ∀ t ∈ opened, t ≠ a := by
          rintro t ht rfl
          exact ha ht
        have hpairwise := hg a
        rw [hsplit, List.filter_append, List.filter_cons_of_pos (by simpa using hapart _ hopen')]
          at hpairwise
        have hlt := (List.pairwise_cons.mp (List.pairwise_append.mp hpairwise).2.1).1 s
          (List.mem_filter.mpr ⟨hs, by simpa using hapart _ hopen⟩)
        exact .inr (.rel hlt)

/-! ## Approaches -/

theorem shortestPath?_self (g : JoinGraph) (a : String) :
    g.shortestPath? a a = some (JoinPath.stay a) := by
  simp [shortestPath?, shortestPaths]

/-- The ways to the steps across a constraint stand in the order of their lengths. -/
theorem approaches_eq_map (g : JoinGraph) (a : String) (id : ConstraintId) :
    ∃ entries : List (JoinPath × JoinStep),
      g.approaches a id = entries.map (fun e => e.1.extend e.2) ∧
      entries.Pairwise (fun e e' => e.1.steps.length ≤ e'.1.steps.length) ∧
      ∀ p s, (p, s) ∈ entries ↔
        s ∈ g.crossing id ∧ g.shortestPath? a s.source.table = some p := by
  refine ⟨_, rfl, ?_, ?_⟩
  · refine (List.pairwise_mergeSort ?_ ?_ _).imp fun h => by simpa using h
    · intro e e' e'' h h'
      simp only [decide_eq_true_eq] at h h' ⊢
      omega
    · intro e e'
      simp only [Bool.or_eq_true, decide_eq_true_eq]
      omega
  · intro p s
    simp only [List.mem_mergeSort, List.mem_filterMap, Option.map_eq_some_iff, Prod.mk.injEq]
    constructor
    · rintro ⟨s', hs', p', hp', rfl, rfl⟩
      exact ⟨hs', hp'⟩
    · rintro ⟨hs, hp⟩
      exact ⟨s, hs, p, hp, rfl, rfl⟩

/-- If one step across a constraint leaves the source, it is tried first. -/
theorem approaches_eq_cons {s : JoinStep} (hs : s ∈ g.crossing id) (hsource : s.source.table = a)
    (honly : ∀ s' ∈ g.crossing id, s'.source.table = a → s' = s) :
    ∃ others, g.approaches a id = ⟨a, [s]⟩ :: others := by
  obtain ⟨entries, heq, hsorted, hmem⟩ := g.approaches_eq_map a id
  have hentry : (JoinPath.stay a, s) ∈ entries :=
    (hmem _ _).mpr ⟨hs, hsource ▸ shortestPath?_self g a⟩
  cases entries with
  | nil => cases hentry
  | cons e others =>
    obtain ⟨p, s'⟩ := e
    obtain ⟨hs', hp⟩ := (hmem p s').mp (by simp)
    obtain ⟨rfl, hroute⟩ := route_of_shortestPath? hp
    -- The way to the first step is no longer than the one that stays.
    have hstays : p.steps = [] := by
      rcases List.mem_cons.mp hentry with hfirst | hlater
      · rw [← (Prod.mk.inj hfirst).1]
        rfl
      · exact List.length_eq_zero_iff.mp
          (Nat.le_zero.mp ((List.pairwise_cons.mp hsorted).1 _ hlater))
    rw [hstays] at hroute
    obtain rfl := honly s' hs' (Eq.symm hroute.leads)
    exact ⟨_, by rw [heq, List.map_cons, JoinPath.extend, hstays, List.nil_append]⟩

/-! ## Where a search goes across -/

/-- The approach that a search takes: the first from whose end a descent leads on. -/
def approachTaken? (g : JoinGraph) (a b : String) (id : ConstraintId) : Option JoinPath :=
  (g.approaches a id).find? fun walked =>
    (g.descend? b (g.openTables walked b) walked.destination).isSome

theorem findSome?_map_eq_some_iff {α β γ : Type} {f : α → Option β} {k : α → β → γ} {as : List α}
    {d : γ} :
    (as.findSome? fun x => (f x).map (k x)) = some d ↔
      ∃ x y, as.find? (fun x => (f x).isSome) = some x ∧ f x = some y ∧ k x y = d := by
  induction as with
  | nil => simp
  | cons x rest ih =>
    rw [List.findSome?_cons, List.find?_cons]
    cases hx : f x with
    | none => simpa using ih
    | some y => simp [hx]

theorem pathAcross?_eq_ok_iff {p : JoinPath} :
    g.pathAcross? a b id = .ok p ↔
      ∃ walked after, g.approachTaken? a b id = some walked ∧
        g.descend? b (g.openTables walked b) walked.destination = some after ∧
        ⟨walked.source, walked.steps ++ after⟩ = p := by
  rw [approachTaken?, ← findSome?_map_eq_some_iff
    (k := fun (walked : JoinPath) after => (⟨walked.source, walked.steps ++ after⟩ : JoinPath))]
  simp only [pathAcross?]
  cases (g.approaches a id).findSome? fun walked =>
      (g.descend? b (g.openTables walked b) walked.destination).map fun after =>
        (⟨walked.source, walked.steps ++ after⟩ : JoinPath) with
  | none => simp
  | some path => simp

/-- What is tried first is taken if it leads on. -/
theorem pathAcross?_of_first {walked : JoinPath} {others : List JoinPath} {after : List JoinStep}
    (hfirst : g.approaches a id = walked :: others)
    (h : g.descend? b (g.openTables walked b) walked.destination = some after) :
    g.pathAcross? a b id = .ok ⟨walked.source, walked.steps ++ after⟩ := by
  refine pathAcross?_eq_ok_iff.mpr ⟨walked, after, ?_, h, rfl⟩
  rw [approachTaken?, hfirst, List.find?_cons_of_pos (by simp [h])]

/-- An approach is the first shortest path to a step across the constraint, with that
step. -/
theorem approach_of_approachTaken? {walked : JoinPath}
    (h : g.approachTaken? a b id = some walked) :
    ∃ before s, walked = ⟨a, before ++ [s]⟩ ∧ s ∈ g.steps ∧ s.constraint = id ∧
      g.shortestPath? a s.source.table = some ⟨a, before⟩ ∧
      walked.destination = s.target.table := by
  obtain ⟨p, s, hs, hp, rfl⟩ := mem_approaches.mp (List.mem_of_find?_eq_some h)
  obtain ⟨hmem, hid⟩ := mem_crossing.mp hs
  obtain ⟨rfl, -⟩ := route_of_shortestPath? hp
  exact ⟨p.steps, s, rfl, hmem, hid, hp, extend_destination p s⟩

/-! ## Behind the first step -/

/-- Behind one step, the open tables are those off the step, and the destination. -/
theorem mem_openTables_behind {s : JoinStep} (h : g.Route s.target.table l b) :
    (∀ t ∈ entered l, t ∈ g.openTables ⟨a, [s]⟩ b) ↔ ∀ t ∈ entered l, t = b ∨ t ≠ a := by
  refine forall₂_congr fun t ht => ?_
  have hne : t ≠ s.target.table := by
    rintro rfl
    exact (List.nodup_cons.mp h.nodup).1 ht
  obtain ⟨s', hs', rfl⟩ := List.mem_map.mp ht
  rw [mem_openTables]
  constructor
  · rintro ⟨-, hopen, -⟩
    refine hopen.imp_right fun hout heq => hout ?_
    simp [JoinPath.tables, heq]
  · intro hopen
    refine ⟨⟨s', h.mem s' hs', rfl⟩, hopen.imp_right fun hne' => ?_, ?_⟩
    · simp [JoinPath.tables, hne, hne']
    · simpa [JoinPath.destination] using hne

theorem route_behind {s : JoinStep} {after : List JoinStep}
    (h : g.descend? b (g.openTables ⟨a, [s]⟩ b) s.target.table = some after) :
    g.Route s.target.table after b ∧ ∀ t ∈ entered after, t = b ∨ t ≠ a := by
  obtain ⟨hroute, hopen⟩ := route_of_descend? (g.nodup_openTables ⟨a, [s]⟩ b)
    (g.destination_not_mem_openTables ⟨a, [s]⟩ b) h
  exact ⟨hroute, (mem_openTables_behind hroute).mp hopen⟩

/-- If a route leads on from the step that is tried first, the search takes that step. -/
theorem exists_of_leadsOn {s : JoinStep} {others : List JoinPath}
    (hfirst : g.approaches a id = ⟨a, [s]⟩ :: others) (hroute : g.Route s.target.table l b)
    (hoff : ∀ t ∈ entered l, t = b ∨ t ≠ a) :
    ∃ after, g.descend? b (g.openTables ⟨a, [s]⟩ b) s.target.table = some after ∧
      g.pathAcross? a b id = .ok ⟨a, s :: after⟩ := by
  have hleads := (descend?_isSome_iff (g.nodup_openTables ⟨a, [s]⟩ b)
    (g.destination_not_mem_openTables ⟨a, [s]⟩ b)).mpr
      ⟨l, hroute, (mem_openTables_behind hroute).mpr hoff⟩
  obtain ⟨after, hafter⟩ := Option.isSome_iff_exists.mp hleads
  exact ⟨after, hafter, pathAcross?_of_first hfirst hafter⟩

/-! ## The first crossing -/

/-- A path whose first step crosses a constraint, and that enters no table twice. -/
structure StartsAcross (g : JoinGraph) (a b : String) (id : ConstraintId) (p : JoinPath) :
    Prop where
  source_eq : p.source = a
  route : g.Route a p.steps b
  first : p.firstConstraint? = some id

theorem StartsAcross.exists_cons {p : JoinPath} (h : g.StartsAcross a b id p) :
    ∃ s rest, p = ⟨a, s :: rest⟩ ∧ s.constraint = id ∧ s ∈ g.leaving a ∧
      g.Route a (s :: rest) b := by
  obtain ⟨source, steps⟩ := p
  obtain ⟨rfl, hroute, hfirst⟩ := h
  cases steps with
  | nil => cases hfirst
  | cons s rest => exact ⟨s, rest, rfl, Option.some.inj hfirst, hroute.tail.1, hroute⟩

theorem Route.off_source {s : JoinStep} (h : g.Route a (s :: l) b) :
    ∀ t ∈ entered l, t = b ∨ t ≠ a := by
  intro t ht
  refine .inr ?_
  rintro rfl
  exact (List.nodup_cons.mp h.nodup).1 (List.mem_cons_of_mem _ ht)

/-- What a descent finds behind the first step of a route makes a route with that step. -/
theorem Route.replace_tail {s : JoinStep} {after : List JoinStep}
    (h : g.Route s.source.table (s :: l) b)
    (hafter : g.descend? b (g.openTables ⟨s.source.table, [s]⟩ b) s.target.table = some after) :
    g.Route s.source.table (s :: after) b := by
  obtain ⟨hroute, hoff⟩ := route_behind hafter
  refine hroute.cons (h.mem s (by simp)) fun hback => ?_
  rcases List.mem_cons.mp hback with heq | hback
  · exact h.source_ne_target (List.mem_cons_self ..) heq
  · rcases hoff _ hback with heq | hne
    · have hstart := (List.nodup_cons.mp h.nodup).1
      exact hstart (heq ▸ h.tail.2.leads.end_mem)
    · exact hne rfl

/-! ## One crossing -/

/-- A path that crosses a constraint once, behind a walk that no other to the table
where it is entered is shorter than, and that visits no table twice. -/
structure AcrossOnce (g : JoinGraph) (a b : String) (id : ConstraintId) (p : JoinPath) : Prop where
  source_eq : p.source = a
  walk : g.Walk a p.steps b
  once : ∃ before s after, p.steps = before ++ s :: after ∧ s.constraint = id ∧
    (∀ s' ∈ before ++ after, s'.constraint ≠ id) ∧ g.Direct a before s.source.table
  nodup : p.tables.Nodup

/-- A step of a route leaves one of its tables. -/
theorem Route.source_mem {s : JoinStep} (h : g.Route a l b) (hs : s ∈ l) :
    s.source.table ∈ a :: entered l := by
  obtain ⟨before, after, rfl⟩ := List.append_of_mem hs
  have hsource := h.leads.source_mem
  rw [entered, List.map_append, ← List.cons_append]
  exact List.mem_append_left _ hsource

section

variable {before after : List JoinStep} {s : JoinStep}

theorem tables_across (a : String) (before after : List JoinStep) (s : JoinStep) :
    a :: entered (before ++ s :: after) =
      (a :: entered before) ++ (s.target.table :: entered after) := by
  simp [entered]

/-- Where the way across is the only one, a path that visits no table twice crosses the
constraint once. -/
theorem ne_of_nodup (hbefore : g.Route a before s.source.table)
    (hafter : g.Route s.target.table after b)
    (hnodup : (a :: entered (before ++ s :: after)).Nodup)
    (hback : ∀ s' ∈ g.steps, s'.constraint = s.constraint → s' = s ∨ s' = s.reverse) :
    ∀ s' ∈ before ++ after, s'.constraint ≠ s.constraint := by
  rw [tables_across] at hnodup
  obtain ⟨-, -, hapart⟩ := List.nodup_append.mp hnodup
  have hsource : s.source.table ∈ a :: entered before := hbefore.leads.end_mem
  have hnew : s.target.table ∉ a :: entered before :=
    fun hin => hapart _ hin _ (by simp) rfl
  intro s' hs' hid
  rcases List.mem_append.mp hs' with hs' | hs'
  · rcases hback s' (hbefore.mem s' hs') hid with rfl | rfl
    · exact hnew (List.mem_cons_of_mem _ (List.mem_map_of_mem hs'))
    · exact hnew (hbefore.source_mem hs')
  · have htarget : s'.target.table ∈ entered after := List.mem_map_of_mem hs'
    rcases hback s' (hafter.mem s' hs') hid with rfl | rfl
    · exact (List.nodup_cons.mp hafter.nodup).1 htarget
    · exact hapart _ hsource _ (List.mem_cons_of_mem _ htarget) rfl

/-- What follows a step can come back to the way to the step at the table behind the
step and at the destination only. -/
theorem nodup_across_iff (hbefore : g.Route a before s.source.table)
    (hafter : g.Route s.target.table after b)
    (hopen : ∀ t ∈ entered after, t = b ∨ t ∉ a :: entered (before ++ [s])) :
    (a :: entered (before ++ s :: after)).Nodup ↔
      s.target.table ∉ a :: entered before ∧ b ∉ a :: entered before := by
  rw [tables_across, List.nodup_append]
  constructor
  · rintro ⟨-, -, hapart⟩
    exact ⟨fun hin => hapart _ hin _ (by simp) rfl,
      fun hin => hapart _ hin _ hafter.leads.end_mem rfl⟩
  · rintro ⟨hnew, hend⟩
    refine ⟨hbefore.nodup, hafter.nodup, ?_⟩
    rintro t ht u hu rfl
    rcases List.mem_cons.mp hu with rfl | hu
    · exact hnew ht
    · rcases hopen t hu with rfl | hout
      · exact hend ht
      · refine hout ?_
        rw [tables_across]
        exact List.mem_append_left _ ht

theorem acrossOnce_iff (hs : s ∈ g.steps) (hdirect : g.Direct a before s.source.table)
    (hafter : g.Route s.target.table after b)
    (hopen : ∀ t ∈ entered after, t = b ∨ t ∉ a :: entered (before ++ [s]))
    (hback : ∀ s' ∈ g.steps, s'.constraint = s.constraint → s' = s ∨ s' = s.reverse) :
    g.AcrossOnce a b s.constraint ⟨a, before ++ s :: after⟩ ↔
      s.target.table ∉ a :: entered before ∧ b ∉ a :: entered before := by
  have hbefore := hdirect.route
  rw [← nodup_across_iff hbefore hafter hopen]
  constructor
  · exact fun h => h.nodup
  · intro hnodup
    refine ⟨rfl, ⟨?_, leads_append.mpr ⟨_, hbefore.leads, rfl, hafter.leads⟩⟩,
      ⟨before, s, after, rfl, rfl, ne_of_nodup hbefore hafter hnodup hback, hdirect⟩, hnodup⟩
    intro s' hs'
    rcases List.mem_append.mp hs' with hs' | hs'
    · exact hbefore.mem s' hs'
    · rcases List.mem_cons.mp hs' with rfl | hs'
      · exact hs
      · exact hafter.mem s' hs'

end

end JoinGraph

namespace Catalog

variable {c : Catalog} {a b : String} {id : ConstraintId}

/-- A step to another table is the only one across its constraint that leaves its
table. -/
theorem eq_of_source_eq {s s' : JoinStep} (hs : s ∈ c.joinGraph.steps)
    (hs' : s' ∈ c.joinGraph.steps) (hid : s'.constraint = s.constraint)
    (hsource : s'.source.table = s.source.table) (hne : s.source.table ≠ s.target.table) :
    s' = s := by
  refine (eq_or_eq_reverse hs hs' hid).resolve_right ?_
  rintro rfl
  exact hne (Eq.symm hsource)

/-- If a path without repetitions starts across a constraint, a search across it finds
the first such path, by the words of their constraints. -/
theorem first_crossing_least (c : Catalog) (a b : String) (id : ConstraintId)
    (h : ∃ p, c.joinGraph.StartsAcross a b id p) :
    ∃ p, c.joinGraph.pathAcross? a b id = .ok p ∧ c.joinGraph.StartsAcross a b id p ∧
      ∀ q, c.joinGraph.StartsAcross a b id q → q = p ∨ Earlier p.signature q.signature := by
  obtain ⟨p, hp⟩ := h
  obtain ⟨s, rest, rfl, rfl, hs, hroute⟩ := hp.exists_cons
  obtain ⟨hmem, rfl⟩ := JoinGraph.mem_leaving.mp hs
  have honly : ∀ s' ∈ c.joinGraph.steps, s'.constraint = s.constraint →
      s'.source.table = s.source.table → s' = s := fun s' hs' hid hsource =>
    eq_of_source_eq hmem hs' hid hsource (hroute.source_ne_target (List.mem_cons_self ..))
  obtain ⟨others, hfirst⟩ := JoinGraph.approaches_eq_cons (a := s.source.table)
    (JoinGraph.mem_crossing.mpr ⟨hmem, rfl⟩) rfl fun s' hs' hsource =>
      honly s' (JoinGraph.mem_crossing.mp hs').1 (JoinGraph.mem_crossing.mp hs').2 hsource
  obtain ⟨tail, htail, hfound⟩ := JoinGraph.exists_of_leadsOn hfirst hroute.tail.2 hroute.off_source
  refine ⟨_, hfound, ⟨rfl, hroute.replace_tail htail, rfl⟩, ?_⟩
  intro q hq
  obtain ⟨s', rest', rfl, hid, hs', hroute'⟩ := hq.exists_cons
  obtain ⟨hmem', hsource⟩ := JoinGraph.mem_leaving.mp hs'
  obtain rfl := honly s' hmem' hid hsource
  have hopen := (JoinGraph.mem_openTables_behind hroute'.tail.2).mpr hroute'.off_source
  rcases JoinGraph.descend?_first c.joinGraph_ordered (c.joinGraph.nodup_openTables _ b)
      (c.joinGraph.destination_not_mem_openTables _ b) htail hroute'.tail.2 hopen with
    rfl | hearlier
  · exact .inl rfl
  · exact .inr (.cons hearlier)

/-- The longer way by the shop of the rep is found, since its second constraint has the
lower number. The way by the team of the rep leads nowhere. -/
theorem first_crossing_least_trade :
    ∃ p, (reached tradeCalls).joinGraph.pathAcross? "sales" "districts" ⟨4⟩ = .ok p ∧
      p.signature = [⟨4⟩, ⟨1⟩, ⟨2⟩] ∧ Earlier p.signature tradeByRep.signature := by
  have hstarts : (reached tradeCalls).joinGraph.StartsAcross "sales" "districts" ⟨4⟩ tradeByRep :=
    ⟨rfl, ⟨by decide +kernel, ⟨rfl, rfl, rfl⟩, by decide⟩, rfl⟩
  obtain ⟨p, hp, -, hleast⟩ := first_crossing_least _ _ _ _ ⟨tradeByRep, hstarts⟩
  have hword : (((reached tradeCalls).joinGraph.pathAcross? "sales" "districts" ⟨4⟩).map
      JoinPath.signature) = .ok [⟨4⟩, ⟨1⟩, ⟨2⟩] := by decide +kernel
  rw [hp] at hword
  have hword : p.signature = [⟨4⟩, ⟨1⟩, ⟨2⟩] := Except.ok.inj hword
  refine ⟨p, hp, hword, (hleast _ hstarts).resolve_left ?_⟩
  rintro rfl
  exact absurd hword (by decide)

/-- What a search across a constraint finds leads to the destination behind the shortest
way to the constraint. It crosses the constraint once and visits no table twice exactly
if that way passes neither the table behind the constraint nor the destination. -/
theorem crossed_once_iff (c : Catalog) {a b : String} {id : ConstraintId} {p : JoinPath}
    (h : c.joinGraph.pathAcross? a b id = .ok p) :
    p.source = a ∧ c.joinGraph.Walk a p.steps b ∧
      ∃ before s after, c.joinGraph.approachTaken? a b id = some ⟨a, before ++ [s]⟩ ∧
        p.steps = before ++ s :: after ∧ s.constraint = id ∧
        c.joinGraph.Direct a before s.source.table ∧
        (c.joinGraph.AcrossOnce a b id p ↔
          s.target.table ∉ a :: entered before ∧ b ∉ a :: entered before) := by
  obtain ⟨hsource, hmem, hleads, -⟩ := JoinGraph.pathAcross?_follows h
  obtain ⟨walked, after, htaken, hafter, rfl⟩ := JoinGraph.pathAcross?_eq_ok_iff.mp h
  obtain ⟨before, s, rfl, hs, rfl, hway, hdest⟩ := JoinGraph.approach_of_approachTaken? htaken
  have hopened := c.joinGraph.nodup_openTables ⟨a, before ++ [s]⟩ b
  have hclosed := c.joinGraph.destination_not_mem_openTables ⟨a, before ++ [s]⟩ b
  obtain ⟨hroute, hin⟩ := JoinGraph.route_of_descend? hopened hclosed hafter
  have hdirect := (JoinGraph.mem_shortestPaths c.joinGraph_ordered).mp (List.mem_of_mem_head? hway)
  rw [hdest] at hroute
  refine ⟨hsource, ⟨hmem, hleads⟩, before, s, after, htaken, by simp, rfl, hdirect.2, ?_⟩
  have hiff := JoinGraph.acrossOnce_iff hs hdirect.2 hroute
    (fun t ht => (JoinGraph.mem_openTables.mp (hin t ht)).2.1)
    (fun s' hs' hid => eq_or_eq_reverse hs hs' hid)
  simpa using hiff

/-- The way by the shop is the only one across the key of the shops. -/
theorem crossed_once_iff_trade :
    (reached tradeCalls).joinGraph.pathAcross? "sales" "districts" ⟨2⟩ = .ok tradeByShop ∧
      (reached tradeCalls).joinGraph.AcrossOnce "sales" "districts" ⟨2⟩ tradeByShop := by
  have hfound : (reached tradeCalls).joinGraph.pathAcross? "sales" "districts" ⟨2⟩ =
      .ok tradeByShop := by decide +kernel
  have htaken : (reached tradeCalls).joinGraph.approachTaken? "sales" "districts" ⟨2⟩ =
      some tradeByShop := by decide +kernel
  obtain ⟨-, -, before, s, after, htaken', -, -, -, honce⟩ := crossed_once_iff _ hfound
  rw [htaken] at htaken'
  have hsteps : [tradeByShop.steps[0]] ++ [tradeByShop.steps[1]] = before ++ [s] :=
    congrArg JoinPath.steps (Option.some.inj htaken')
  obtain ⟨rfl, hlast⟩ := List.append_inj' hsteps rfl
  obtain rfl := (List.cons.inj hlast).1
  exact ⟨hfound, honce.mpr (by decide)⟩

/-- Every sale has a receipt, one to one. -/
def receiptCalls : List Call :=
  [.addTable (Table.ofSchema "districts" noColumns),
   .addTable (Table.ofSchema "sales" districtColumn),
   .addTable (Table.ofSchema "receipts" noColumns),
   .addForeignKey "sales" ["district"] "districts" ["id"] none,
   .addForeignKey "receipts" ["id"] "sales" ["id"] none]

/-- The step from a sale to its receipt. -/
def toReceipt : JoinStep := ⟨⟨1⟩, ⟨"sales", ["id"]⟩, ⟨"receipts", ["id"]⟩⟩

theorem approaches_receipts :
    (reached receiptCalls).joinGraph.approaches "sales" ⟨1⟩ =
      [⟨"sales", [toReceipt]⟩, ⟨"sales", [toReceipt, toReceipt.reverse]⟩] := by
  have hsteps : (reached receiptCalls).joinGraph.steps =
      [⟨⟨0⟩, ⟨"sales", ["district"]⟩, ⟨"districts", ["id"]⟩⟩, toReceipt, toReceipt.reverse] := by
    decide +kernel
  have hcrossing : (reached receiptCalls).joinGraph.crossing ⟨1⟩ =
      [toReceipt.reverse, toReceipt] := by
    simp [JoinGraph.crossing, hsteps, List.mergeSort, toReceipt, JoinStep.reverse]
  have hstay : (reached receiptCalls).joinGraph.shortestPath? "sales" toReceipt.source.table =
      some ⟨"sales", []⟩ := by decide +kernel
  have hforth : (reached receiptCalls).joinGraph.shortestPath? "sales"
      toReceipt.reverse.source.table = some ⟨"sales", [toReceipt]⟩ := by decide +kernel
  simp [JoinGraph.approaches, hcrossing, hstay, hforth, List.mergeSort, JoinPath.extend]

/-- From the receipts there is no way on, so the key is crossed to them and back. -/
theorem crossed_there_and_back :
    ¬ ∀ p, (reached receiptCalls).joinGraph.pathAcross? "sales" "districts" ⟨1⟩ = .ok p →
      (reached receiptCalls).joinGraph.AcrossOnce "sales" "districts" ⟨1⟩ p := by
  intro h
  have hfound : (reached receiptCalls).joinGraph.pathAcross? "sales" "districts" ⟨1⟩ =
      .ok ⟨"sales", [toReceipt, toReceipt.reverse,
        ⟨⟨0⟩, ⟨"sales", ["district"]⟩, ⟨"districts", ["id"]⟩⟩]⟩ := by
    rw [JoinGraph.pathAcross?, approaches_receipts]
    decide +kernel
  exact absurd (h _ hfound).nodup (by decide)

end Catalog

end KeyChart
