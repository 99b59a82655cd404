import KeyChart.Proofs.Mark.Resolution

/-!
# Which way references lead

A reference is resolved to a path that follows the graph of joins, or, for a
summary only, to one that follows it backwards. Two such paths may share all
their constraints and both their ends. Then the one that goes backwards goes
forwards as well: a constraint crossed both ways is one-to-one, or it stays on
its table. The latter is excluded by the search. Only a path across a required
constraint stays on a table, and it goes backwards only if there is none
forwards.
-/

namespace KeyChart

namespace Catalog

variable {c : Catalog} {a b : String}

/-- A path that follows the graph. Where it stays on a table, it was searched
for across that constraint. -/
structure Forward (c : Catalog) (a : String) (path : JoinPath) : Prop where
  source : path.source = a
  mem : ∀ s ∈ path.steps, s ∈ c.joinGraph.steps
  leads : Leads a path.steps path.destination
  loops : ∀ s ∈ path.steps, s.source.table = s.target.table →
    ∃ p, c.pathAcross a path.destination s.constraint = .ok p

/-- A path that follows the graph backwards. Where it stays on a table, the
search across that constraint found nothing. -/
structure Backward (c : Catalog) (a : String) (path : JoinPath) : Prop where
  source : path.source = a
  mem : ∀ s ∈ path.steps, s.reverse ∈ c.joinGraph.steps
  leads : Leads a path.steps path.destination
  loops : ∀ s ∈ path.steps, s.source.table = s.target.table →
    ∃ e, c.pathAcross a path.destination s.constraint = .error e

/-! ## What the searches return -/

theorem forward_of_mem_shortestPaths {path : JoinPath}
    (h : path ∈ c.joinGraph.shortestPaths a b) : c.Forward a path ∧ path.destination = b := by
  obtain ⟨hsource, hroute⟩ := JoinGraph.route_of_mem_shortestPaths h
  have hdest : path.destination = b := by
    rw [← hsource] at hroute
    exact hroute.destination_eq
  refine ⟨⟨hsource, hroute.mem, ?_, ?_⟩, hdest⟩
  · rw [hdest]
    exact hroute.leads
  · intro s hs hloop
    exact absurd hloop (hroute.source_ne_target hs)

theorem forward_of_pathAcross {path : JoinPath} {id : ConstraintId}
    (h : c.pathAcross a b id = .ok path) : c.Forward a path ∧ path.destination = b := by
  obtain ⟨rfl, hmem, hleads, hloop⟩ := JoinGraph.pathAcross?_follows (pathAcross_eq_ok h)
  have hdest : path.destination = b := hleads.destination_eq
  refine ⟨⟨rfl, hmem, ?_, ?_⟩, hdest⟩
  · rw [hdest]
    exact hleads
  · intro s hs hs'
    rw [hloop s hs hs', hdest]
    exact ⟨path, h⟩

theorem mem_reverse_steps {path : JoinPath} {s : JoinStep} (h : s ∈ path.reverse.steps) :
    s.reverse ∈ path.steps := by
  obtain ⟨s', hs', rfl⟩ := List.mem_map.mp h
  exact List.mem_reverse.mp hs'

/-- A forward path that is walked back goes backwards, if nothing was found
across the constraints that stay on a table. -/
theorem Forward.reverse {path : JoinPath} (h : c.Forward b path) (hdest : path.destination = a)
    (hloops : ∀ s ∈ path.steps, s.source.table = s.target.table →
      ∃ e, c.pathAcross a b s.constraint = .error e) :
    c.Backward a path.reverse ∧ path.reverse.destination = b := by
  have hleads : Leads a path.reverse.steps b := hdest ▸ h.leads.reverse
  have hdest' : path.reverse.destination = b := by
    have := hleads.destination_eq
    rw [← hdest] at this
    exact this
  refine ⟨⟨hdest, fun s hs => h.mem _ (mem_reverse_steps hs), ?_, ?_⟩, hdest'⟩
  · rw [hdest']
    exact hleads
  · intro s hs hs'
    rw [hdest']
    exact hloops s.reverse (mem_reverse_steps hs) hs'.symm

theorem backward_of_shortestPath? {path : JoinPath}
    (h : c.joinGraph.shortestPath? b a = some path) :
    c.Backward a path.reverse ∧ path.reverse.destination = b := by
  have hmem := List.mem_of_mem_head? h
  obtain ⟨-, hroute⟩ := JoinGraph.route_of_mem_shortestPaths hmem
  obtain ⟨hforward, hdest⟩ := forward_of_mem_shortestPaths hmem
  refine hforward.reverse hdest ?_
  intro s hs hloop
  exact absurd hloop (hroute.source_ne_target hs)

theorem backward_of_pathAcross {path : JoinPath} {id : ConstraintId} {e : Error}
    (hnone : c.pathAcross a b id = .error e) (h : c.pathAcross b a id = .ok path) :
    c.Backward a path.reverse ∧ path.reverse.destination = b := by
  obtain ⟨-, -, -, hloop⟩ := JoinGraph.pathAcross?_follows (pathAcross_eq_ok h)
  obtain ⟨hforward, hdest⟩ := forward_of_pathAcross h
  refine hforward.reverse hdest ?_
  intro s hs hs'
  rw [hloop s hs hs']
  exact ⟨e, hnone⟩

/-! ## Paths either way -/

/-- The steps of a path lead to its end, each across a foreign key in one of the two
directions. -/
structure Follows (c : Catalog) (path : JoinPath) : Prop where
  leads : Leads path.source path.steps path.destination
  across : ∀ s ∈ path.steps, s ∈ c.joinGraph.steps ∨ s.reverse ∈ c.joinGraph.steps

theorem Forward.follows {path : JoinPath} (h : c.Forward a path) : c.Follows path where
  leads := by
    rw [h.source]
    exact h.leads
  across s hs := .inl (h.mem s hs)

theorem Backward.follows {path : JoinPath} (h : c.Backward a path) : c.Follows path where
  leads := by
    rw [h.source]
    exact h.leads
  across s hs := .inr (h.mem s hs)

/-- A path that one of the searches returns, the one for paths backwards included. -/
def FindsEitherWay (c : Catalog) (path : JoinPath) : Prop :=
  c.Finds path ∨ ∃ a b, c.reversePath? a b = .ok (some path)

theorem FindsEitherWay.follows {path : JoinPath} (h : c.FindsEitherWay path) :
    c.Follows path := by
  rcases h with (⟨a, b, h⟩ | ⟨a, b, paths, h, hpath⟩ | ⟨a, b, id, h⟩) | ⟨a, b, h⟩
  · have hmem := List.mem_of_mem_head? (shortestPath?_eq_ok h).symm
    exact (forward_of_mem_shortestPaths hmem).1.follows
  · rw [shortestPaths_eq_ok h] at hpath
    exact (forward_of_mem_shortestPaths hpath).1.follows
  · exact (forward_of_pathAcross h).1.follows
  · obtain ⟨forth, hforth, rfl⟩ := Option.map_eq_some_iff.mp (reversePath?_eq_ok h).symm
    exact (backward_of_shortestPath? hforth).1.follows

/-! ## Two ways across the same constraints -/

/-- Of a one-to-one key, both directions are steps. -/
theorem reverse_mem_steps {id : ConstraintId} {fk : ForeignKey} {s : JoinStep}
    (hfk : (id, fk) ∈ c.foreignKeys) (hcard : fk.cardinality = .oneOne)
    (hs : s.reverse ∈ JoinGraph.stepsAcross id fk) : s ∈ c.joinGraph.steps := by
  refine mem_joinGraph_steps.mpr ⟨id, fk, hfk, ?_⟩
  have hrev : s = s.reverse.reverse := rfl
  rcases JoinGraph.mem_stepsAcross hs with ⟨heq, -⟩ | ⟨heq, -⟩
  · rw [hrev, heq]
    simp [JoinGraph.stepsAcross, hcard, JoinStep.reverse]
  · rw [hrev, heq]
    simp [JoinGraph.stepsAcross, hcard, JoinStep.reverse]

/-- Two steps that leave one table by one constraint, the one forwards and the
other backwards, enter one table. Either both are steps of the graph, or both
stay where they are. -/
theorem steps_across_both_ways {s s' : JoinStep} (hs : s ∈ c.joinGraph.steps)
    (hs' : s'.reverse ∈ c.joinGraph.steps) (hid : s.constraint = s'.constraint)
    (hsource : s.source.table = s'.source.table) :
    s.target.table = s'.target.table ∧
      (s' ∈ c.joinGraph.steps ∨
        (s.source.table = s.target.table ∧ s'.source.table = s'.target.table)) := by
  obtain ⟨fk, hfk, hin⟩ := foreignKey_of_mem_steps hs
  obtain ⟨fk', hfk', hin'⟩ := foreignKey_of_mem_steps hs'
  rw [show s'.reverse.constraint = s.constraint from hid.symm] at hfk' hin'
  obtain rfl := foreignKey_eq_of_mem hfk hfk'
  have hflip : s' = s'.reverse.reverse := rfl
  rcases JoinGraph.mem_stepsAcross hin with ⟨heq, -⟩ | ⟨heq, hone⟩ <;>
    rcases JoinGraph.mem_stepsAcross hin' with ⟨heq', -⟩ | ⟨heq', hone'⟩
  · -- The key is crossed from its many side and back: both sides are on one table.
    rw [hflip, heq', heq] at hsource ⊢
    exact ⟨hsource.symm, .inr ⟨hsource, hsource.symm⟩⟩
  · refine ⟨?_, .inl (reverse_mem_steps hfk hone' hin')⟩
    rw [hflip, heq', heq]
    rfl
  · refine ⟨?_, .inl (reverse_mem_steps hfk hone hin')⟩
    rw [hflip, heq', heq]
    rfl
  · rw [hflip, heq', heq] at hsource ⊢
    exact ⟨hsource.symm, .inr ⟨hsource, hsource.symm⟩⟩

/-- Along two lists of steps from one table across the same constraints, the one
forwards and the other backwards, the latter follows the graph as well unless
both stay on a table somewhere. -/
theorem mem_steps_of_both_ways {t u u' : String} {l l' : List JoinStep}
    (hl : ∀ s ∈ l, s ∈ c.joinGraph.steps) (hl' : ∀ s ∈ l', s.reverse ∈ c.joinGraph.steps)
    (hleads : Leads t l u) (hleads' : Leads t l' u')
    (hids : l.map JoinStep.constraint = l'.map JoinStep.constraint)
    (hloops : ∀ s ∈ l, ∀ s' ∈ l', s.constraint = s'.constraint →
      s.source.table = s.target.table → s'.source.table ≠ s'.target.table) :
    ∀ s ∈ l', s ∈ c.joinGraph.steps := by
  induction l generalizing t l' with
  | nil =>
    have hnil : l' = [] := by simpa using hids.symm
    simp [hnil]
  | cons s rest ih =>
    cases l' with
    | nil => simp at hids
    | cons s' rest' =>
      simp only [List.map_cons, List.cons.injEq] at hids
      obtain ⟨hsource, hleads⟩ := hleads
      obtain ⟨hsource', hleads'⟩ := hleads'
      -- Both lists are on one table here, and so they are behind their first steps.
      obtain ⟨htarget, hs'⟩ := steps_across_both_ways (hl s (by simp)) (hl' s' (by simp)) hids.1
        (hsource.trans hsource'.symm)
      have hs' : s' ∈ c.joinGraph.steps := by
        rcases hs' with hs' | ⟨hloop, hloop'⟩
        · exact hs'
        · exact absurd hloop' (hloops s (by simp) s' (by simp) hids.1 hloop)
      have hrest := ih (fun s hs => hl s (by simp [hs])) (fun s hs => hl' s (by simp [hs]))
        hleads (htarget ▸ hleads') hids.2
        (fun s hs s' hs' => hloops s (by simp [hs]) s' (by simp [hs']))
      intro s'' hs''
      rcases List.mem_cons.mp hs'' with rfl | hs''
      · exact hs'
      · exact hrest s'' hs''

/-- A path that goes backwards and shares its constraints and its ends with one
that goes forwards follows the graph. -/
theorem Backward.mem_of_shared {path path' : JoinPath} (h' : c.Backward a path')
    (h : c.Forward a path) (hsig : path.signature = path'.signature)
    (hdest : path.destination = path'.destination) : ∀ s ∈ path'.steps, s ∈ c.joinGraph.steps := by
  refine mem_steps_of_both_ways h.mem h'.mem h.leads h'.leads hsig ?_
  intro s hs s' hs' hid hloop hloop'
  -- One search across the constraint would have to succeed and to fail.
  obtain ⟨p, hp⟩ := h.loops s hs hloop
  obtain ⟨e, he⟩ := h'.loops s' hs' hloop'
  rw [hid, hdest, he] at hp
  cases hp

/-! ## From one row to many -/

/-- A step from the one side of a foreign key to its many side. -/
def FansOut (c : Catalog) (s : JoinStep) : Prop :=
  ∃ fk, (s.constraint, fk) ∈ c.foreignKeys ∧ fk.cardinality = .oneMany ∧ fk.first ≠ fk.second ∧
    s.source = fk.first ∧ s.target = fk.second

/-- A step that does not follow the graph forwards, but backwards, is from one
row to many. -/
theorem not_mem_steps_iff_fansOut {s : JoinStep}
    (h : s ∈ c.joinGraph.steps ∨ s.reverse ∈ c.joinGraph.steps) :
    s ∉ c.joinGraph.steps ↔ c.FansOut s := by
  constructor
  · intro hs
    obtain ⟨fk, hfk, hin⟩ := foreignKey_of_mem_steps (h.resolve_left hs)
    have hnotOne : fk.cardinality ≠ .oneOne := fun hone => hs (reverse_mem_steps hfk hone hin)
    rcases JoinGraph.mem_stepsAcross hin with ⟨heq, hmany⟩ | ⟨-, hone⟩
    · have hsides : s.source = fk.first ∧ s.target = fk.second := by
        have htarget := congrArg JoinStep.source heq
        have hsource := congrArg JoinStep.target heq
        exact ⟨hsource, htarget⟩
      refine ⟨fk, hfk, ?_, ?_, hsides⟩
      · cases hcard : fk.cardinality with
        | oneOne => exact absurd hcard hnotOne
        | oneMany => rfl
        | manyMany => exact absurd hcard hmany
      · intro hsame
        have hself : s = s.reverse := by
          obtain ⟨id, source, target⟩ := s
          obtain ⟨rfl, rfl⟩ := hsides
          simp [JoinStep.reverse, hsame]
        rw [← hself] at h
        exact hs (h.elim id id)
    · exact absurd hone hnotOne
  · rintro ⟨fk, hfk, hcard, hne, hsource, htarget⟩ hs
    obtain ⟨fk', hfk', hin⟩ := foreignKey_of_mem_steps hs
    obtain rfl := foreignKey_eq_of_mem hfk hfk'
    rcases JoinGraph.mem_stepsAcross hin with ⟨heq, -⟩ | ⟨-, hone⟩
    · have : s.source = fk.second := by rw [heq]
      exact hne (hsource.symm.trans this)
    · rw [hcard] at hone
      cases hone

end Catalog

/-! ## What references are resolved to -/

namespace Reference

variable {c : Catalog} {a b : String} {r : ForeignRef}

/-- A path follows the graph, or backwards if the reference is a summary. -/
def Resolved (c : Catalog) (a : String) (r : ForeignRef) (path : JoinPath) : Prop :=
  c.Forward a path ∨ (r.aggregate.isSome = true ∧ c.Backward a path)

/-- Where a reference leads: to its table, to that of its mark, or to one that has the
attribute it searches. -/
def Reaches (c : Catalog) (a : String) (markTables : SortedMap MarkId String) (r : ForeignRef)
    (b : String) : Prop :=
  match r.target with
  | .table name => b = name
  | .mark id => markTables.find? id = some b
  | .search => b ∈ c.tablesWithAttribute (searchedAttr r) a

theorem pathAcross_resolved {path : JoinPath} {id : ConstraintId}
    (h : pathAcross c a b r.aggregate.isSome id = .ok path) :
    Resolved c a r path ∧ path.destination = b := by
  unfold pathAcross at h
  split at h
  case h_1 s t hnone =>
    split at h
    case isFalse => cases h
    case isTrue hfan =>
      obtain ⟨back, hback, rfl⟩ := Except.map_eq_ok.mp h
      obtain ⟨hbackward, hdest⟩ := Catalog.backward_of_pathAcross hnone hback
      exact ⟨.inr ⟨hfan, hbackward⟩, hdest⟩
  case h_2 =>
    obtain ⟨hforward, hdest⟩ := Catalog.forward_of_pathAcross h
    exact ⟨.inl hforward, hdest⟩

theorem pathTo_resolved {path : JoinPath} {found : List Warning}
    (h : pathTo c a b r = .ok (path, found)) : Resolved c a r path ∧ path.destination = b := by
  unfold pathTo at h
  split at h
  case h_1 key _ _ =>
    obtain ⟨path', hpath, heq⟩ := Except.map_eq_ok.mp h
    cases heq
    obtain ⟨id, -, hpath⟩ := exists_of_firstAcross hpath
    exact pathAcross_resolved hpath
  case h_2 id _ _ =>
    obtain ⟨path', hpath, heq⟩ := Except.map_eq_ok.mp h
    cases heq
    exact pathAcross_resolved hpath
  case h_3 =>
    split at h
    case h_1 => cases h
    case h_2 path' others hpaths =>
      cases h
      have hmem : path ∈ c.joinGraph.shortestPaths a b := by
        rw [← Catalog.shortestPaths_eq_ok hpaths]
        simp
      obtain ⟨hforward, hdest⟩ := Catalog.forward_of_mem_shortestPaths hmem
      exact ⟨.inl hforward, hdest⟩
    case h_3 =>
      cases hfan : r.aggregate.isSome with
      | false => simp [hfan] at h
      | true =>
        simp only [hfan, if_true] at h
        cases hback : c.reversePath? a b with
        | error e => simp [hback] at h
        | ok back =>
          cases back with
          | none => simp [hback] at h
          | some back =>
            simp only [hback, Except.ok.injEq, Prod.mk.injEq] at h
            obtain ⟨rfl, -⟩ := h
            obtain ⟨forth, hforth, rfl⟩ :=
              Option.map_eq_some_iff.mp (Catalog.reversePath?_eq_ok hback).symm
            obtain ⟨hbackward, hdest⟩ := Catalog.backward_of_shortestPath? hforth
            exact ⟨.inr ⟨hfan, hbackward⟩, hdest⟩

/-- However a reference looks for its column, its path follows the graph, or backwards if it
is a summary, and ends where the reference leads. -/
theorem resolve_resolved {markTables : SortedMap MarkId String} {path : JoinPath}
    {found : List Warning} (h : resolve c a markTables r = .ok (path, found)) :
    Resolved c a r path ∧ Reaches c a markTables r path.destination := by
  cases htarget : r.target with
  | table name =>
    simp only [resolve, htarget] at h
    simpa only [Reaches, htarget] using pathTo_resolved h
  | mark id =>
    simp only [resolve, htarget] at h
    cases hname : markTables.find? id with
    | none => simp [hname] at h
    | some name =>
      rw [hname] at h
      obtain ⟨hresolved, rfl⟩ := pathTo_resolved h
      exact ⟨hresolved, by simpa only [Reaches, htarget] using hname⟩
  | search =>
    simp only [resolve, htarget] at h
    obtain ⟨t, ht, found', hpath⟩ := exists_of_search h
    obtain ⟨hresolved, rfl⟩ := pathTo_resolved hpath
    exact ⟨hresolved, by simpa only [Reaches, htarget] using ht⟩

end Reference

end KeyChart
