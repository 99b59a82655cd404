import KeyChart.Nest
import KeyChart.Proofs.JoinGraph.Crossings
import KeyChart.Proofs.Mark.Resolution

/-!
# Joins by a search key

A nesting or a reference may name attributes of its source. The join goes across the
first foreign key that has them on a side on the source. It leaves the source by them if
the key can be crossed from the source and leads on from there, unless both sides are on
the source: then the key is crossed from its second side, whichever side was named. If
the key does not lead on, or can only be crossed towards the source, the join first goes
to the other end the shortest way, and comes back to the source across the key.
-/

namespace KeyChart

/-- The first step of a path leaves its source by a set of attributes. -/
def JoinPath.LeavesBy (p : JoinPath) (key : Key) : Prop :=
  ∃ s rest, p.steps = s :: rest ∧ s.source.table = p.source ∧ s.source.key = key

namespace JoinGraph

variable {g : JoinGraph} {a b : String} {id : ConstraintId}

/-- Whether a constraint can be crossed from a table so that a route leads on to the
destination and does not come back, unless to end there. -/
def LeadsOn (g : JoinGraph) (a b : String) (id : ConstraintId) : Prop :=
  ∃ s ∈ g.leaving a, s.constraint = id ∧
    ∃ l, g.Route s.target.table l b ∧ ∀ t ∈ entered l, t = b ∨ t ≠ a

/-- If all steps across a constraint leave the source, they are tried in their order. -/
theorem approaches_of_leaving
    (h : ∀ s ∈ g.steps.filter (·.constraint == id), s.source.table = a) :
    g.approaches a id = (g.steps.filter (·.constraint == id)).map fun s => ⟨a, [s]⟩ := by
  have hcrossing : g.crossing id = g.steps.filter (·.constraint == id) := by
    rw [crossing]
    refine List.mergeSort_of_pairwise (List.pairwise_of_forall_mem_list ?_)
    intro s hs s' hs'
    simp [h s hs, h s' hs']
  have hentries : (g.steps.filter (·.constraint == id)).filterMap (fun s =>
      (g.shortestPath? a s.source.table).map fun p => (p, s)) =
      (g.steps.filter (·.constraint == id)).map fun s => (JoinPath.stay a, s) := by
    rw [← List.filterMap_eq_map]
    refine List.filterMap_congr ?_
    intro s hs
    rw [h s hs, shortestPath?_self]
    rfl
  rw [approaches, hcrossing, hentries, List.mergeSort_of_pairwise, List.map_map]
  · rfl
  · exact List.pairwise_map.mpr (List.pairwise_of_forall fun _ _ => by simp)

theorem stepsAcross_eq_cons {fk : ForeignKey} (id : ConstraintId)
    (h : fk.cardinality ≠ .manyMany) :
    ∃ others, stepsAcross id fk = ⟨id, fk.second, fk.first⟩ :: others := by
  unfold stepsAcross
  cases hcard : fk.cardinality with
  | oneOne => exact ⟨_, rfl⟩
  | oneMany => exact ⟨_, rfl⟩
  | manyMany => exact absurd hcard h

/-- A step across a foreign key stays on its table exactly if both sides are on it. -/
theorem isSelfJoin_iff_of_mem {fk : ForeignKey} {s : JoinStep} (h : s ∈ stepsAcross id fk) :
    fk.isSelfJoin = true ↔ s.source.table = s.target.table := by
  rcases mem_stepsAcross h with ⟨rfl, -⟩ | ⟨rfl, -⟩
  · rw [ForeignKey.isSelfJoin, beq_iff_eq]
    exact eq_comm
  · rw [ForeignKey.isSelfJoin, beq_iff_eq]

/-- All steps across a key with both sides on one table leave this table. -/
theorem source_eq_of_isSelfJoin {fk : ForeignKey} {s s' : JoinStep} (hself : fk.isSelfJoin = true)
    (hs : s ∈ stepsAcross id fk) (hs' : s' ∈ stepsAcross id fk) :
    s'.source.table = s.source.table := by
  have hsame : fk.first.table = fk.second.table := beq_iff_eq.mp hself
  rcases mem_stepsAcross hs with ⟨rfl, -⟩ | ⟨rfl, -⟩ <;>
    rcases mem_stepsAcross hs' with ⟨rfl, -⟩ | ⟨rfl, -⟩ <;> simp [hsame]

end JoinGraph

namespace ForeignKey

variable {fk : ForeignKey} {a : String} {attrs : List String}

theorem mem_sidesOn {side : KeySide} :
    side ∈ fk.sidesOn a ↔ (side = fk.second ∨ side = fk.first) ∧ side.table = a := by
  simp [sidesOn]

/-- Of a key between two tables, the one side on a table has the attributes that match. -/
theorem key_of_matchesSide (h : fk.matchesSide a attrs = true) (hself : fk.isSelfJoin = false)
    {side : KeySide} (hside : side ∈ fk.sidesOn a) : side.key = SortedSet.ofList attrs := by
  obtain ⟨side', hside', hkey⟩ := List.any_eq_true.mp h
  obtain ⟨hof, htable⟩ := mem_sidesOn.mp hside
  obtain ⟨hof', htable'⟩ := mem_sidesOn.mp hside'
  have hne : fk.first.table ≠ fk.second.table := by simpa [isSelfJoin] using hself
  have hsame : side = side' := by
    rcases hof with rfl | rfl <;> rcases hof' with rfl | rfl
    · rfl
    · exact absurd (htable'.trans htable.symm) hne
    · exact absurd (htable.trans htable'.symm) hne
    · rfl
  rw [hsame]
  simpa using hkey

end ForeignKey

namespace Catalog

variable {c : Catalog} {a b : String} {id : ConstraintId} {fk : ForeignKey} {p : JoinPath}

theorem filter_flatMap_of_ne {keys : List (ConstraintId × ForeignKey)}
    (h : ∀ k ∈ keys, k.1 ≠ id) :
    (keys.flatMap fun k => JoinGraph.stepsAcross k.1 k.2).filter (·.constraint == id) = [] := by
  refine List.filter_eq_nil_iff.mpr ?_
  intro s hs
  obtain ⟨k, hk, hs⟩ := List.mem_flatMap.mp hs
  simpa [constraint_of_mem_stepsAcross hs] using h k hk

/-- The steps across a foreign key, in the order of the graph. -/
theorem filter_constraint (hfk : (id, fk) ∈ c.foreignKeys) :
    c.joinGraph.steps.filter (·.constraint == id) = JoinGraph.stepsAcross id fk := by
  obtain ⟨before, after, hsplit⟩ := List.append_of_mem hfk
  have hsorted := c.foreignKeys_sorted
  rw [hsplit] at hsorted
  obtain ⟨-, hafter, hbefore⟩ := List.pairwise_append.mp hsorted
  have hkept : (JoinGraph.stepsAcross id fk).filter (·.constraint == id) =
      JoinGraph.stepsAcross id fk := by
    refine List.filter_eq_self.mpr ?_
    intro s hs
    simp [constraint_of_mem_stepsAcross hs]
  rw [joinGraph, JoinGraph.ofForeignKeys, hsplit, List.flatMap_append, List.flatMap_cons,
    List.filter_append, List.filter_append, hkept, filter_flatMap_of_ne, filter_flatMap_of_ne]
  · simp
  · intro k hk heq
    have hlt := (List.pairwise_cons.mp hafter).1 k hk
    exact absurd (heq ▸ hlt) (Nat.lt_irrefl _)
  · intro k hk heq
    have hlt := hbefore k hk (id, fk) (by simp)
    exact absurd (heq ▸ hlt) (Nat.lt_irrefl _)

theorem mem_stepsAcross_of_mem_steps (hfk : (id, fk) ∈ c.foreignKeys) {s : JoinStep}
    (hs : s ∈ c.joinGraph.steps) (hid : s.constraint = id) : s ∈ JoinGraph.stepsAcross id fk := by
  rw [← filter_constraint hfk]
  exact List.mem_filter.mpr ⟨hs, by simpa using hid⟩

/-- If a foreign key leads on from the source, a search across it starts with the key, and
if both sides are on the source, from the second one. -/
theorem starts_of_leadsOn (hfk : (id, fk) ∈ c.foreignKeys) (h : c.joinGraph.LeadsOn a b id) :
    ∃ s rest, c.joinGraph.pathAcross? a b id = .ok ⟨a, s :: rest⟩ ∧
      s ∈ JoinGraph.stepsAcross id fk ∧ s.source.table = a ∧
      (fk.isSelfJoin = true → s.source = fk.second) := by
  obtain ⟨s, hs, hid, l, hroute, hoff⟩ := h
  obtain ⟨hmem, rfl⟩ := JoinGraph.mem_leaving.mp hs
  have hacross := mem_stepsAcross_of_mem_steps hfk hmem hid
  by_cases hself : fk.isSelfJoin = true
  · have hloop := (JoinGraph.isSelfJoin_iff_of_mem hacross).mp hself
    have hleaving : ∀ s' ∈ c.joinGraph.steps.filter (·.constraint == id),
        s'.source.table = s.source.table := by
      rw [filter_constraint hfk]
      exact fun s' hs' => JoinGraph.source_eq_of_isSelfJoin hself hacross hs'
    have happroaches := JoinGraph.approaches_of_leaving hleaving
    rw [filter_constraint hfk] at happroaches
    have hcard : fk.cardinality ≠ .manyMany := by
      intro hmany
      simp [JoinGraph.stepsAcross, hmany] at hacross
    obtain ⟨others, hsteps⟩ := JoinGraph.stepsAcross_eq_cons id hcard
    have hfirst : (⟨id, fk.second, fk.first⟩ : JoinStep) ∈ JoinGraph.stepsAcross id fk := by
      rw [hsteps]
      simp
    rw [hsteps, List.map_cons] at happroaches
    -- Whichever side was named, the search starts from the second one.
    have hleaves := JoinGraph.source_eq_of_isSelfJoin hself hacross hfirst
    have henters := (JoinGraph.isSelfJoin_iff_of_mem hfirst).mp hself
    rw [← hloop, ← hleaves, henters] at hroute
    obtain ⟨after, -, hfound⟩ := JoinGraph.exists_of_leadsOn happroaches hroute hoff
    exact ⟨_, after, hfound, hfirst, hleaves, fun _ => rfl⟩
  · have hne := mt (JoinGraph.isSelfJoin_iff_of_mem hacross).mpr hself
    obtain ⟨others, hfirst⟩ := JoinGraph.approaches_eq_cons (a := s.source.table)
      (JoinGraph.mem_crossing.mpr ⟨hmem, hid⟩) rfl fun s' hs' hsource =>
        eq_of_source_eq hmem (JoinGraph.mem_crossing.mp hs').1
          ((JoinGraph.mem_crossing.mp hs').2.trans hid.symm) hsource hne
    obtain ⟨after, -, hfound⟩ := JoinGraph.exists_of_leadsOn hfirst hroute hoff
    exact ⟨s, after, hfound, hacross, rfl, fun h => absurd h hself⟩

theorem mem_sidesOn_of_mem_stepsAcross {s : JoinStep} (hs : s ∈ JoinGraph.stepsAcross id fk) :
    s.source ∈ fk.sidesOn s.source.table := by
  rcases JoinGraph.mem_stepsAcross hs with ⟨rfl, -⟩ | ⟨rfl, -⟩ <;> simp [ForeignKey.sidesOn]

/-- If a foreign key does not lead on from the source, a search across it starts with the
shortest way to the other end. -/
theorem starts_of_not_leadsOn (hfk : (id, fk) ∈ c.foreignKeys) (htouches : fk.involves a = true)
    (hp : c.joinGraph.pathAcross? a b id = .ok p) (h : ¬c.joinGraph.LeadsOn a b id) :
    fk.isSelfJoin = false ∧ ∃ far way after, fk.otherEnd? a = some far ∧
      c.joinGraph.shortestPath? a far = some way ∧ way.steps ≠ [] ∧ way.source = a ∧
      p = ⟨a, way.steps ++ after⟩ := by
  obtain ⟨before, s, after, rfl, hs, hway, hafter⟩ := JoinGraph.approach_of_pathAcross? hp
  obtain ⟨hmem, hid⟩ := JoinGraph.mem_crossing.mp hs
  have hacross := mem_stepsAcross_of_mem_steps hfk hmem hid
  have hroute := (JoinGraph.route_of_shortestPath? hway).2
  have hne : s.source.table ≠ a := by
    rintro rfl
    rw [JoinGraph.shortestPath?_self] at hway
    obtain rfl : [] = before := congrArg JoinPath.steps (Option.some.inj hway)
    obtain ⟨hafterRoute, hoff⟩ := JoinGraph.route_behind hafter
    exact h ⟨s, JoinGraph.mem_leaving.mpr ⟨hmem, rfl⟩, hid, after, hafterRoute, hoff⟩
  have hbefore : before ≠ [] := by
    rintro rfl
    exact hne (Eq.symm hroute.leads)
  have htouches : fk.first.table = a ∨ fk.second.table = a := by
    simpa [ForeignKey.involves] using htouches
  -- The step does not leave the source, so it leaves the other end.
  have hend : fk.first.table ≠ fk.second.table ∧ fk.otherEnd? a = some s.source.table := by
    unfold ForeignKey.otherEnd?
    rcases JoinGraph.mem_stepsAcross hacross with ⟨rfl, -⟩ | ⟨rfl, -⟩
    · have hfirst := htouches.resolve_right hne
      exact ⟨fun heq => hne (heq ▸ hfirst), by rw [if_neg hne, if_pos hfirst]⟩
    · have hsecond := htouches.resolve_left hne
      exact ⟨fun heq => hne (heq.trans hsecond), by rw [if_pos hsecond]⟩
  refine ⟨?_, s.source.table, ⟨a, before⟩, s :: after, hend.2, hway, hbefore, rfl, rfl⟩
  simpa [ForeignKey.isSelfJoin] using hend.1

/-! ## Joins by attributes -/

/-- Whether a join across a foreign key starts well: from the source by its own key, or, if
the key does not lead on, the shortest way to the other end starts well. -/
def StartsBy (c : Catalog) (a b : String) (id : ConstraintId) (fk : ForeignKey) (key : Key)
    (well : JoinPath → Prop) : Prop :=
  (c.joinGraph.LeadsOn a b id ∧ (fk.isSelfJoin = true → fk.second.key = key)) ∨
    (¬c.joinGraph.LeadsOn a b id ∧ ∃ far way, fk.otherEnd? a = some far ∧
      c.joinGraph.shortestPath? a far = some way ∧ well way)

theorem involves_of_matchesSide {attrs : List String} (h : fk.matchesSide a attrs = true) :
    fk.involves a = true := by
  obtain ⟨side, hside, -⟩ := List.any_eq_true.mp h
  obtain ⟨rfl | rfl, rfl⟩ := ForeignKey.mem_sidesOn.mp hside <;> simp [ForeignKey.involves]

theorem leavesBy_cons {s : JoinStep} {rest : List JoinStep} {key : Key} :
    (JoinPath.mk a (s :: rest)).LeavesBy key ↔ s.source.table = a ∧ s.source.key = key := by
  constructor
  · rintro ⟨s', rest', hsteps, h⟩
    obtain rfl := (List.cons.inj hsteps).1
    exact h
  · intro h
    exact ⟨s, rest, rfl, h⟩

/-- A step across the key that leaves the source leaves it by the attributes, if the key is
between two tables. -/
theorem key_of_source {attrs : List String} (hmatch : fk.matchesSide a attrs = true) {s : JoinStep}
    (hs : s ∈ JoinGraph.stepsAcross id fk) (hsource : s.source.table = a) :
    s.source.key = SortedSet.ofList attrs ↔
      (fk.isSelfJoin = true → s.source.key = SortedSet.ofList attrs) := by
  refine ⟨fun h _ => h, fun h => ?_⟩
  by_cases hself : fk.isSelfJoin = true
  · exact h hself
  · refine ForeignKey.key_of_matchesSide hmatch (by simpa using hself) ?_
    exact hsource ▸ mem_sidesOn_of_mem_stepsAcross hs

theorem startsBy_of_leadsOn {key : Key} {well : JoinPath → Prop} (h : c.joinGraph.LeadsOn a b id) :
    c.StartsBy a b id fk key well ↔ (fk.isSelfJoin = true → fk.second.key = key) := by
  simp [StartsBy, h]

theorem startsBy_of_not_leadsOn {key : Key} {well : JoinPath → Prop} {far : String}
    {way : JoinPath} (h : ¬c.joinGraph.LeadsOn a b id) (hfar : fk.otherEnd? a = some far)
    (hway : c.joinGraph.shortestPath? a far = some way) :
    c.StartsBy a b id fk key well ↔ well way := by
  simp [StartsBy, h, hfar, hway]

variable {attrs : List String} (hfk : (id, fk) ∈ c.foreignKeys)
  (hmatch : fk.matchesSide a attrs = true) (hp : c.joinGraph.pathAcross? a b id = .ok p)
include hfk hmatch hp

/-- A path that leads on across the key crosses it first, and from the second side if both
are on the source. -/
theorem leavesBy_of_leadsOn (h : c.joinGraph.LeadsOn a b id) :
    p.source = a ∧ p.firstConstraint? = some id ∧
      (p.LeavesBy (SortedSet.ofList attrs) ↔
        (fk.isSelfJoin = true → fk.second.key = SortedSet.ofList attrs)) := by
  obtain ⟨s, rest, hfound, hs, hsource, hsecond⟩ := starts_of_leadsOn hfk h
  obtain rfl : p = ⟨a, s :: rest⟩ := Except.ok.inj (hp.symm.trans hfound)
  refine ⟨rfl, congrArg some (constraint_of_mem_stepsAcross hs), ?_⟩
  rw [leavesBy_cons, and_iff_right hsource, key_of_source hmatch hs hsource]
  refine forall_congr' fun hself => ?_
  rw [hsecond hself]

theorem leavesBy_iff :
    p.source = a ∧ (p.LeavesBy (SortedSet.ofList attrs) ↔
      c.StartsBy a b id fk (SortedSet.ofList attrs) (·.LeavesBy (SortedSet.ofList attrs))) := by
  by_cases h : c.joinGraph.LeadsOn a b id
  · obtain ⟨hsource, -, hleaves⟩ := leavesBy_of_leadsOn hfk hmatch hp h
    exact ⟨hsource, hleaves.trans (startsBy_of_leadsOn h).symm⟩
  · obtain ⟨-, far, way, after, hfar, hway, hne, rfl, rfl⟩ :=
      starts_of_not_leadsOn hfk (involves_of_matchesSide hmatch) hp h
    refine ⟨rfl, ?_⟩
    rw [startsBy_of_not_leadsOn h hfar hway]
    obtain ⟨s, rest, hsteps⟩ := List.exists_cons_of_ne_nil hne
    simp [JoinPath.LeavesBy, hsteps]

theorem leavesAcross_iff :
    p.LeavesBy (SortedSet.ofList attrs) ∧ p.firstConstraint? = some id ↔
      c.StartsBy a b id fk (SortedSet.ofList attrs) (·.firstConstraint? = some id) := by
  by_cases h : c.joinGraph.LeadsOn a b id
  · obtain ⟨-, hfirst, hleaves⟩ := leavesBy_of_leadsOn hfk hmatch hp h
    rw [startsBy_of_leadsOn h, and_iff_left hfirst, hleaves]
  · obtain ⟨hself, far, way, after, hfar, hway, hne, rfl, rfl⟩ :=
      starts_of_not_leadsOn hfk (involves_of_matchesSide hmatch) hp h
    rw [startsBy_of_not_leadsOn h hfar hway]
    obtain ⟨s, rest, hsteps⟩ := List.exists_cons_of_ne_nil hne
    have hroute := (JoinGraph.route_of_shortestPath? hway).2
    rw [hsteps] at hroute
    have hsame : way.firstConstraint? = some s.constraint := by
      simp [JoinPath.firstConstraint?, JoinPath.signature, hsteps]
    rw [hsame, hsteps, List.cons_append, leavesBy_cons]
    constructor
    · exact fun h => h.2
    · intro hid
      obtain ⟨hmem, hsource⟩ := JoinGraph.mem_leaving.mp hroute.tail.1
      have hs := mem_stepsAcross_of_mem_steps hfk hmem (Option.some.inj hid)
      refine ⟨⟨hsource, (key_of_source hmatch hs hsource).mpr fun h => ?_⟩, hid⟩
      rw [hself] at h
      cases h

end Catalog

/-! ## Nestings and references -/

namespace MarkNest

variable {c : Catalog} {inner outer : NestEnd} {nest : MarkNest}

theorem exists_of_firstAlong {ids : List ConstraintId}
    (h : firstAlong c inner outer ids = .ok (some nest)) :
    ∃ id ∈ ids, nest.constraint = some id ∧
      c.pathAcross inner.table outer.table id = .ok nest.path := by
  induction ids with
  | nil => cases h
  | cons id rest ih =>
    simp only [firstAlong] at h
    split at h
    case h_1 path hpath =>
      cases h
      exact ⟨id, by simp, rfl, hpath⟩
    case h_2 =>
      obtain ⟨id', hid', hfound⟩ := ih h
      exact ⟨id', List.mem_cons_of_mem _ hid', hfound⟩
    case h_3 => cases h

/-- A nesting by attributes goes across a foreign key that has them on the inner table's
side. -/
theorem byAttributes_eq_ok {attrs : List String}
    (h : byAttributes c inner outer attrs = .ok nest) :
    ∃ id fk, (id, fk) ∈ c.foreignKeys ∧ fk.matchesSide inner.table attrs = true ∧
      nest.constraint = some id ∧
      c.joinGraph.pathAcross? inner.table outer.table id = .ok nest.path := by
  simp only [byAttributes] at h
  split at h
  case h_1 => cases h
  case h_2 hfirst =>
    cases h
    obtain ⟨id, hid, hconstraint, hpath⟩ := exists_of_firstAlong hfirst
    simp only [List.mem_map, List.mem_filter, Prod.exists] at hid
    obtain ⟨id, fk, ⟨⟨hfk, hmatch⟩, -⟩, rfl⟩ := hid
    exact ⟨id, fk, hfk, hmatch, hconstraint, Catalog.pathAcross_eq_ok hpath⟩
  case h_3 => split at h <;> cases h

end MarkNest

theorem Reference.pathTo_eq_ok_of_searchKey {c : Catalog} {a b : String} {r : ForeignRef}
    {key : List String} {hit : JoinPath × List Warning} (hplain : r.aggregate = none)
    (hkey : r.searchKey = some key) (h : pathTo c a b r = .ok hit) :
    ∃ id fk, (id, fk) ∈ c.foreignKeys ∧ fk.matchesSide a key = true ∧
      c.joinGraph.pathAcross? a b id = .ok hit.1 := by
  rw [pathTo_of_searchKey hkey, hplain] at h
  obtain ⟨path, hfirst, rfl⟩ := Except.map_eq_ok.mp h
  obtain ⟨id, hid, hpath⟩ := exists_of_firstAcross hfirst
  obtain ⟨fk, hfk, hmatch⟩ := mem_candidates.mp hid
  obtain ⟨-, hforth | ⟨hfan, -⟩⟩ := pathAcross_eq_ok hpath
  · exact ⟨id, fk, hfk, hmatch, hforth⟩
  · cases hfan

/-- A nesting by attributes leaves the inner table by them, across its constraint, exactly
if the key leads on from there or the way to its other end starts across it; a reference
with a search key that is no summary leaves its table by the key exactly if the key leads
on or the way to its other end leaves by the same attributes. If both sides of the key are
on the table, the second one has to be the one that was named. -/
theorem search_keys_leave_iff (c : Catalog) :
    (∀ inner outer attrs nest, MarkNest.byAttributes c inner outer attrs = .ok nest →
      ∃ id fk, (id, fk) ∈ c.foreignKeys ∧ fk.matchesSide inner.table attrs = true ∧
        nest.constraint = some id ∧ nest.path.source = inner.table ∧
        (nest.path.LeavesBy (SortedSet.ofList attrs) ∧
            nest.path.firstConstraint? = nest.constraint ↔
          c.StartsBy inner.table outer.table id fk (SortedSet.ofList attrs)
            (·.firstConstraint? = some id))) ∧
      ∀ a b r key hit, r.aggregate = none → r.searchKey = some key →
        Reference.pathTo c a b r = .ok hit →
        ∃ id fk, (id, fk) ∈ c.foreignKeys ∧ fk.matchesSide a key = true ∧ hit.1.source = a ∧
          (hit.1.LeavesBy (SortedSet.ofList key) ↔
            c.StartsBy a b id fk (SortedSet.ofList key) (·.LeavesBy (SortedSet.ofList key))) := by
  constructor
  · intro inner outer attrs nest h
    obtain ⟨id, fk, hfk, hmatch, hconstraint, hpath⟩ := MarkNest.byAttributes_eq_ok h
    refine ⟨id, fk, hfk, hmatch, hconstraint, (Catalog.leavesBy_iff hfk hmatch hpath).1, ?_⟩
    rw [hconstraint]
    exact Catalog.leavesAcross_iff hfk hmatch hpath
  · intro a b r key hit hplain hkey h
    obtain ⟨id, fk, hfk, hmatch, hpath⟩ := Reference.pathTo_eq_ok_of_searchKey hplain hkey h
    exact ⟨id, fk, hfk, hmatch, Catalog.leavesBy_iff hfk hmatch hpath⟩

/-- The identity of the district of the shop of a sale. -/
def districtByShop : ForeignRef where
  column := some "id"
  aggregate := none
  target := .table "districts"
  searchKey := some ["shop"]
  via := none
  transform := none

/-- Sales are joined to districts by their shop, which is on the way to the districts. -/
theorem search_keys_leave_iff_trade :
    (∃ nest, MarkNest.byAttributes (Catalog.reached Catalog.tradeCalls) ⟨⟨1⟩, "sales"⟩
        ⟨⟨0⟩, "districts"⟩ ["shop"] = .ok nest ∧
      nest.path.LeavesBy (SortedSet.ofList ["shop"]) ∧
      nest.path.firstConstraint? = nest.constraint) ∧
    ∃ hit, Reference.pathTo (Catalog.reached Catalog.tradeCalls) "sales" "districts"
        districtByShop = .ok hit ∧ hit.1.LeavesBy (SortedSet.ofList ["shop"]) := by
  have hnest : MarkNest.byAttributes (Catalog.reached Catalog.tradeCalls) ⟨⟨1⟩, "sales"⟩
      ⟨⟨0⟩, "districts"⟩ ["shop"] = .ok ⟨some ⟨5⟩, Catalog.tradeByShop, ⟨1⟩, ⟨0⟩⟩ := by
    decide +kernel
  have hhit : Reference.pathTo (Catalog.reached Catalog.tradeCalls) "sales" "districts"
      districtByShop = .ok (Catalog.tradeByShop, []) := by decide +kernel
  have hkeys : ∀ k ∈ (Catalog.reached Catalog.tradeCalls).foreignKeys,
      k.2.matchesSide "sales" ["shop"] = true → k.1 = ⟨5⟩ ∧ k.2.isSelfJoin = false := by
    decide +kernel
  have hleads : (Catalog.reached Catalog.tradeCalls).joinGraph.LeadsOn "sales" "districts" ⟨5⟩ :=
    ⟨⟨⟨5⟩, ⟨"sales", ["shop"]⟩, ⟨"shops", ["id"]⟩⟩, by decide +kernel, rfl,
      [⟨⟨2⟩, ⟨"shops", ["district"]⟩, ⟨"districts", ["id"]⟩⟩],
      ⟨by decide +kernel, ⟨rfl, rfl⟩, by decide⟩, by decide⟩
  obtain ⟨hnestings, hreferences⟩ := search_keys_leave_iff (Catalog.reached Catalog.tradeCalls)
  constructor
  · obtain ⟨id, fk, hfk, hmatch, -, -, hleaves⟩ := hnestings _ _ _ _ hnest
    obtain ⟨rfl, hself⟩ := hkeys _ hfk hmatch
    exact ⟨_, hnest, hleaves.mpr (.inl ⟨hleads, fun h => by rw [hself] at h; cases h⟩)⟩
  · obtain ⟨id, fk, hfk, hmatch, -, hleaves⟩ := hreferences _ _ _ _ _ rfl rfl hhit
    obtain ⟨rfl, hself⟩ := hkeys _ hfk hmatch
    exact ⟨_, hhit, hleaves.mpr (.inl ⟨hleads, fun h => by rw [hself] at h; cases h⟩)⟩

/-- Every stop is the next one of at most one other. -/
def stopCalls : List Catalog.Call :=
  [.addTable (Table.ofSchema "stops" ⟨[⟨"next", .numeric⟩], by decide⟩),
   .addConstraint none (.unique "stops" (SortedSet.ofList ["next"])),
   .addForeignKey "stops" ["next"] "stops" ["id"] none]

/-- The step from the stop that is the next one of another to that other. -/
def fromNextStop : JoinStep := ⟨⟨1⟩, ⟨"stops", ["id"]⟩, ⟨"stops", ["next"]⟩⟩

/-- The key can be crossed both ways, and a join by the next stop crosses it the wrong
way: a stop is joined to the one before it. -/
theorem next_stop_left_by_identity :
    ¬ ∀ nest, MarkNest.byAttributes (Catalog.reached stopCalls) ⟨⟨1⟩, "stops"⟩ ⟨⟨0⟩, "stops"⟩
        ["next"] = .ok nest →
      nest.path.LeavesBy (SortedSet.ofList ["next"]) ∧
        nest.path.firstConstraint? = nest.constraint := by
  intro h
  have hacross : (Catalog.reached stopCalls).joinGraph.steps.filter (·.constraint == ⟨1⟩) =
      [fromNextStop, fromNextStop.reverse] := by decide +kernel
  have happroaches : (Catalog.reached stopCalls).joinGraph.approaches "stops" ⟨1⟩ =
      [⟨"stops", [fromNextStop]⟩, ⟨"stops", [fromNextStop.reverse]⟩] := by
    rw [JoinGraph.approaches_of_leaving (by rw [hacross]; decide), hacross]
    rfl
  have hpath : (Catalog.reached stopCalls).pathAcross "stops" "stops" ⟨1⟩ =
      .ok ⟨"stops", [fromNextStop]⟩ := by
    have hmay : (Catalog.reached stopCalls).MayCross "stops" "stops" ⟨1⟩ :=
      ⟨by decide +kernel, ⟨⟨"stops", ["next"]⟩, ⟨"stops", ["id"]⟩, .oneOne⟩, by decide +kernel⟩
    rw [hmay.pathAcross, JoinGraph.pathAcross?, happroaches]
    decide +kernel
  have hkeys : ((Catalog.reached stopCalls).foreignKeys.filter fun k =>
      k.2.matchesSide "stops" ["next"]) =
        [(⟨1⟩, ⟨⟨"stops", ["next"]⟩, ⟨"stops", ["id"]⟩, .oneOne⟩)] := by decide +kernel
  have hfound : MarkNest.byAttributes (Catalog.reached stopCalls) ⟨⟨1⟩, "stops"⟩ ⟨⟨0⟩, "stops"⟩
      ["next"] = .ok ⟨some ⟨1⟩, ⟨"stops", [fromNextStop]⟩, ⟨1⟩, ⟨0⟩⟩ := by
    simp [MarkNest.byAttributes, hkeys, MarkNest.firstAlong, hpath]
  obtain ⟨hleaves, -⟩ := h _ hfound
  have hkey := (Catalog.leavesBy_cons.mp hleaves).2
  exact absurd hkey (by decide)

end KeyChart
