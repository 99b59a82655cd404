import KeyChart.Proofs.Catalog.Searches
import KeyChart.Proofs.JoinGraph.Complete

/-!
# The shortest paths

The rounds of a search for shortest paths go through the routes from a table level by
level: the level of a number holds every route with so many steps. Steps that leave a
table stand in the order of their constraints, so each level stands in the order of the
words that the constraints of its routes spell. The first level that reaches the
destination is what the search returns.
-/

namespace KeyChart

/-- Words of constraints in the order of a dictionary. -/
def Earlier (ids ids' : List ConstraintId) : Prop := List.Lex (·.index < ·.index) ids ids'

theorem earlier_append_left (ids : List ConstraintId) {tail tail' : List ConstraintId}
    (h : Earlier tail tail') : Earlier (ids ++ tail) (ids ++ tail') := by
  induction ids with
  | nil => exact h
  | cons id rest ih => exact .cons ih

/-- Of words with as many letters, what follows does not change the order. -/
theorem Earlier.append_right {ids ids' : List ConstraintId} (h : Earlier ids ids')
    (hlen : ids.length = ids'.length) (tail tail' : List ConstraintId) :
    Earlier (ids ++ tail) (ids' ++ tail') := by
  induction h with
  | nil => simp at hlen
  | rel hlt => exact .rel hlt
  | cons _ ih => exact .cons (ih (by simpa using hlen))

theorem Earlier.ne {ids ids' : List ConstraintId} (h : Earlier ids ids') : ids ≠ ids' := by
  induction h with
  | nil => simp
  | rel hlt =>
    rintro heq
    rw [(List.cons.inj heq).1] at hlt
    exact absurd hlt (Nat.lt_irrefl _)
  | cons _ ih => exact fun heq => ih (List.cons.inj heq).2

namespace JoinGraph

variable {g : JoinGraph} {a b : String} {l l' : List JoinStep}

/-! ## Walks -/

/-- Steps of the graph that lead from one table to another. -/
structure Walk (g : JoinGraph) (a : String) (steps : List JoinStep) (b : String) : Prop where
  mem : ∀ s ∈ steps, s ∈ g.steps
  leads : Leads a steps b

/-- A walk that has no more steps than any other between its ends. -/
structure Direct (g : JoinGraph) (a : String) (steps : List JoinStep) (b : String) : Prop
    extends g.Walk a steps b where
  le : ∀ l, g.Walk a l b → steps.length ≤ l.length

theorem Route.walk (h : g.Route a l b) : g.Walk a l b := ⟨h.mem, h.leads⟩

theorem Walk.cons {s : JoinStep} (hs : s ∈ g.steps) (h : g.Walk s.target.table l b) :
    g.Walk s.source.table (s :: l) b where
  mem := by
    intro s' hs'
    rcases List.mem_cons.mp hs' with rfl | hs'
    · exact hs
    · exact h.mem s' hs'
  leads := ⟨rfl, h.leads⟩

theorem Walk.tail {s : JoinStep} (h : g.Walk a (s :: l) b) :
    s ∈ g.steps ∧ s.source.table = a ∧ g.Walk s.target.table l b :=
  ⟨h.mem s (by simp), h.leads.1, fun s' hs' => h.mem s' (by simp [hs']), h.leads.2⟩

/-- A route can be taken up at each table that it visits. -/
theorem Route.from_visited {t : String} (h : g.Route a l b) (ht : t ∈ a :: entered l) :
    ∃ l', g.Route t l' b ∧ l'.length ≤ l.length := by
  induction l generalizing a with
  | nil =>
    obtain rfl : t = a := by simpa [entered] using ht
    exact ⟨[], h, Nat.le_refl _⟩
  | cons s rest ih =>
    rcases List.mem_cons.mp ht with rfl | ht
    · exact ⟨s :: rest, h, Nat.le_refl _⟩
    · obtain ⟨l', hl', hlen⟩ := ih h.tail.2 ht
      exact ⟨l', hl', Nat.le_succ_of_le hlen⟩

/-- Wherever a walk leads, a route leads with no more steps. -/
theorem Walk.exists_route (h : g.Walk a l b) : ∃ l', g.Route a l' b ∧ l'.length ≤ l.length := by
  induction l generalizing a with
  | nil =>
    obtain rfl : a = b := h.leads
    exact ⟨[], Route.stay g a, Nat.le_refl _⟩
  | cons s rest ih =>
    obtain ⟨hs, rfl, hrest⟩ := h.tail
    obtain ⟨l', hl', hlen⟩ := ih hrest
    by_cases hback : s.source.table ∈ s.target.table :: entered l'
    · -- The rest comes back to where the step started, so that is where the route starts.
      obtain ⟨l'', hl'', hlen'⟩ := hl'.from_visited hback
      exact ⟨l'', hl'', Nat.le_succ_of_le (Nat.le_trans hlen' hlen)⟩
    · exact ⟨s :: l', hl'.cons hs hback, Nat.succ_le_succ hlen⟩

/-- A walk with as few steps as possible enters no table twice. -/
theorem Direct.route (h : g.Direct a l b) : g.Route a l b := by
  induction l generalizing a with
  | nil =>
    obtain rfl : a = b := h.leads
    exact Route.stay g a
  | cons s rest ih =>
    obtain ⟨hs, rfl, hrest⟩ := h.toWalk.tail
    have hroute : g.Route s.target.table rest b := by
      refine ih ⟨hrest, fun l' hl' => ?_⟩
      have hle := h.le _ (hl'.cons hs)
      simpa using hle
    refine hroute.cons hs fun hback => ?_
    obtain ⟨l', hl', hlen⟩ := hroute.from_visited hback
    have hle := h.le l' hl'.walk
    simp only [List.length_cons] at hle
    omega

/-! ## The order of steps -/

/-- The steps from a table to others stand in the order of their constraints, and no
two of them cross one constraint. -/
def Ordered (g : JoinGraph) : Prop :=
  ∀ t, ((g.leaving t).filter (·.target.table ≠ t)).Pairwise fun s s' =>
    s.constraint.index < s'.constraint.index

theorem Ordered.pairwise_leaving (hg : g.Ordered) {keep : JoinStep → Bool}
    (hkeep : ∀ s, keep s = true → s.target.table ≠ a) :
    ((g.leaving a).filter keep).Pairwise fun s s' =>
      s.constraint.index < s'.constraint.index := by
  have hfilter : (g.leaving a).filter keep =
      ((g.leaving a).filter (·.target.table ≠ a)).filter keep := by
    rw [List.filter_filter]
    refine List.filter_congr ?_
    intro s _
    by_cases hs : keep s = true
    · simp [hs, hkeep s hs]
    · simp [hs]
  rw [hfilter]
  exact (hg a).filter _

/-! ## Levels -/

/-- The routes with a number of steps from a table. -/
def level (g : JoinGraph) (a : String) : Nat → List JoinPath
  | 0 => [JoinPath.stay a]
  | n + 1 => (g.level a n).flatMap g.extensions

theorem Route.front {s : JoinStep} (h : g.Route a (l ++ [s]) b) :
    g.Route a l s.source.table ∧ s ∈ g.steps ∧ s.target.table ∉ a :: entered l ∧
      s.target.table = b := by
  obtain ⟨m, hl, hs, hb⟩ := leads_append.mp h.leads
  have hnodup := h.nodup
  rw [entered, List.map_append, ← List.cons_append] at hnodup
  obtain ⟨hfront, -, hapart⟩ := List.nodup_append.mp hnodup
  refine ⟨⟨fun s' hs' => h.mem s' (by simp [hs']), hs ▸ hl, hfront⟩, h.mem s (by simp), ?_, hb⟩
  exact fun hin => hapart _ hin _ (by simp) rfl

theorem mem_level {n : Nat} {p : JoinPath} :
    p ∈ g.level a n ↔
      p.source = a ∧ g.Route a p.steps p.destination ∧ p.steps.length = n := by
  induction n generalizing p with
  | zero =>
    constructor
    · intro hp
      rw [List.mem_singleton.mp hp]
      exact ⟨rfl, Route.stay g a, rfl⟩
    · rintro ⟨rfl, -, hlen⟩
      obtain ⟨source, steps⟩ := p
      obtain rfl := List.length_eq_zero_iff.mp hlen
      simp [level, JoinPath.stay]
  | succ n ih =>
    simp only [level, List.mem_flatMap]
    constructor
    · rintro ⟨q, hq, hp⟩
      obtain ⟨rfl, hroute, hlen⟩ := ih.mp hq
      obtain ⟨hsource, hroute⟩ := route_of_mem_extensions hroute hp
      obtain ⟨s, -, -, rfl⟩ := mem_extensions.mp hp
      exact ⟨hsource, hroute, by simp [JoinPath.extend, hlen]⟩
    · rintro ⟨rfl, hroute, hlen⟩
      obtain ⟨source, steps⟩ := p
      rcases List.eq_nil_or_concat steps with rfl | ⟨front, s, rfl⟩
      · simp at hlen
      · rw [List.concat_eq_append] at hroute hlen ⊢
        obtain ⟨hfront, hs, hnew, -⟩ := hroute.front
        have hdest : (JoinPath.mk source front).destination = s.source.table :=
          hfront.leads.destination_eq
        refine ⟨⟨source, front⟩, ih.mpr ⟨rfl, hdest ▸ hfront, by simpa using hlen⟩, ?_⟩
        exact mem_extensions.mpr ⟨s, mem_leaving.mpr ⟨hs, hdest.symm⟩, hnew, rfl⟩

theorem signature_extend (p : JoinPath) (s : JoinStep) :
    (p.extend s).signature = p.signature ++ [s.constraint] := by
  simp [JoinPath.signature, JoinPath.extend]

/-- The ways to lengthen a path stand in the order of their words. -/
theorem Ordered.extensions (hg : g.Ordered) (p : JoinPath) :
    (g.extensions p).Pairwise fun q q' => Earlier q.signature q'.signature := by
  unfold JoinGraph.extensions
  refine List.pairwise_map.mpr ((hg.pairwise_leaving ?_).imp ?_)
  · intro s hs hstay
    have hnew : s.target.table ∉ p.tables := by simpa using hs
    exact hnew (hstay ▸ destination_mem_tables p)
  · intro s s' hlt
    rw [signature_extend, signature_extend]
    exact earlier_append_left _ (.rel hlt)

/-- Each level stands in the order of its words. -/
theorem Ordered.level (hg : g.Ordered) (a : String) (n : Nat) :
    (g.level a n).Pairwise fun q q' => Earlier q.signature q'.signature := by
  induction n with
  | zero => exact List.pairwise_singleton _ _
  | succ n ih =>
    refine List.pairwise_flatMap.mpr ⟨fun p _ => hg.extensions p, ih.imp_of_mem ?_⟩
    intro p p' hp hp' hearlier q hq q' hq'
    -- Both paths have as many steps, so the one more step of each does not matter.
    obtain ⟨-, -, hlen⟩ := mem_level.mp hp
    obtain ⟨-, -, hlen'⟩ := mem_level.mp hp'
    obtain ⟨s, -, -, rfl⟩ := mem_extensions.mp hq
    obtain ⟨s', -, -, rfl⟩ := mem_extensions.mp hq'
    rw [signature_extend, signature_extend]
    exact hearlier.append_right (by simp [JoinPath.signature, hlen, hlen']) _ _

/-! ## Rounds -/

theorem distinctSignatures_eq_self {ps : List JoinPath}
    (h : ps.Pairwise fun p q => p.signature ≠ q.signature) : distinctSignatures ps = ps := by
  induction ps with
  | nil => rfl
  | cons p rest ih =>
    obtain ⟨hp, hrest⟩ := List.pairwise_cons.mp h
    have hkept : rest.filter (·.signature ≠ p.signature) = rest := by
      refine List.filter_eq_self.mpr ?_
      intro q hq
      simpa using (hp q hq).symm
    rw [distinctSignatures, ih hrest, hkept]

theorem reach_level_succ (fuel n : Nat) :
    g.reach b (fuel + 1) (g.level a n) =
      if ((g.level a (n + 1)).filter (·.destination == b)).isEmpty then
        g.reach b fuel (g.level a (n + 1))
      else distinctSignatures ((g.level a (n + 1)).filter (·.destination == b)) := rfl

/-- From a level on, the rounds return the paths to the destination in the next level
that has one. -/
theorem exists_level_of_reach {fuel n : Nat} (h : g.reach b fuel (g.level a n) ≠ []) :
    ∃ m, n < m ∧ (∀ k, n < k → k < m → ∀ p ∈ g.level a k, p.destination ≠ b) ∧
      g.reach b fuel (g.level a n) =
        distinctSignatures ((g.level a m).filter (·.destination == b)) := by
  induction fuel generalizing n with
  | zero => exact absurd rfl h
  | succ fuel ih =>
    rw [reach_level_succ] at h ⊢
    split
    case isFalse => exact ⟨n + 1, by omega, fun k hk hk' => by omega, rfl⟩
    case isTrue hnone =>
      rw [if_pos hnone] at h
      obtain ⟨m, hm, hbefore, heq⟩ := ih h
      refine ⟨m, by omega, ?_, heq⟩
      intro k hk hkm p hp
      rcases Nat.lt_or_eq_of_le (Nat.succ_le_of_lt hk) with hlt | rfl
      · exact hbefore k hlt hkm p hp
      · have hnil := List.filter_eq_nil_iff.mp (List.isEmpty_iff.mp hnone) p hp
        simpa using hnil

/-- The shortest paths are the paths to the destination in the first level that has
one. -/
theorem shortestPaths_eq_level (hg : g.Ordered) (h : g.shortestPaths a b ≠ []) :
    ∃ m, (∀ k < m, ∀ p ∈ g.level a k, p.destination ≠ b) ∧
      g.shortestPaths a b = (g.level a m).filter (·.destination == b) := by
  have hdistinct : ∀ m, distinctSignatures ((g.level a m).filter (·.destination == b)) =
      (g.level a m).filter (·.destination == b) := by
    intro m
    exact distinctSignatures_eq_self (((hg.level a m).filter _).imp fun h => h.ne)
  unfold shortestPaths at h ⊢
  split
  case isTrue hab =>
    refine ⟨0, by simp, ?_⟩
    rw [level, List.filter_cons_of_pos (by simp [JoinPath.destination, JoinPath.stay, hab]),
      List.filter_nil]
  case isFalse hab =>
    rw [if_neg hab] at h
    obtain ⟨m, -, hbefore, heq⟩ := exists_level_of_reach (n := 0) h
    refine ⟨m, ?_, heq.trans (hdistinct m)⟩
    intro k hk p hp
    rcases Nat.eq_zero_or_pos k with rfl | hpos
    · rw [List.mem_singleton.mp hp]
      exact hab
    · exact hbefore k hpos hk p hp

/-! ## Which paths are found -/

/-- The shortest paths are the walks that no other is shorter than. -/
theorem mem_shortestPaths (hg : g.Ordered) {p : JoinPath} :
    p ∈ g.shortestPaths a b ↔ p.source = a ∧ g.Direct a p.steps b := by
  constructor
  · intro hp
    obtain ⟨m, hbefore, heq⟩ := shortestPaths_eq_level hg (List.ne_nil_of_mem hp)
    obtain ⟨hsource, hroute⟩ := route_of_mem_shortestPaths hp
    rw [heq] at hp
    obtain ⟨-, -, hlen⟩ := mem_level.mp (List.mem_filter.mp hp).1
    refine ⟨hsource, hroute.walk, fun l hl => ?_⟩
    obtain ⟨l', hl', hle⟩ := hl.exists_route
    by_contra hshort
    have hdest := hl'.leads.destination_eq
    exact hbefore l'.length (by omega) ⟨a, l'⟩
      (mem_level.mpr ⟨rfl, hdest.symm ▸ hl', rfl⟩) hdest
  · rintro ⟨rfl, hdirect⟩
    have hroute := hdirect.route
    have hne := shortestPaths_ne_nil_iff.mpr ⟨_, hroute⟩
    obtain ⟨m, hbefore, heq⟩ := shortestPaths_eq_level hg hne
    have hdest := hroute.destination_eq
    have hmem : p ∈ g.level p.source p.steps.length :=
      mem_level.mpr ⟨rfl, hdest.symm ▸ hroute, rfl⟩
    -- The path is no longer than those of the level, and no level before has one.
    obtain ⟨q, hq⟩ := List.exists_mem_of_ne_nil _ hne
    obtain ⟨-, hqroute⟩ := route_of_mem_shortestPaths hq
    rw [heq] at hq ⊢
    obtain ⟨-, -, hqlen⟩ := mem_level.mp (List.mem_filter.mp hq).1
    have hle := hdirect.le q.steps hqroute.walk
    have hlen : p.steps.length = m := by
      by_contra hne
      exact hbefore _ (by omega) p hmem hdest
    exact List.mem_filter.mpr ⟨hlen ▸ hmem, by simp [hdest]⟩

theorem pairwise_shortestPaths (hg : g.Ordered) (a b : String) :
    (g.shortestPaths a b).Pairwise fun p q => Earlier p.signature q.signature := by
  by_cases hnil : g.shortestPaths a b = []
  · rw [hnil]
    exact List.Pairwise.nil
  · obtain ⟨m, -, heq⟩ := shortestPaths_eq_level hg hnil
    rw [heq]
    exact (hg.level a m).filter _

end JoinGraph

namespace Catalog

theorem foreignKeys_sorted (c : Catalog) :
    c.foreignKeys.Pairwise fun k k' => k.1.index < k'.1.index := by
  unfold foreignKeys
  refine List.pairwise_filterMap.mpr (c.constraints.sorted.imp ?_)
  intro e e' hlt k hk k' hk'
  obtain ⟨fk, -, rfl⟩ := Option.map_eq_some_iff.mp hk
  obtain ⟨fk', -, rfl⟩ := Option.map_eq_some_iff.mp hk'
  exact Nat.compare_eq_lt.mp hlt

/-- One foreign key allows at most one step from a table to another. -/
theorem pairwise_stepsAcross (id : ConstraintId) (fk : ForeignKey) (t : String) :
    (((JoinGraph.stepsAcross id fk).filter (·.source.table == t)).filter
      (·.target.table ≠ t)).Pairwise fun s s' => s.constraint.index < s'.constraint.index := by
  rw [List.filter_filter]
  cases hcard : fk.cardinality with
  | oneMany =>
    simp only [JoinGraph.stepsAcross, hcard]
    exact (List.pairwise_singleton _ _).filter _
  | manyMany => simp [JoinGraph.stepsAcross, hcard]
  | oneOne =>
    simp only [JoinGraph.stepsAcross, hcard, JoinStep.reverse]
    by_cases hleaves : fk.second.table = t
    · rw [List.filter_cons, List.filter_cons_of_neg (by simp [hleaves])]
      split <;> simp
    · rw [List.filter_cons_of_neg (by simp [hleaves])]
      exact (List.pairwise_singleton _ _).filter _

theorem joinGraph_ordered (c : Catalog) : c.joinGraph.Ordered := by
  intro t
  rw [JoinGraph.leaving, joinGraph, JoinGraph.ofForeignKeys, List.filter_flatMap,
    List.filter_flatMap]
  refine List.pairwise_flatMap.mpr ⟨fun k _ => pairwise_stepsAcross k.1 k.2 t,
    c.foreignKeys_sorted.imp ?_⟩
  intro k k' hlt s hs s' hs'
  rw [constraint_of_mem_stepsAcross (List.mem_filter.mp (List.mem_filter.mp hs).1).1,
    constraint_of_mem_stepsAcross (List.mem_filter.mp (List.mem_filter.mp hs').1).1]
  exact hlt

/-- A search for shortest paths lists all walks between two tables that no other is
shorter than, in the order of their words, and nothing else. -/
theorem shortest_paths_exact (c : Catalog) (a b : String) :
    (∀ p, p ∈ c.joinGraph.shortestPaths a b ↔ p.source = a ∧ c.joinGraph.Direct a p.steps b) ∧
      (c.joinGraph.shortestPaths a b).Pairwise (fun p q => Earlier p.signature q.signature) ∧
      ((c.joinGraph.shortestPaths a b).map JoinPath.signature).Nodup ∧
      (∀ p ∈ c.joinGraph.shortestPaths a b, p.tables.Nodup) ∧
      c.joinGraph.shortestPaths a a = [JoinPath.stay a] ∧
      (c.joinGraph.shortestPaths a b = [] ↔ ¬∃ l, c.joinGraph.Walk a l b) ∧
      c.joinGraph.shortestPath? a b = (c.joinGraph.shortestPaths a b).head? := by
  have hordered := c.joinGraph_ordered
  have hpairwise := JoinGraph.pairwise_shortestPaths hordered a b
  refine ⟨fun p => JoinGraph.mem_shortestPaths hordered, hpairwise, ?_, ?_, ?_, ?_, rfl⟩
  · exact List.pairwise_map.mpr (hpairwise.imp fun h => h.ne)
  · intro p hp
    obtain ⟨rfl, hroute⟩ := JoinGraph.route_of_mem_shortestPaths hp
    exact hroute.nodup
  · simp [JoinGraph.shortestPaths]
  · rw [← not_iff_not, not_not, ← ne_eq, JoinGraph.shortestPaths_ne_nil_iff]
    constructor
    · rintro ⟨l, hroute⟩
      exact ⟨l, hroute.walk⟩
    · rintro ⟨l, hwalk⟩
      obtain ⟨l', hroute, -⟩ := hwalk.exists_route
      exact ⟨l', hroute⟩

/-- No columns but the identity. -/
def noColumns : Schema := ⟨[], by decide⟩

/-- One column, for the identity of a district. -/
def districtColumn : Schema := ⟨[⟨"district", .numeric⟩], by decide⟩

/-- Sales are joined to districts by their rep or by their shop. -/
def tradeCalls : List Call :=
  [.addTable (Table.ofSchema "districts" noColumns),
   .addTable (Table.ofSchema "teams" noColumns),
   .addTable (Table.ofSchema "shops" districtColumn),
   .addTable (Table.ofSchema "reps"
     ⟨[⟨"team", .numeric⟩, ⟨"shop", .numeric⟩, ⟨"district", .numeric⟩], by decide⟩),
   .addTable (Table.ofSchema "sales" ⟨[⟨"rep", .numeric⟩, ⟨"shop", .numeric⟩], by decide⟩),
   .addForeignKey "reps" ["team"] "teams" ["id"] none,
   .addForeignKey "reps" ["shop"] "shops" ["id"] none,
   .addForeignKey "shops" ["district"] "districts" ["id"] none,
   .addForeignKey "reps" ["district"] "districts" ["id"] none,
   .addForeignKey "sales" ["rep"] "reps" ["id"] none,
   .addForeignKey "sales" ["shop"] "shops" ["id"] none]

/-- The district of the rep of a sale. -/
def tradeByRep : JoinPath where
  source := "sales"
  steps :=
    [⟨⟨4⟩, ⟨"sales", ["rep"]⟩, ⟨"reps", ["id"]⟩⟩,
     ⟨⟨3⟩, ⟨"reps", ["district"]⟩, ⟨"districts", ["id"]⟩⟩]

/-- The district of the shop of a sale. -/
def tradeByShop : JoinPath where
  source := "sales"
  steps :=
    [⟨⟨5⟩, ⟨"sales", ["shop"]⟩, ⟨"shops", ["id"]⟩⟩,
     ⟨⟨2⟩, ⟨"shops", ["district"]⟩, ⟨"districts", ["id"]⟩⟩]

/-- Both ways are found, the one by the rep first. The one by the shop of the rep is
longer. -/
theorem shortest_paths_exact_trade :
    (reached tradeCalls).joinGraph.shortestPaths "sales" "districts" = [tradeByRep, tradeByShop] ∧
      (reached tradeCalls).joinGraph.Direct "sales" tradeByRep.steps "districts" ∧
      tradeByShop.tables.Nodup := by
  have hfound : (reached tradeCalls).joinGraph.shortestPaths "sales" "districts" =
      [tradeByRep, tradeByShop] := by decide +kernel
  obtain ⟨hmem, -, -, hnodup, -⟩ := shortest_paths_exact (reached tradeCalls) "sales" "districts"
  rw [hfound] at hmem hnodup
  exact ⟨hfound, ((hmem tradeByRep).mp (by simp)).2, hnodup tradeByShop (by simp)⟩

end Catalog

end KeyChart
