import KeyChart.Proofs.Schedule.Counting

/-!
# What is ordered and what is left over

Every place of an order is taken by the least of the nodes that could come next: all
that lead to them have a place already. Where no node could come next, those left over
lie on a cycle or behind one, and no node that has a place does. Counting the edges that
still enter a node gives the same order and leaves the same nodes over.
-/

namespace KeyChart.Order

section Edges

variable {α : Type} {edges : List (α × α)} {left : List α} {a : α}

/-- A node lies on a cycle, or a chain of edges leads to it from one that does. -/
def BehindCycle (edges : List (α × α)) (a : α) : Prop :=
  ∃ z, Reaches edges z z ∧ (z = a ∨ Reaches edges z a)

/-- A node could come next: it has no place, and every node that leads to it has one. -/
def Ready (nodes : List α) (edges : List (α × α)) (placed : List α) (a : α) : Prop :=
  a ∈ nodes ∧ a ∉ placed ∧ ∀ b ∈ nodes, (b, a) ∈ edges → b ∈ placed

/-- Of nodes that are each entered from one of them, all are behind a cycle. -/
theorem behindCycle_of_entered (h : ∀ a ∈ left, ∃ b ∈ left, (b, a) ∈ edges) (ha : a ∈ left) :
    BehindCycle edges a := by
  classical
  -- What leads to the node within the list is again entered from such nodes.
  have hentered : ∀ b ∈ left.filter (fun b => b = a ∨ Reaches edges b a),
      ∃ c ∈ left.filter (fun b => b = a ∨ Reaches edges b a), (c, b) ∈ edges := by
    intro b hb
    obtain ⟨hb, hba⟩ := List.mem_filter.mp hb
    obtain ⟨c, hc, hcb⟩ := h b hb
    refine ⟨c, List.mem_filter.mpr ⟨hc, ?_⟩, hcb⟩
    rcases of_decide_eq_true hba with rfl | hba
    · exact decide_eq_true (.inr (.single hcb))
    · exact decide_eq_true (.inr (.head hcb hba))
  have hne : left.filter (fun b => b = a ∨ Reaches edges b a) ≠ [] := by
    apply List.ne_nil_of_mem (a := a)
    simp [ha]
  obtain ⟨z, hz, hcycle⟩ := exists_reaches_self hne hentered
  exact ⟨z, hcycle, of_decide_eq_true (List.mem_filter.mp hz).2⟩

/-- In an order where a node comes behind all from which an edge enters it, none is behind a
cycle. -/
theorem not_behindCycle_of_placed {order : List α} (hnodup : order.Nodup)
    (h : ∀ before b after, order = before ++ b :: after → ∀ a, (a, b) ∈ edges → a ∈ before)
    (ha : a ∈ order) : ¬ BehindCycle edges a := by
  rintro ⟨z, hcycle, hza⟩
  have hz : z ∈ order := by
    rcases hza with rfl | hza
    · exact ha
    · obtain ⟨before, after, rfl⟩ := List.append_of_mem ha
      exact List.mem_append_left _ (mem_before_of_reaches h hza rfl)
  -- What reaches itself would come before itself.
  obtain ⟨before, after, rfl⟩ := List.append_of_mem hz
  have hbefore := mem_before_of_reaches h hcycle rfl
  exact (List.nodup_append.mp hnodup).2.2 z hbefore z (by simp) rfl

end Edges

variable {α κ : Type} [DecidableEq α] {edges : List (α × α)} {left before after : List α} {a b : α}

theorem mem_free_iff_ready : a ∈ free edges left ↔ Ready left edges [] a := by
  rw [mem_free, Ready]
  constructor
  · rintro ⟨ha, hnone⟩
    exact ⟨ha, List.not_mem_nil, fun b hb hba => absurd hb (hnone b hba)⟩
  · rintro ⟨ha, -, hnone⟩
    exact ⟨ha, fun b hba hb => List.not_mem_nil (hnone b hb hba)⟩

/-- It is the same to take a node away and to give it a place. -/
theorem ready_erase (hleft : left.Nodup) :
    Ready (left.erase b) edges before a ↔ Ready left edges (b :: before) a := by
  simp only [Ready, hleft.mem_erase_iff, List.mem_cons, not_or]
  constructor
  · rintro ⟨⟨hne, ha⟩, hbefore, hall⟩
    refine ⟨ha, ⟨hne, hbefore⟩, ?_⟩
    intro p hp hpa
    by_cases hpb : p = b
    · exact .inl hpb
    · exact .inr (hall p ⟨hpb, hp⟩ hpa)
  · rintro ⟨ha, ⟨hne, hbefore⟩, hall⟩
    exact ⟨⟨hne, ha⟩, hbefore, fun p hp hpa => (hall p hp.2 hpa).resolve_left hp.1⟩

variable [Ord α] [Ord κ] {key : α → κ}

/-- What is left over are the nodes without a place, as they were listed. -/
theorem extend_left (hleft : left.Nodup) (fuel : Nat) :
    (extend edges key fuel left).2 = left.filter (· ∉ (extend edges key fuel left).1) := by
  induction fuel generalizing left with
  | zero => simp [extend]
  | succ fuel ih =>
    cases hleast : least? key (free edges left) with
    | none => simp [extend_none hleast]
    | some a =>
      rw [extend_some hleast]
      show (extend edges key fuel (left.erase a)).2 = _
      rw [ih (hleft.erase a)]
      generalize (extend edges key fuel (left.erase a)).1 = order
      rw [hleft.erase_eq_filter, List.filter_filter]
      refine List.filter_congr ?_
      intro b _
      by_cases hb : b = a
      · simp [hb]
      · simp [hb]

variable [Std.TransOrd α] [Std.LawfulEqOrd α] [Std.TransOrd κ]

/-- Every place is taken by the least of the nodes that could come next. -/
theorem extend_next (hleft : left.Nodup) {fuel : Nat}
    (h : (extend edges key fuel left).1 = before ++ a :: after) :
    Ready left edges before a ∧
      ∀ b, Ready left edges before b → b ≠ a → byKey key a b = .lt := by
  induction fuel generalizing left before with
  | zero => simp [extend] at h
  | succ fuel ih =>
    cases hleast : least? key (free edges left) with
    | none => simp [extend_none hleast] at h
    | some x =>
      rw [extend_some hleast] at h
      cases before with
      | nil =>
        obtain ⟨rfl, -⟩ := List.cons.inj h
        obtain ⟨hfree, hless⟩ := least?_eq_some_iff.mp hleast
        exact ⟨mem_free_iff_ready.mp hfree, fun b hb => hless b (mem_free_iff_ready.mpr hb)⟩
      | cons y before =>
        obtain ⟨rfl, hrest⟩ := List.cons.inj h
        -- Behind the first node, the others are placed among what it leaves.
        obtain ⟨hready, hless⟩ := ih (hleft.erase x) hrest
        exact ⟨(ready_erase hleft).mp hready, fun b hb => hless b ((ready_erase hleft).mpr hb)⟩

section Nodes

variable {nodes order : List α} (hnodes : nodes.Nodup)
  (hedges : ∀ e ∈ edges, e.1 ∈ nodes ∧ e.2 ∈ nodes)
include hnodes hedges

/-- Just the nodes that lie on a cycle or behind one are left over. -/
theorem mem_extend_left_iff :
    a ∈ (extend edges key nodes.length nodes).2 ↔ BehindCycle edges a := by
  have hperm := extend_perm edges key nodes.length nodes
  have hnodup := hperm.nodup_iff.mpr hnodes
  constructor
  · exact behindCycle_of_entered (entered_of_left_over edges key (Nat.le_refl _))
  · intro hbehind
    have ha : a ∈ nodes := by
      obtain ⟨z, hcycle, rfl | hza⟩ := hbehind
      · obtain ⟨b, -, hedge⟩ := Relation.TransGen.tail'_iff.mp hcycle
        exact (hedges _ hedge).2
      · obtain ⟨b, -, hedge⟩ := Relation.TransGen.tail'_iff.mp hza
        exact (hedges _ hedge).2
    refine (List.mem_append.mp (hperm.mem_iff.mpr ha)).resolve_left fun hplaced => ?_
    refine not_behindCycle_of_placed (List.nodup_append.mp hnodup).1 ?_ hplaced hbehind
    intro before b after horder p hpb
    exact (extend_next hnodes horder).1.2.2 p (hedges _ hpb).1 hpb

/-- Counting gives the same answer as looking at all edges in every round. -/
theorem countedOrder_eq : countedOrder nodes edges key = topologicalOrder nodes edges key := by
  have hstart : (Tally.start key nodes edges).Counts edges nodes nodes := Tally.counts_start hedges
  have htake := hstart.take_eq hedges hnodes nodes.length
  have hlength := (extend_perm edges key nodes.length nodes).length_eq
  rw [List.length_append] at hlength
  simp only [countedOrder, topologicalOrder, htake]
  by_cases hleft : (extend edges key nodes.length nodes).2 = []
  · rw [hleft, List.length_nil, Nat.add_zero] at hlength
    rw [if_pos hlength, hleft]
    rfl
  · have hpos := List.length_pos_iff.mpr hleft
    rw [if_neg (by omega), if_neg (by simpa using hleft), ← extend_left hnodes]

end Nodes

/-- Nodes have an order exactly if no cycle of edges is among them. It is then an order of
all nodes in which every edge goes forward, and every place is taken by the node of least
key, and of equal keys by the least node, of those that could come next. Otherwise the nodes
on a cycle or behind one are left over, as they were listed. -/
theorem topological_order_exact {nodes : List α} (hnodes : nodes.Nodup)
    (hedges : ∀ e ∈ edges, e.1 ∈ nodes ∧ e.2 ∈ nodes) (key : α → κ) :
    ((∃ order, topologicalOrder nodes edges key = .ok order) ↔ ¬ Cyclic edges) ∧
    (∀ order, topologicalOrder nodes edges key = .ok order →
      order.Perm nodes ∧ (∀ a b, (a, b) ∈ edges → order.idxOf a < order.idxOf b) ∧
      ∀ before a after, order = before ++ a :: after →
        Ready nodes edges before a ∧
          ∀ b, Ready nodes edges before b → b ≠ a → byKey key a b = .lt) ∧
    (∀ left, topologicalOrder nodes edges key = .error left →
      left.Sublist nodes ∧ ∀ a, a ∈ left ↔ BehindCycle edges a) ∧
    countedOrder nodes edges key = topologicalOrder nodes edges key := by
  refine ⟨topologicalOrder_isOk_iff key hedges, ?_, ?_, countedOrder_eq hnodes hedges⟩
  · intro order horder
    obtain ⟨hperm, hforward⟩ := topologicalOrder_eq_ok horder
    have hextend : (extend edges key nodes.length nodes).1 = order := by
      simp only [topologicalOrder] at horder
      split at horder
      · exact Except.ok.inj horder
      · cases horder
    refine ⟨hperm, ?_, ?_⟩
    · intro a b hab
      obtain ⟨ha, hb⟩ := hedges _ hab
      exact hforward.idxOf_lt hab (hperm.mem_iff.mpr ha) (hperm.mem_iff.mpr hb)
    · intro before a after hsplit
      exact extend_next hnodes (hextend.trans hsplit)
  · intro left hleft
    have hextend : (extend edges key nodes.length nodes).2 = left := by
      simp only [topologicalOrder] at hleft
      split at hleft
      · cases hleft
      · exact Except.error.inj hleft
    subst hextend
    refine ⟨?_, fun a => mem_extend_left_iff hnodes hedges⟩
    rw [extend_left hnodes]
    exact List.filter_sublist

/-- The last mark leads to two others, and these lead to the first one. -/
def diamondEdges : List (MarkId × MarkId) :=
  [(⟨3⟩, ⟨1⟩), (⟨3⟩, ⟨2⟩), (⟨1⟩, ⟨0⟩), (⟨2⟩, ⟨0⟩)]

/-- Two marks lead to each other, and one of them to a third one. -/
def circleEdges : List (MarkId × MarkId) := [(⟨1⟩, ⟨2⟩), (⟨2⟩, ⟨1⟩), (⟨2⟩, ⟨3⟩)]

/-- Of the two marks in the middle the lesser one comes first. Behind a circle marks are left
over that do not lie on it. -/
theorem topological_order_exact_diamond :
    topologicalOrder [⟨0⟩, ⟨1⟩, ⟨2⟩, ⟨3⟩] diamondEdges (id : MarkId → MarkId) =
        .ok [⟨3⟩, ⟨1⟩, ⟨2⟩, ⟨0⟩] ∧
      ¬ Cyclic diamondEdges ∧ byKey (id : MarkId → MarkId) ⟨1⟩ ⟨2⟩ = .lt ∧
      topologicalOrder [⟨0⟩, ⟨1⟩, ⟨2⟩, ⟨3⟩] circleEdges (id : MarkId → MarkId) =
        .error [⟨1⟩, ⟨2⟩, ⟨3⟩] ∧
      BehindCycle circleEdges ⟨3⟩ ∧ ¬ BehindCycle circleEdges ⟨0⟩ := by
  let marks : List MarkId := [⟨0⟩, ⟨1⟩, ⟨2⟩, ⟨3⟩]
  have horder : topologicalOrder marks diamondEdges id = .ok [⟨3⟩, ⟨1⟩, ⟨2⟩, ⟨0⟩] := by
    decide +kernel
  have hleft : topologicalOrder marks circleEdges id = .error [⟨1⟩, ⟨2⟩, ⟨3⟩] := by
    decide +kernel
  have hmarks : marks.Nodup := by decide
  have hdiamond : ∀ e ∈ diamondEdges, e.1 ∈ marks ∧ e.2 ∈ marks := by decide
  have hcircle : ∀ e ∈ circleEdges, e.1 ∈ marks ∧ e.2 ∈ marks := by decide
  obtain ⟨hok, hexact, -, -⟩ := topological_order_exact hmarks hdiamond (id : MarkId → MarkId)
  obtain ⟨-, -, hover, -⟩ := topological_order_exact hmarks hcircle (id : MarkId → MarkId)
  -- Both marks in the middle could come second.
  have hsecond := ((hexact _ horder).2.2 [⟨3⟩] ⟨1⟩ [⟨2⟩, ⟨0⟩] rfl).2 ⟨2⟩
  refine ⟨horder, hok.mp ⟨_, horder⟩, ?_, hleft, ?_, ?_⟩
  · exact hsecond ⟨by decide, by decide, by decide⟩ (by decide)
  · exact ((hover _ hleft).2 ⟨3⟩).mp (by decide)
  · exact fun h => absurd (((hover _ hleft).2 ⟨0⟩).mpr h) (by decide)

end KeyChart.Order
