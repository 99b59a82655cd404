import KeyChart.Schedule.Order
import Mathlib.Data.Fintype.Card
import Mathlib.Data.Fintype.EquivFin
import Mathlib.Data.Fintype.Sets
import Mathlib.Logic.Relation
import Mathlib.Order.WellFounded

/-!
# Orders and cycles

An order that is returned holds every node once, and no edge goes backward in
it. Nodes are left over only if each of them is entered from another one that is
left, and since there are finitely many, there is a cycle among them. So there
is an order exactly if there is no cycle.
-/

namespace KeyChart

namespace Order

variable {α κ : Type} {edges : List (α × α)}

/-- A chain of at least one edge leads from one node to another. -/
def Reaches (edges : List (α × α)) : α → α → Prop :=
  Relation.TransGen fun a b => (a, b) ∈ edges

/-- Whether some node is reached from itself. -/
def Cyclic (edges : List (α × α)) : Prop := ∃ a, Reaches edges a a

/-- No edge enters a node of a list from the node itself or from a later one. -/
def Forward (edges : List (α × α)) : List α → Prop
  | [] => True
  | b :: rest => (∀ a, (a, b) ∈ edges → a ∉ b :: rest) ∧ Forward edges rest

/-! ## Forward orders have no cycles -/

theorem Forward.mem_before {before after : List α} {a b : α}
    (h : Forward edges (before ++ b :: after)) (hab : (a, b) ∈ edges)
    (ha : a ∈ before ++ b :: after) : a ∈ before := by
  induction before with
  | nil => exact absurd ha (h.1 a hab)
  | cons x before ih =>
    rcases List.mem_cons.mp ha with rfl | ha
    · simp
    · exact List.mem_cons_of_mem _ (ih h.2 ha)

theorem forward_append_iff {more : List (α × α)} {order : List α} :
    Forward (edges ++ more) order ↔ Forward edges order ∧ Forward more order := by
  induction order with
  | nil => simp [Forward]
  | cons b rest ih =>
    simp only [Forward, ih, List.mem_append, or_imp, forall_and]
    exact and_and_and_comm

/-- Where a node comes behind all from which an edge enters it, it comes behind all that
reach it. -/
theorem mem_before_of_reaches {order before after : List α} {a b : α}
    (h : ∀ before b after, order = before ++ b :: after → ∀ a, (a, b) ∈ edges → a ∈ before)
    (hab : Reaches edges a b) (horder : order = before ++ b :: after) : a ∈ before := by
  induction hab generalizing before after with
  | single hab => exact h _ _ _ horder _ hab
  | @tail m b _ hmb ih =>
    obtain ⟨before', after', rfl⟩ := List.append_of_mem (h _ _ _ horder _ hmb)
    have hsplit : order = before' ++ m :: (after' ++ b :: after) := by simp [horder]
    exact List.mem_append_left _ (ih hsplit)

/-- What reaches a node of a forward order comes before it. -/
theorem Forward.mem_before_of_reaches {order before after : List α} {a b : α}
    (h : Forward edges order) (hedges : ∀ e ∈ edges, e.1 ∈ order)
    (hab : Reaches edges a b) (horder : order = before ++ b :: after) : a ∈ before := by
  refine Order.mem_before_of_reaches ?_ hab horder
  rintro before b after rfl a hab
  exact h.mem_before hab (hedges _ hab)

/-- If a rank grows along every edge, what comes in rising order goes forward. -/
theorem forward_of_rank (rank : α → Nat) (h : ∀ a b, (a, b) ∈ edges → rank a < rank b)
    {order : List α} (horder : order.Pairwise fun a b => rank a < rank b) :
    Forward edges order := by
  induction order with
  | nil => trivial
  | cons b rest ih =>
    obtain ⟨hfirst, hrest⟩ := List.pairwise_cons.mp horder
    refine ⟨?_, ih hrest⟩
    intro a hab hmem
    rcases List.mem_cons.mp hmem with rfl | hmem
    · exact Nat.lt_irrefl _ (h a a hab)
    · exact Nat.lt_asymm (h a b hab) (hfirst a hmem)

/-- If a rank grows along every edge, there is no cycle. -/
theorem not_cyclic_of_rank (rank : α → Nat) (h : ∀ a b, (a, b) ∈ edges → rank a < rank b) :
    ¬ Cyclic edges := by
  have hreaches : ∀ a b, Reaches edges a b → rank a < rank b := by
    intro a b hab
    induction hab with
    | single hab => exact h _ _ hab
    | tail _ hbc ih => exact Nat.lt_trans ih (h _ _ hbc)
  rintro ⟨a, ha⟩
  exact Nat.lt_irrefl _ (hreaches a a ha)

section Nodes

variable [DecidableEq α]

theorem Forward.idxOf_lt {order : List α} {a b : α} (h : Forward edges order)
    (hab : (a, b) ∈ edges) (ha : a ∈ order) (hb : b ∈ order) :
    order.idxOf a < order.idxOf b := by
  induction order with
  | nil => cases ha
  | cons x rest ih =>
    by_cases hxb : x = b
    · subst hxb
      exact absurd ha (h.1 a hab)
    · have hb : b ∈ rest := (List.mem_cons.mp hb).resolve_left (Ne.symm hxb)
      rw [List.idxOf_cons_ne _ hxb]
      by_cases hxa : x = a
      · subst hxa
        rw [List.idxOf_cons_self]
        omega
      · have ha : a ∈ rest := (List.mem_cons.mp ha).resolve_left (Ne.symm hxa)
        rw [List.idxOf_cons_ne _ hxa]
        exact Nat.succ_lt_succ (ih h.2 ha hb)

/-- Where nodes come once, their places rise. -/
theorem pairwise_idxOf {order : List α} (h : order.Nodup) :
    order.Pairwise fun a b => order.idxOf a < order.idxOf b := by
  refine List.pairwise_iff_getElem.mpr ?_
  intro i j hi hj hij
  rwa [h.idxOf_getElem, h.idxOf_getElem]

theorem forward_iff_idxOf_lt {order : List α} (h : order.Nodup)
    (hedges : ∀ e ∈ edges, e.1 ∈ order ∧ e.2 ∈ order) :
    Forward edges order ↔ ∀ a b, (a, b) ∈ edges → order.idxOf a < order.idxOf b := by
  constructor
  · intro hforward a b hab
    obtain ⟨ha, hb⟩ := hedges _ hab
    exact hforward.idxOf_lt hab ha hb
  · exact fun hlt => forward_of_rank order.idxOf hlt (pairwise_idxOf h)

/-- Of finitely many nodes, each entered from one of them, some reach themselves. -/
theorem exists_reaches_self {left : List α} (hne : left ≠ [])
    (h : ∀ a ∈ left, ∃ b ∈ left, (b, a) ∈ edges) : ∃ a ∈ left, Reaches edges a a := by
  by_contra hnone
  -- Without a cycle, reaching is a strict order, and some node that is left is least in it.
  let before : {a // a ∈ left} → {a // a ∈ left} → Prop := fun a b => Reaches edges a.1 b.1
  have : IsTrans _ before := ⟨fun _ _ _ => Relation.TransGen.trans⟩
  have : Std.Irrefl before := ⟨fun a ha => hnone ⟨a.1, a.2, ha⟩⟩
  have hwf : WellFounded before := Finite.wellFounded_of_trans_of_irrefl before
  obtain ⟨a, ha⟩ := List.exists_mem_of_ne_nil left hne
  obtain ⟨⟨m, hm⟩, -, hmin⟩ := hwf.has_min Set.univ ⟨⟨a, ha⟩, trivial⟩
  obtain ⟨b, hb, hedge⟩ := h m hm
  exact hmin ⟨b, hb⟩ trivial (.single hedge)

/-- Finitely many nodes, each entered from one of them, have a cycle. -/
theorem cyclic_of_entered {left : List α} (hne : left ≠ [])
    (h : ∀ a ∈ left, ∃ b ∈ left, (b, a) ∈ edges) : Cyclic edges := by
  obtain ⟨a, -, ha⟩ := exists_reaches_self hne h
  exact ⟨a, ha⟩

end Nodes

/-! ## What is ordered -/

section Keys

variable [Ord α] [Ord κ] {key : α → κ}

theorem least?_mem {as : List α} {a : α} (h : least? key as = some a) : a ∈ as := by
  cases as with
  | nil => cases h
  | cons b rest =>
    simp only [least?, Option.some.injEq] at h
    suffices hfold : ∀ (bs : List α) (best : α),
        bs.foldl (fun best b => if byKey key b best = .lt then b else best) best ∈ best :: bs by
      rw [← h]
      exact hfold rest b
    intro bs
    induction bs with
    | nil => simp
    | cons b' bs ih =>
      intro best
      rw [List.foldl_cons]
      rcases List.mem_cons.mp (ih (if byKey key b' best = .lt then b' else best)) with heq | hmem
      · rw [heq]
        split <;> simp
      · simp [hmem]

theorem least?_eq_none {as : List α} (h : least? key as = none) : as = [] := by
  cases as with
  | nil => rfl
  | cons => cases h

end Keys

variable [DecidableEq α]

theorem mem_free {left : List α} {a : α} :
    a ∈ free edges left ↔ a ∈ left ∧ ∀ b, (b, a) ∈ edges → b ∉ left := by
  simp only [free, List.mem_filter, List.all_eq_true, Bool.or_eq_true, decide_eq_true_eq]
  constructor
  · rintro ⟨ha, hall⟩
    refine ⟨ha, ?_⟩
    intro b hb
    rcases hall _ hb with hne | hb
    · exact absurd rfl hne
    · exact hb
  · rintro ⟨ha, hall⟩
    refine ⟨ha, ?_⟩
    rintro ⟨b, a'⟩ hb
    by_cases heq : a' = a
    · subst heq
      exact .inr (hall b hb)
    · exact .inl heq

theorem free_subset {edges' : List (α × α)} (h : ∀ e ∈ edges, e ∈ edges') {left : List α} {a : α}
    (ha : a ∈ free edges' left) : a ∈ free edges left := by
  obtain ⟨hleft, hnone⟩ := mem_free.mp ha
  exact mem_free.mpr ⟨hleft, fun b hb => hnone b (h _ hb)⟩

variable [Ord α] [Ord κ] {key : α → κ}

theorem extend_none {fuel : Nat} {left : List α} (h : least? key (free edges left) = none) :
    extend edges key (fuel + 1) left = ([], left) := by
  simp only [extend, h]

theorem extend_some {fuel : Nat} {left : List α} {a : α}
    (h : least? key (free edges left) = some a) :
    extend edges key (fuel + 1) left =
      (a :: (extend edges key fuel (left.erase a)).1, (extend edges key fuel (left.erase a)).2) := by
  simp only [extend, h]

/-- Nothing is lost and nothing is added. -/
theorem extend_perm (edges : List (α × α)) (key : α → κ) (fuel : Nat) (left : List α) :
    ((extend edges key fuel left).1 ++ (extend edges key fuel left).2).Perm left := by
  induction fuel generalizing left with
  | zero => exact List.Perm.refl _
  | succ fuel ih =>
    cases h : least? key (free edges left) with
    | none =>
      rw [extend_none h]
      exact List.Perm.refl _
    | some a =>
      have ha := (mem_free.mp (least?_mem h)).1
      rw [extend_some h]
      exact ((ih (left.erase a)).cons a).trans (List.perm_cons_erase ha).symm

/-- A node comes when no edge enters it from a node that is still left, and so
none from one that comes later. -/
theorem extend_forward (edges : List (α × α)) (key : α → κ) (fuel : Nat) (left : List α) :
    Forward edges (extend edges key fuel left).1 := by
  induction fuel generalizing left with
  | zero => trivial
  | succ fuel ih =>
    cases h : least? key (free edges left) with
    | none =>
      rw [extend_none h]
      trivial
    | some a =>
      obtain ⟨ha, hfree⟩ := mem_free.mp (least?_mem h)
      rw [extend_some h]
      refine ⟨?_, ih (left.erase a)⟩
      -- What comes behind the chosen node was left when it was free.
      intro b hb hmem
      refine hfree b hb ?_
      rcases List.mem_cons.mp hmem with rfl | hmem
      · exact ha
      · exact List.mem_of_mem_erase
          ((extend_perm edges key fuel (left.erase a)).subset (List.mem_append_left _ hmem))

/-- With a round for each node, every node that is left over is entered from one
that is. -/
theorem entered_of_left_over (edges : List (α × α)) (key : α → κ) {fuel : Nat} {left : List α}
    (hfuel : left.length ≤ fuel) :
    ∀ a ∈ (extend edges key fuel left).2, ∃ b ∈ (extend edges key fuel left).2, (b, a) ∈ edges := by
  induction fuel generalizing left with
  | zero =>
    rw [List.length_eq_zero_iff.mp (Nat.le_zero.mp hfuel)]
    simp [extend]
  | succ fuel ih =>
    cases h : least? key (free edges left) with
    | none =>
      rw [extend_none h]
      -- A node entered from none that is left would be free, and nothing was.
      intro a ha
      by_contra hnone
      have hfree : a ∈ free edges left :=
        mem_free.mpr ⟨ha, fun b hb hmem => hnone ⟨b, hmem, hb⟩⟩
      rw [least?_eq_none h] at hfree
      cases hfree
    | some a =>
      have ha := (mem_free.mp (least?_mem h)).1
      have hlen := List.length_erase_of_mem ha
      rw [extend_some h]
      exact ih (by omega)

/-! ## Edges as a set -/

variable {edges' : List (α × α)}

omit [Ord α] in
theorem free_congr (h : ∀ e, e ∈ edges ↔ e ∈ edges') (left : List α) :
    free edges left = free edges' left := by
  refine List.filter_congr ?_
  intro a _
  rw [Bool.eq_iff_iff, List.all_eq_true, List.all_eq_true]
  constructor
  · exact fun hall e he => hall e ((h e).mpr he)
  · exact fun hall e he => hall e ((h e).mp he)

theorem extend_congr (h : ∀ e, e ∈ edges ↔ e ∈ edges') (key : α → κ) (fuel : Nat)
    (left : List α) : extend edges key fuel left = extend edges' key fuel left := by
  induction fuel generalizing left with
  | zero => rfl
  | succ fuel ih =>
    rw [extend, extend, free_congr h]
    cases least? key (free edges' left) with
    | none => rfl
    | some a => simp only [ih]

/-- How often an edge is listed, and where, does not matter. -/
theorem topologicalOrder_congr (h : ∀ e, e ∈ edges ↔ e ∈ edges') (nodes : List α)
    (key : α → κ) : topologicalOrder nodes edges key = topologicalOrder nodes edges' key := by
  rw [topologicalOrder, topologicalOrder, extend_congr h]

/-! ## The order -/

variable {nodes order left : List α}

theorem topologicalOrder_eq_ok (h : topologicalOrder nodes edges key = .ok order) :
    order.Perm nodes ∧ Forward edges order := by
  simp only [topologicalOrder] at h
  split at h
  case isTrue hleft =>
    cases h
    have hperm := extend_perm edges key nodes.length nodes
    rw [List.isEmpty_iff.mp hleft, List.append_nil] at hperm
    exact ⟨hperm, extend_forward edges key nodes.length nodes⟩
  case isFalse => cases h

theorem cyclic_of_topologicalOrder_eq_error (h : topologicalOrder nodes edges key = .error left) :
    Cyclic edges := by
  simp only [topologicalOrder] at h
  split at h
  case isTrue => cases h
  case isFalse hleft =>
    refine cyclic_of_entered ?_ (entered_of_left_over edges key (Nat.le_refl nodes.length))
    exact fun hnil => hleft (List.isEmpty_iff.mpr hnil)

/-- Nodes with edges between them have an order exactly if there is no cycle. -/
theorem topologicalOrder_isOk_iff (key : α → κ)
    (hedges : ∀ e ∈ edges, e.1 ∈ nodes ∧ e.2 ∈ nodes) :
    (∃ order, topologicalOrder nodes edges key = .ok order) ↔ ¬ Cyclic edges := by
  constructor
  · rintro ⟨order, horder⟩
    obtain ⟨hperm, hforward⟩ := topologicalOrder_eq_ok horder
    refine not_cyclic_of_rank order.idxOf ?_
    intro a b hab
    obtain ⟨ha, hb⟩ := hedges _ hab
    exact hforward.idxOf_lt hab (hperm.mem_iff.mpr ha) (hperm.mem_iff.mpr hb)
  · intro hnone
    cases horder : topologicalOrder nodes edges key with
    | ok order => exact ⟨order, rfl⟩
    | error left => exact absurd (cyclic_of_topologicalOrder_eq_error horder) hnone

end Order

end KeyChart
