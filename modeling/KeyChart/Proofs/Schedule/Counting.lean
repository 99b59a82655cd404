import KeyChart.Proofs.Schedule.Chosen

/-!
# Orders by counting

An order can be found without looking at all edges in every round. It is enough to
count for each node the edges that enter it from nodes that are left, and to keep the
nodes of count zero, least first. Taking a node lowers the count of those that it leads
to, and a node whose count comes to zero is ready. The counts always say what is free,
so the nodes come out one by one as they are chosen otherwise.
-/

namespace KeyChart

namespace SortedSet

variable {α : Type} [Ord α]

/-- The least member and the set of the others. -/
def popFirst? : SortedSet α → Option (α × SortedSet α)
  | ⟨[], _⟩ => none
  | ⟨a :: rest, h⟩ => some (a, ⟨rest, h.of_cons⟩)

theorem popFirst?_eq_none {s : SortedSet α} (h : s.popFirst? = none) (a : α) : a ∉ s := by
  obtain ⟨_ | ⟨b, rest⟩, hsorted⟩ := s
  · exact List.not_mem_nil
  · cases h

theorem popFirst?_eq_some [Std.ReflOrd α] {s s' : SortedSet α} {a : α}
    (h : s.popFirst? = some (a, s')) :
    a ∈ s ∧ (∀ b ∈ s, b ≠ a → compare a b = .lt) ∧ ∀ b, b ∈ s' ↔ b ∈ s ∧ b ≠ a := by
  obtain ⟨_ | ⟨a', rest⟩, hsorted⟩ := s
  · cases h
  · cases h
    have hfirst := (List.pairwise_cons.mp hsorted).1
    have hne : ∀ b ∈ rest, b ≠ a := by
      rintro b hb rfl
      exact not_compare_self_lt b (hfirst b hb)
    refine ⟨List.mem_cons_self, ?_, ?_⟩
    · intro b hb hba
      exact hfirst b ((List.mem_cons.mp hb).resolve_left hba)
    · intro b
      constructor
      · exact fun hb => ⟨List.mem_cons_of_mem _ hb, hne b hb⟩
      · exact fun ⟨hb, hba⟩ => (List.mem_cons.mp hb).resolve_left hba

end SortedSet

namespace Order

variable {α κ : Type}

/-! ## Edges by their ends -/

section Ends

variable [DecidableEq α] {edges : List (α × α)} {left : List α} {a b : α}

/-- The nodes that edges lead to from a node. -/
def targets (edges : List (α × α)) (a : α) : List α := (edges.filter (·.1 = a)).map (·.2)

/-- The number of edges that enter a node from nodes that are left. -/
def entering (edges : List (α × α)) (left : List α) (b : α) : Nat :=
  edges.countP fun e => e.2 = b ∧ e.1 ∈ left

theorem mem_targets : b ∈ targets edges a ↔ (a, b) ∈ edges := by
  simp [targets]

theorem entering_cons (e : α × α) (edges : List (α × α)) (left : List α) (b : α) :
    entering (e :: edges) left b = entering edges left b + if e.2 = b ∧ e.1 ∈ left then 1 else 0 := by
  simp [entering, List.countP_cons]

theorem count_targets_cons (e : α × α) (edges : List (α × α)) (a b : α) :
    (targets (e :: edges) a).count b =
      (targets edges a).count b + if e.1 = a ∧ e.2 = b then 1 else 0 := by
  unfold targets
  by_cases hsource : e.1 = a
  · simp [hsource, List.count_cons]
  · simp [hsource]

/-- The edges that enter a node come from the one node or from the others. -/
theorem entering_erase (hleft : left.Nodup) (ha : a ∈ left) (b : α) :
    entering edges left b = entering edges (left.erase a) b + (targets edges a).count b := by
  induction edges with
  | nil => rfl
  | cons e rest ih =>
    rw [entering_cons, entering_cons, count_targets_cons, ih]
    simp only [hleft.mem_erase_iff]
    by_cases hsource : e.1 = a
    · by_cases htarget : e.2 = b
      · simp [hsource, htarget, ha, Nat.add_assoc]
      · simp [htarget]
    · simp [hsource]
      omega

theorem entering_of_closed (h : ∀ e ∈ edges, e.1 ∈ left) (b : α) :
    entering edges left b = (edges.map (·.2)).count b := by
  rw [entering, List.count_eq_countP, List.countP_map]
  refine List.countP_congr ?_
  intro e he
  simp [h e he]

theorem mem_free_iff_entering : b ∈ free edges left ↔ b ∈ left ∧ entering edges left b = 0 := by
  rw [mem_free, entering, List.countP_eq_zero]
  refine and_congr_right fun _ => ?_
  constructor
  · rintro h ⟨p, b'⟩ he hmem
    simp only [decide_eq_true_eq] at hmem
    obtain ⟨rfl, hp⟩ := hmem
    exact h p he hp
  · intro h p hp hmem
    exact h (p, b) hp (by simp [hmem])

end Ends

/-! ## The method -/

/-- A node that is compared by its key first. -/
structure Keyed (key : α → κ) where
  node : α

theorem Keyed.ne_iff {key : α → κ} {x : Keyed key} {a : α} : x ≠ ⟨a⟩ ↔ x.node ≠ a := by
  cases x
  simp

variable [Ord α] [Ord κ] {key : α → κ}

instance : Ord (Keyed key) := ⟨fun a b => byKey key a.node b.node⟩

/-- The counts of edges that enter each node from nodes that are left, and the nodes
that are left and have the count zero. -/
structure Tally (key : α → κ) where
  counts : SortedMap α Nat
  ready : SortedSet (Keyed key)

variable [Std.TransOrd α] [Std.LawfulEqOrd α] [Std.TransOrd κ]

instance : Std.TransOrd (Keyed key) where
  eq_swap := (inferInstance : Std.TransCmp (byKey key)).eq_swap
  isLE_trans := (inferInstance : Std.TransCmp (byKey key)).isLE_trans

instance : Std.LawfulEqOrd (Keyed key) where
  eq_of_compare {a b} h := by
    have hnode : a.node = b.node := (inferInstance : Std.LawfulEqCmp (byKey key)).eq_of_compare h
    cases a
    exact congrArg Keyed.mk hnode

/-- One edge more enters a node that is counted. -/
def raise (counts : SortedMap α Nat) (a : α) : SortedMap α Nat :=
  match counts.find? a with
  | none => counts
  | some n => counts.insert a (n + 1)

namespace Tally

/-- The tally before any node is taken. -/
def start (key : α → κ) (nodes : List α) (edges : List (α × α)) : Tally key :=
  let zeros := nodes.foldl (fun counts a => counts.insert a 0) SortedMap.empty
  let counts := (edges.map (·.2)).foldl raise zeros
  ⟨counts, .ofList ((counts.entries.filter (·.2 = 0)).map fun e => ⟨e.1⟩)⟩

/-- One edge less enters a node that is counted. Behind the last one it is ready. -/
def lower (t : Tally key) (a : α) : Tally key :=
  match t.counts.find? a with
  | none => t
  | some n =>
    ⟨t.counts.insert a (n - 1), if n - 1 = 0 then t.ready.insert ⟨a⟩ else t.ready⟩

variable [DecidableEq α]

/-- The tally once a node is taken from those that are ready. -/
def pass (edges : List (α × α)) (t : Tally key) (a : α) (ready : SortedSet (Keyed key)) :
    Tally key :=
  (targets edges a).foldl lower { t with ready := ready }

/-- Takes up to `fuel` ready nodes, the least first. -/
def take (edges : List (α × α)) : Nat → Tally key → List α
  | 0, _ => []
  | fuel + 1, t =>
    match t.ready.popFirst? with
    | none => []
    | some (a, ready) => a.node :: take edges fuel (t.pass edges a.node ready)

end Tally

variable [DecidableEq α]

/-- The order of some nodes, found by counting, or those that get no place in it. -/
def countedOrder (nodes : List α) (edges : List (α × α)) (key : α → κ) :
    Except (List α) (List α) :=
  let order := Tally.take edges nodes.length (Tally.start key nodes edges)
  if order.length = nodes.length then .ok order else .error (nodes.filter (· ∉ order))

/-! ## What raising and lowering does -/

theorem find?_raise (counts : SortedMap α Nat) (a b : α) :
    (raise counts a).find? b =
      if b = a then (counts.find? a).map (· + 1) else counts.find? b := by
  unfold raise
  cases h : counts.find? a with
  | none =>
    by_cases hb : b = a
    · simp [hb, h]
    · simp [hb]
  | some n => simp

theorem find?_foldl_raise (as : List α) (counts : SortedMap α Nat) (b : α) :
    (as.foldl raise counts).find? b = (counts.find? b).map (· + as.count b) := by
  induction as generalizing counts with
  | nil => simp
  | cons a rest ih =>
    rw [List.foldl_cons, ih, find?_raise]
    by_cases hb : b = a
    · subst hb
      cases counts.find? b <;> simp [Nat.add_comm, Nat.add_left_comm]
    · rw [if_neg hb, List.count_cons_of_ne (Ne.symm hb)]

namespace Tally

variable {edges : List (α × α)} {nodes left : List α} {t : Tally key} {a b : α}

theorem find?_lower (t : Tally key) (a b : α) :
    (t.lower a).counts.find? b =
      if b = a then (t.counts.find? a).map (· - 1) else t.counts.find? b := by
  unfold lower
  cases h : t.counts.find? a with
  | none =>
    by_cases hb : b = a
    · simp [hb, h]
    · simp [hb]
  | some n => simp

theorem find?_foldl_lower (as : List α) (t : Tally key) (b : α) :
    (as.foldl lower t).counts.find? b = (t.counts.find? b).map (· - as.count b) := by
  induction as generalizing t with
  | nil => simp
  | cons a rest ih =>
    rw [List.foldl_cons, ih, find?_lower]
    by_cases hb : b = a
    · subst hb
      cases t.counts.find? b with
      | none => simp
      | some n =>
        simp only [Option.map_some, if_true, List.count_cons_self, Option.some.injEq]
        omega
    · rw [if_neg hb, List.count_cons_of_ne (Ne.symm hb)]

omit [DecidableEq α] in
theorem mem_ready_lower {n : Nat} (h : t.counts.find? a = some n) {x : Keyed key} :
    x ∈ (t.lower a).ready ↔ x ∈ t.ready ∨ (x.node = a ∧ n ≤ 1) := by
  simp only [lower, h]
  by_cases hn : n - 1 = 0
  · rw [if_pos hn, SortedSet.mem_insert]
    have hle : n ≤ 1 := by omega
    cases x
    simp [hle, or_comm]
  · rw [if_neg hn]
    have hle : ¬ n ≤ 1 := by omega
    simp [hle]

/-- Where no count is lowered below zero, just those that come to zero get ready. -/
theorem mem_ready_foldl_lower {as : List α}
    (h : ∀ a ∈ as, ∃ n, t.counts.find? a = some n ∧ as.count a ≤ n) {x : Keyed key} :
    x ∈ (as.foldl lower t).ready ↔
      x ∈ t.ready ∨ (x.node ∈ as ∧ t.counts.find? x.node = some (as.count x.node)) := by
  induction as generalizing t with
  | nil => simp
  | cons a rest ih =>
    obtain ⟨n, hn, hle⟩ := h a (by simp)
    rw [List.count_cons_self] at hle
    have hrest : ∀ b ∈ rest, ∃ m, (t.lower a).counts.find? b = some m ∧ rest.count b ≤ m := by
      intro b hb
      rw [find?_lower]
      by_cases hba : b = a
      · subst hba
        exact ⟨n - 1, by simp [hn], by omega⟩
      · obtain ⟨m, hm, hcount⟩ := h b (List.mem_cons_of_mem _ hb)
        rw [List.count_cons_of_ne (Ne.symm hba)] at hcount
        exact ⟨m, by simp [hba, hm], hcount⟩
    rw [List.foldl_cons, ih hrest, mem_ready_lower hn, find?_lower, or_assoc]
    refine or_congr_right ?_
    by_cases hx : x.node = a
    · -- The node gets ready at the last of the edges that enter it.
      subst hx
      simp only [true_and, hn, if_true, Option.map_some, Option.some.injEq, List.mem_cons, true_or,
        List.count_cons_self]
      by_cases hmem : x.node ∈ rest
      · have hpos := List.count_pos_iff.mpr hmem
        simp only [hmem, true_and]
        omega
      · have hzero := List.count_eq_zero.mpr hmem
        simp only [hmem, false_and, or_false]
        omega
    · simp [hx, List.count_cons_of_ne (Ne.symm hx)]

/-! ## What the counts say -/

/-- The counts are right, just the free nodes are ready, and no edge leads back from a
node that is left to one that is not. -/
structure Counts (edges : List (α × α)) (nodes left : List α) (t : Tally key) : Prop where
  counts : ∀ b, t.counts.find? b = if b ∈ nodes then some (entering edges left b) else none
  ready : ∀ x, x ∈ t.ready ↔ x.node ∈ free edges left
  ahead : ∀ a b, (a, b) ∈ edges → a ∈ left → b ∈ left

variable (hedges : ∀ e ∈ edges, e.1 ∈ nodes ∧ e.2 ∈ nodes)
include hedges

theorem counts_start : Counts edges nodes nodes (start key nodes edges) := by
  have hentering := entering_of_closed fun e he => (hedges e he).1
  have hcounts : ∀ b, (start key nodes edges).counts.find? b =
      if b ∈ nodes then some (entering edges nodes b) else none := by
    intro b
    rw [start, find?_foldl_raise, SortedMap.find?_foldl_insert, hentering]
    by_cases hb : b ∈ nodes
    · simp [hb]
    · simp [hb]
  refine ⟨hcounts, ?_, fun a b hab _ => (hedges _ hab).2⟩
  rintro ⟨b⟩
  have hready : (⟨b⟩ : Keyed key) ∈ (start key nodes edges).ready ↔
      (start key nodes edges).counts.find? b = some 0 := by
    rw [SortedMap.find?_eq_some_iff_mem]
    simp [start]
  rw [hready, hcounts, mem_free_iff_entering]
  by_cases hb : b ∈ nodes
  · simp [hb]
  · simp [hb]

/-- Taking a free node lowers the counts to what enters from the other nodes. -/
theorem Counts.pass (h : t.Counts edges nodes left) (hleft : left.Nodup)
    (ha : a ∈ free edges left) {ready : SortedSet (Keyed key)}
    (hready : ∀ x, x ∈ ready ↔ x ∈ t.ready ∧ x ≠ ⟨a⟩) :
    (t.pass edges a ready).Counts edges nodes (left.erase a) := by
  obtain ⟨hin, hnone⟩ := mem_free.mp ha
  have hsplit : ∀ b, entering edges left b =
      entering edges (left.erase a) b + (targets edges a).count b := entering_erase hleft hin
  have hahead : ∀ p b, (p, b) ∈ edges → p ∈ left → b ∈ left.erase a := by
    intro p b hpb hp
    refine hleft.mem_erase_iff.mpr ⟨?_, h.ahead p b hpb hp⟩
    rintro rfl
    exact hnone p hpb hp
  refine ⟨?_, ?_, fun p b hpb hp => hahead p b hpb (List.mem_of_mem_erase hp)⟩
  · intro b
    rw [Tally.pass, find?_foldl_lower, h.counts b]
    by_cases hb : b ∈ nodes
    · simp only [hb, if_true, Option.map_some, hsplit b, Option.some.injEq]
      omega
    · simp [hb]
  · intro x
    have hlowered : ∀ b ∈ targets edges a,
        ∃ n, t.counts.find? b = some n ∧ (targets edges a).count b ≤ n := by
      intro b hb
      refine ⟨entering edges left b, ?_, by rw [hsplit b]; omega⟩
      rw [h.counts b, if_pos (hedges _ (mem_targets.mp hb)).2]
    have hnow : x ∈ (t.pass edges a ready).ready ↔ x ∈ ready ∨
        (x.node ∈ targets edges a ∧
          t.counts.find? x.node = some ((targets edges a).count x.node)) :=
      mem_ready_foldl_lower (t := { t with ready := ready }) hlowered
    rw [hnow, hready, h.ready, h.counts, Keyed.ne_iff, mem_free_iff_entering,
      mem_free_iff_entering, hleft.mem_erase_iff, hsplit x.node]
    by_cases hx : x.node ∈ targets edges a
    · -- What the node leads to is still left, so its count decides.
      have hedge := mem_targets.mp hx
      have hpos := List.count_pos_iff.mpr hx
      obtain ⟨hne, hxleft⟩ := hleft.mem_erase_iff.mp (hahead a x.node hedge hin)
      simp only [hx, hxleft, hne, (hedges _ hedge).2, if_true, Option.some.injEq, true_and, ne_eq,
        not_false_eq_true]
      omega
    · have hzero := List.count_eq_zero.mpr hx
      simp only [hx, false_and, or_false, hzero, Nat.add_zero]
      rw [and_right_comm, and_comm (a := x.node ∈ left)]

/-- The nodes that are taken are those that are chosen where all edges are looked at. -/
theorem Counts.take_eq (h : t.Counts edges nodes left) (hleft : left.Nodup) (fuel : Nat) :
    t.take edges fuel = (extend edges key fuel left).1 := by
  induction fuel generalizing left t with
  | zero => rfl
  | succ fuel ih =>
    cases hpop : t.ready.popFirst? with
    | none =>
      have hnone : least? key (free edges left) = none := by
        cases hfree : least? key (free edges left) with
        | none => rfl
        | some a =>
          exact absurd ((h.ready ⟨a⟩).mpr (least?_mem hfree)) (SortedSet.popFirst?_eq_none hpop _)
      simp only [take, hpop, extend_none hnone]
    | some popped =>
      obtain ⟨⟨a⟩, ready⟩ := popped
      obtain ⟨ha, hleast, hready⟩ := SortedSet.popFirst?_eq_some hpop
      have hfree : a ∈ free edges left := (h.ready _).mp ha
      have hchosen : least? key (free edges left) = some a := by
        refine least?_eq_some_iff.mpr ⟨hfree, ?_⟩
        intro b hb hne
        exact hleast ⟨b⟩ ((h.ready _).mpr hb) (Keyed.ne_iff.mpr hne)
      have hrest := ih (h.pass hedges hleft hfree hready) (hleft.erase a)
      simp only [take, hpop, extend_some hchosen, hrest]

end Tally

end Order

end KeyChart
