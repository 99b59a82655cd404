import KeyChart.Proofs.Chart.Sessions

/-!
# Operations on a session

Besides the calls, whoever holds a session can set the levels of its marks, and
do to its catalog and its engine what they like. None of this reaches how marks
relate to each other: that changes only if a mark is added or put somewhere. A
mark is put into another only if both are known and it stood nowhere before, so
it stays where it was put, and marks get their numbers one by one.
-/

namespace KeyChart

open Attempt

/-! ## What nestings join -/

namespace MarkNest

variable {c : Catalog} {inner outer : NestEnd} {nest : MarkNest}

theorem shortest_ends {warnings : List Warning}
    (h : shortest c inner outer = .ok (nest, warnings)) :
    nest.inner = inner.mark ∧ nest.outer = outer.mark := by
  unfold shortest at h
  split at h
  · cases h
    exact ⟨rfl, rfl⟩
  · split at h
    · cases h
    · cases h
    · cases h
      exact ⟨rfl, rfl⟩

theorem firstAlong_ends {ids : List ConstraintId}
    (h : firstAlong c inner outer ids = .ok (some nest)) :
    nest.inner = inner.mark ∧ nest.outer = outer.mark := by
  induction ids with
  | nil => cases h
  | cons id rest ih =>
    simp only [firstAlong] at h
    split at h
    · cases h
      exact ⟨rfl, rfl⟩
    · exact ih h
    · cases h

theorem byAttributes_ends {attrs : List String}
    (h : byAttributes c inner outer attrs = .ok nest) :
    nest.inner = inner.mark ∧ nest.outer = outer.mark := by
  simp only [byAttributes] at h
  split at h
  · cases h
  case h_2 hfirst =>
    cases h
    exact firstAlong_ends hfirst
  · split at h <;> cases h

theorem across_ends {constraint : ConstraintId} (h : across c inner outer constraint = .ok nest) :
    nest.inner = inner.mark ∧ nest.outer = outer.mark := by
  unfold across at h
  split at h
  · cases h
  · split at h
    · cases h
    · obtain ⟨path, -, rfl⟩ := Except.map_eq_ok.mp h
      exact ⟨rfl, rfl⟩

end MarkNest

namespace Chart

variable {c c' : Chart} {id inner outer : MarkId}

/-- Whether there is a mark of an identity. -/
def Knows (c : Chart) (id : MarkId) : Prop := ∃ m, c.mark id = .ok m

theorem checkUnnested_eq_ok {u : Unit} (h : c.checkUnnested id = .ok u) :
    c.Knows id ∧ c.nests.find? id = none := by
  unfold checkUnnested at h
  split at h
  · cases h
  case h_2 m hm =>
    split at h
    · cases h
    case isFalse hfree =>
      rw [SortedMap.contains_eq_isSome, Option.not_isSome_iff_eq_none] at hfree
      exact ⟨⟨m, hm⟩, hfree⟩

theorem nestEnds_eq_ok {ends : NestEnd × NestEnd} (h : c.nestEnds inner outer = .ok ends) :
    (c.Knows inner ∧ c.nests.find? inner = none) ∧ c.Knows outer ∧
      ends.1.mark = inner ∧ ends.2.mark = outer := by
  obtain ⟨u, hu, h⟩ := Except.bind_eq_ok.mp h
  split at h
  · cases h
  · obtain ⟨innerMark, -, h⟩ := Except.bind_eq_ok.mp h
    obtain ⟨outerMark, houter, h⟩ := Except.bind_eq_ok.mp h
    cases h
    exact ⟨checkUnnested_eq_ok hu, ⟨outerMark, houter⟩, rfl, rfl⟩

/-- A chart with one more nesting than another, of a known mark that stood nowhere
in another known mark. -/
def Nests (c : Chart) (inner outer : MarkId) (c' : Chart) : Prop :=
  (c.Knows inner ∧ c.nests.find? inner = none) ∧ c.Knows outer ∧
    ∃ nest warnings, nest.inner = inner ∧ nest.outer = outer ∧
      c' = { c with warnings }.insertNest nest

theorem nest_eq_ok (h : c.nest inner outer = .ok c') : c.Nests inner outer c' := by
  obtain ⟨ends, hends, h⟩ := Except.bind_eq_ok.mp h
  obtain ⟨⟨nest, warnings⟩, hnest, h⟩ := Except.bind_eq_ok.mp h
  cases h
  obtain ⟨hfree, hknown, hinner, houter⟩ := nestEnds_eq_ok hends
  obtain ⟨hin, hout⟩ := MarkNest.shortest_ends hnest
  exact ⟨hfree, hknown, nest, _, hin.trans hinner, hout.trans houter, rfl⟩

theorem nestOn_eq_ok {attrs : List String} (h : c.nestOn inner outer attrs = .ok c') :
    c.Nests inner outer c' := by
  obtain ⟨ends, hends, h⟩ := Except.bind_eq_ok.mp h
  obtain ⟨nest, hnest, h⟩ := Except.bind_eq_ok.mp h
  cases h
  obtain ⟨hfree, hknown, hinner, houter⟩ := nestEnds_eq_ok hends
  obtain ⟨hin, hout⟩ := MarkNest.byAttributes_ends hnest
  exact ⟨hfree, hknown, nest, c.warnings, hin.trans hinner, hout.trans houter, rfl⟩

theorem nestVia_eq_ok {constraint : ConstraintId}
    (h : c.nestVia inner outer constraint = .ok c') : c.Nests inner outer c' := by
  obtain ⟨ends, hends, h⟩ := Except.bind_eq_ok.mp h
  obtain ⟨nest, hnest, h⟩ := Except.bind_eq_ok.mp h
  cases h
  obtain ⟨hfree, hknown, hinner, houter⟩ := nestEnds_eq_ok hends
  obtain ⟨hin, hout⟩ := MarkNest.across_ends hnest
  exact ⟨hfree, hknown, nest, c.warnings, hin.trans hinner, hout.trans houter, rfl⟩

/-! ## Properties of relations -/

/-- A property of the marks and their relations that anything but adding a mark
keeps. -/
structure KeptByRelating (I : Chart → Prop) : Prop where
  catalog : ∀ {c : Chart} {catalog : Catalog}, I c → I { c with catalog }
  fragments : ∀ {c : Chart} {fragments : SortedMap MarkId (List String)}, I c →
    I { c with fragments }
  marks : ∀ {c : Chart} {marks : SortedMap MarkId Mark},
    (∀ id, (marks.find? id).map Mark.declared = (c.marks.find? id).map Mark.declared) → I c →
    I { c with marks }
  execute : ∀ {τ : Type} {c : Chart} (run : Schedule.Runner τ) (s : τ), I c →
    I { c with schedule := (c.schedule.execute run s).2.1 }
  nest : ∀ {c c' : Chart} {inner outer : MarkId}, c.Nests inner outer c' → I c → I c'
  box : ∀ {c : Chart} {id : MarkId} (box : Box), c.Knows id → c.nests.find? id = none → I c →
    I { c with nests := c.nests.insert id (.root box) }

theorem KeptByRelating.keptByWork {I : Chart → Prop} (h : KeptByRelating I) : KeptByWork I where
  catalog _ hc := h.catalog hc
  fragments hc := h.fragments hc
  marks hmarks hc := h.marks hmarks hc

end Chart

/-! ## Operations -/

namespace Session

variable {σ ρ : Type}

/-- Anything that changes a session from outside: a call, setting levels by
itself, and whatever is done to the catalog and to the engine. -/
inductive Operation (σ : Type) where
  | call (made : Call)
  | setLevels
  | editCatalog (f : Catalog → Catalog)
  | useEngine (f : σ → σ)

/-- What an operation does. -/
def Operation.attempt (b : Backend σ ρ) : Operation σ → Attempt (Session σ ρ) Unit
  | .call made => made.attempt b
  | .setLevels => edit fun c => c.setLevels.map fun c => ((), c)
  | .editCatalog f => onCatalog (modify f)
  | .useEngine f => onEngine (modify f)

/-- The session to which operations lead. -/
def operated (b : Backend σ ρ) (s : Session σ ρ) (ops : List (Operation σ)) : Session σ ρ :=
  ops.foldl (fun s op => (op.attempt b).after s) s

theorem operated_append (b : Backend σ ρ) (s : Session σ ρ) (ops ops' : List (Operation σ)) :
    operated b s (ops ++ ops') = operated b (operated b s ops) ops' := List.foldl_append

/-- A session that started without tables and marks. -/
def Reached (s : Session σ ρ) : Prop :=
  ∃ b config engine renderer ops, s = operated b (start config engine renderer) ops

section Keeps

variable {I : Chart → Prop} (h : Chart.KeptByRelating I) (b : Backend σ ρ)
include h

theorem Operation.keeps (op : Operation σ)
    (hadd : ∀ spec, op = .call (.addMark spec) → ∀ {c c' : Chart} {id : MarkId},
      c.addMark spec = .ok (id, c') → I c → I c') :
    Keeps (OfChart I : Session σ ρ → Prop) (op.attempt b) := by
  have hwork := h.keptByWork
  cases op with
  | call made =>
    cases made with
    | loadDdl sql => exact keeps_bind (hwork.loadDdl b sql) fun _ => keeps_pure _
    | importTable name => exact hwork.importTable b name
    | deriveTable name query => exact hwork.deriveTable b name query
    | addMark spec =>
      refine keeps_edit ?_
      intro c u c' hc
      obtain ⟨r, hr, heq⟩ := Except.map_eq_ok.mp hc
      cases heq
      exact hadd spec rfl hr
    | nest inner outer => exact keeps_edit_map fun c c' hc => h.nest (Chart.nest_eq_ok hc)
    | nestOn inner outer attrs =>
      exact keeps_edit_map fun c c' hc => h.nest (Chart.nestOn_eq_ok hc)
    | nestVia inner outer constraint =>
      exact keeps_edit_map fun c c' hc => h.nest (Chart.nestVia_eq_ok hc)
    | nestInRoot id box =>
      refine keeps_edit_map ?_
      intro c c' hc
      obtain ⟨u, hu, rfl⟩ := Except.map_eq_ok.mp hc
      obtain ⟨hknown, hfree⟩ := Chart.checkUnnested_eq_ok hu
      exact h.box box hknown hfree
    | run => exact hwork.run b fun run s hc => h.execute run s hc
  | setLevels => exact keeps_edit_map fun c c' hc => hwork.keptByDrawing.setLevels hc
  | editCatalog f => exact keeps_within fun s hs => h.catalog hs
  | useEngine f => exact keeps_onEngine _

/-- What adding a mark keeps as well, any operations keep. -/
theorem operated_keeps
    (hadd : ∀ {spec : MarkSpec} {c c' : Chart} {id : MarkId}, c.addMark spec = .ok (id, c') →
      I c → I c') (ops : List (Operation σ)) {s : Session σ ρ} (hs : I s.chart) :
    I (operated b s ops).chart := by
  induction ops generalizing s with
  | nil => exact hs
  | cons op rest ih => exact ih (Operation.keeps h b op (fun _ _ => hadd) s hs)

end Keeps

/-! ### Nestings stay -/

/-- A mark stands where it was put. -/
theorem keptByRelating_nested (id : MarkId) (n : Nesting) :
    Chart.KeptByRelating fun c => c.nests.find? id = some n where
  catalog hn := hn
  fragments hn := hn
  marks _ hn := hn
  execute _ _ hn := hn
  nest := by
    rintro c c' inner outer ⟨⟨-, hfree⟩, -, nest, warnings, rfl, rfl, rfl⟩ hn
    refine (SortedMap.find?_insert _ _ _ _).trans ?_
    rw [if_neg, hn]
    rintro rfl
    cases hfree.symm.trans hn
  box := by
    intro c id' box _ hfree hn
    dsimp only
    rw [SortedMap.find?_insert, if_neg, hn]
    rintro rfl
    cases hfree.symm.trans hn

theorem operated_nested (b : Backend σ ρ) (ops : List (Operation σ)) {s : Session σ ρ}
    {id : MarkId} {n : Nesting} (h : s.chart.nests.find? id = some n) :
    (operated b s ops).chart.nests.find? id = some n := by
  refine operated_keeps (keptByRelating_nested id n) b ?_ ops h
  intro spec c c' id' hadd hn
  obtain ⟨channels, -, -, rfl⟩ := Chart.addMark_inserts hadd
  exact hn

/-! ### Marks come one by one -/

theorem keptByRelating_nextMark (n : Nat) : Chart.KeptByRelating fun c => c.nextMark = n where
  catalog hn := hn
  fragments hn := hn
  marks _ hn := hn
  execute _ _ hn := hn
  nest := by
    rintro c c' inner outer ⟨-, -, nest, warnings, -, -, rfl⟩ hn
    exact hn
  box _ _ _ hn := hn

theorem Operation.nextMark_le (b : Backend σ ρ) (op : Operation σ) (s : Session σ ρ) :
    ((op.attempt b).after s).chart.nextMark ≤ s.chart.nextMark + 1 := by
  by_cases hadds : ∃ spec, op = .call (.addMark spec)
  · obtain ⟨spec, rfl⟩ := hadds
    cases hadd : s.chart.addMark spec with
    | error e =>
      have hafter : ((Call.addMark spec).attempt b).after s = s :=
        after_edit_of_error (by rw [hadd]; rfl)
      show (((Call.addMark spec).attempt b).after s).chart.nextMark ≤ _
      rw [hafter]
      exact Nat.le_succ _
    | ok r =>
      have hafter : ((Call.addMark spec).attempt b).after s = { s with chart := r.2 } :=
        after_edit_of_ok (Except.map_eq_ok.mpr ⟨r, hadd, rfl⟩)
      have hadd' : s.chart.addMark spec = .ok (r.1, r.2) := hadd
      obtain ⟨channels, -, -, hr⟩ := Chart.addMark_inserts hadd'
      show (((Call.addMark spec).attempt b).after s).chart.nextMark ≤ _
      rw [hafter, hr]
      exact Nat.le_refl _
  · have hsame := Operation.keeps (keptByRelating_nextMark s.chart.nextMark) b op
      (fun spec heq => absurd ⟨spec, heq⟩ hadds) s rfl
    exact Nat.le_succ_of_le (Nat.le_of_eq hsame)

/-- Every number was the next one at some time. -/
theorem exists_nextMark (b : Backend σ ρ) {s : Session σ ρ} (hs : s.chart.nextMark = 0) {n : Nat}
    (ops : List (Operation σ)) (hn : n ≤ (operated b s ops).chart.nextMark) :
    ∃ before after, ops = before ++ after ∧ (operated b s before).chart.nextMark = n := by
  induction ops using List.reverseRecOn with
  | nil => exact ⟨[], [], rfl, by simp_all [operated]⟩
  | append_singleton ops op ih =>
    by_cases hle : n ≤ (operated b s ops).chart.nextMark
    · obtain ⟨before, after, rfl, hbefore⟩ := ih hle
      exact ⟨before, after ++ [op], List.append_assoc _ _ _, hbefore⟩
    · refine ⟨ops ++ [op], [], (List.append_nil _).symm, ?_⟩
      have hstep := Operation.nextMark_le b op (operated b s ops)
      rw [operated_append] at hn ⊢
      exact Nat.le_antisymm (Nat.le_trans hstep (Nat.lt_of_not_le hle)) hn

end Session

end KeyChart
