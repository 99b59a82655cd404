import KeyChart.Proofs.Chart.Sessions
import KeyChart.Proofs.Numerals
import KeyChart.Rehearsal

/-!
# The tables of marks

Where a new mark gets its table's name from: it is numbered as the mark itself,
or by the catalog if a table of that name is known. Neither of the two counters
hands out a number twice, but nothing keeps a number of the one from being a
number of the other: a chosen name is not known to the catalog until the mark's
rows are stored. So two marks share a table exactly if the catalog gave the one
the number under which the other has its own.
-/

namespace KeyChart

open Attempt

/-! ## Numbered names -/

theorem Catalog.numberedName_injective (stem : String) {m n : Nat}
    (h : numberedName stem m = numberedName stem n) : m = n := numbered_injective stem h

/-- Of one name more than there are tables, one is that of no table. -/
theorem Catalog.containsTable_freshTableName (c : Catalog) (stem : String) :
    c.containsTable (c.freshTableName stem).1 = false := by
  show c.containsTable (numberedName stem (c.freshNumber stem)) = false
  unfold freshNumber
  cases hfind : (List.range' c.nextId (c.tables.entries.length + 1)).find? fun n =>
      !c.containsTable (numberedName stem n) with
  | some n => simpa using List.find?_some hfind
  | none =>
    obtain ⟨n, hn, hfree⟩ := exists_free_number (numberedName_injective stem) c.tables.keys c.nextId
    rw [SortedMap.keys, List.length_map] at hn
    have htaken := List.find?_eq_none.mp hfind n hn
    simp only [Bool.not_eq_true, Bool.not_eq_false'] at htaken
    obtain ⟨t, ht⟩ := containsTable_iff.mp htaken
    exact absurd (SortedMap.mem_keys.mpr ⟨t, table_eq_ok.mp ht⟩) hfree

/-! ## Choosing a table -/

/-- How the name of a mark's table was found: the number of the mark, whether
the name with this number was taken, and the number that the catalog had ready. -/
structure Naming where
  number : Nat
  taken : Bool
  drawn : Nat

/-- The name that was chosen. -/
def Naming.table (stem : String) (x : Naming) : String :=
  Catalog.numberedName stem (if x.taken then x.drawn else x.number)

/-- The catalog gave one mark the number under which another has its own name. -/
def Naming.Clashes (x y : Naming) : Prop :=
  x.taken = false ∧ y.taken = true ∧ y.drawn = x.number

theorem Naming.Clashes.table_eq {x y : Naming} (h : x.Clashes y) (stem : String) :
    x.table stem = y.table stem := by
  obtain ⟨hx, hy, heq⟩ := h
  rw [table, table, hx, hy, heq]
  rfl

namespace Chart

variable {c c' : Chart} {xs : List Naming}

/-- How the table of the next mark would be found. -/
def naming (c : Chart) : Naming where
  number := c.nextMark
  taken := c.catalog.containsTable (Catalog.numberedName c.config.tableStem c.nextMark)
  drawn := c.catalog.freshNumber c.config.tableStem

theorem newMarkTable_name (c : Chart) :
    (c.newMarkTable ⟨c.nextMark⟩).1 = c.naming.table c.config.tableStem := by
  unfold newMarkTable Naming.table naming
  dsimp only
  split <;> rfl

/-- A number that the catalog has given a mark is used up. -/
theorem newMarkTable_nextId (c : Chart) :
    c.catalog.nextId ≤ (c.newMarkTable ⟨c.nextMark⟩).2.nextId ∧
      (c.naming.taken = true → c.naming.drawn < (c.newMarkTable ⟨c.nextMark⟩).2.nextId) := by
  have hfresh := c.catalog.nextId_le_freshNumber c.config.tableStem
  unfold newMarkTable naming
  dsimp only
  split
  case isTrue htaken =>
    refine ⟨Nat.le_succ_of_le hfresh, ?_⟩
    intro _
    exact Nat.lt_succ_self _
  case isFalse hfree => exact ⟨Nat.le_refl _, fun htaken => absurd htaken hfree⟩

theorem containsTable_newMarkTable (c : Chart) (id : MarkId) :
    c.catalog.containsTable (c.newMarkTable id).1 = false := by
  unfold newMarkTable
  dsimp only
  split
  case isTrue => exact c.catalog.containsTable_freshTableName _
  case isFalse hfree => exact Bool.not_eq_true _ ▸ hfree

/-- Choosing a table for a mark registers none. -/
theorem exists_newMarkTable (c : Chart) (id : MarkId) :
    ∃ n, c.catalog.nextId ≤ n ∧ (c.newMarkTable id).2 = { c.catalog with nextId := n } := by
  unfold newMarkTable
  dsimp only
  split
  case isTrue => exact ⟨_, Nat.le_succ_of_le (c.catalog.nextId_le_freshNumber _), rfl⟩
  case isFalse => exact ⟨_, Nat.le_refl _, rfl⟩

theorem addMark_eq_ok {spec : MarkSpec} {id : MarkId} (h : c.addMark spec = .ok (id, c')) :
    ∃ m : Mark, m.table = c.naming.table c.config.tableStem ∧
      c'.marks = c.marks.insert ⟨c.nextMark⟩ m ∧ c'.config = c.config ∧
      c'.nextMark = c.nextMark + 1 ∧ c'.catalog = (c.newMarkTable ⟨c.nextMark⟩).2 := by
  obtain ⟨channels, -, -, rfl⟩ := addMark_inserts h
  exact ⟨_, c.newMarkTable_name, rfl, rfl, rfl, rfl⟩

/-- What a chart says of the names that were chosen, in the order of the marks:
its marks have these tables, and neither counter has gone back. -/
structure Named (c : Chart) (xs : List Naming) : Prop where
  tables : ∀ id t, (c.marks.find? id).map Mark.table = some t ↔
    ∃ x ∈ xs, id = ⟨x.number⟩ ∧ t = x.table c.config.tableStem
  below : ∀ x ∈ xs, x.number < c.nextMark ∧ (x.taken = true → x.drawn < c.catalog.nextId)
  rising : xs.Pairwise fun x y =>
    x.number < y.number ∧ (x.taken = true → y.taken = true → x.drawn < y.drawn)

theorem named_ofConfig (config : ChartConfig) : (ofConfig config).Named [] where
  tables := by simp [ofConfig]
  below := by simp
  rising := .nil

theorem Named.continues (h : c.Named xs) (hc : c.Continues c') : c'.Named xs where
  tables := by
    intro id t
    rw [hc.tables, hc.config]
    exact h.tables id t
  below := by
    intro x hx
    obtain ⟨hnumber, hdrawn⟩ := h.below x hx
    rw [hc.nextMark]
    exact ⟨hnumber, fun htaken => Nat.lt_of_lt_of_le (hdrawn htaken) hc.nextId⟩
  rising := h.rising

theorem Named.addMark (h : c.Named xs) {spec : MarkSpec} {id : MarkId}
    (hadd : c.addMark spec = .ok (id, c')) : c'.Named (xs ++ [c.naming]) := by
  obtain ⟨m, htable, hmarks, hconfig, hnext, hcatalog⟩ := addMark_eq_ok hadd
  obtain ⟨hle, hlt⟩ := c.newMarkTable_nextId
  refine ⟨?_, ?_, ?_⟩
  · intro id t
    rw [hmarks, hconfig, SortedMap.find?_insert]
    by_cases hid : id = ⟨c.nextMark⟩
    · -- The number is new, so that no earlier mark has it.
      rw [if_pos hid, Option.map_some, htable, Option.some.injEq]
      constructor
      · intro ht
        exact ⟨c.naming, by simp, hid, ht.symm⟩
      · rintro ⟨x, hx, hnumber, ht⟩
        rcases List.mem_append.mp hx with hx | hx
        · have hbelow := (h.below x hx).1
          rw [hid] at hnumber
          simp only [MarkId.mk.injEq] at hnumber
          omega
        · rw [List.mem_singleton.mp hx] at ht
          exact ht.symm
    · rw [if_neg hid, h.tables id t]
      constructor
      · rintro ⟨x, hx, hnumber, ht⟩
        exact ⟨x, List.mem_append_left _ hx, hnumber, ht⟩
      · rintro ⟨x, hx, hnumber, ht⟩
        rcases List.mem_append.mp hx with hx | hx
        · exact ⟨x, hx, hnumber, ht⟩
        · rw [List.mem_singleton.mp hx] at hnumber
          exact absurd hnumber hid
  · intro x hx
    rw [hnext, hcatalog]
    rcases List.mem_append.mp hx with hx | hx
    · obtain ⟨hnumber, hdrawn⟩ := h.below x hx
      exact ⟨Nat.lt_succ_of_lt hnumber, fun htaken => Nat.lt_of_lt_of_le (hdrawn htaken) hle⟩
    · rw [List.mem_singleton.mp hx]
      exact ⟨Nat.lt_succ_self _, hlt⟩
  · refine List.pairwise_append.mpr ⟨h.rising, List.pairwise_singleton _ _, ?_⟩
    intro x hx y hy
    rw [List.mem_singleton.mp hy]
    obtain ⟨hnumber, hdrawn⟩ := h.below x hx
    refine ⟨hnumber, fun htaken _ => ?_⟩
    exact Nat.lt_of_lt_of_le (hdrawn htaken) (c.catalog.nextId_le_freshNumber _)

/-- A mark's table was found once. -/
theorem Named.eq_of_number (h : c.Named xs) {x y : Naming} (hx : x ∈ xs) (hy : y ∈ xs)
    (heq : x.number = y.number) : x = y := by
  refine List.Pairwise.forall_of_forall_of_flip
    (R := fun x y : Naming => x.number = y.number → x = y) (fun x _ _ => rfl) ?_ ?_ hx hy heq
  · exact h.rising.imp fun hxy heq => absurd heq (Nat.ne_of_lt hxy.1)
  · exact h.rising.imp fun hxy heq => absurd heq.symm (Nat.ne_of_lt hxy.1)

/-- The catalog has given no two marks one number. -/
theorem Named.eq_of_drawn (h : c.Named xs) {x y : Naming} (hx : x ∈ xs) (hy : y ∈ xs)
    (htx : x.taken = true) (hty : y.taken = true) (heq : x.drawn = y.drawn) : x = y := by
  refine List.Pairwise.forall_of_forall_of_flip
    (R := fun x y : Naming => x.taken = true → y.taken = true → x.drawn = y.drawn → x = y)
    (fun x _ _ _ _ => rfl) ?_ ?_ hx hy htx hty heq
  · exact h.rising.imp fun hxy htx hty heq => absurd heq (Nat.ne_of_lt (hxy.2 htx hty))
  · exact h.rising.imp fun hxy hty htx heq => absurd heq.symm (Nat.ne_of_lt (hxy.2 htx hty))

/-- Two marks have one name only if the two counters gave them one number. -/
theorem Named.table_eq_iff (h : c.Named xs) {x y : Naming} (hx : x ∈ xs) (hy : y ∈ xs)
    (stem : String) : x.table stem = y.table stem ↔ x = y ∨ x.Clashes y ∨ y.Clashes x := by
  constructor
  · intro htable
    have hnumber := Catalog.numberedName_injective stem htable
    cases hx' : x.taken with
    | false =>
      cases hy' : y.taken with
      | false =>
        simp only [hx', hy', Bool.false_eq_true, if_false] at hnumber
        exact .inl (h.eq_of_number hx hy hnumber)
      | true =>
        simp only [hx', hy', Bool.false_eq_true, if_false, if_true] at hnumber
        exact .inr (.inl ⟨hx', hy', hnumber.symm⟩)
    | true =>
      cases hy' : y.taken with
      | false =>
        simp only [hx', hy', Bool.false_eq_true, if_false, if_true] at hnumber
        exact .inr (.inr ⟨hy', hx', hnumber⟩)
      | true =>
        simp only [hx', hy', if_true] at hnumber
        exact .inl (h.eq_of_drawn hx hy hx' hy' hnumber)
  · rintro (rfl | hclash | hclash)
    · rfl
    · exact hclash.table_eq stem
    · exact (hclash.table_eq stem).symm

theorem Named.exists_mark (h : c.Named xs) {x : Naming} (hx : x ∈ xs) :
    ∃ m, c.mark ⟨x.number⟩ = .ok m ∧ m.table = x.table c.config.tableStem := by
  obtain ⟨m, hm, htable⟩ := Option.map_eq_some_iff.mp ((h.tables _ _).mpr ⟨x, hx, rfl, rfl⟩)
  exact ⟨m, mark_eq_ok.mpr hm, htable⟩

theorem Named.exists_naming (h : c.Named xs) {id : MarkId} {m : Mark} (hm : c.mark id = .ok m) :
    ∃ x ∈ xs, id = ⟨x.number⟩ ∧ m.table = x.table c.config.tableStem := by
  refine (h.tables id m.table).mp ?_
  rw [mark_eq_ok.mp hm]
  rfl

end Chart

/-! ## Sequences of calls -/

namespace Session

variable {σ ρ : Type}

/-- How a call finds the table of a mark, if it adds one. -/
def Call.namings (s : Session σ ρ) : Call → List Naming
  | .addMark spec => if (s.chart.addMark spec).isOk then [s.chart.naming] else []
  | _ => []

/-- How calls find the tables of the marks that they add. -/
def namings (b : Backend σ ρ) : Session σ ρ → List Call → List Naming
  | _, [] => []
  | s, call :: rest => call.namings s ++ namings b ((call.attempt b).after s) rest

theorem Call.named (b : Backend σ ρ) (call : Call) {s : Session σ ρ} {xs : List Naming}
    (h : s.chart.Named xs) : ((call.attempt b).after s).chart.Named (xs ++ call.namings s) := by
  by_cases hadds : ∃ spec, call = .addMark spec
  · obtain ⟨spec, rfl⟩ := hadds
    cases hadd : s.chart.addMark spec with
    | error e =>
      have hafter : ((Call.addMark spec).attempt b).after s = s :=
        after_edit_of_error (by rw [hadd]; rfl)
      simpa [hafter, Call.namings, hadd, Except.isOk, Except.toBool] using h
    | ok r =>
      have hafter : ((Call.addMark spec).attempt b).after s = { s with chart := r.2 } :=
        after_edit_of_ok (Except.map_eq_ok.mpr ⟨r, hadd, rfl⟩)
      rw [hafter]
      simpa [Call.namings, hadd, Except.isOk, Except.toBool] using h.addMark hadd
  · -- Other calls find no tables and leave the marks theirs.
    have hother : ∀ spec, call ≠ .addMark spec := fun spec heq => hadds ⟨spec, heq⟩
    have hnone : call.namings s = [] := by
      cases call with
      | addMark spec => exact absurd rfl (hother spec)
      | _ => rfl
    rw [hnone, List.append_nil]
    exact h.continues (Call.continuing b hother s (Chart.Continues.refl s.chart))

theorem reached_named (b : Backend σ ρ) (calls : List Call) {s : Session σ ρ} {xs : List Naming}
    (h : s.chart.Named xs) : (reached b s calls).chart.Named (xs ++ namings b s calls) := by
  induction calls generalizing s xs with
  | nil => simpa [reached, namings] using h
  | cons call rest ih =>
    rw [namings, ← List.append_assoc]
    exact ih (call.named b h)

end Session

open Session

/-- After any calls, different marks have different tables exactly if no mark
that got its table's number from the catalog, because the name with its own was
taken, got the number of a mark that has the name with its own. -/
theorem mark_tables_differ_iff {σ ρ : Type} (b : Backend σ ρ) (config : ChartConfig) (engine : σ)
    (renderer : ρ) (calls : List Session.Call) :
    (∀ i j m m', (reached b (start config engine renderer) calls).chart.mark i = .ok m →
      (reached b (start config engine renderer) calls).chart.mark j = .ok m' →
      i ≠ j → m.table ≠ m'.table) ↔
    ∀ x ∈ namings b (start config engine renderer) calls,
      ∀ y ∈ namings b (start config engine renderer) calls, ¬ x.Clashes y := by
  have hnamed := reached_named b calls (s := start config engine renderer)
    (Chart.named_ofConfig config)
  rw [List.nil_append] at hnamed
  constructor
  · intro hdiffer x hx y hy hclash
    obtain ⟨m, hm, htable⟩ := hnamed.exists_mark hx
    obtain ⟨m', hm', htable'⟩ := hnamed.exists_mark hy
    refine hdiffer _ _ m m' hm hm' ?_ ?_
    · -- Marks of one number were named alike, and these were not.
      intro hid
      obtain rfl := hnamed.eq_of_number hx hy (MarkId.mk.inj hid)
      have htaken := hclash.1.symm.trans hclash.2.1
      cases htaken
    · rw [htable, htable', hclash.table_eq]
  · intro hapart i j m m' hm hm' hne htable
    obtain ⟨x, hx, rfl, hxt⟩ := hnamed.exists_naming hm
    obtain ⟨y, hy, rfl, hyt⟩ := hnamed.exists_naming hm'
    rw [hxt, hyt] at htable
    rcases (hnamed.table_eq_iff hx hy _).mp htable with rfl | hclash | hclash
    · exact hne rfl
    · exact hapart x hx y hy hclash
    · exact hapart y hy x hx hclash

/-- An engine that has kept the rows of a mark drawn earlier. -/
def keptRows : Rehearsal.Script where
  results := []
  tables := SortedMap.ofList [("mark_0", ⟨[⟨"id", .numeric⟩], [.primaryKey ["id"]]⟩)]
  refused := []
  calls := []

/-- Two marks that draw these rows again. -/
def redrawnRows : Session Rehearsal.Script Nat :=
  reached ⟨Rehearsal.engine, Rehearsal.renderer {} []⟩ (start {} keptRows 0)
    [.importTable "mark_0", .addMark { source := "mark_0", shape := .rect },
      .addMark { source := "mark_0", shape := .rect }]

/-- The name with the number of the first mark is taken, so the catalog gives it
number one, which is that of the second mark. -/
theorem mark_tables_collide :
    ¬ ∀ i j m m', redrawnRows.chart.mark i = .ok m → redrawnRows.chart.mark j = .ok m' →
      i ≠ j → m.table ≠ m'.table := by
  have hfirst : (redrawnRows.chart.marks.find? ⟨0⟩).map Mark.table = some "mark_1" := by
    decide +kernel
  have hsecond : (redrawnRows.chart.marks.find? ⟨1⟩).map Mark.table = some "mark_1" := by
    decide +kernel
  obtain ⟨m, hm, htable⟩ := Option.map_eq_some_iff.mp hfirst
  obtain ⟨m', hm', htable'⟩ := Option.map_eq_some_iff.mp hsecond
  intro hdiffer
  refine hdiffer _ _ m m' (Chart.mark_eq_ok.mpr hm) (Chart.mark_eq_ok.mpr hm') (by decide) ?_
  rw [htable, htable']

end KeyChart
