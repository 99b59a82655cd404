import KeyChart.Proofs.Catalog.Loading

/-!
# Ties of stored rows

The table in which a mark's rows are stored is registered with its row identity as primary
key and with a foreign key that ties it to the table that the rows were drawn from. The
numbers of these two follow one another, so that they tell when a table was made. A tie
goes when the table at either end is made anew. So it is there as long as the table that
the rows were drawn from has not been made later than the table of the rows.
-/

namespace KeyChart.Catalog

open Attempt

variable {c d d' : Catalog} {table source : String} {n : Nat}

/-! ## Numbers of keys and ties -/

/-- The row identity of a table was registered as its primary key, under a number. -/
def KeyedAt (c : Catalog) (table : String) (n : Nat) : Prop :=
  c.constraint? ⟨n⟩ = some (.primaryKey table (SortedSet.ofList [rowId]))

/-- The foreign key between the row identities of two tables, one row to one. -/
def tie (table source : String) : ForeignKey := ⟨⟨table, [rowId]⟩, ⟨source, [rowId]⟩, .oneOne⟩

/-- The row identity of a table is tied to that of another, under a number. -/
def TiedAt (c : Catalog) (table source : String) (n : Nat) : Prop :=
  c.constraint? ⟨n⟩ = some (.foreignKey (tie table source))

/-- The row identity of every table is a key. -/
def RowKeyed (c : Catalog) : Prop :=
  ∀ name t, c.table name = .ok t → SortedSet.ofList [rowId] ∈ t.keys

theorem WellFormed.containsTable_of_keyedAt (hc : c.WellFormed) (h : c.KeyedAt table n) :
    c.containsTable table = true :=
  hc.known _ _ h table (by simp [Constraint.tables])

theorem WellFormed.containsTable_of_tiedAt (hc : c.WellFormed) (h : c.TiedAt table source n) :
    c.containsTable table = true ∧ c.containsTable source = true :=
  ⟨hc.known _ _ h table (by simp [Constraint.tables, tie]),
    hc.known _ _ h source (by simp [Constraint.tables, tie])⟩

/-- Rows drawn from tables are stored in tables: `drawn table source` says which in which.
Every table of rows is a derived one and was made once. Its tie is there exactly if no
table of rows that it was drawn from was made after it. -/
structure Tied (drawn : String → String → Prop) (c : Catalog) : Prop where
  wellFormed : c.WellFormed
  keyed : c.RowKeyed
  stored : ∀ {t s u}, drawn t s → c.table t = .ok u → u.derived = true ∧ ∃ n, c.KeyedAt t n
  once : ∀ {t s m n}, drawn t s → c.KeyedAt t m → c.KeyedAt t n → m = n
  tied : ∀ {t s n}, drawn t s → c.KeyedAt t n → (∀ s', drawn s s' → ∃ m < n, c.KeyedAt s m) →
    c.TiedAt t s (n + 1)
  untied : ∀ {t s s' n}, drawn t s → drawn s s' → c.KeyedAt t n → (∀ m < n, ¬ c.KeyedAt s m) →
    ¬ c.TiedAt t s (n + 1) ∧ (n + 1 < c.nextId ∨ c.containsTable s = false)

theorem tied_empty (drawn : String → String → Prop) : Tied drawn empty where
  wellFormed := wellFormed_empty
  keyed name t ht := by simp [table_eq_ok, empty] at ht
  stored _ ht := by simp [table_eq_ok, empty] at ht
  once _ hm := by cases hm
  tied _ hn := by cases hn
  untied _ _ hn := by cases hn

/-! ## Registering -/

theorem RowKeyed.insert (hc : c.RowKeyed) {name : String} {t : Table}
    (ht : SortedSet.ofList [rowId] ∈ t.keys) :
    ({ c with tables := c.tables.insert name t } : Catalog).RowKeyed := by
  intro name' t' ht'
  rw [table_insert_eq_ok] at ht'
  split at ht'
  · rwa [← ht']
  · exact hc name' t' ht'

theorem RowKeyed.addTable (hc : c.RowKeyed) {t : Table} (ht : SortedSet.ofList [rowId] ∈ t.keys)
    (h : c.addTable t = .ok d) : d.RowKeyed := by
  obtain ⟨-, rfl⟩ := addTable_eq_ok h
  exact hc.insert ht

theorem RowKeyed.addConstraint (hc : c.RowKeyed) {name : Option String} {k : Constraint}
    {id : ConstraintId} (h : c.addConstraint name k = .ok (id, d)) : d.RowKeyed := by
  obtain ⟨c₁, happly, -, rfl⟩ := addConstraint_eq_ok h
  rcases applyConstraint_eq_ok happly with ⟨table, key, -, hkey⟩ | ⟨fk, -, -, rfl⟩
  · obtain ⟨t, t', ht, hadd, rfl⟩ := addKey_eq_ok hkey
    have hold := (Table.addKey_eq_ok hadd).2.2.1
    exact hc.insert (hold _ (hc table t ht))
  · exact hc

/-- The constraints that a catalog has beyond another have later numbers. -/
structure Later (c d : Catalog) : Prop where
  numbers : c.nextId ≤ d.nextId
  constraints : ∀ id k, d.constraint? id = some k →
    c.constraint? id = some k ∨ c.nextId ≤ id.index

theorem keptByAdding_later (c : Catalog) : KeptByAdding c.Later where
  table _ hd := ⟨hd.numbers, hd.constraints⟩
  constraint := by
    intro d name k _ hd
    refine ⟨Nat.le_succ_of_le hd.numbers, ?_⟩
    intro id k' hk'
    rw [constraint?_register] at hk'
    split at hk'
    case isTrue hid =>
      right
      rw [hid]
      exact hd.numbers
    case isFalse => exact hd.constraints id k' hk'
  number hn hd := ⟨Nat.le_trans hd.numbers hn, hd.constraints⟩

/-! ## Loading -/

/-- What loading tables makes of a catalog: all that was registered stays, and primary keys
are registered of new tables only. -/
structure Extends (c d : Catalog) : Prop where
  wellFormed : d.WellFormed
  keyed : d.RowKeyed
  grown : c.Grown d
  later : c.Later d
  primary : ∀ id table key, d.constraint? id = some (.primaryKey table key) →
    c.constraint? id = some (.primaryKey table key) ∨ c.containsTable table = false

theorem Extends.refl (hc : c.WellFormed) (hkeyed : c.RowKeyed) : c.Extends c where
  wellFormed := hc
  keyed := hkeyed
  grown := .refl c
  later := ⟨Nat.le_refl _, fun _ _ h => .inl h⟩
  primary _ _ _ h := .inl h

theorem Extends.number (h : c.Extends d) (hn : d.nextId ≤ n) : c.Extends { d with nextId := n } where
  wellFormed := keptByAdding_wellFormed.number hn h.wellFormed
  keyed := h.keyed
  grown := ⟨h.grown.tables, h.grown.constraints, Nat.le_trans h.grown.numbers hn⟩
  later := ⟨Nat.le_trans h.later.numbers hn, h.later.constraints⟩
  primary := h.primary

section Extends

variable (hc : c.WellFormed)
include hc

theorem Extends.addTable (h : c.Extends d) {t : Table} (ht : SortedSet.ofList [rowId] ∈ t.keys)
    (hadd : d.addTable t = .ok d') : c.Extends d' where
  wellFormed := keptByAdding_wellFormed.addTable hadd h.wellFormed
  keyed := h.keyed.addTable ht hadd
  grown := hc.keptByAdding_grown.addTable hadd h.grown
  later := (keptByAdding_later c).addTable hadd h.later
  primary := by
    obtain ⟨-, rfl⟩ := addTable_eq_ok hadd
    exact h.primary

theorem Extends.addConstraint (h : c.Extends d) {name : Option String} {k : Constraint}
    {id : ConstraintId} (hk : ∀ table key, k = .primaryKey table key → c.containsTable table = false)
    (hadd : d.addConstraint name k = .ok (id, d')) : c.Extends d' where
  wellFormed := keptByAdding_wellFormed.addConstraint hadd h.wellFormed
  keyed := h.keyed.addConstraint hadd
  grown := hc.keptByAdding_grown.addConstraint hadd h.grown
  later := (keptByAdding_later c).addConstraint hadd h.later
  primary := by
    obtain ⟨c₁, happly, rfl, rfl⟩ := addConstraint_eq_ok hadd
    have hsame : c₁.constraint? = d.constraint? := by
      rcases applyConstraint_eq_ok happly with ⟨table, key, -, hkey⟩ | ⟨fk, -, -, rfl⟩
      · obtain ⟨t, t', -, -, rfl⟩ := addKey_eq_ok hkey
        rfl
      · rfl
    intro id' table key hid'
    rw [constraint?_register, hsame] at hid'
    split at hid'
    · exact .inr (hk table key (Option.some.inj hid'))
    · exact h.primary id' table key hid'

theorem Extends.addForeignKey (h : c.Extends d) {t1 t2 : String} {x y : List String}
    {name : Option String} {id : ConstraintId}
    (hadd : d.addForeignKey t1 x t2 y name = .ok (id, d')) : c.Extends d' := by
  obtain ⟨first, second, fk, -, -, -, hadd⟩ := addForeignKey_eq_ok hadd
  refine h.addConstraint hc ?_ hadd
  intro table key hk
  cases hk

end Extends

theorem Extends.containsTable (h : c.Extends d) {name : String}
    (hname : c.containsTable name = true) : d.containsTable name = true := by
  obtain ⟨t, ht⟩ := containsTable_iff.mp hname
  obtain ⟨t', ht', -⟩ := h.grown.tables ht
  exact containsTable_iff.mpr ⟨t', ht'⟩

theorem keptByLoading_extends (hc : c.WellFormed) : KeptByLoading c c.Extends where
  known hd hname := hd.containsTable hname
  table _ ht hadd hd := hd.addTable hc ht hadd
  key := by
    intro d d' name k id table hnew hk hadd hd
    refine hd.addConstraint hc ?_ hadd
    rintro table' key rfl
    rwa [List.singleton_inj.mp hk.tables]
  foreignKey hadd hd := hd.addForeignKey hc hadd

/-! ## Ties stay as they are -/

section Tied

variable {drawn : String → String → Prop}

/-- Loading other tables leaves the tables of rows and their ties alone. -/
theorem Tied.extends (hc : Tied drawn c) (h : c.Extends d)
    (hother : ∀ t s, drawn t s → d.containsTable t = true → c.containsTable t = true) :
    Tied drawn d := by
  have hkeyed : ∀ {t s n}, drawn t s → (d.KeyedAt t n ↔ c.KeyedAt t n) := by
    intro t s n hd
    refine ⟨?_, h.grown.constraints⟩
    intro hn
    rcases h.primary _ _ _ hn with hold | hnew
    · exact hold
    · have hin := hother t s hd (h.wellFormed.containsTable_of_keyedAt hn)
      rw [hin] at hnew
      cases hnew
  refine ⟨h.wellFormed, h.keyed, ?_, ?_, ?_, ?_⟩
  · intro t s u hd hu
    obtain ⟨u₀, hu₀⟩ := containsTable_iff.mp (hother t s hd (containsTable_iff.mpr ⟨u, hu⟩))
    obtain ⟨hderived, n, hn⟩ := hc.stored hd hu₀
    obtain ⟨u₁, hu₁, -, -, hsame⟩ := h.grown.tables hu₀
    rw [hu] at hu₁
    cases hu₁
    exact ⟨hsame.trans hderived, n, h.grown.constraints hn⟩
  · intro t s m n hd hm hn
    exact hc.once hd ((hkeyed hd).mp hm) ((hkeyed hd).mp hn)
  · intro t s n hd hn hbefore
    refine h.grown.constraints (hc.tied hd ((hkeyed hd).mp hn) ?_)
    intro s' hs'
    obtain ⟨m, hm, hkey⟩ := hbefore s' hs'
    exact ⟨m, hm, (hkeyed hs').mp hkey⟩
  · intro t s s' n hd hs' hn hnot
    obtain ⟨huntied, hlate⟩ := hc.untied hd hs' ((hkeyed hd).mp hn) fun m hm hkey =>
      hnot m hm ((hkeyed hs').mpr hkey)
    have hgone : c.containsTable s = false → d.containsTable s = false := by
      intro hgone
      by_contra hin
      rw [Bool.not_eq_false] at hin
      rw [hother s s' hs' hin] at hgone
      cases hgone
    refine ⟨?_, ?_⟩
    · -- A tie that was registered meanwhile has a later number, and a table for it.
      intro htie
      rcases h.later.constraints _ _ htie with hold | hlater
      · exact huntied hold
      · rcases hlate with hnumber | hmissing
        · exact Nat.not_lt.mpr hlater hnumber
        · rw [(h.wellFormed.containsTable_of_tiedAt htie).2] at hgone
          cases hgone hmissing
    · exact hlate.imp (fun hnumber => Nat.lt_of_lt_of_le hnumber h.later.numbers) hgone

/-- Dropping a table of rows unties the tables that were drawn from it. -/
theorem Tied.dropTable (hc : Tied drawn c) (hdrawn : drawn table source) {u : Table}
    (h : c.dropTable table = .ok (u, d)) : Tied drawn d := by
  have hkeyed : ∀ {t n}, d.KeyedAt t n ↔ c.KeyedAt t n ∧ t ≠ table := by
    intro t n
    rw [KeyedAt, constraint?_dropTable h]
    simp [KeyedAt, Constraint.tables, eq_comm]
  have htied : ∀ {t s n}, d.TiedAt t s n ↔ c.TiedAt t s n ∧ t ≠ table ∧ s ≠ table := by
    intro t s n
    rw [TiedAt, constraint?_dropTable h]
    simp [TiedAt, Constraint.tables, tie, eq_comm]
  have hnext : d.nextId = c.nextId := by
    rw [(dropTable_eq_ok h).2]
  refine ⟨hc.wellFormed.dropTable h, ?_, ?_, ?_, ?_, ?_⟩
  · intro name t ht
    exact hc.keyed name t ((table_dropTable h).mp ht).2
  · intro t s u hd hu
    obtain ⟨hne, hold⟩ := (table_dropTable h).mp hu
    obtain ⟨hderived, n, hn⟩ := hc.stored hd hold
    exact ⟨hderived, n, hkeyed.mpr ⟨hn, hne⟩⟩
  · intro t s m n hd hm hn
    exact hc.once hd (hkeyed.mp hm).1 (hkeyed.mp hn).1
  · intro t s n hd hn hbefore
    obtain ⟨hn, ht⟩ := hkeyed.mp hn
    have hs : s ≠ table := by
      rintro rfl
      obtain ⟨m, -, hm⟩ := hbefore source hdrawn
      exact (hkeyed.mp hm).2 rfl
    refine htied.mpr ⟨hc.tied hd hn ?_, ht, hs⟩
    intro s' hs'
    obtain ⟨m, hlt, hm⟩ := hbefore s' hs'
    exact ⟨m, hlt, (hkeyed.mp hm).1⟩
  · intro t s s' n hd hs' hn hnot
    obtain ⟨hn, ht⟩ := hkeyed.mp hn
    by_cases hs : s = table
    · refine ⟨fun htie => (htied.mp htie).2.2 hs, .inr ?_⟩
      rw [← Bool.not_eq_true, containsTable_dropTable h]
      exact fun hin => hin.1 hs
    · obtain ⟨huntied, hlate⟩ := hc.untied hd hs' hn fun m hm hkey =>
        hnot m hm (hkeyed.mpr ⟨hkey, hs⟩)
      refine ⟨fun htie => huntied (htied.mp htie).1, ?_⟩
      rw [hnext]
      refine hlate.imp_right fun hmissing => ?_
      rw [← Bool.not_eq_true, containsTable_dropTable h, hmissing]
      simp

/-! ## Making a table of rows -/

/-- A catalog with a new table of rows, the primary key on its row identity, and, if the
table that the rows were drawn from is known, the tie to it. -/
structure Makes (c d : Catalog) (table source : String) : Prop where
  wellFormed : d.WellFormed
  keyed : d.RowKeyed
  stored : ∃ u, d.table table = .ok u ∧ u.derived = true
  tables : ∀ name, name ≠ table → d.table name = c.table name
  constraints : ∀ id, d.constraint? id =
    if id = ⟨c.nextId⟩ then some (.primaryKey table (SortedSet.ofList [rowId]))
    else if id = ⟨c.nextId + 1⟩ ∧ c.containsTable source = true then
      some (.foreignKey (tie table source))
    else c.constraint? id
  numbers : c.nextId + 1 ≤ d.nextId

theorem Makes.keyedAt_iff (hc : c.WellFormed) (h : c.Makes d table source) {t : String} :
    d.KeyedAt t n ↔ c.KeyedAt t n ∨ (t = table ∧ n = c.nextId) := by
  have hbelow : c.KeyedAt t n → n < c.nextId := fun hn => hc.numbered _ _ hn
  rw [KeyedAt, h.constraints]
  split
  case isTrue hid =>
    obtain rfl := ConstraintId.mk.inj hid
    have hnot : ¬ c.KeyedAt t c.nextId := fun hn => Nat.lt_irrefl _ (hbelow hn)
    simp [hnot, eq_comm]
  case isFalse hid =>
    have hne : n ≠ c.nextId := fun heq => hid (congrArg _ heq)
    split
    case isTrue hnext =>
      obtain ⟨heq, -⟩ := hnext
      have hnot : ¬ c.KeyedAt t n := by
        intro hn
        have hlt := hbelow hn
        rw [ConstraintId.mk.inj heq] at hlt
        omega
      simp [hnot, hne]
    case isFalse => simp [hne, KeyedAt]

/-- A tie that goes with a key that was there before. -/
theorem Makes.tiedAt_iff (h : c.Makes d table source) {t s : String} (hn : n < c.nextId) :
    d.TiedAt t s (n + 1) ↔ c.TiedAt t s (n + 1) ∧ n + 1 ≠ c.nextId := by
  rw [TiedAt, h.constraints]
  split
  case isTrue hid => simp [ConstraintId.mk.inj hid]
  case isFalse hid =>
    have hne : n + 1 ≠ c.nextId := fun heq => hid (congrArg _ heq)
    rw [if_neg]
    · simp [TiedAt, hne]
    · rintro ⟨heq, -⟩
      have heq := ConstraintId.mk.inj heq
      omega

/-- Making a table of rows ties it, and leaves the others and their ties alone. -/
theorem Tied.makes (hc : Tied drawn c) (hone : ∀ t s s', drawn t s → drawn t s' → s = s')
    (hdrawn : drawn table source) (hne : source ≠ table) (hnew : c.containsTable table = false)
    (hsource : c.containsTable source = true ∨ ∃ s', drawn source s')
    (h : c.Makes d table source) : Tied drawn d := by
  have hkeyed : ∀ {t n}, d.KeyedAt t n ↔ c.KeyedAt t n ∨ (t = table ∧ n = c.nextId) :=
    h.keyedAt_iff hc.wellFormed
  have hbelow : ∀ {t n}, c.KeyedAt t n → n < c.nextId := fun hn => hc.wellFormed.numbered _ _ hn
  have hunkeyed : ∀ {t}, c.containsTable t = false → ∀ n, ¬ c.KeyedAt t n := by
    intro t hmissing n hn
    rw [hc.wellFormed.containsTable_of_keyedAt hn] at hmissing
    cases hmissing
  have hcontains : ∀ {t}, t ≠ table → d.containsTable t = c.containsTable t := by
    intro t ht
    rw [Bool.eq_iff_iff, containsTable_iff, containsTable_iff, h.tables t ht]
  refine ⟨h.wellFormed, h.keyed, ?_, ?_, ?_, ?_⟩
  · intro t s u hd hu
    by_cases ht : t = table
    · obtain ⟨u', hu', hderived⟩ := h.stored
      rw [ht, hu'] at hu
      cases hu
      exact ⟨hderived, c.nextId, hkeyed.mpr (.inr ⟨ht, rfl⟩)⟩
    · rw [h.tables t ht] at hu
      obtain ⟨hderived, n, hn⟩ := hc.stored hd hu
      exact ⟨hderived, n, hkeyed.mpr (.inl hn)⟩
  · intro t s m n hd hm hn
    rcases hkeyed.mp hm with hm | ⟨rfl, rfl⟩
    · rcases hkeyed.mp hn with hn | ⟨rfl, rfl⟩
      · exact hc.once hd hm hn
      · exact absurd hm (hunkeyed hnew m)
    · rcases hkeyed.mp hn with hn | ⟨-, rfl⟩
      · exact absurd hn (hunkeyed hnew n)
      · rfl
  · intro t s n hd hn hbefore
    rcases hkeyed.mp hn with hn | ⟨rfl, rfl⟩
    · -- A table that is made now does not come before one that was there.
      have htied : c.TiedAt t s (n + 1) := by
        apply hc.tied hd hn
        intro s' hs'
        obtain ⟨m, hm, hkey⟩ := hbefore s' hs'
        have hlt := hbelow hn
        rcases hkeyed.mp hkey with hkey | ⟨-, rfl⟩
        · exact ⟨m, hm, hkey⟩
        · omega
      have hlast : n + 1 < c.nextId := hc.wellFormed.numbered _ _ htied
      exact (h.tiedAt_iff (hbelow hn)).mpr ⟨htied, Nat.ne_of_lt hlast⟩
    · obtain rfl := hone _ _ _ hd hdrawn
      have hin : c.containsTable s = true := by
        rcases hsource with hin | ⟨s', hs'⟩
        · exact hin
        · obtain ⟨m, -, hkey⟩ := hbefore s' hs'
          rcases hkeyed.mp hkey with hkey | ⟨heq, -⟩
          · exact hc.wellFormed.containsTable_of_keyedAt hkey
          · exact absurd heq hne
      rw [TiedAt, h.constraints, if_neg, if_pos ⟨rfl, hin⟩]
      intro heq
      have heq := ConstraintId.mk.inj heq
      omega
  · intro t s s' n hd hs' hn hnot
    rcases hkeyed.mp hn with hn | ⟨rfl, rfl⟩
    · obtain ⟨huntied, -⟩ := hc.untied hd hs' hn fun m hm hkey =>
        hnot m hm (hkeyed.mpr (.inl hkey))
      refine ⟨fun htie => huntied ((h.tiedAt_iff (hbelow hn)).mp htie).1, .inl ?_⟩
      have hlt := hbelow hn
      have hnumbers := h.numbers
      omega
    · -- The table that the rows were drawn from is missing, or else it was made before.
      obtain rfl := hone _ _ _ hd hdrawn
      have hmissing : c.containsTable s = false := by
        by_contra hin
        rw [Bool.not_eq_false, containsTable_iff] at hin
        obtain ⟨u, hu⟩ := hin
        obtain ⟨-, m, hm⟩ := hc.stored hs' hu
        exact hnot m (hbelow hm) (hkeyed.mpr (.inl hm))
      rw [← hcontains hne] at hmissing
      refine ⟨?_, .inr hmissing⟩
      intro htie
      rw [(h.wellFormed.containsTable_of_tiedAt htie).2] at hmissing
      cases hmissing

end Tied

/-! ## How a table of rows is made -/

/-- Registers a table of rows, its primary key and its tie. -/
def makeTable (t : Table) (source : String) : Attempt Catalog Unit := do
  atomic fun c => (c.addTable t).map fun c => ((), c)
  atomic fun c =>
    (c.addConstraint none (.primaryKey t.name (SortedSet.ofList [rowId]))).map fun r => ((), r.2)
  atomic fun c => (c.addForeignKey t.name [rowId] source [rowId]).map fun r => ((), r.2)

theorem run_makeTable {t : Table} {c₁ c₂ : Catalog} {id : ConstraintId}
    (hadd : c.addTable t = .ok c₁)
    (hprimary : c₁.addConstraint none (.primaryKey t.name (SortedSet.ofList [rowId])) =
      .ok (id, c₂)) :
    (makeTable t source).run.run c =
      (atomic fun c : Catalog => (c.addForeignKey t.name [rowId] source [rowId]).map fun r =>
        ((), r.2)).run.run c₂ := by
  rw [makeTable, run_bind_of_ok (run_atomic_of_ok (r := ((), c₁)) (by rw [hadd]; rfl)),
    run_bind_of_ok (run_atomic_of_ok (r := ((), c₂)) (by rw [hprimary]; rfl))]

/-- Two tables with keys on their row identities are tied one to one. -/
theorem between_eq_tie {t u : Table} (ht : SortedSet.ofList [rowId] ∈ t.keys)
    (hu : SortedSet.ofList [rowId] ∈ u.keys) :
    ForeignKey.between t [rowId] u [rowId] = .ok (tie t.name u.name) := by
  simp only [ForeignKey.between, missing?_rowId, Table.isKey_iff.mpr ht, Table.isKey_iff.mpr hu]
  rfl

/-- The catalog after the first two of the three steps. -/
theorem WellFormed.makes_primaryKey (hc : c.WellFormed) (hkeyed : c.RowKeyed) {t : Table}
    (hderived : t.derived = true) (hkey : SortedSet.ofList [rowId] ∈ t.keys)
    (hnew : c.containsTable t.name = false) :
    ∃ c₁ c₂ u, c.addTable t = .ok c₁ ∧
      c₁.addConstraint none (.primaryKey t.name (SortedSet.ofList [rowId])) = .ok (⟨c.nextId⟩, c₂) ∧
      c₂.WellFormed ∧ c₂.RowKeyed ∧ c₂.nextId = c.nextId + 1 ∧
      (u.name = t.name ∧ u.derived = true) ∧
      (∀ name, c₂.table name = if name = t.name then .ok u else c.table name) ∧
      ∀ id, c₂.constraint? id = if id = ⟨c.nextId⟩ then
        some (.primaryKey t.name (SortedSet.ofList [rowId])) else c.constraint? id := by
  obtain ⟨u, c₁, c₂, hadd, hprimary, ⟨hname, hsame, -, -⟩, hc₂, htables⟩ := exists_rowKeyed hnew
  refine ⟨c₁, c₂, u, hadd, hprimary, ?_, ?_, by rw [hc₂], ⟨hname, hsame.trans hderived⟩, htables, ?_⟩
  · exact keptByAdding_wellFormed.addConstraint hprimary (keptByAdding_wellFormed.addTable hadd hc)
  · exact (hkeyed.addTable hkey hadd).addConstraint hprimary
  · intro id
    rw [hc₂, constraint?, SortedMap.find?_insert]
    split <;> rfl

/-- The catalog after the third step, if the table that the rows were drawn from is known. -/
theorem WellFormed.exists_tie (hc : c.WellFormed) (hkeyed : c.RowKeyed) {t u : Table}
    (ht : c.table table = .ok t) (hu : c.table source = .ok u) :
    ∃ d, c.addForeignKey table [rowId] source [rowId] = .ok (⟨c.nextId⟩, d) ∧
      d.WellFormed ∧ d.RowKeyed ∧ d.nextId = c.nextId + 1 ∧
      (∀ name, d.table name = c.table name) ∧
      ∀ id, d.constraint? id = if id = ⟨c.nextId⟩ then some (.foreignKey (tie table source))
        else c.constraint? id := by
  obtain rfl := hc.named _ _ ht
  obtain rfl := hc.named _ _ hu
  have hfits := between_eq_tie (hkeyed _ _ ht) (hkeyed _ _ hu)
  have htie := addForeignKey_of_between ht hu hfits none
  refine ⟨_, htie, ?_, hkeyed, rfl, fun _ => rfl, fun _ => constraint?_register⟩
  exact keptByAdding_wellFormed.addForeignKey htie hc

theorem WellFormed.makes_makeTable (hc : c.WellFormed) (hkeyed : c.RowKeyed) {t : Table}
    (hderived : t.derived = true) (hkey : SortedSet.ofList [rowId] ∈ t.keys)
    (hnew : c.containsTable t.name = false) (hne : source ≠ t.name) :
    c.Makes ((makeTable t source).after c) t.name source := by
  obtain ⟨c₁, c₂, u, hadd, hprimary, hc₂, hkeyed₂, hnext, ⟨hname, hu⟩, htable, hconstraint⟩ :=
    hc.makes_primaryKey hkeyed hderived hkey hnew
  have hstored : c₂.table t.name = .ok u := by rw [htable, if_pos rfl]
  have hsource : c₂.table source = c.table source := by rw [htable, if_neg hne]
  rw [after, run_makeTable hadd hprimary]
  cases hfind : c.table source with
  | error e =>
    have hunknown : c.containsTable source = false := by
      rw [← Bool.not_eq_true, containsTable_iff, hfind]
      simp
    have hfail : c₂.addForeignKey t.name [rowId] source [rowId] = .error e := by
      simp only [addForeignKey, hstored, hsource, hfind]
    rw [run_atomic_of_error (e := e) (by rw [hfail]; rfl)]
    refine ⟨hc₂, hkeyed₂, ⟨u, hstored, hu⟩, ?_, ?_, Nat.le_of_eq hnext.symm⟩
    · intro name hother
      rw [htable, if_neg hother]
    · intro id
      simp [hconstraint, hunknown]
  | ok v =>
    rw [hfind] at hsource
    obtain ⟨c₃, htie, hc₃, hkeyed₃, hnext₃, htable₃, hconstraint₃⟩ :=
      hc₂.exists_tie hkeyed₂ hstored hsource
    rw [run_atomic_of_ok (r := ((), c₃)) (by rw [htie]; rfl)]
    refine ⟨hc₃, hkeyed₃, ⟨u, ?_, hu⟩, ?_, ?_, ?_⟩
    · rw [htable₃, hstored]
    · intro name hother
      rw [htable₃, htable, if_neg hother]
    · intro id
      have hknown : c.containsTable source = true := containsTable_iff.mpr ⟨v, hfind⟩
      rw [hconstraint₃, hconstraint, hnext]
      by_cases hfirst : id = ⟨c.nextId⟩
      · simp [hfirst]
      · simp [hfirst, hknown]
    · show c.nextId + 1 ≤ c₃.nextId
      omega

/-! ## Making tables of rows anew -/

/-- A catalog in which a table of rows may have been dropped or made anew. The rows are
tied as before, and the other tables are there. -/
structure Redoes (drawn : String → String → Prop) (c d : Catalog) (table : String) : Prop where
  tied : Tied drawn d
  others : ∀ name, name ≠ table → c.containsTable name = true → d.containsTable name = true

section Redoes

variable {drawn : String → String → Prop} (hdrawn : drawn table source)
include hdrawn

theorem takes_dropTable :
    Takes (fun d => c.Redoes drawn d table)
      (atomic fun d => (d.dropTable table).map fun r => ((), r.2))
      (fun _ d => c.Redoes drawn d table ∧ d.containsTable table = false)
      fun d => c.Redoes drawn d table := by
  refine takes_atomic_map ?_ fun _ hd => hd
  rintro d ⟨u, d'⟩ hd hdrop
  refine ⟨⟨hd.tied.dropTable hdrawn hdrop, ?_⟩, ?_⟩
  · intro name hne hin
    exact (containsTable_dropTable hdrop).mpr ⟨hne, hd.others name hne hin⟩
  · rw [← Bool.not_eq_true, containsTable_dropTable hdrop]
    simp

theorem takes_makeTable (hone : ∀ t s s', drawn t s → drawn t s' → s = s') (hne : source ≠ table)
    (hsource : c.containsTable source = true ∨ ∃ s', drawn source s') {t : Table}
    {columns : List Attribute} (ht : Table.ofAttributes table columns true = .ok t) :
    Takes (fun d => c.Redoes drawn d table ∧ d.containsTable table = false) (makeTable t source)
      (fun _ d => c.Redoes drawn d table ∧ d.containsTable table = true)
      fun d => c.Redoes drawn d table := by
  have hkey := ofAttributes_keyed ht
  obtain ⟨rfl, hderived⟩ := Table.ofAttributes_eq_ok ht
  have hafter : Takes (fun d => c.Redoes drawn d t.name ∧ d.containsTable t.name = false)
      (makeTable t source)
      (fun _ d => c.Redoes drawn d t.name ∧ d.containsTable t.name = true)
      fun d => c.Redoes drawn d t.name ∧ d.containsTable t.name = true := by
    apply takes_of_after
    rintro d ⟨hd, hnew⟩
    have hmakes := hd.tied.wellFormed.makes_makeTable hd.tied.keyed hderived hkey hnew hne
    have hsource' := hsource.imp_left (hd.others source hne)
    obtain ⟨u, hu, -⟩ := hmakes.stored
    refine ⟨⟨hd.tied.makes hone hdrawn hne hnew hsource' hmakes, ?_⟩,
      containsTable_iff.mpr ⟨u, hu⟩⟩
    intro name hother hin
    obtain ⟨v, hv⟩ := containsTable_iff.mp (hd.others name hother hin)
    exact containsTable_iff.mpr ⟨v, (hmakes.tables name hother).trans hv⟩
  exact hafter.mono (fun _ hd => hd) (fun _ _ hd => hd) fun _ hd => hd.1

end Redoes

end KeyChart.Catalog
