import KeyChart.Proofs.Catalog.Searches
import KeyChart.Proofs.JoinedRows

/-!
# The one sides of foreign keys

The cardinality of a foreign key is settled when the key is built, from the
candidate keys that its tables have then. It stays right: tables only gain keys,
and a table that is dropped takes its foreign keys with it. So every step of the
graph of joins enters a table by one of its candidate keys, and no path of steps
multiplies rows.
-/

namespace KeyChart

namespace Catalog

/-- A side's attributes are a registered candidate key of the side's table. -/
def HasKey (c : Catalog) (side : KeySide) : Prop :=
  ∃ t, c.table side.table = .ok t ∧ side.key ∈ t.keys

/-- A catalog keeps the candidate keys of another. -/
def KeepsKeys (c c' : Catalog) : Prop := ∀ side, c.HasKey side → c'.HasKey side

end Catalog

/-- What a foreign key's cardinality says holds of the catalog's tables. -/
structure ForeignKey.Fits (c : Catalog) (fk : ForeignKey) : Prop where
  nonempty : fk.first.attrs ≠ []
  sameLength : fk.first.attrs.length = fk.second.attrs.length
  oneFirst : fk.cardinality ≠ .manyMany → c.HasKey fk.first
  oneSecond : fk.cardinality = .oneOne → c.HasKey fk.second

theorem ForeignKey.Fits.mono {c c' : Catalog} {fk : ForeignKey} (h : fk.Fits c)
    (hkeys : ∀ side ∈ [fk.first, fk.second], c.HasKey side → c'.HasKey side) : fk.Fits c' where
  nonempty := h.nonempty
  sameLength := h.sameLength
  oneFirst hcard := hkeys _ (by simp) (h.oneFirst hcard)
  oneSecond hcard := hkeys _ (by simp) (h.oneSecond hcard)

theorem Table.length_eq_of_between {t1 t2 : Table} {x y : List String} {fk : ForeignKey}
    (h : ForeignKey.between t1 x t2 y = .ok fk) : x ≠ [] ∧ x.length = y.length := by
  unfold ForeignKey.between at h
  split at h
  · cases h
  case isFalse hsides =>
    simp only [Bool.or_eq_true, List.isEmpty_iff, decide_eq_true_eq, not_or, not_not] at hsides
    exact hsides

/-- A foreign key that is built from two tables of a catalog fits the catalog. -/
theorem ForeignKey.fits_of_between {c : Catalog} {t1 t2 : Table} {x y : List String}
    {fk : ForeignKey} (h1 : c.table t1.name = .ok t1) (h2 : c.table t2.name = .ok t2)
    (h : ForeignKey.between t1 x t2 y = .ok fk) : fk.Fits c := by
  obtain ⟨hx, hlen⟩ := Table.length_eq_of_between h
  have hy : y ≠ [] := by
    intro hy
    rw [hy, List.length_nil, List.length_eq_zero_iff] at hlen
    exact hx hlen
  have hkey1 : t1.isKey x = true → c.HasKey ⟨t1.name, x⟩ := fun hk =>
    ⟨t1, h1, Table.isKey_iff.mp hk⟩
  have hkey2 : t2.isKey y = true → c.HasKey ⟨t2.name, y⟩ := fun hk =>
    ⟨t2, h2, Table.isKey_iff.mp hk⟩
  unfold ForeignKey.between at h
  split at h
  · cases h
  split at h
  · cases h
  · cases h
  cases h
  -- The four cases are which of the two sides is a key.
  split
  case h_1 hk1 hk2 =>
    exact ⟨hx, hlen, fun _ => hkey1 hk1, fun _ => hkey2 hk2⟩
  case h_2 hk1 _ =>
    exact ⟨hx, hlen, fun _ => hkey1 hk1, by simp⟩
  case h_3 _ hk2 =>
    exact ⟨hy, hlen.symm, fun _ => hkey2 hk2, by simp⟩
  case h_4 =>
    exact ⟨hx, hlen, by simp, by simp⟩

/-- A step across a foreign key that fits the catalog joins lists of one length
and enters its table by a candidate key. -/
theorem ForeignKey.Fits.step {c : Catalog} {fk : ForeignKey} {id : ConstraintId} {s : JoinStep}
    (h : fk.Fits c) (hs : s ∈ JoinGraph.stepsAcross id fk) :
    s.source.attrs ≠ [] ∧ s.target.attrs ≠ [] ∧
      s.source.attrs.length = s.target.attrs.length ∧ c.HasKey s.target := by
  have hsecond : fk.second.attrs ≠ [] := by
    intro hnil
    have hlen := h.sameLength
    rw [hnil, List.length_nil, List.length_eq_zero_iff] at hlen
    exact h.nonempty hlen
  rcases JoinGraph.mem_stepsAcross hs with ⟨rfl, hcard⟩ | ⟨rfl, hcard⟩
  · exact ⟨hsecond, h.nonempty, h.sameLength.symm, h.oneFirst hcard⟩
  · exact ⟨h.nonempty, hsecond, h.sameLength, h.oneSecond hcard⟩

namespace Catalog

variable {c c' : Catalog}

/-! ## The invariant -/

/-- Every table is registered under its own name, and every foreign key fits. -/
structure OneSided (c : Catalog) : Prop where
  named : ∀ name t, c.table name = .ok t → t.name = name
  fits : ∀ id fk, (id, fk) ∈ c.foreignKeys → fk.Fits c

theorem oneSided_empty : OneSided empty where
  named := by simp [table_eq_ok, empty]
  fits := by simp [mem_foreignKeys, constraint?, empty]

theorem table_insert {tables : SortedMap String Table} {name name' : String} {t t' : Table}
    (h : ({ c with tables := tables.insert name t } : Catalog).table name' = .ok t') :
    (name' = name ∧ t' = t) ∨ (name' ≠ name ∧ tables.find? name' = some t') := by
  rw [table_eq_ok, SortedMap.find?_insert] at h
  by_cases hname : name' = name
  · rw [if_pos hname] at h
    exact .inl ⟨hname, (Option.some.inj h).symm⟩
  · rw [if_neg hname] at h
    exact .inr ⟨hname, h⟩

/-- Replacing a table by one of its name with at least its keys keeps all keys. -/
theorem keepsKeys_insert {name : String} {t' : Table}
    (h : ∀ t, c.table name = .ok t → ∀ k ∈ t.keys, k ∈ t'.keys) :
    c.KeepsKeys { c with tables := c.tables.insert name t' } := by
  rintro side ⟨t, ht, hkey⟩
  by_cases hname : side.table = name
  · subst hname
    exact ⟨t', by simp [table_eq_ok], h t ht _ hkey⟩
  · refine ⟨t, ?_, hkey⟩
    rw [table_eq_ok] at ht ⊢
    rw [SortedMap.find?_insert, if_neg hname, ht]

theorem OneSided.insert {name : String} {t' : Table} (hc : c.OneSided) (hname : t'.name = name)
    (h : ∀ t, c.table name = .ok t → ∀ k ∈ t.keys, k ∈ t'.keys) :
    ({ c with tables := c.tables.insert name t' } : Catalog).OneSided where
  named := by
    intro name' t ht
    rcases table_insert ht with ⟨rfl, rfl⟩ | ⟨-, ht⟩
    · exact hname
    · exact hc.named name' t (table_eq_ok.mpr ht)
  fits := by
    intro id fk hfk
    exact (hc.fits id fk hfk).mono fun side _ => keepsKeys_insert h side

theorem OneSided.addTable {t : Table} (hc : c.OneSided) (h : c.addTable t = .ok c') :
    c'.OneSided := by
  obtain ⟨hnew, rfl⟩ := addTable_eq_ok h
  refine hc.insert rfl ?_
  intro t' ht'
  rw [containsTable_iff.mpr ⟨t', ht'⟩] at hnew
  cases hnew

theorem OneSided.addKey {name : String} {key : Key} (hc : c.OneSided)
    (h : c.addKey name key = .ok c') : c'.OneSided := by
  obtain ⟨t, t', ht, hadd, rfl⟩ := addKey_eq_ok h
  obtain ⟨-, -, hkeys, keys, rfl⟩ := Table.addKey_eq_ok hadd
  refine hc.insert (hc.named name t ht) ?_
  intro t₁ ht₁ k hk
  rw [ht] at ht₁
  cases ht₁
  exact hkeys k hk

theorem OneSided.setDisplayName {name displayName : String} (hc : c.OneSided)
    (h : c.setDisplayName name displayName = .ok c') : c'.OneSided := by
  obtain ⟨t, ht, rfl⟩ := setDisplayName_eq_ok h
  refine hc.insert (hc.named name t ht) ?_
  intro t₁ ht₁ k hk
  rw [ht] at ht₁
  cases ht₁
  exact hk

/-- A constraint may be registered if it fits in case it is a foreign key. -/
theorem OneSided.register {name : Option String} {k : Constraint} {id : ConstraintId}
    (hc : c.OneSided) (hk : ∀ fk, k = .foreignKey fk → fk.Fits c) (n : Nat) :
    ({ c with constraints := c.constraints.insert id ⟨name, k⟩, nextId := n } : Catalog).OneSided where
  named := hc.named
  fits := by
    intro id' fk hfk
    have hsame : ∀ side ∈ [fk.first, fk.second], c.HasKey side →
        ({ c with constraints := c.constraints.insert id ⟨name, k⟩, nextId := n } : Catalog).HasKey
          side := fun side _ h => h
    rw [mem_foreignKeys, constraint?, SortedMap.find?_insert] at hfk
    by_cases hid : id' = id
    · rw [if_pos hid] at hfk
      exact (hk fk (Option.some.inj hfk)).mono hsame
    · rw [if_neg hid] at hfk
      exact (hc.fits id' fk (mem_foreignKeys.mpr hfk)).mono hsame

theorem OneSided.addConstraint {name : Option String} {k : Constraint} {id : ConstraintId}
    (hc : c.OneSided) (hk : ∀ fk, k = .foreignKey fk → fk.Fits c)
    (h : c.addConstraint name k = .ok (id, c')) : c'.OneSided := by
  obtain ⟨c₁, happly, rfl, rfl⟩ := addConstraint_eq_ok h
  rcases applyConstraint_eq_ok happly with ⟨table, key, hkey, hadd⟩ | ⟨fk, rfl, -, rfl⟩
  · refine (hc.addKey hadd).register ?_ _
    rintro fk rfl
    simp at hkey
  · exact hc.register hk _

theorem OneSided.addForeignKey {t1 t2 : String} {x y : List String} {name : Option String}
    {id : ConstraintId} (hc : c.OneSided) (h : c.addForeignKey t1 x t2 y name = .ok (id, c')) :
    c'.OneSided := by
  obtain ⟨first, second, fk, h1, h2, hfk, hadd⟩ := addForeignKey_eq_ok h
  refine hc.addConstraint ?_ hadd
  rintro fk' heq
  cases heq
  refine ForeignKey.fits_of_between ?_ ?_ hfk
  · rw [hc.named t1 first h1, h1]
  · rw [hc.named t2 second h2, h2]

theorem OneSided.dropTable {name : String} {t : Table} (hc : c.OneSided)
    (h : c.dropTable name = .ok (t, c')) : c'.OneSided := by
  obtain ⟨-, rfl⟩ := dropTable_eq_ok h
  constructor
  case named =>
    intro name' t' ht'
    rw [table_eq_ok, SortedMap.find?_erase] at ht'
    split at ht'
    · cases ht'
    · exact hc.named name' t' (table_eq_ok.mpr ht')
  case fits =>
    intro id fk hfk
    rw [mem_foreignKeys, constraint?, SortedMap.find?_filter] at hfk
    obtain ⟨e, he, hk⟩ := Option.map_eq_some_iff.mp hfk
    obtain ⟨he, hkeep⟩ := Option.filter_eq_some_iff.mp he
    have hfk : (id, fk) ∈ c.foreignKeys := mem_foreignKeys.mpr (by simp [constraint?, he, hk])
    refine (hc.fits id fk hfk).mono ?_
    -- A foreign key that stays has neither side on the dropped table.
    rintro side hside ⟨t', ht', hkey⟩
    refine ⟨t', ?_, hkey⟩
    rw [table_eq_ok] at ht' ⊢
    have hne : side.table ≠ name := by
      rintro rfl
      simp only [hk, Constraint.tables, List.mem_cons, List.not_mem_nil, or_false] at hkeep hside
      rcases hside with rfl | rfl <;> simp at hkeep
    rw [SortedMap.find?_erase, if_neg hne, ht']

theorem keptByRegistering_oneSided : KeptByRegistering OneSided where
  table h hc := hc.addTable h
  key hk h hc := hc.addConstraint (by rintro fk rfl; simp [Constraint.foreignKey?] at hk) h
  foreignKey h hc := hc.addForeignKey h

/-- Every call keeps the invariant, unless it hands over a foreign key ready-made. -/
theorem Call.keeps_oneSided {call : Call} (h : call.fromOwnTables = true) :
    call.attempt.Keeps OneSided := by
  cases call with
  | addTable t => exact Attempt.keeps_atomic_map fun c c' h hc => hc.addTable h
  | addConstraint name k =>
    refine Attempt.keeps_atomic_map fun c r h' hc => hc.addConstraint ?_ h'
    -- A foreign key that is handed over need not fit; the hypothesis excludes it.
    rintro fk rfl
    cases h
  | addForeignKey t1 x t2 y name =>
    exact Attempt.keeps_atomic_map fun c r h hc => hc.addForeignKey h
  | loadDdl sql =>
    exact Attempt.keeps_bind (keptByRegistering_oneSided.loadDdl sql) fun _ => Attempt.keeps_pure _
  | dropTable name => exact Attempt.keeps_atomic_map fun c r h hc => hc.dropTable h
  | freshTableName stem =>
    refine Attempt.keeps_atomic ?_
    rintro c u c' h hc
    cases h
    exact ⟨hc.named, fun id fk hfk => (hc.fits id fk hfk).mono fun _ _ hk => hk⟩
  | addKey table key => exact Attempt.keeps_atomic_map fun c c' h hc => hc.addKey h
  | setDisplayName table displayName =>
    exact Attempt.keeps_atomic_map fun c c' h hc => hc.setDisplayName h

theorem oneSided_reached {calls : List Call} (h : ∀ call ∈ calls, call.fromOwnTables = true) :
    (reached calls).OneSided :=
  reached_induction oneSided_empty fun call hcall => Call.keeps_oneSided (h call hcall)

/-! ## Rows stay single -/

theorem OneSided.step (hc : c.OneSided) {s : JoinStep} (hs : s ∈ c.joinGraph.steps) :
    s.source.attrs ≠ [] ∧ s.target.attrs ≠ [] ∧
      s.source.attrs.length = s.target.attrs.length ∧ c.HasKey s.target := by
  obtain ⟨id, fk, hfk, hs⟩ := mem_joinGraph_steps.mp hs
  exact (hc.fits id fk hfk).step hs

/-- Rows that agree on no key unless they are the same respect the graph. -/
theorem OneSided.respects (hc : c.OneSided) {ρ ν : Type} {p : Population ρ ν} (hp : p.Keyed c) :
    p.Respects c := by
  intro s hs
  obtain ⟨-, -, hlen, t, ht, hkey⟩ := hc.step hs
  exact hp.functional hlen ht hkey

/-- In a catalog to which calls lead, every step of the graph of joins enters a
table by a registered candidate key. So over rows that agree on no key unless
they are the same, no path that a search returns joins a row to two rows. -/
theorem paths_keep_rows_single (calls : List Call)
    (hcalls : ∀ call ∈ calls, call.fromOwnTables = true) :
    (∀ s ∈ (reached calls).joinGraph.steps,
      s.source.attrs ≠ [] ∧ s.target.attrs ≠ [] ∧
        s.source.attrs.length = s.target.attrs.length ∧
        ∃ t, (reached calls).table s.target.table = .ok t ∧ s.target.key ∈ t.keys) ∧
    ∀ (ρ ν : Type) (p : Population ρ ν), p.Keyed (reached calls) →
      ∀ path, (reached calls).Finds path → ∀ r ∈ p.rows path.source, ∀ d d',
        p.Joined path.steps r d → p.Joined path.steps r d' → d = d' := by
  have hc := oneSided_reached hcalls
  refine ⟨fun s hs => hc.step hs, ?_⟩
  intro ρ ν p hp path hpath r _ d d' hd hd'
  exact hd.unique (fun s hs => hc.respects hp s (hpath.mem_steps s hs)) hd'

/-- Books that are known by their number, and loans of them. -/
def libraryCalls : List Call :=
  [.addTable (Table.ofSchema "books" ⟨[⟨"isbn", .string⟩, ⟨"title", .string⟩], by decide⟩),
   .addConstraint none (.primaryKey "books" (SortedSet.ofList ["isbn"])),
   .addTable (Table.ofSchema "loans" ⟨[⟨"isbn", .string⟩], by decide⟩),
   .dropTable "readers",
   .addForeignKey "loans" ["isbn"] "books" ["isbn"] none]

/-- Two loans of each book. -/
def libraryRows : Population (String × Nat) Nat where
  rows table := {r | r.1 = table}
  value r attr := if r.1 = "loans" ∧ attr = "isbn" then r.2 / 2 else r.2
  agrees v w := v = w
  symm := Eq.symm
  trans := Eq.trans

theorem keyed_libraryRows : libraryRows.Keyed (reached libraryCalls) := by
  intro name t ht key hkey r hr s hs hagree
  have hkeys : ∀ e ∈ (reached libraryCalls).tables.entries, ∀ key ∈ e.2.keys,
      "id" ∈ key ∨ (e.1 = "books" ∧ "isbn" ∈ key) := by decide +kernel
  have hmem := SortedMap.find?_eq_some_iff_mem.mp (table_eq_ok.mp ht)
  refine Prod.ext ((show r.1 = name from hr).trans (show s.1 = name from hs).symm) ?_
  rcases hkeys _ hmem key hkey with hid | ⟨rfl, hisbn⟩
  · simpa [libraryRows] using hagree "id" hid
  · have hr : r.1 = "books" := hr
    have hs : s.1 = "books" := hs
    simpa [libraryRows, hr, hs] using hagree "isbn" hisbn

/-- The third loan is of the first book and of no other. -/
theorem paths_keep_rows_single_library :
    ∃ path, (reached libraryCalls).Finds path ∧
      libraryRows.Joined path.steps ("loans", 3) ("books", 1) ∧
      ∀ d, libraryRows.Joined path.steps ("loans", 3) d → d = ("books", 1) := by
  have hfinds : (reached libraryCalls).Finds
      ⟨"loans", [⟨⟨1⟩, ⟨"loans", ["isbn"]⟩, ⟨"books", ["isbn"]⟩⟩]⟩ :=
    .inl ⟨"loans", "books", by decide +kernel⟩
  have hjoined : libraryRows.Joined [⟨⟨1⟩, ⟨"loans", ["isbn"]⟩, ⟨"books", ["isbn"]⟩⟩]
      ("loans", 3) ("books", 1) := by
    refine .step ⟨rfl, ?_⟩ (.stay _)
    simp [libraryRows]
  refine ⟨_, hfinds, hjoined, ?_⟩
  intro d hd
  exact (paths_keep_rows_single libraryCalls (by decide)).2 _ _ libraryRows keyed_libraryRows _
    hfinds _ rfl _ _ hd hjoined

end Catalog

end KeyChart
