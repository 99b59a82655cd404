import KeyChart.Proofs.Catalog.Searches

/-!
# Growing catalogs

All calls but one only add to a catalog: they put a table in under a new name or in
the place of one with the same columns, register a constraint on known tables under
the next number, or pass over numbers. So a catalog that is reached knows the tables
that its constraints are about, and whatever it knows it still knows after more
such calls.
-/

namespace KeyChart.Catalog

variable {c c' : Catalog}

/-! ## What calls add -/

/-- A table that may be put in under a name: a new one under its own, or one that
differs from the known one in nothing but its keys and how it is shown. -/
structure Updates (c : Catalog) (name : String) (t : Table) : Prop where
  new : c.containsTable name = false → t.name = name
  known : ∀ t₀, c.table name = .ok t₀ →
    t.name = t₀.name ∧ t.schema = t₀.schema ∧ t.derived = t₀.derived

/-- A property that additions to a catalog keep. -/
structure KeptByAdding (I : Catalog → Prop) : Prop where
  table : ∀ {c : Catalog} {name : String} {t : Table}, c.Updates name t → I c →
    I { c with tables := c.tables.insert name t }
  constraint : ∀ {c : Catalog} {name : Option String} {k : Constraint},
    (∀ table ∈ k.tables, c.containsTable table = true) → I c →
    I { c with
      constraints := c.constraints.insert ⟨c.nextId⟩ ⟨name, k⟩
      nextId := c.nextId + 1 }
  number : ∀ {c : Catalog} {n : Nat}, c.nextId ≤ n → I c → I { c with nextId := n }

theorem updates_of_new {t : Table} (h : c.containsTable t.name = false) : c.Updates t.name t where
  new _ := rfl
  known t₀ ht₀ := by
    rw [containsTable_iff.mpr ⟨t₀, ht₀⟩] at h
    cases h

theorem updates_of_known {name : String} {t t' : Table} (ht : c.table name = .ok t)
    (hname : t'.name = t.name) (hschema : t'.schema = t.schema) (hderived : t'.derived = t.derived) :
    c.Updates name t' where
  new h := by
    rw [containsTable_iff.mpr ⟨t, ht⟩] at h
    cases h
  known t₀ ht₀ := by
    cases ht.symm.trans ht₀
    exact ⟨hname, hschema, hderived⟩

theorem containsTable_insert {name name' : String} {t : Table}
    (h : c.containsTable name' = true ∨ name' = name) :
    ({ c with tables := c.tables.insert name t } : Catalog).containsTable name' = true := by
  rw [containsTable, SortedMap.contains_eq_isSome, SortedMap.find?_insert]
  rw [containsTable, SortedMap.contains_eq_isSome] at h
  split
  · rfl
  case isFalse hne => exact h.resolve_right hne

namespace KeptByAdding

variable {I : Catalog → Prop} (h : KeptByAdding I)
include h

theorem addTable {t : Table} (hadd : c.addTable t = .ok c') (hc : I c) : I c' := by
  obtain ⟨hnew, rfl⟩ := addTable_eq_ok hadd
  exact h.table (updates_of_new hnew) hc

theorem addKey {name : String} {key : Key} (hadd : c.addKey name key = .ok c') (hc : I c) :
    I c' := by
  obtain ⟨t, t', ht, hkey, rfl⟩ := addKey_eq_ok hadd
  obtain ⟨-, -, -, keys, rfl⟩ := Table.addKey_eq_ok hkey
  exact h.table (updates_of_known ht rfl rfl rfl) hc

theorem setDisplayName {name displayName : String}
    (hset : c.setDisplayName name displayName = .ok c') (hc : I c) : I c' := by
  obtain ⟨t, ht, rfl⟩ := setDisplayName_eq_ok hset
  exact h.table (updates_of_known ht rfl rfl rfl) hc

theorem addConstraint {name : Option String} {k : Constraint} {id : ConstraintId}
    (hadd : c.addConstraint name k = .ok (id, c')) (hc : I c) : I c' := by
  obtain ⟨c₁, happly, rfl, rfl⟩ := addConstraint_eq_ok hadd
  rcases applyConstraint_eq_ok happly with ⟨table, key, hk, hkey⟩ | ⟨fk, rfl, hsides, rfl⟩
  · refine h.constraint ?_ (h.addKey hkey hc)
    obtain ⟨t, t', -, -, rfl⟩ := addKey_eq_ok hkey
    intro name' hname'
    refine containsTable_insert (.inr ?_)
    rcases hk with rfl | rfl <;> exact List.mem_singleton.mp hname'
  · refine h.constraint ?_ hc
    intro name' hname'
    have hboth := hasSide_of_checkSides hsides
    rcases List.mem_cons.mp hname' with rfl | hname'
    · exact (hboth _ (by simp)).containsTable
    · rw [List.mem_singleton.mp hname']
      exact (hboth _ (by simp)).containsTable

theorem addForeignKey {t1 t2 : String} {x y : List String} {name : Option String}
    {id : ConstraintId} (hadd : c.addForeignKey t1 x t2 y name = .ok (id, c')) (hc : I c) :
    I c' := by
  obtain ⟨first, second, fk, -, -, -, hadd⟩ := addForeignKey_eq_ok hadd
  exact h.addConstraint hadd hc

theorem keptByRegistering : KeptByRegistering I where
  table hadd hc := h.addTable hadd hc
  key _ hadd hc := h.addConstraint hadd hc
  foreignKey hadd hc := h.addForeignKey hadd hc

/-- Every call but that which drops a table only adds. -/
theorem call {call : Call} (hcall : ∀ name, call ≠ .dropTable name) : call.attempt.Keeps I := by
  cases call with
  | addTable t => exact Attempt.keeps_atomic_map fun c c' hadd hc => h.addTable hadd hc
  | addConstraint name k =>
    exact Attempt.keeps_atomic_map fun c r hadd hc => h.addConstraint hadd hc
  | addForeignKey t1 x t2 y name =>
    exact Attempt.keeps_atomic_map fun c r hadd hc => h.addForeignKey hadd hc
  | loadDdl sql =>
    exact Attempt.keeps_bind (h.keptByRegistering.loadDdl sql) fun _ => Attempt.keeps_pure _
  | dropTable name => exact absurd rfl (hcall name)
  | freshTableName stem =>
    refine Attempt.keeps_atomic ?_
    intro c u c' hfresh hc
    cases hfresh
    exact h.number (Nat.le_succ_of_le (c.nextId_le_freshNumber stem)) hc
  | addKey table key => exact Attempt.keeps_atomic_map fun c c' hadd hc => h.addKey hadd hc
  | setDisplayName table displayName =>
    exact Attempt.keeps_atomic_map fun c c' hset hc => h.setDisplayName hset hc

end KeptByAdding

/-! ## What catalogs know -/

/-- Tables are known by their own names, constraints have numbers that were given
out, and they are about known tables. -/
structure WellFormed (c : Catalog) : Prop where
  named : ∀ name t, c.table name = .ok t → t.name = name
  numbered : ∀ id k, c.constraint? id = some k → id.index < c.nextId
  known : ∀ id k, c.constraint? id = some k → ∀ table ∈ k.tables, c.containsTable table = true

theorem wellFormed_empty : WellFormed empty where
  named name t h := by simp [table_eq_ok, empty] at h
  numbered id k h := by simp [constraint?, empty] at h
  known id k h := by simp [constraint?, empty] at h

theorem table_insert_eq_ok {name name' : String} {t t' : Table} :
    ({ c with tables := c.tables.insert name t } : Catalog).table name' = .ok t' ↔
      if name' = name then t = t' else c.table name' = .ok t' := by
  rw [table_eq_ok, SortedMap.find?_insert, table_eq_ok]
  split
  · exact Option.some_inj
  · exact Iff.rfl

theorem table_insert_self (c : Catalog) (name : String) (t : Table) :
    ({ c with tables := c.tables.insert name t } : Catalog).table name = .ok t :=
  table_insert_eq_ok.mpr (by rw [if_pos rfl])

theorem constraint?_register {name : Option String} {k : Constraint} {id : ConstraintId} {n : Nat} :
    ({ c with constraints := c.constraints.insert ⟨c.nextId⟩ ⟨name, k⟩, nextId := n } :
        Catalog).constraint? id =
      if id = ⟨c.nextId⟩ then some k else c.constraint? id := by
  rw [constraint?, SortedMap.find?_insert]
  split <;> rfl

theorem numbered_register {name : Option String} {k : Constraint}
    (hc : ∀ id k, c.constraint? id = some k → id.index < c.nextId) :
    ∀ id k', ({ c with constraints := c.constraints.insert ⟨c.nextId⟩ ⟨name, k⟩
                       nextId := c.nextId + 1 } : Catalog).constraint? id = some k' →
      id.index < c.nextId + 1 := by
  intro id k' hk'
  rw [constraint?_register] at hk'
  split at hk'
  case isTrue hid =>
    rw [hid]
    exact Nat.lt_succ_self _
  case isFalse => exact Nat.lt_succ_of_lt (hc id k' hk')

theorem keptByAdding_wellFormed : KeptByAdding WellFormed where
  table := by
    intro c name t hupdates hc
    refine ⟨?_, hc.numbered, fun id k hk name' hname' =>
      containsTable_insert (.inl (hc.known id k hk name' hname'))⟩
    intro name' t' ht'
    rw [table_insert_eq_ok] at ht'
    split at ht'
    case isTrue heq =>
      subst heq ht'
      by_cases hnew : c.containsTable name' = true
      · obtain ⟨t₀, ht₀⟩ := containsTable_iff.mp hnew
        exact (hupdates.known t₀ ht₀).1.trans (hc.named name' t₀ ht₀)
      · exact hupdates.new (Bool.eq_false_iff.mpr hnew)
    case isFalse => exact hc.named name' t' ht'
  constraint := by
    intro c name k hk hc
    refine ⟨hc.named, numbered_register hc.numbered, ?_⟩
    · intro id k' hk'
      rw [constraint?_register] at hk'
      split at hk'
      case isTrue => exact Option.some.inj hk' ▸ hk
      case isFalse => exact hc.known id k' hk'
  number hn hc :=
    ⟨hc.named, fun id k hk => Nat.lt_of_lt_of_le (hc.numbered id k hk) hn, hc.known⟩

/-- A table goes with the constraints that are about it. -/
theorem constraint?_dropTable {table : String} {t : Table} (h : c.dropTable table = .ok (t, c'))
    {id : ConstraintId} {k : Constraint} :
    c'.constraint? id = some k ↔ c.constraint? id = some k ∧ table ∉ k.tables := by
  obtain ⟨-, rfl⟩ := dropTable_eq_ok h
  simp only [constraint?, SortedMap.find?_filter]
  constructor
  · intro hk
    obtain ⟨e, he, rfl⟩ := Option.map_eq_some_iff.mp hk
    obtain ⟨he, hkeep⟩ := Option.filter_eq_some_iff.mp he
    exact ⟨by rw [he]; rfl, by simpa using hkeep⟩
  · rintro ⟨hk, hfree⟩
    obtain ⟨e, he, rfl⟩ := Option.map_eq_some_iff.mp hk
    rw [Option.map_eq_some_iff]
    exact ⟨e, Option.filter_eq_some_iff.mpr ⟨he, by simpa using hfree⟩, rfl⟩

theorem table_dropTable {table name : String} {t t' : Table}
    (h : c.dropTable table = .ok (t, c')) :
    c'.table name = .ok t' ↔ name ≠ table ∧ c.table name = .ok t' := by
  obtain ⟨-, rfl⟩ := dropTable_eq_ok h
  rw [table_eq_ok, table_eq_ok, SortedMap.find?_erase]
  by_cases heq : name = table <;> simp [heq]

theorem containsTable_dropTable {table name : String} {t : Table}
    (h : c.dropTable table = .ok (t, c')) :
    c'.containsTable name = true ↔ name ≠ table ∧ c.containsTable name = true := by
  simp only [containsTable_iff, table_dropTable h, exists_and_left]

theorem WellFormed.dropTable {name : String} {t : Table} (hc : c.WellFormed)
    (h : c.dropTable name = .ok (t, c')) : c'.WellFormed := by
  have hnext : c'.nextId = c.nextId := by
    obtain ⟨-, rfl⟩ := dropTable_eq_ok h
    rfl
  refine ⟨?_, ?_, ?_⟩
  · intro name' t' ht'
    exact hc.named name' t' ((table_dropTable h).mp ht').2
  · intro id k hk
    rw [hnext]
    exact hc.numbered id k ((constraint?_dropTable h).mp hk).1
  · intro id k hk name' hname'
    obtain ⟨hold, hfree⟩ := (constraint?_dropTable h).mp hk
    have hne : name' ≠ name := fun heq => hfree (heq ▸ hname')
    exact (containsTable_dropTable h).mpr ⟨hne, hc.known id k hold name' hname'⟩

theorem Call.keeps_wellFormed (call : Call) : call.attempt.Keeps WellFormed := by
  by_cases hdrop : ∃ name, call = .dropTable name
  · obtain ⟨name, rfl⟩ := hdrop
    exact Attempt.keeps_atomic_map fun c r h hc => hc.dropTable h
  · exact keptByAdding_wellFormed.call fun name heq => hdrop ⟨name, heq⟩

theorem wellFormed_reached (calls : List Call) : (reached calls).WellFormed :=
  reached_induction wellFormed_empty fun call _ => call.keeps_wellFormed

/-! ## Growth -/

/-- A catalog that knows all tables of another with their columns, and all its
constraints by their numbers. -/
structure Grown (c c' : Catalog) : Prop where
  tables : ∀ {name t}, c.table name = .ok t →
    ∃ t', c'.table name = .ok t' ∧ t'.name = t.name ∧ t'.schema = t.schema ∧ t'.derived = t.derived
  constraints : ∀ {id k}, c.constraint? id = some k → c'.constraint? id = some k
  numbers : c.nextId ≤ c'.nextId

theorem Grown.refl (c : Catalog) : c.Grown c :=
  ⟨fun h => ⟨_, h, rfl, rfl, rfl⟩, fun h => h, Nat.le_refl _⟩

theorem WellFormed.keptByAdding_grown (hc : c.WellFormed) : KeptByAdding c.Grown where
  table := by
    intro d name t hupdates hd
    refine ⟨?_, hd.constraints, hd.numbers⟩
    intro name' t₀ ht₀
    obtain ⟨t₁, ht₁, hname, hschema, hderived⟩ := hd.tables ht₀
    by_cases heq : name' = name
    · subst heq
      obtain ⟨hname', hschema', hderived'⟩ := hupdates.known t₁ ht₁
      exact ⟨t, table_insert_self d name' t, hname'.trans hname,
        hschema'.trans hschema, hderived'.trans hderived⟩
    · exact ⟨t₁, table_insert_eq_ok.mpr (by rwa [if_neg heq]), hname, hschema, hderived⟩
  constraint := by
    intro d name k hk hd
    refine ⟨hd.tables, ?_, Nat.le_succ_of_le hd.numbers⟩
    intro id k' hk'
    have hlt := Nat.lt_of_lt_of_le (hc.numbered id k' hk') hd.numbers
    rw [constraint?_register, if_neg, hd.constraints hk']
    rintro rfl
    exact Nat.lt_irrefl _ hlt
  number hn hd := ⟨hd.tables, hd.constraints, Nat.le_trans hd.numbers hn⟩

theorem grown_reached {calls more : List Call} (h : ∀ name, Call.dropTable name ∉ more) :
    (reached calls).Grown (reached (calls ++ more)) := by
  rw [reached_append]
  refine foldl_after_keeps ?_ (Grown.refl _)
  intro call hcall
  refine (wellFormed_reached calls).keptByAdding_grown.call ?_
  rintro name rfl
  exact h name hcall

namespace Grown

variable (h : c.Grown c')
include h

theorem foreignKeys {id : ConstraintId} {fk : ForeignKey} (hfk : (id, fk) ∈ c.foreignKeys) :
    (id, fk) ∈ c'.foreignKeys :=
  mem_foreignKeys.mpr (h.constraints (mem_foreignKeys.mp hfk))

theorem steps {s : JoinStep} (hs : s ∈ c.joinGraph.steps) : s ∈ c'.joinGraph.steps := by
  obtain ⟨id, fk, hfk, hs⟩ := mem_joinGraph_steps.mp hs
  exact mem_joinGraph_steps.mpr ⟨id, fk, h.foreignKeys hfk, hs⟩

theorem containsTable {name : String} (hname : c.containsTable name = true) :
    c'.containsTable name = true := by
  obtain ⟨t, ht⟩ := containsTable_iff.mp hname
  obtain ⟨t', ht', -⟩ := h.tables ht
  exact containsTable_iff.mpr ⟨t', ht'⟩

theorem tablesWithAttribute {attr source name : String}
    (hname : name ∈ c.tablesWithAttribute attr source) :
    name ∈ c'.tablesWithAttribute attr source := by
  obtain ⟨key, t, ht, hderived, hsource, hattr, rfl⟩ := mem_tablesWithAttribute.mp hname
  obtain ⟨t', ht', hname', hschema, hderived'⟩ := h.tables ht
  refine mem_tablesWithAttribute.mpr ⟨key, t', ht', hderived'.trans hderived, ?_, ?_, hname'⟩
  · rwa [hname']
  · rwa [hschema]

end Grown

end KeyChart.Catalog
