import KeyChart.Proofs.Catalog.Growth
import KeyChart.Proofs.JoinGraph.DeadEnd

/-!
# Tables of drawn marks

When the rows of a mark are stored, a new table is registered whose row identity is
tied to that of the mark's source. In the graph of joins it is a dead end, and it is
left out where tables are looked for by a column. So what is found between other
tables does not change.
-/

namespace KeyChart.Catalog

variable {c c' : Catalog} {name source a b : String}

/-! ## Registering at the end -/

section Numbered

variable (hc : ∀ id k, c.constraint? id = some k → id.index < c.nextId)
include hc

/-- A registered constraint comes behind all others. -/
theorem entries_register (name : Option String) (k : Constraint) :
    (c.constraints.insert ⟨c.nextId⟩ ⟨name, k⟩).entries =
      c.constraints.entries ++ [(⟨c.nextId⟩, ⟨name, k⟩)] := by
  refine SortedMap.entries_insert_of_last ?_
  intro e he
  have hfind := SortedMap.find?_eq_some_iff_mem.mpr he
  have hlt := hc e.1 e.2.constraint (by rw [constraint?, hfind]; rfl)
  exact Nat.compare_eq_lt.mpr hlt

theorem foreignKeys_register (name : Option String) (k : Constraint) (n : Nat) :
    ({ c with constraints := c.constraints.insert ⟨c.nextId⟩ ⟨name, k⟩, nextId := n } :
        Catalog).foreignKeys =
      c.foreignKeys ++ (k.foreignKey?.map fun fk => (⟨c.nextId⟩, fk)).toList := by
  rw [foreignKeys, entries_register hc, List.filterMap_append, foreignKeys]
  cases k <;> rfl

theorem constraint?_register_of_some {name : Option String} {k k' : Constraint}
    {id : ConstraintId} {n : Nat} (hk : c.constraint? id = some k) :
    ({ c with constraints := c.constraints.insert ⟨c.nextId⟩ ⟨name, k'⟩, nextId := n } :
        Catalog).constraint? id = some k := by
  rw [constraint?_register, if_neg, hk]
  rintro rfl
  exact Nat.lt_irrefl _ (hc _ k hk)

theorem constraint?_of_le {n : Nat} (hn : c.nextId ≤ n) : c.constraint? ⟨n⟩ = none := by
  cases hk : c.constraint? ⟨n⟩ with
  | none => rfl
  | some k => exact absurd (hc _ k hk) (Nat.not_lt.mpr hn)

end Numbered

/-! ## Storing a table -/

/-- The calls that register a table of drawn rows and tie its row identity to that
of the mark's source. -/
def storing (t : Table) (source : String) : List Call :=
  [.addTable t, .addConstraint none (.primaryKey t.name (SortedSet.ofList [rowId])),
    .addForeignKey t.name [rowId] source [rowId] none]

/-- A catalog with a new table of drawn rows, whose row identity is a key and is tied
to that of another table. -/
structure Stores (c c' : Catalog) (name source : String) : Prop where
  new : c.containsTable name = false
  known : c.containsTable source = true
  stored : ∃ t, c'.table name = .ok t ∧ t.derived = true ∧ SortedSet.ofList [rowId] ∈ t.keys
  tied : ∃ id fk, c.constraint? id = none ∧ c'.foreignKeys = c.foreignKeys ++ [(id, fk)] ∧
    ((fk.first = ⟨name, [rowId]⟩ ∧ fk.second = ⟨source, [rowId]⟩) ∨
      (fk.first = ⟨source, [rowId]⟩ ∧ fk.second = ⟨name, [rowId]⟩))
  tables : ∀ {table}, table ≠ name → c'.tables.find? table = c.tables.find? table
  constraints : ∀ {id k}, c.constraint? id = some k → c'.constraint? id = some k

/-- Every table has its row identity. -/
theorem missing?_rowId (t : Table) : t.missing? [rowId] = none := by
  simp [Table.missing?, Table.hasAttribute]

theorem addTable_of_new {t : Table} (hnew : c.containsTable t.name = false) :
    c.addTable t = .ok { c with tables := c.tables.insert t.name t } := by
  rw [addTable, hnew]
  rfl

theorem addPrimaryKey_rowId {t : Table} (ht : c.table name = .ok t) :
    ∃ t', c.addConstraint none (.primaryKey name (SortedSet.ofList [rowId])) = .ok (⟨c.nextId⟩, {
        tables := c.tables.insert name t'
        constraints := c.constraints.insert ⟨c.nextId⟩
          ⟨none, .primaryKey name (SortedSet.ofList [rowId])⟩
        nextId := c.nextId + 1 }) ∧
      t'.name = t.name ∧ t'.derived = t.derived ∧ SortedSet.ofList [rowId] ∈ t'.keys ∧
      t'.schema = t.schema := by
  have hmissing : t.missing? (SortedSet.ofList [rowId]).members = none := missing?_rowId t
  obtain ⟨t', ht'⟩ : ∃ t', t.addKey (SortedSet.ofList [rowId]) = .ok t' := by
    simp [Table.addKey, hmissing]
  obtain ⟨-, hkey, -, keys, rfl⟩ := Table.addKey_eq_ok ht'
  refine ⟨{ t with keys }, ?_, rfl, rfl, hkey, rfl⟩
  simp only [addConstraint, applyConstraint, addKey, ht, ht']

/-- A new table can be registered, and then its row identity as primary key. -/
theorem exists_rowKeyed {t : Table} (hnew : c.containsTable t.name = false) :
    ∃ t' c₁ c₂, c.addTable t = .ok c₁ ∧
      c₁.addConstraint none (.primaryKey t.name (SortedSet.ofList [rowId])) = .ok (⟨c.nextId⟩, c₂) ∧
      (t'.name = t.name ∧ t'.derived = t.derived ∧ SortedSet.ofList [rowId] ∈ t'.keys ∧
        t'.schema = t.schema) ∧
      c₂ = {
        tables := (c.tables.insert t.name t).insert t.name t'
        constraints := c.constraints.insert ⟨c.nextId⟩
          ⟨none, .primaryKey t.name (SortedSet.ofList [rowId])⟩
        nextId := c.nextId + 1 } ∧
      ∀ name, c₂.table name = if name = t.name then .ok t' else c.table name := by
  obtain ⟨t', hprimary, hsame⟩ := addPrimaryKey_rowId (table_insert_self c t.name t)
  refine ⟨t', _, _, addTable_of_new hnew, hprimary, hsame, rfl, ?_⟩
  intro name
  by_cases hname : name = t.name <;> simp [Catalog.table, hname]

/-- Whichever of the two row identities are keys, they can be tied. -/
theorem between_rowId (t1 t2 : Table) :
    ∃ fk, ForeignKey.between t1 [rowId] t2 [rowId] = .ok fk ∧
      ((fk.first = ⟨t1.name, [rowId]⟩ ∧ fk.second = ⟨t2.name, [rowId]⟩) ∨
        (fk.first = ⟨t2.name, [rowId]⟩ ∧ fk.second = ⟨t1.name, [rowId]⟩)) := by
  simp only [ForeignKey.between, missing?_rowId]
  cases t1.isKey [rowId] <;> cases t2.isKey [rowId] <;> simp

/-- A foreign key that fits two known tables can be registered. -/
theorem addForeignKey_of_between {t1 t2 : Table} {x y : List String} {fk : ForeignKey}
    (h1 : c.table t1.name = .ok t1) (h2 : c.table t2.name = .ok t2)
    (hfk : ForeignKey.between t1 x t2 y = .ok fk) (name : Option String) :
    c.addForeignKey t1.name x t2.name y name = .ok (⟨c.nextId⟩, { c with
      constraints := c.constraints.insert ⟨c.nextId⟩ ⟨name, .foreignKey fk⟩
      nextId := c.nextId + 1 }) := by
  have hchecks : c.checkSides [fk.first, fk.second] = .ok () := by
    unfold ForeignKey.between at hfk
    split at hfk
    · cases hfk
    · split at hfk
      · cases hfk
      · cases hfk
      case h_3 hx hy =>
        cases hfk
        split <;> simp [checkSides, h1, h2, hx, hy]
  simp only [addForeignKey, h1, h2, hfk, addConstraint, applyConstraint, hchecks, Except.map]

theorem addForeignKey_rowId {t1 t2 : Table} (h1 : c.table t1.name = .ok t1)
    (h2 : c.table t2.name = .ok t2) :
    ∃ fk, c.addForeignKey t1.name [rowId] t2.name [rowId] none = .ok (⟨c.nextId⟩, { c with
        constraints := c.constraints.insert ⟨c.nextId⟩ ⟨none, .foreignKey fk⟩
        nextId := c.nextId + 1 }) ∧
      ((fk.first = ⟨t1.name, [rowId]⟩ ∧ fk.second = ⟨t2.name, [rowId]⟩) ∨
        (fk.first = ⟨t2.name, [rowId]⟩ ∧ fk.second = ⟨t1.name, [rowId]⟩)) := by
  obtain ⟨fk, hfk, hsides⟩ := between_rowId t1 t2
  exact ⟨fk, addForeignKey_of_between h1 h2 hfk none, hsides⟩

/-- What the calls lead to: the new table with its key, and the two constraints
under the next numbers. -/
theorem WellFormed.storing_eq (hc : c.WellFormed) {t : Table}
    (hnew : c.containsTable t.name = false) (hsource : c.containsTable source = true) :
    ∃ t' fk d, (t'.name = t.name ∧ t'.derived = t.derived ∧ SortedSet.ofList [rowId] ∈ t'.keys) ∧
      ((fk.first = ⟨t.name, [rowId]⟩ ∧ fk.second = ⟨source, [rowId]⟩) ∨
        (fk.first = ⟨source, [rowId]⟩ ∧ fk.second = ⟨t.name, [rowId]⟩)) ∧
      d = ({
        tables := (c.tables.insert t.name t).insert t.name t'
        constraints := c.constraints.insert ⟨c.nextId⟩
          ⟨none, .primaryKey t.name (SortedSet.ofList [rowId])⟩
        nextId := c.nextId + 1 } : Catalog) ∧
      (storing t source).foldl (fun c call => call.attempt.after c) c =
        { d with
          constraints := d.constraints.insert ⟨d.nextId⟩ ⟨none, .foreignKey fk⟩
          nextId := d.nextId + 1 } := by
  obtain ⟨ts, hts⟩ := containsTable_iff.mp hsource
  obtain rfl := hc.named source ts hts
  have hne : ts.name ≠ t.name := ne_of_containsTable hsource hnew
  obtain ⟨t', c₁, c₂, hadd, hprimary, ⟨hname, hderived, hrow, -⟩, hc₂, htables⟩ :=
    exists_rowKeyed hnew
  have ht₂ : c₂.table t'.name = .ok t' := by rw [htables, if_pos hname]
  have hts₂ : c₂.table ts.name = .ok ts := by rw [htables, if_neg hne, hts]
  obtain ⟨fk, hforeign, hsides⟩ := addForeignKey_rowId ht₂ hts₂
  rw [hname] at hforeign hsides
  refine ⟨t', fk, c₂, ⟨hname, hderived, hrow⟩, hsides, hc₂, ?_⟩
  have hafter₁ : (Call.addTable t).attempt.after c = c₁ :=
    Attempt.after_atomic_of_ok (r := ((), c₁)) (by rw [hadd]; rfl)
  have hafter₂ : (Call.addConstraint none (.primaryKey t.name (SortedSet.ofList [rowId]))
      ).attempt.after c₁ = c₂ :=
    Attempt.after_atomic_of_ok (r := ((), c₂)) (by rw [hprimary]; rfl)
  have hafter₃ : (Call.addForeignKey t.name [rowId] ts.name [rowId] none).attempt.after c₂ =
      { c₂ with
        constraints := c₂.constraints.insert ⟨c₂.nextId⟩ ⟨none, .foreignKey fk⟩
        nextId := c₂.nextId + 1 } :=
    Attempt.after_atomic_of_ok (r := ((), _)) (by rw [hforeign]; rfl)
  rw [storing, List.foldl_cons, hafter₁, List.foldl_cons, hafter₂, List.foldl_cons, hafter₃,
    List.foldl_nil]

/-- A new table of drawn rows can be stored beside every known table. -/
theorem WellFormed.stores (hc : c.WellFormed) {t : Table} (hderived : t.derived = true)
    (hnew : c.containsTable t.name = false) (hsource : c.containsTable source = true) :
    c.Stores ((storing t source).foldl (fun c call => call.attempt.after c) c) t.name source := by
  obtain ⟨t', fk, d, ⟨-, hderived', hrow⟩, hsides, hd, heq⟩ := hc.storing_eq hnew hsource
  have hnumbered : ∀ id k, d.constraint? id = some k → id.index < d.nextId := by
    rw [hd]
    exact numbered_register hc.numbered
  have hkeys : d.foreignKeys = c.foreignKeys := by
    rw [hd]
    exact (foreignKeys_register hc.numbered none (.primaryKey t.name _) (c.nextId + 1)).trans
      (List.append_nil _)
  rw [heq]
  exact
    { new := hnew
      known := hsource
      stored := by
        refine ⟨t', ?_, hderived'.trans hderived, hrow⟩
        rw [table_eq_ok, hd, SortedMap.find?_insert, if_pos rfl]
      tied := by
        refine ⟨⟨d.nextId⟩, fk, ?_, ?_, hsides⟩
        · refine constraint?_of_le hc.numbered ?_
          rw [hd]
          exact Nat.le_succ _
        · rw [foreignKeys_register hnumbered, hkeys]
          rfl
      tables := by
        intro table htable
        rw [hd, SortedMap.find?_insert, if_neg htable, SortedMap.find?_insert, if_neg htable]
      constraints := by
        intro id k hk
        refine constraint?_register_of_some hnumbered ?_
        rw [hd]
        exact constraint?_register_of_some (n := c.nextId + 1) hc.numbered hk }

/-! ## What stays as it was -/

/-- Catalogs that differ in one table only. What is asked of further tables, and of
constraints that the first one knows, has one answer in both. -/
structure SameBut (c c' : Catalog) (name : String) : Prop where
  table : ∀ {a}, a ≠ name → c'.table a = c.table a
  shortestPaths : ∀ {a b}, a ≠ name → b ≠ name → c'.shortestPaths a b = c.shortestPaths a b
  shortestPath? : ∀ {a b}, a ≠ name → b ≠ name → c'.shortestPath? a b = c.shortestPath? a b
  reversePath? : ∀ {a b}, a ≠ name → b ≠ name → c'.reversePath? a b = c.reversePath? a b
  pathAcross : ∀ {a b id}, a ≠ name → b ≠ name → (∃ k, c.constraint? id = some k) →
    c'.pathAcross a b id = c.pathAcross a b id
  tablesWithAttribute : ∀ attr source,
    c'.tablesWithAttribute attr source = c.tablesWithAttribute attr source
  unsearched : ∀ attr source, name ∉ c.tablesWithAttribute attr source
  apart : ∀ s ∈ c.joinGraph.steps, s.source.table ≠ name ∧ s.target.table ≠ name

namespace Stores

variable (h : c.Stores c' name source)
include h

/-- In the graph of joins a table of drawn rows is a dead end. -/
theorem deadEnd (hc : c.WellFormed) :
    ∃ extra, c.joinGraph.DeadEnd c'.joinGraph name source extra ∧
      ∀ s ∈ extra, c.constraint? s.constraint = none := by
  obtain ⟨id, fk, hid, hkeys, hsides⟩ := h.tied
  refine ⟨JoinGraph.stepsAcross id fk, ⟨?steps, ?apart, ?between⟩, ?fresh⟩
  case steps => simp [joinGraph, JoinGraph.ofForeignKeys, hkeys]
  case apart =>
    -- The steps of the catalog are across its own keys, and these are on known tables.
    intro s hs
    obtain ⟨fk', hfk', hacross⟩ := foreignKey_of_mem_steps hs
    have hknown := hc.known _ _ (mem_foreignKeys.mp hfk')
    have hfirst := ne_of_containsTable (hknown fk'.first.table (by simp [Constraint.tables])) h.new
    have hsecond :=
      ne_of_containsTable (hknown fk'.second.table (by simp [Constraint.tables])) h.new
    rcases JoinGraph.mem_stepsAcross hacross with ⟨heq, -⟩ | ⟨heq, -⟩
    · rw [heq]
      exact ⟨hsecond, hfirst⟩
    · rw [heq]
      exact ⟨hfirst, hsecond⟩
  case between =>
    intro s hs
    rcases hsides with ⟨hfirst, hsecond⟩ | ⟨hfirst, hsecond⟩ <;>
      rcases JoinGraph.mem_stepsAcross hs with ⟨rfl, -⟩ | ⟨rfl, -⟩ <;>
      simp [hfirst, hsecond]
  case fresh =>
    intro s hs
    rw [constraint_of_mem_stepsAcross hs, hid]

theorem table_eq (ha : a ≠ name) : c'.table a = c.table a := by
  rw [table, table, h.tables ha]

theorem checkTables_eq (ha : a ≠ name) (hb : b ≠ name) :
    c'.checkTables a b = c.checkTables a b := by
  rw [checkTables, checkTables, h.table_eq ha, h.table_eq hb]

/-- Tables of drawn rows are not looked through for a column. -/
theorem tablesWithAttribute_eq (attr : String) :
    c'.tablesWithAttribute attr a = c.tablesWithAttribute attr a := by
  have hnew : c.tables.find? name = none := by
    have hnew := h.new
    rwa [containsTable, SortedMap.contains_eq_isSome, Option.isSome_eq_false_iff,
      Option.isNone_iff_eq_none] at hnew
  obtain ⟨t, ht, hderived, -⟩ := h.stored
  have hsame : ∀ keep : Table → Bool, (∀ t, t.derived = true → keep t = false) →
      c'.tables.filter (fun _ t => keep t) = c.tables.filter fun _ t => keep t := by
    intro keep hkeep
    refine SortedMap.eq_of_find?_eq fun key => ?_
    rw [SortedMap.find?_filter, SortedMap.find?_filter]
    by_cases hkey : key = name
    · rw [hkey, hnew, table_eq_ok.mp ht]
      simp [hkeep t hderived]
    · rw [h.tables hkey]
  rw [tablesWithAttribute, tablesWithAttribute, ← SortedMap.values_filter,
    ← SortedMap.values_filter, hsame]
  intro t ht
  simp [ht]

theorem sameBut (hc : c.WellFormed) : c.SameBut c' name := by
  obtain ⟨extra, hend, hfresh⟩ := h.deadEnd hc
  exact
    { table := h.table_eq
      shortestPaths := by
        intro a b ha hb
        rw [shortestPaths, shortestPaths, h.checkTables_eq ha hb, hend.shortestPaths_eq ha hb]
      shortestPath? := by
        intro a b ha hb
        rw [shortestPath?, shortestPath?, h.checkTables_eq ha hb, hend.shortestPath?_eq ha hb]
      reversePath? := by
        intro a b ha hb
        rw [reversePath?, reversePath?, h.checkTables_eq ha hb, hend.shortestPath?_eq hb ha]
      pathAcross := by
        -- A constraint that was registered before is not the one of the new table.
        rintro a b id ha hb ⟨k, hk⟩
        have hother : ∀ s ∈ extra, s.constraint ≠ id := by
          rintro s hs rfl
          rw [hfresh s hs] at hk
          cases hk
        have hkey : c'.foreignKey id = c.foreignKey id := by
          rw [foreignKey, foreignKey, hk, h.constraints hk]
        rw [pathAcross, pathAcross, h.checkTables_eq ha hb, hkey,
          hend.pathAcross?_eq hother ha hb]
      tablesWithAttribute := fun attr _ => h.tablesWithAttribute_eq attr
      unsearched := by
        intro attr source hname
        obtain ⟨key, t, ht, -, -, -, hname⟩ := mem_tablesWithAttribute.mp hname
        have hkey : key ≠ name := ne_of_containsTable (containsTable_iff.mpr ⟨t, ht⟩) h.new
        exact hkey ((hc.named key t ht).symm.trans hname)
      apart := hend.apart }

end Stores

end KeyChart.Catalog
