import KeyChart.Proofs.Catalog.StoredTables

/-!
# Loading declared tables

Whether a declared table can be loaded is a matter of its declaration and of its name:
every key has to be on columns that are declared, and the name must not be taken. The
table then has exactly the declared columns and keys, and no foreign key is touched.
-/

namespace KeyChart

open Attempt

/-! ## What is declared -/

namespace Ddl

/-- The attributes of a declared table. -/
def TableDecl.attributes (d : TableDecl) : List Attribute :=
  d.columns.map fun column => ⟨column.name, column.type⟩

/-- The constraints that a declared table brings along, the primary key first. -/
def TableDecl.constraints (d : TableDecl) : List Constraint :=
  (if d.primaryKey.isEmpty then [] else [.primaryKey d.name (SortedSet.ofList d.primaryKey)]) ++
    d.uniques.map fun columns => .unique d.name (SortedSet.ofList columns)

end Ddl

/-- The candidate key that a constraint makes. -/
def Constraint.key? : Constraint → Option Key
  | primaryKey _ key | unique _ key => some key
  | foreignKey _ => none

/-- A constraint that makes a candidate key of a table. -/
structure Constraint.IsKeyOf (k : Constraint) (table : String) : Prop where
  tables : k.tables = [table]
  key : ∃ key, k.key? = some key

theorem Ddl.TableDecl.isKeyOf_of_mem {d : TableDecl} {k : Constraint} (h : k ∈ d.constraints) :
    k.IsKeyOf d.name := by
  rcases List.mem_append.mp h with h | h
  · split at h
    · cases h
    · rw [List.mem_singleton.mp h]
      exact ⟨rfl, _, rfl⟩
  · obtain ⟨columns, -, rfl⟩ := List.mem_map.mp h
    exact ⟨rfl, _, rfl⟩

/-- The declared candidate keys of a table. -/
def Ddl.TableDecl.keys (d : TableDecl) : List Key := d.constraints.filterMap Constraint.key?

theorem Ddl.TableDecl.mem_keys {d : TableDecl} {key : Key} :
    key ∈ d.keys ↔ (d.primaryKey ≠ [] ∧ SortedSet.ofList d.primaryKey = key) ∨
      ∃ columns ∈ d.uniques, SortedSet.ofList columns = key := by
  have huniques : (d.uniques.map fun columns =>
      Constraint.unique d.name (SortedSet.ofList columns)).filterMap Constraint.key? =
        d.uniques.map SortedSet.ofList := by
    simp [List.filterMap_map, Function.comp_def, Constraint.key?]
  rw [keys, constraints, List.filterMap_append, huniques, List.mem_append, List.mem_map]
  by_cases hnil : d.primaryKey = []
  · simp [hnil]
  · simp [hnil, Constraint.key?, @eq_comm _ key]

theorem Table.missing?_congr {t t' : Table} (h : t.schema = t'.schema) (attrs : List String) :
    t.missing? attrs = t'.missing? attrs := by
  simp only [missing?, hasAttribute, h]

/-- A table that is registered with exactly the declared columns and keys, each of the
keys on attributes that it has. -/
structure Ddl.TableDecl.Describes (d : TableDecl) (t : Table) : Prop where
  name : t.name = d.name
  displayName : t.displayName = d.name
  schema : Schema.ofAttributes d.attributes = .ok t.schema
  keys : ∀ key, key ∈ t.keys ↔ key = SortedSet.ofList [rowId] ∨ key ∈ d.keys
  derived : t.derived = false
  covered : ∀ key ∈ d.keys, t.missing? key.members = none

/-! ## Loading a table -/

namespace Catalog

variable {c c' : Catalog}

/-- The registered foreign keys with their declared names, in the order of their
numbers. -/
def namedForeignKeys (c : Catalog) : List (Option String × ForeignKey) :=
  c.constraints.entries.filterMap fun e => e.2.constraint.foreignKey?.map fun fk => (e.2.name, fk)

theorem WellFormed.namedForeignKeys_register (hc : c.WellFormed) (name : Option String)
    (k : Constraint) (n : Nat) :
    ({ c with constraints := c.constraints.insert ⟨c.nextId⟩ ⟨name, k⟩, nextId := n } :
        Catalog).namedForeignKeys =
      c.namedForeignKeys ++ (k.foreignKey?.map fun fk => (name, fk)).toList := by
  rw [namedForeignKeys, entries_register hc.numbered, List.filterMap_append, namedForeignKeys]
  cases k <;> rfl

/-- A catalog with one more table, or another one under its name, and the foreign keys of
the catalog before. -/
structure Puts (c c' : Catalog) (t : Table) : Prop where
  table : ∀ name, c'.tables.find? name = if name = t.name then some t else c.tables.find? name
  foreignKeys : c'.namedForeignKeys = c.namedForeignKeys
  wellFormed : c'.WellFormed

theorem Puts.trans {c'' : Catalog} {t t' : Table} (h : c.Puts c' t) (h' : c'.Puts c'' t')
    (hname : t'.name = t.name) : c.Puts c'' t' where
  table := by
    intro name
    rw [h'.table, h.table, hname]
    split <;> rfl
  foreignKeys := h'.foreignKeys.trans h.foreignKeys
  wellFormed := h'.wellFormed

end Catalog

theorem Table.mem_keys_of_addKey {t t' : Table} {key : Key} (h : t.addKey key = .ok t')
    (key' : Key) : key' ∈ t'.keys ↔ key' ∈ t.keys ∨ key' = key := by
  unfold addKey at h
  split at h
  · cases h
  · cases h
    split
    case isTrue hold =>
      have hmem : key ∈ t.keys := by simpa using hold
      constructor
      · exact Or.inl
      · rintro (hkey | rfl)
        · exact hkey
        · exact hmem
    case isFalse => simp

namespace Catalog

variable {c c' : Catalog} {t : Table} {k : Constraint} {key : Key}

/-- Registering a key of a known table. -/
theorem WellFormed.puts_of_addConstraint (hc : c.WellFormed) (ht : c.table t.name = .ok t)
    (htables : k.tables = [t.name]) (hkey : k.key? = some key) {id : ConstraintId}
    (h : c.addConstraint none k = .ok (id, c')) :
    ∃ t', t.addKey key = .ok t' ∧ c.Puts c' t' := by
  have hc' : c'.WellFormed := keptByAdding_wellFormed.addConstraint h hc
  obtain ⟨c₁, happly, rfl, rfl⟩ := addConstraint_eq_ok h
  have hadd : c.addKey t.name key = .ok c₁ := by
    cases k with
    | foreignKey fk => cases hkey
    | _ =>
      cases hkey
      cases htables
      exact happly
  obtain ⟨t₀, t', ht₀, hadd', rfl⟩ := addKey_eq_ok hadd
  obtain rfl : t = t₀ := Except.ok.inj (ht.symm.trans ht₀)
  obtain ⟨-, -, -, keys, hkeys⟩ := Table.addKey_eq_ok hadd'
  have hname : t'.name = t.name := by rw [hkeys]
  refine ⟨t', hadd', ?_, ?_, hc'⟩
  · intro name
    rw [hname]
    exact SortedMap.find?_insert _ _ _ _
  · have hnone : k.foreignKey? = none := by
      cases k with
      | foreignKey fk => cases hkey
      | _ => rfl
    rw [WellFormed.namedForeignKeys_register (keptByAdding_wellFormed.addKey hadd hc), hnone]
    exact List.append_nil _

theorem exists_addConstraint (ht : c.table t.name = .ok t) (htables : k.tables = [t.name])
    (hkey : k.key? = some key) (hcovered : t.missing? key.members = none) :
    ∃ r, c.addConstraint none k = .ok r := by
  have happly : c.applyConstraint k = c.addKey t.name key := by
    cases k with
    | foreignKey fk => cases hkey
    | _ =>
      cases hkey
      cases htables
      rfl
  simp only [addConstraint, happly, addKey, ht, Table.addKey, hcovered]
  exact ⟨_, rfl⟩

/-- Registers keys one after the other. -/
def registerKeys (ks : List Constraint) : Attempt Catalog Unit := do
  for k in ks do
    let _ ← atomic fun (c : Catalog) => c.addConstraint none k

theorem registerKeys_cons (k : Constraint) (ks : List Constraint) :
    registerKeys (k :: ks) =
      (atomic fun c : Catalog => c.addConstraint none k) >>= fun _ => registerKeys ks := by
  simp only [registerKeys, List.forIn_cons, bind_assoc, pure_bind]

theorem loadTable_eq (d : Ddl.TableDecl) :
    loadTable d = (do
      let table ← Attempt.ofExcept (Table.ofAttributes d.name d.attributes)
      atomic fun c => (c.addTable table).map fun c => ((), c)
      registerKeys d.constraints
      return d.name) := by
  unfold loadTable Ddl.TableDecl.constraints
  cases d.primaryKey.isEmpty with
  | true => simp [registerKeys, Ddl.TableDecl.attributes, List.foldlM_map]
  | false => simp [registerKeys, Ddl.TableDecl.attributes, List.foldlM_map]

/-- Keys that could be registered for a table are keys of it from then on, whatever
their order. -/
theorem WellFormed.puts_of_registerKeys (hc : c.WellFormed) {ks : List Constraint}
    (ht : c.table t.name = .ok t) (hks : ∀ k ∈ ks, k.IsKeyOf t.name)
    (h : (registerKeys ks).run.run c = (.ok (), c')) :
    ∃ keys, c.Puts c' { t with keys } ∧
      (∀ key, key ∈ keys ↔ key ∈ t.keys ∨ key ∈ ks.filterMap Constraint.key?) ∧
      ∀ key ∈ ks.filterMap Constraint.key?, t.missing? key.members = none := by
  induction ks generalizing c t with
  | nil =>
    cases h
    refine ⟨t.keys, ⟨?_, rfl, hc⟩, by simp, by simp⟩
    intro name
    split
    case isTrue heq => rw [heq, table_eq_ok.mp ht]
    case isFalse => rfl
  | cons k ks ih =>
    rw [registerKeys_cons] at h
    obtain ⟨id, c₁, hfirst, hrest⟩ := run_bind_eq_ok h
    obtain ⟨htables, key, hkey⟩ := hks k (by simp)
    obtain ⟨t₁, hadd, hputs⟩ :=
      hc.puts_of_addConstraint ht htables hkey (run_atomic_eq_ok hfirst)
    obtain ⟨hcovered, -, -, keys₁, rfl⟩ := Table.addKey_eq_ok hadd
    have ht₁ : c₁.table t.name = .ok { t with keys := keys₁ } := by
      rw [table_eq_ok, hputs.table, if_pos rfl]
    obtain ⟨keys, hputs', hkeys, hcovered'⟩ :=
      ih (t := { t with keys := keys₁ }) hputs.wellFormed ht₁ (fun k hk => hks k (by simp [hk])) hrest
    refine ⟨keys, hputs.trans hputs' rfl, ?_, ?_⟩
    · intro key'
      rw [hkeys, Table.mem_keys_of_addKey hadd, List.filterMap_cons_some hkey, List.mem_cons,
        or_assoc]
    · intro key' hkey'
      rw [List.filterMap_cons_some hkey] at hkey'
      rcases List.mem_cons.mp hkey' with rfl | hkey'
      · exact hcovered
      · exact hcovered' key' hkey'

theorem WellFormed.exists_registerKeys (hc : c.WellFormed) {ks : List Constraint}
    (ht : c.table t.name = .ok t) (hks : ∀ k ∈ ks, k.IsKeyOf t.name)
    (hcovered : ∀ key ∈ ks.filterMap Constraint.key?, t.missing? key.members = none) :
    ∃ c', (registerKeys ks).run.run c = (.ok (), c') := by
  induction ks generalizing c t with
  | nil => exact ⟨c, rfl⟩
  | cons k ks ih =>
    obtain ⟨htables, key, hkey⟩ := hks k (by simp)
    rw [List.filterMap_cons_some hkey] at hcovered
    obtain ⟨⟨id, c₁⟩, hadd⟩ := exists_addConstraint ht htables hkey (hcovered key (by simp))
    obtain ⟨t₁, ht₁, hputs⟩ := hc.puts_of_addConstraint ht htables hkey hadd
    obtain ⟨-, -, -, keys₁, rfl⟩ := Table.addKey_eq_ok ht₁
    have hknown : c₁.table t.name = .ok { t with keys := keys₁ } := by
      rw [table_eq_ok, hputs.table, if_pos rfl]
    obtain ⟨c', hrest⟩ := ih (t := { t with keys := keys₁ }) hputs.wellFormed hknown
      (fun k hk => hks k (by simp [hk]))
      fun key' hkey' => hcovered key' (by simp [hkey'])
    refine ⟨c', ?_⟩
    rw [registerKeys_cons, run_bind_of_ok (run_atomic_of_ok hadd), hrest]

/-- A table as it is registered before its keys. -/
theorem describes_ofAttributes {d : Ddl.TableDecl} {keys : List Key}
    (h : Table.ofAttributes d.name d.attributes = .ok t)
    (hkeys : ∀ key, key ∈ keys ↔ key ∈ t.keys ∨ key ∈ d.keys)
    (hcovered : ∀ key ∈ d.keys, t.missing? key.members = none) :
    d.Describes { t with keys } := by
  unfold Table.ofAttributes at h
  split at h
  case h_1 schema hschema =>
    cases h
    refine ⟨rfl, rfl, hschema, ?_, rfl, hcovered⟩
    intro key
    rw [hkeys]
    simp [Table.ofSchema]
  case h_2 => cases h

theorem WellFormed.puts_of_addTable (hc : c.WellFormed) (h : c.addTable t = .ok c') :
    c.containsTable t.name = false ∧ c.Puts c' t := by
  have hc' : c'.WellFormed := keptByAdding_wellFormed.addTable h hc
  obtain ⟨hnew, rfl⟩ := addTable_eq_ok h
  exact ⟨hnew, fun name => SortedMap.find?_insert _ _ _ _, rfl, hc'⟩

/-- What loading one table does, if it succeeds. -/
theorem WellFormed.puts_of_loadTable (hc : c.WellFormed) {d : Ddl.TableDecl} {name : String}
    (h : (loadTable d).run.run c = (.ok name, c')) :
    name = d.name ∧ c.containsTable d.name = false ∧ ∃ t, d.Describes t ∧ c.Puts c' t := by
  rw [loadTable_eq] at h
  obtain ⟨t, c₁, htable, hrest⟩ := run_bind_eq_ok h
  obtain ⟨hattributes, rfl⟩ := run_ask_eq_ok htable
  obtain ⟨u, c₂, hatomic, hrest⟩ := run_bind_eq_ok hrest
  have hmap : (c₁.addTable t).map (fun c => ((), c)) = .ok (u, c₂) := run_atomic_eq_ok hatomic
  obtain ⟨c₃, hadd, heq⟩ := Except.map_eq_ok.mp hmap
  cases heq
  obtain ⟨u', c₄, hregister, hend⟩ := run_bind_eq_ok hrest
  cases hend
  obtain ⟨hname, -⟩ := Table.ofAttributes_eq_ok hattributes
  obtain ⟨hnew, hputs⟩ := hc.puts_of_addTable hadd
  have ht : c₂.table t.name = .ok t := by
    rw [table_eq_ok, hputs.table, if_pos rfl]
  have hks : ∀ k ∈ d.constraints, k.IsKeyOf t.name := by
    intro k hk
    rw [hname]
    exact Ddl.TableDecl.isKeyOf_of_mem hk
  obtain ⟨keys, hputs', hkeys, hcovered⟩ := hputs.wellFormed.puts_of_registerKeys ht hks hregister
  rw [hname] at hnew
  exact ⟨rfl, hnew, _, describes_ofAttributes hattributes hkeys hcovered, hputs.trans hputs' rfl⟩

/-- Whether a table can be loaded depends on its declaration and its name only. -/
theorem WellFormed.exists_loadTable (hc : c.WellFormed) {d : Ddl.TableDecl}
    (hnew : c.containsTable d.name = false) (ht : d.Describes t) :
    ∃ c', (loadTable d).run.run c = (.ok d.name, c') := by
  obtain ⟨t₀, hattributes, hname, hschema⟩ : ∃ t₀, Table.ofAttributes d.name d.attributes = .ok t₀ ∧
      t₀.name = d.name ∧ t₀.schema = t.schema :=
    ⟨.ofSchema d.name t.schema, by simp only [Table.ofAttributes, ht.schema], rfl, rfl⟩
  have hread : (Attempt.ofExcept (Table.ofAttributes d.name d.attributes)).run.run c =
      (.ok t₀, c) := by
    rw [hattributes]
    rfl
  obtain ⟨c₁, hadd⟩ : ∃ c₁, c.addTable t₀ = .ok c₁ := by
    simp [addTable, hname, hnew]
  have hput : (atomic fun c => (c.addTable t₀).map fun c => ((), c)).run.run c = (.ok (), c₁) := by
    apply run_atomic_of_ok (r := ((), c₁))
    rw [hadd]
    rfl
  obtain ⟨-, hputs⟩ := hc.puts_of_addTable hadd
  have hknown : c₁.table t₀.name = .ok t₀ := by
    rw [table_eq_ok, hputs.table, if_pos rfl]
  have hks : ∀ k ∈ d.constraints, k.IsKeyOf t₀.name := by
    intro k hk
    rw [hname]
    exact Ddl.TableDecl.isKeyOf_of_mem hk
  have hcovered : ∀ key ∈ d.keys, t₀.missing? key.members = none := by
    intro key hkey
    rw [← ht.covered key hkey]
    exact Table.missing?_congr hschema _
  obtain ⟨c', hregister⟩ := hputs.wellFormed.exists_registerKeys hknown hks hcovered
  refine ⟨c', ?_⟩
  rw [loadTable_eq, run_bind_of_ok hread, run_bind_of_ok hput, run_bind_of_ok hregister]
  rfl

/-! ## Loading tables -/

/-- Tables that can be loaded one after the other: none has the name of another one or
of a known one, and every declaration describes a table. -/
structure Loadable (c : Catalog) (ds : List Ddl.TableDecl) : Prop where
  distinct : (ds.map Ddl.TableDecl.name).Nodup
  fresh : ∀ d ∈ ds, c.containsTable d.name = false
  described : ∀ d ∈ ds, ∃ t, d.Describes t

/-- What a catalog has become after tables have been loaded. -/
structure Loads (c c' : Catalog) (ds : List Ddl.TableDecl) : Prop where
  loaded : ∀ d ∈ ds, ∃ t, d.Describes t ∧ c'.tables.find? d.name = some t
  others : ∀ name, name ∉ ds.map Ddl.TableDecl.name → c'.tables.find? name = c.tables.find? name
  foreignKeys : c'.namedForeignKeys = c.namedForeignKeys
  wellFormed : c'.WellFormed

theorem Puts.containsTable (h : c.Puts c' t) (name : String) :
    c'.containsTable name = (name == t.name || c.containsTable name) := by
  simp only [Catalog.containsTable, SortedMap.contains_eq_isSome, h.table]
  by_cases heq : name = t.name <;> simp [heq]

theorem WellFormed.loads_of_loadTables (hc : c.WellFormed) {ds : List Ddl.TableDecl}
    {names : List String} (h : (ds.mapM loadTable).run.run c = (.ok names, c')) :
    names = ds.map Ddl.TableDecl.name ∧ c.Loadable ds ∧ c.Loads c' ds := by
  induction ds generalizing c names with
  | nil =>
    rw [List.mapM_nil] at h
    cases h
    exact ⟨rfl, ⟨.nil, by simp, by simp⟩, ⟨by simp, fun _ _ => rfl, rfl, hc⟩⟩
  | cons d ds ih =>
    rw [List.mapM_cons] at h
    obtain ⟨name, c₁, hfirst, hrest⟩ := run_bind_eq_ok h
    obtain ⟨names', c₂, hload, hend⟩ := run_bind_eq_ok hrest
    cases hend
    obtain ⟨rfl, hnew, t, ht, hputs⟩ := hc.puts_of_loadTable hfirst
    obtain ⟨rfl, hloadable, hloads⟩ := ih hputs.wellFormed hload
    have hfresh : ∀ d' ∈ ds, d'.name ≠ d.name ∧ c.containsTable d'.name = false := by
      intro d' hd'
      have hfresh := hloadable.fresh d' hd'
      rw [hputs.containsTable, Bool.or_eq_false_iff, ht.name, beq_eq_false_iff_ne] at hfresh
      exact hfresh
    have hnotin : d.name ∉ ds.map Ddl.TableDecl.name := by
      intro hin
      obtain ⟨d', hd', heq⟩ := List.mem_map.mp hin
      exact (hfresh d' hd').1 heq
    refine ⟨rfl, ⟨?_, ?_, ?_⟩, ⟨?_, ?_, ?_, hloads.wellFormed⟩⟩
    · exact List.nodup_cons.mpr ⟨hnotin, hloadable.distinct⟩
    · intro d' hd'
      rcases List.mem_cons.mp hd' with rfl | hd'
      · exact hnew
      · exact (hfresh d' hd').2
    · intro d' hd'
      rcases List.mem_cons.mp hd' with rfl | hd'
      · exact ⟨t, ht⟩
      · exact hloadable.described d' hd'
    · intro d' hd'
      rcases List.mem_cons.mp hd' with rfl | hd'
      · -- The tables that come later have other names.
        refine ⟨t, ht, ?_⟩
        rw [hloads.others _ hnotin, hputs.table, if_pos ht.name.symm]
      · exact hloads.loaded d' hd'
    · intro name hname
      rw [List.map_cons, List.mem_cons, not_or] at hname
      rw [hloads.others name hname.2, hputs.table, ht.name, if_neg hname.1]
    · exact hloads.foreignKeys.trans hputs.foreignKeys

theorem WellFormed.exists_loadTables (hc : c.WellFormed) {ds : List Ddl.TableDecl}
    (h : c.Loadable ds) : ∃ names c', (ds.mapM loadTable).run.run c = (.ok names, c') := by
  induction ds generalizing c with
  | nil => exact ⟨[], c, rfl⟩
  | cons d ds ih =>
    obtain ⟨hnotin, hdistinct⟩ := List.nodup_cons.mp h.distinct
    obtain ⟨t, ht⟩ := h.described d (by simp)
    obtain ⟨c₁, hfirst⟩ := hc.exists_loadTable (h.fresh d (by simp)) ht
    obtain ⟨-, -, t₁, ht₁, hputs⟩ := hc.puts_of_loadTable hfirst
    have hrest : c₁.Loadable ds := by
      refine ⟨hdistinct, ?_, fun d' hd' => h.described d' (by simp [hd'])⟩
      intro d' hd'
      have hne : d'.name ≠ d.name := fun heq => hnotin (List.mem_map.mpr ⟨d', hd', heq⟩)
      rw [hputs.containsTable, ht₁.name, h.fresh d' (by simp [hd']), Bool.or_false,
        beq_eq_false_iff_ne]
      exact hne
    obtain ⟨names, c', hload⟩ := ih hputs.wellFormed hrest
    refine ⟨d.name :: names, c', ?_⟩
    rw [List.mapM_cons, run_bind_of_ok hfirst, run_bind_of_ok hload]
    rfl

end Catalog

end KeyChart
