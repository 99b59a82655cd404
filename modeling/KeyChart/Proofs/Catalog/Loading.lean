import KeyChart.Proofs.Catalog.LoadedTables

/-!
# What loading leaves alone

A script only puts in tables that are new, gives keys to those tables and registers
foreign keys. So whatever was there before it stays as it was, even if the script stops
half-way, and behind it come constraints under the next numbers.
-/

namespace KeyChart.Catalog

open Attempt

variable {c d d' : Catalog}

/-! ## Properties that loading keeps -/

/-- A property of what comes after a catalog that loading keeps: it is kept by adding a
table that is new, by a key of a table that was not there, and by a foreign key. -/
structure KeptByLoading (c : Catalog) (I : Catalog → Prop) : Prop where
  known : ∀ {d : Catalog} {name : String}, I d → c.containsTable name = true →
    d.containsTable name = true
  table : ∀ {d d' : Catalog} {t : Table}, c.containsTable t.name = false →
    SortedSet.ofList [rowId] ∈ t.keys → d.addTable t = .ok d' → I d → I d'
  key : ∀ {d d' : Catalog} {name : Option String} {k : Constraint} {id : ConstraintId}
    {table : String}, c.containsTable table = false → k.IsKeyOf table →
    d.addConstraint name k = .ok (id, d') → I d → I d'
  foreignKey : ∀ {d d' : Catalog} {t1 t2 : String} {x y : List String} {name : Option String}
    {id : ConstraintId}, d.addForeignKey t1 x t2 y name = .ok (id, d') → I d → I d'

theorem ofAttributes_keyed {name : String} {attributes : List Attribute} {derived : Bool}
    {t : Table} (h : Table.ofAttributes name attributes derived = .ok t) :
    SortedSet.ofList [rowId] ∈ t.keys := by
  unfold Table.ofAttributes at h
  split at h
  · cases h
    simp [Table.ofSchema]
  · cases h

namespace KeptByLoading

variable {I : Catalog → Prop} (h : KeptByLoading c I)
include h

/-- A table that was added is not among those that were there. -/
theorem new_of_addTable {t : Table} (hd : I d) (hadd : d.addTable t = .ok d') :
    c.containsTable t.name = false := by
  by_contra hknown
  rw [Bool.not_eq_false] at hknown
  have hnew := (addTable_eq_ok hadd).1
  rw [h.known hd hknown] at hnew
  cases hnew

theorem takes_addTable {t : Table} (ht : SortedSet.ofList [rowId] ∈ t.keys) :
    Takes I (atomic fun d : Catalog => (d.addTable t).map fun d => ((), d))
      (fun _ d => c.containsTable t.name = false ∧ I d) I := by
  refine takes_atomic_map (fun d d' hd hadd => ?_) fun _ hd => hd
  have hnew := h.new_of_addTable hd hadd
  exact ⟨hnew, h.table hnew ht hadd hd⟩

theorem loadTable (decl : Ddl.TableDecl) : (Catalog.loadTable decl).Keeps I := by
  rw [loadTable_eq]
  refine Takes.keeps (J := fun _ => I) ?_ (fun _ _ h => h) (fun _ h => h)
  apply takes_bind (takes_ask _)
  rintro t d ⟨ht, hd⟩
  refine takes_bind (h.takes_addTable (ofAttributes_keyed ht)) ?_ d hd
  rintro u d ⟨hnew, hd⟩
  rw [(Table.ofAttributes_eq_ok ht).1] at hnew
  have hkeys : (registerKeys decl.constraints).Keeps I := by
    unfold registerKeys
    refine keeps_bind (keeps_forIn fun k hk _ => ?_) fun _ => keeps_pure _
    refine keeps_bind (keeps_atomic ?_) fun _ => keeps_pure _
    intro d₁ id d₂ hadd hd₁
    exact h.key hnew (Ddl.TableDecl.isKeyOf_of_mem hk) hadd hd₁
  exact (keeps_bind hkeys fun _ => keeps_pure _).takes d hd

theorem loadForeignKey (decl : Ddl.ForeignKeyDecl) : (Catalog.loadForeignKey decl).Keeps I := by
  unfold Catalog.loadForeignKey
  refine keeps_bind keeps_get fun _ => keeps_ite ?_ (keeps_pure _)
  refine keeps_bind (keeps_atomic ?_) fun _ => keeps_pure _
  exact fun d id d' hadd hd => h.foreignKey hadd hd

theorem loadDdl (sql : String) : (Catalog.loadDdl sql).Keeps I := by
  unfold Catalog.loadDdl loadScript
  refine keeps_bind (keeps_ofExcept _) fun script => ?_
  refine keeps_bind (keeps_mapM fun decl _ => h.loadTable decl) fun names => ?_
  refine keeps_bind (keeps_forIn fun decl _ _ => ?_) fun _ => keeps_pure _
  exact keeps_bind (h.loadForeignKey decl) fun _ => keeps_pure _

end KeptByLoading

/-! ## What is appended -/

/-- A catalog with everything that another has, and behind it constraints under the
numbers that have been given out since. -/
structure Appends (c d : Catalog) : Prop where
  wellFormed : d.WellFormed
  tables : ∀ {name t}, c.table name = .ok t → d.table name = .ok t
  entries : ∃ new, d.constraints.entries = c.constraints.entries ++ new ∧
    new.map Prod.fst = (List.range' c.nextId new.length).map ConstraintId.mk ∧
    d.nextId = c.nextId + new.length

theorem Appends.refl (hc : c.WellFormed) : c.Appends c where
  wellFormed := hc
  tables h := h
  entries := ⟨[], by simp⟩

theorem Appends.containsTable (h : c.Appends d) {name : String}
    (hname : c.containsTable name = true) : d.containsTable name = true := by
  obtain ⟨t, ht⟩ := containsTable_iff.mp hname
  exact containsTable_iff.mpr ⟨t, h.tables ht⟩

theorem Appends.find? (h : c.Appends d) {id : ConstraintId} {e : CatalogEntry}
    (he : c.constraints.find? id = some e) : d.constraints.find? id = some e := by
  obtain ⟨new, hentries, -⟩ := h.entries
  rw [SortedMap.find?_eq_some_iff_mem] at he ⊢
  rw [hentries]
  exact List.mem_append_left _ he

/-- Another table may be put in where there was none. -/
theorem Appends.insert (h : c.Appends d) {name : String} {t : Table}
    (hnew : c.containsTable name = false)
    (hd' : ({ d with tables := d.tables.insert name t } : Catalog).WellFormed) :
    c.Appends { d with tables := d.tables.insert name t } where
  wellFormed := hd'
  tables := by
    intro name' t' ht'
    rw [table_insert_eq_ok, if_neg, h.tables ht']
    exact ne_of_containsTable (containsTable_iff.mpr ⟨t', ht'⟩) hnew
  entries := h.entries

theorem Appends.register (h : c.Appends d) {name : Option String} {k : Constraint}
    (hd' : ({ d with
      constraints := d.constraints.insert ⟨d.nextId⟩ ⟨name, k⟩
      nextId := d.nextId + 1 } : Catalog).WellFormed) :
    c.Appends { d with
      constraints := d.constraints.insert ⟨d.nextId⟩ ⟨name, k⟩
      nextId := d.nextId + 1 } where
  wellFormed := hd'
  tables ht := h.tables ht
  entries := by
    obtain ⟨new, hentries, hnumbers, hnext⟩ := h.entries
    refine ⟨new ++ [(⟨d.nextId⟩, ⟨name, k⟩)], ?_, ?_, ?_⟩
    · rw [entries_register h.wellFormed.numbered, hentries, List.append_assoc]
    · rw [List.map_append, hnumbers, List.length_append, List.length_singleton,
        List.range'_concat, List.map_append, hnext, Nat.one_mul]
      rfl
    · rw [List.length_append, List.length_singleton, hnext, Nat.add_assoc]

theorem Appends.addKey (h : c.Appends d) {table : String} {key : Key}
    (hnew : c.containsTable table = false) (hadd : d.addKey table key = .ok d') :
    c.Appends d' := by
  have hd' := keptByAdding_wellFormed.addKey hadd h.wellFormed
  obtain ⟨t, t', -, -, rfl⟩ := addKey_eq_ok hadd
  exact h.insert hnew hd'

theorem Appends.addConstraint (h : c.Appends d) {name : Option String} {k : Constraint}
    {id : ConstraintId} (hk : ∀ table key, (k = .primaryKey table key ∨ k = .unique table key) →
      c.containsTable table = false)
    (hadd : d.addConstraint name k = .ok (id, d')) : c.Appends d' := by
  have hd' := keptByAdding_wellFormed.addConstraint hadd h.wellFormed
  obtain ⟨d₁, happly, rfl, rfl⟩ := addConstraint_eq_ok hadd
  rcases applyConstraint_eq_ok happly with ⟨table, key, hkey, hadd⟩ | ⟨fk, -, -, rfl⟩
  · exact (h.addKey (hk table key hkey) hadd).register hd'
  · exact h.register hd'

theorem keptByLoading_appends (c : Catalog) : KeptByLoading c c.Appends where
  known hd hname := hd.containsTable hname
  table := by
    intro d d' t hnew _ hadd hd
    have hd' := keptByAdding_wellFormed.addTable hadd hd.wellFormed
    obtain ⟨-, rfl⟩ := addTable_eq_ok hadd
    exact hd.insert hnew hd'
  key := by
    intro d d' name k id table hnew hk hadd hd
    refine hd.addConstraint ?_ hadd
    intro table' key hkey
    have htables := hk.tables
    rcases hkey with rfl | rfl <;> rwa [List.singleton_inj.mp htables]
  foreignKey := by
    intro d d' t1 t2 x y name id hadd hd
    obtain ⟨first, second, fk, -, -, -, hadd⟩ := addForeignKey_eq_ok hadd
    refine hd.addConstraint ?_ hadd
    rintro table key (hkey | hkey) <;> cases hkey

/-- A script appends to a catalog, whether it can be loaded or stops half-way. -/
theorem WellFormed.appends_loadDdl (hc : c.WellFormed) (sql : String) :
    c.Appends ((loadDdl sql).after c) :=
  (keptByLoading_appends c).loadDdl sql c (.refl hc)

end KeyChart.Catalog
