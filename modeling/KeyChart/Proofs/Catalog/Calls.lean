import KeyChart.Catalog.Load
import KeyChart.Catalog.Paths
import KeyChart.Proofs.Attempt
import KeyChart.Proofs.SortedMap

/-!
# Calls to a catalog

What each call does to a catalog when it succeeds, and the catalogs that calls
lead to. A call that fails leaves the catalog as it was, except for a script,
of which a part may have been loaded.
-/

namespace KeyChart

/-! ## Tables -/

theorem Table.addKey_eq_ok {t t' : Table} {key : Key} (h : t.addKey key = .ok t') :
    t.missing? key.members = none ∧ key ∈ t'.keys ∧ (∀ k ∈ t.keys, k ∈ t'.keys) ∧
      ∃ keys, t' = { t with keys } := by
  unfold Table.addKey at h
  split at h
  · cases h
  case h_2 hmissing =>
    cases h
    refine ⟨hmissing, ?_⟩
    by_cases hk : t.keys.contains key = true
    · rw [if_pos hk]
      exact ⟨by simpa using hk, fun _ h => h, t.keys, rfl⟩
    · rw [if_neg hk]
      exact ⟨by simp, fun k h => by simp [h], _, rfl⟩

theorem Table.ofAttributes_eq_ok {name : String} {attributes : List Attribute} {derived : Bool}
    {t : Table} (h : Table.ofAttributes name attributes derived = .ok t) :
    t.name = name ∧ t.derived = derived := by
  unfold Table.ofAttributes at h
  split at h
  · cases h
    exact ⟨rfl, rfl⟩
  · cases h

theorem Table.missing?_eq_none {t : Table} {attrs : List String} :
    t.missing? attrs = none ↔ ∀ a ∈ attrs, t.hasAttribute a = true := by
  simp [missing?]

theorem Table.isKey_iff {t : Table} {attrs : List String} :
    t.isKey attrs = true ↔ SortedSet.ofList attrs ∈ t.keys := by
  simp [isKey]

namespace Catalog

variable {c c' : Catalog}

/-- A side that is there: its table is registered and has its attributes. -/
def HasSide (c : Catalog) (side : KeySide) : Prop :=
  ∃ t, c.table side.table = .ok t ∧ ∀ a ∈ side.attrs, t.hasAttribute a = true

/-! ## What a successful call does -/

theorem table_eq_ok {name : String} {t : Table} :
    c.table name = .ok t ↔ c.tables.find? name = some t := by
  unfold table
  cases c.tables.find? name <;> simp

theorem table_eq_error {name : String} {e : Error} (h : c.table name = .error e) :
    e = .unknownTable name := by
  unfold table at h
  split at h
  · cases h
  · cases h
    rfl

theorem containsTable_iff {name : String} :
    c.containsTable name = true ↔ ∃ t, c.table name = .ok t := by
  simp only [containsTable, SortedMap.contains_eq_isSome, table_eq_ok, Option.isSome_iff_exists]

theorem ne_of_containsTable {name name' : String} (h : c.containsTable name = true)
    (h' : c.containsTable name' = false) : name ≠ name' := by
  rintro rfl
  rw [h] at h'
  cases h'

theorem addTable_eq_ok {t : Table} (h : c.addTable t = .ok c') :
    c.containsTable t.name = false ∧ c' = { c with tables := c.tables.insert t.name t } := by
  unfold addTable at h
  split at h
  · cases h
  case isFalse hnew =>
    cases h
    exact ⟨by simpa using hnew, rfl⟩

theorem addKey_eq_ok {name : String} {key : Key} (h : c.addKey name key = .ok c') :
    ∃ t t', c.table name = .ok t ∧ t.addKey key = .ok t' ∧
      c' = { c with tables := c.tables.insert name t' } := by
  unfold addKey at h
  cases ht : c.table name with
  | error e => simp [ht] at h
  | ok t =>
    simp only [ht] at h
    cases ht' : t.addKey key with
    | error e => simp [ht'] at h
    | ok t' =>
      simp only [ht'] at h
      cases h
      exact ⟨t, t', rfl, ht', rfl⟩

theorem setDisplayName_eq_ok {name displayName : String}
    (h : c.setDisplayName name displayName = .ok c') :
    ∃ t, c.table name = .ok t ∧
      c' = { c with tables := c.tables.insert name { t with displayName } } := by
  unfold setDisplayName at h
  cases ht : c.table name with
  | error e => simp [ht] at h
  | ok t =>
    simp only [ht] at h
    cases h
    exact ⟨t, rfl, rfl⟩

theorem hasSide_of_checkSides {sides : List KeySide} (h : c.checkSides sides = .ok ()) :
    ∀ side ∈ sides, c.HasSide side := by
  induction sides with
  | nil => simp
  | cons side rest ih =>
    simp only [checkSides] at h
    split at h
    · cases h
    case h_2 t ht =>
      split at h
      · cases h
      case h_2 hmissing =>
        intro side' hside'
        rcases List.mem_cons.mp hside' with rfl | hside'
        · exact ⟨t, ht, Table.missing?_eq_none.mp hmissing⟩
        · exact ih h side' hside'

theorem HasSide.containsTable {side : KeySide} (h : c.HasSide side) :
    c.containsTable side.table = true := by
  obtain ⟨t, ht, -⟩ := h
  exact containsTable_iff.mpr ⟨t, ht⟩

theorem applyConstraint_eq_ok {k : Constraint} (h : c.applyConstraint k = .ok c') :
    (∃ table key, (k = .primaryKey table key ∨ k = .unique table key) ∧
      c.addKey table key = .ok c') ∨
    (∃ fk, k = .foreignKey fk ∧ c.checkSides [fk.first, fk.second] = .ok () ∧ c' = c) := by
  cases k with
  | primaryKey table key => exact .inl ⟨table, key, .inl rfl, h⟩
  | unique table key => exact .inl ⟨table, key, .inr rfl, h⟩
  | foreignKey fk =>
    obtain ⟨u, hsides, rfl⟩ := Except.map_eq_ok.mp h
    exact .inr ⟨fk, rfl, hsides, rfl⟩

theorem addConstraint_eq_ok {name : Option String} {k : Constraint} {id : ConstraintId}
    (h : c.addConstraint name k = .ok (id, c')) :
    ∃ c₁, c.applyConstraint k = .ok c₁ ∧ id = ⟨c₁.nextId⟩ ∧
      c' = { c₁ with constraints := c₁.constraints.insert id ⟨name, k⟩, nextId := c₁.nextId + 1 } := by
  unfold addConstraint at h
  cases hc : c.applyConstraint k with
  | error e => simp [hc] at h
  | ok c₁ =>
    simp only [hc] at h
    cases h
    exact ⟨c₁, rfl, rfl, rfl⟩

theorem addForeignKey_eq_ok {t1 t2 : String} {x y : List String} {name : Option String}
    {id : ConstraintId} (h : c.addForeignKey t1 x t2 y name = .ok (id, c')) :
    ∃ first second fk, c.table t1 = .ok first ∧ c.table t2 = .ok second ∧
      ForeignKey.between first x second y = .ok fk ∧
      c.addConstraint name (.foreignKey fk) = .ok (id, c') := by
  unfold addForeignKey at h
  cases h1 : c.table t1 with
  | error e => simp [h1] at h
  | ok first =>
    cases h2 : c.table t2 with
    | error e => simp [h1, h2] at h
    | ok second =>
      simp only [h1, h2] at h
      cases hfk : ForeignKey.between first x second y with
      | error e => simp [hfk] at h
      | ok fk =>
        simp only [hfk] at h
        exact ⟨first, second, fk, rfl, rfl, hfk, h⟩

theorem dropTable_eq_ok {name : String} {t : Table} (h : c.dropTable name = .ok (t, c')) :
    c.table name = .ok t ∧
      c' = { c with
        tables := c.tables.erase name
        constraints := c.constraints.filter fun _ e => !e.constraint.tables.contains name } := by
  unfold dropTable at h
  cases ht : c.table name with
  | error e => simp [ht] at h
  | ok t =>
    simp only [ht] at h
    cases h
    exact ⟨rfl, rfl⟩

/-- A fresh number has not been given out. -/
theorem nextId_le_freshNumber (c : Catalog) (stem : String) :
    c.nextId ≤ c.freshNumber stem := by
  unfold freshNumber
  cases hfind : (List.range' c.nextId (c.tables.entries.length + 1)).find? fun n =>
      !c.containsTable (numberedName stem n) with
  | none => exact Nat.le_refl _
  | some n =>
    have hmem := List.mem_of_find?_eq_some hfind
    exact (List.mem_range'_1.mp hmem).1

theorem mem_foreignKeys {id : ConstraintId} {fk : ForeignKey} :
    (id, fk) ∈ c.foreignKeys ↔ c.constraint? id = some (.foreignKey fk) := by
  simp only [foreignKeys, List.mem_filterMap, Option.map_eq_some_iff, Prod.mk.injEq, constraint?]
  constructor
  · rintro ⟨⟨id', e⟩, hmem, fk', hfk, rfl, rfl⟩
    refine ⟨e, SortedMap.find?_eq_some_iff_mem.mpr hmem, ?_⟩
    cases hk : e.constraint <;> simp_all [Constraint.foreignKey?]
  · rintro ⟨e, he, hk⟩
    exact ⟨(id, e), SortedMap.find?_eq_some_iff_mem.mp he, fk, by simp [hk, Constraint.foreignKey?],
      rfl, rfl⟩

/-! ## Loading scripts -/

/-- A property that the registration of a table, a key or a foreign key between
known tables keeps. -/
structure KeptByRegistering (I : Catalog → Prop) : Prop where
  table : ∀ {c c' : Catalog} {t : Table}, c.addTable t = .ok c' → I c → I c'
  key : ∀ {c c' : Catalog} {name : Option String} {k : Constraint} {id : ConstraintId},
    k.foreignKey? = none → c.addConstraint name k = .ok (id, c') → I c → I c'
  foreignKey : ∀ {c c' : Catalog} {t1 t2 : String} {x y : List String} {name : Option String}
    {id : ConstraintId}, c.addForeignKey t1 x t2 y name = .ok (id, c') → I c → I c'

namespace KeptByRegistering

variable {I : Catalog → Prop} (h : KeptByRegistering I)
include h

open Attempt

theorem loadTable (decl : Ddl.TableDecl) : (Catalog.loadTable decl).Keeps I := by
  unfold Catalog.loadTable
  refine keeps_bind (keeps_ofExcept _) fun table => keeps_bind (keeps_atomic_map ?_) fun _ => ?_
  · exact fun c c' hadd hc => h.table hadd hc
  have hkey : ∀ k : Constraint, k.foreignKey? = none →
      Keeps I (atomic fun c : Catalog => c.addConstraint none k) := fun k hk =>
    keeps_atomic fun c id c' hadd hc => h.key hk hadd hc
  have huniques : Keeps I (do
      for columns in decl.uniques do
        let _ ← atomic fun (c : Catalog) =>
          c.addConstraint none (.unique decl.name (SortedSet.ofList columns))
      return decl.name) := by
    refine keeps_bind (keeps_forIn fun columns _ _ => ?_) fun _ => keeps_pure _
    exact keeps_bind (hkey (.unique decl.name _) rfl) fun _ => keeps_pure _
  exact keeps_ite huniques (keeps_bind (hkey (.primaryKey decl.name _) rfl) fun _ => huniques)

theorem loadForeignKey (decl : Ddl.ForeignKeyDecl) : (Catalog.loadForeignKey decl).Keeps I := by
  unfold Catalog.loadForeignKey
  refine keeps_bind keeps_get fun c => keeps_ite (keeps_bind (keeps_atomic ?_) fun _ => keeps_pure _)
    (keeps_pure _)
  exact fun c id c' hadd hc => h.foreignKey hadd hc

/-- A script registers tables, keys and foreign keys and does nothing else. -/
theorem loadDdl (sql : String) : (Catalog.loadDdl sql).Keeps I := by
  unfold Catalog.loadDdl Catalog.loadScript
  refine keeps_bind (keeps_ofExcept _) fun script => ?_
  refine keeps_bind (keeps_mapM fun decl _ => h.loadTable decl) fun names => ?_
  refine keeps_bind (keeps_forIn fun decl _ _ => ?_) fun _ => keeps_pure _
  exact keeps_bind (h.loadForeignKey decl) fun _ => keeps_pure _

end KeptByRegistering

/-! ## Sequences of calls -/

/-- A call that changes a catalog. -/
inductive Call where
  | addTable (t : Table)
  | addConstraint (name : Option String) (k : Constraint)
  | addForeignKey (t1 : String) (x : List String) (t2 : String) (y : List String)
      (name : Option String)
  | loadDdl (sql : String)
  | dropTable (name : String)
  | freshTableName (stem : String)
  | addKey (table : String) (key : Key)
  | setDisplayName (table displayName : String)

namespace Call

/-- What a call does. -/
def attempt : Call → Attempt Catalog Unit
  | .addTable t => Attempt.atomic fun c => (c.addTable t).map fun c => ((), c)
  | .addConstraint name k => Attempt.atomic fun c => (c.addConstraint name k).map fun r => ((), r.2)
  | .addForeignKey t1 x t2 y name => Attempt.atomic fun c =>
      (c.addForeignKey t1 x t2 y name).map fun r => ((), r.2)
  | .loadDdl sql => Catalog.loadDdl sql >>= fun _ => pure ()
  | .dropTable name => Attempt.atomic fun c => (c.dropTable name).map fun r => ((), r.2)
  | .freshTableName stem => Attempt.atomic fun c => .ok ((), (c.freshTableName stem).2)
  | .addKey table key => Attempt.atomic fun c => (c.addKey table key).map fun c => ((), c)
  | .setDisplayName table displayName => Attempt.atomic fun c =>
      (c.setDisplayName table displayName).map fun c => ((), c)

/-- Whether the foreign keys that a call registers are built from the catalog's
own tables. Only a foreign key that is handed over ready-made may not be. -/
def fromOwnTables : Call → Bool
  | .addConstraint _ (.foreignKey _) => false
  | _ => true

end Call

/-- The catalog to which calls lead from the one without tables. -/
def reached (calls : List Call) : Catalog :=
  calls.foldl (fun c call => call.attempt.after c) empty

theorem reached_append (calls more : List Call) :
    reached (calls ++ more) = more.foldl (fun c call => call.attempt.after c) (reached calls) :=
  List.foldl_append

/-- What every call keeps, any calls keep. -/
theorem foldl_after_keeps {I : Catalog → Prop} {calls : List Call}
    (hkeeps : ∀ call ∈ calls, call.attempt.Keeps I) (hc : I c) :
    I (calls.foldl (fun c call => call.attempt.after c) c) := by
  induction calls generalizing c with
  | nil => exact hc
  | cons call rest ih =>
    exact ih (fun k hk => hkeeps k (by simp [hk])) (hkeeps call (by simp) c hc)

/-- What holds of the catalog without tables and is kept by every call holds
after any calls. -/
theorem reached_induction {I : Catalog → Prop} {calls : List Call} (hempty : I empty)
    (hkeeps : ∀ call ∈ calls, call.attempt.Keeps I) : I (reached calls) :=
  foldl_after_keeps hkeeps hempty

end Catalog

end KeyChart
