import KeyChart.Proofs.Catalog.InPlace
import KeyChart.Proofs.Catalog.Loading

/-!
# Integrity of catalogs

A constraint is checked when it is registered and never again. It stays true: tables keep
their columns and keys, and a table that is dropped takes the constraints about it along.
The numbers of constraints are taken from a counter that only goes up.
-/

namespace KeyChart

/-- The sides of a constraint: a key is a side on one table, a foreign key has two. -/
def Constraint.sides : Constraint → List KeySide
  | primaryKey table key | unique table key => [⟨table, key.members⟩]
  | foreignKey fk => [fk.first, fk.second]

theorem Constraint.table_mem_of_sides {k : Constraint} {side : KeySide} (h : side ∈ k.sides) :
    side.table ∈ k.tables := by
  cases k with
  | foreignKey fk => simpa [sides, tables, or_imp] using List.mem_map_of_mem (f := KeySide.table) h
  | _ => rw [List.mem_singleton.mp h]; exact List.mem_singleton.mpr rfl

namespace Catalog

open Attempt

variable {c c' : Catalog}

/-! ## Constraints that hold -/

/-- Every registered constraint is about registered tables and attributes that they have,
and every set that is registered as a key is a candidate key of its table. -/
structure Integral (c : Catalog) : Prop where
  sides : ∀ id k, c.constraint? id = some k → ∀ side ∈ k.sides, c.HasSide side
  keys : ∀ id table key,
    (c.constraint? id = some (.primaryKey table key) ∨
      c.constraint? id = some (.unique table key)) →
    ∃ t, c.table table = .ok t ∧ key ∈ t.keys

theorem integral_empty : Integral empty where
  sides id k h := by simp [constraint?, empty] at h
  keys id table key h := by simp [constraint?, empty] at h

/-- A table of one catalog is kept in another with its columns and keys. -/
def KeepsTable (c c' : Catalog) (name : String) : Prop :=
  ∀ t, c.table name = .ok t →
    ∃ t', c'.table name = .ok t' ∧ t'.schema = t.schema ∧ ∀ key ∈ t.keys, key ∈ t'.keys

theorem KeepsTable.hasSide {side : KeySide} (h : c.KeepsTable c' side.table)
    (hside : c.HasSide side) : c'.HasSide side := by
  obtain ⟨t, ht, hattrs⟩ := hside
  obtain ⟨t', ht', hschema, -⟩ := h t ht
  refine ⟨t', ht', ?_⟩
  intro a ha
  rw [Table.hasAttribute, hschema]
  exact hattrs a ha

/-- A catalog with no other constraints, and with the tables that these are about. -/
theorem Integral.mono (hc : c.Integral)
    (hconstraints : ∀ id k, c'.constraint? id = some k →
      c.constraint? id = some k ∧ ∀ table ∈ k.tables, c.KeepsTable c' table) : c'.Integral where
  sides := by
    intro id k hk side hside
    obtain ⟨hold, htables⟩ := hconstraints id k hk
    exact (htables _ (Constraint.table_mem_of_sides hside)).hasSide (hc.sides id k hold side hside)
  keys := by
    intro id table key hkey
    have hkept : ∀ k, c'.constraint? id = some k → k.tables = [table] →
        c.constraint? id = some k ∧ c.KeepsTable c' table := by
      intro k hk htables
      obtain ⟨hold, hkeeps⟩ := hconstraints id k hk
      exact ⟨hold, hkeeps table (by simp [htables])⟩
    have hold : (c.constraint? id = some (.primaryKey table key) ∨
        c.constraint? id = some (.unique table key)) ∧ c.KeepsTable c' table := by
      rcases hkey with hkey | hkey
      · obtain ⟨hold, hkeeps⟩ := hkept _ hkey rfl
        exact ⟨.inl hold, hkeeps⟩
      · obtain ⟨hold, hkeeps⟩ := hkept _ hkey rfl
        exact ⟨.inr hold, hkeeps⟩
    obtain ⟨t, ht, hmem⟩ := hc.keys id table key hold.1
    obtain ⟨t', ht', -, hkeys⟩ := hold.2 t ht
    exact ⟨t', ht', hkeys key hmem⟩

theorem Integral.insert (hc : c.Integral) {name : String} {t' : Table}
    (h : ∀ t, c.table name = .ok t → t'.schema = t.schema ∧ ∀ key ∈ t.keys, key ∈ t'.keys) :
    ({ c with tables := c.tables.insert name t' } : Catalog).Integral := by
  refine hc.mono fun id k hk => ⟨hk, ?_⟩
  intro name' _ t ht
  by_cases heq : name' = name
  · subst heq
    exact ⟨t', table_insert_self c name' t', h t ht⟩
  · exact ⟨t, table_insert_eq_ok.mpr (by rwa [if_neg heq]), rfl, fun _ hkey => hkey⟩

theorem Integral.addTable {t : Table} (hc : c.Integral) (h : c.addTable t = .ok c') :
    c'.Integral := by
  obtain ⟨hnew, rfl⟩ := addTable_eq_ok h
  refine hc.insert ?_
  intro t' ht'
  rw [containsTable_iff.mpr ⟨t', ht'⟩] at hnew
  cases hnew

theorem Integral.addKey {name : String} {key : Key} (hc : c.Integral)
    (h : c.addKey name key = .ok c') :
    c'.Integral ∧ c'.HasSide ⟨name, key.members⟩ ∧
      ∃ t, c'.table name = .ok t ∧ key ∈ t.keys := by
  obtain ⟨t, t', ht, hadd, rfl⟩ := addKey_eq_ok h
  obtain ⟨hmissing, hkey, hkeys, keys, rfl⟩ := Table.addKey_eq_ok hadd
  have hput := table_insert_self c name { t with keys }
  refine ⟨hc.insert ?_, ⟨_, hput, ?_⟩, _, hput, hkey⟩
  · intro t₁ ht₁
    obtain rfl : t = t₁ := Except.ok.inj (ht.symm.trans ht₁)
    exact ⟨rfl, hkeys⟩
  · exact Table.missing?_eq_none.mp hmissing

theorem Integral.setDisplayName {name displayName : String} (hc : c.Integral)
    (h : c.setDisplayName name displayName = .ok c') : c'.Integral := by
  obtain ⟨t, ht, rfl⟩ := setDisplayName_eq_ok h
  refine hc.insert ?_
  intro t₁ ht₁
  obtain rfl : t = t₁ := Except.ok.inj (ht.symm.trans ht₁)
  exact ⟨rfl, fun _ hkey => hkey⟩

/-- A constraint may be registered if its sides are there, and if a key is one. -/
theorem Integral.register {name : Option String} {k : Constraint} (hc : c.Integral)
    (hsides : ∀ side ∈ k.sides, c.HasSide side)
    (hkeys : ∀ table key, (k = .primaryKey table key ∨ k = .unique table key) →
      ∃ t, c.table table = .ok t ∧ key ∈ t.keys) (n : Nat) :
    ({ c with constraints := c.constraints.insert ⟨c.nextId⟩ ⟨name, k⟩, nextId := n } :
      Catalog).Integral where
  sides := by
    intro id k' hk'
    rw [constraint?_register] at hk'
    split at hk'
    · cases hk'
      exact hsides
    · exact hc.sides id k' hk'
  keys := by
    intro id table key hkey
    rw [constraint?_register] at hkey
    split at hkey
    · exact hkeys table key (hkey.imp Option.some.inj Option.some.inj)
    · exact hc.keys id table key hkey

theorem Integral.addConstraint {name : Option String} {k : Constraint} {id : ConstraintId}
    (hc : c.Integral) (h : c.addConstraint name k = .ok (id, c')) : c'.Integral := by
  obtain ⟨c₁, happly, rfl, rfl⟩ := addConstraint_eq_ok h
  rcases applyConstraint_eq_ok happly with ⟨table, key, hk, hadd⟩ | ⟨fk, rfl, hchecks, rfl⟩
  · obtain ⟨hc₁, hside, hkey⟩ := hc.addKey hadd
    refine hc₁.register ?_ ?_ _
    · rcases hk with rfl | rfl <;> simpa [Constraint.sides] using hside
    · rcases hk with rfl | rfl <;> simpa using hkey
  · have hsides : ∀ side ∈ (Constraint.foreignKey fk).sides, c₁.HasSide side :=
      hasSide_of_checkSides hchecks
    refine hc.register hsides ?_ _
    rintro table key (hk | hk) <;> cases hk

theorem Integral.addForeignKey {t1 t2 : String} {x y : List String} {name : Option String}
    {id : ConstraintId} (hc : c.Integral) (h : c.addForeignKey t1 x t2 y name = .ok (id, c')) :
    c'.Integral := by
  obtain ⟨first, second, fk, -, -, -, hadd⟩ := addForeignKey_eq_ok h
  exact hc.addConstraint hadd

theorem Integral.dropTable {name : String} {t : Table} (hc : c.Integral)
    (h : c.dropTable name = .ok (t, c')) : c'.Integral := by
  refine hc.mono fun id k hk => ?_
  obtain ⟨hold, hfree⟩ := (constraint?_dropTable h).mp hk
  refine ⟨hold, ?_⟩
  intro name' hname' t' ht'
  have hne : name' ≠ name := fun heq => hfree (heq ▸ hname')
  exact ⟨t', (table_dropTable h).mpr ⟨hne, ht'⟩, rfl, fun _ hkey => hkey⟩

theorem keptByRegistering_integral : KeptByRegistering Integral where
  table h hc := hc.addTable h
  key _ h hc := hc.addConstraint h
  foreignKey h hc := hc.addForeignKey h

theorem Call.keeps_integral (call : Call) : call.attempt.Keeps Integral := by
  cases call with
  | addTable t => exact keeps_atomic_map fun c c' h hc => hc.addTable h
  | addConstraint name k => exact keeps_atomic_map fun c r h hc => hc.addConstraint h
  | addForeignKey t1 x t2 y name => exact keeps_atomic_map fun c r h hc => hc.addForeignKey h
  | loadDdl sql =>
    exact keeps_bind (keptByRegistering_integral.loadDdl sql) fun _ => keeps_pure _
  | dropTable name => exact keeps_atomic_map fun c r h hc => hc.dropTable h
  | freshTableName stem =>
    refine keeps_atomic ?_
    rintro c u c' h hc
    cases h
    exact hc.mono fun id k hk => ⟨hk, fun _ _ t ht => ⟨t, ht, rfl, fun _ hkey => hkey⟩⟩
  | addKey table key => exact keeps_atomic_map fun c c' h hc => (hc.addKey h).1
  | setDisplayName table displayName =>
    exact keeps_atomic_map fun c c' h hc => hc.setDisplayName h

theorem integral_reached (calls : List Call) : (reached calls).Integral :=
  reached_induction integral_empty fun call _ => call.keeps_integral

/-! ## Numbers that are given out -/

/-- The numbers that a call gives out, in order. A script gives one to each constraint that
it registers, also if it stops half-way. -/
def Call.issued (c : Catalog) : Call → List ConstraintId
  | .addConstraint name k => ((c.addConstraint name k).toOption.map Prod.fst).toList
  | .addForeignKey t1 x t2 y name =>
    ((c.addForeignKey t1 x t2 y name).toOption.map Prod.fst).toList
  | .loadDdl sql =>
    ((Catalog.loadDdl sql).after c).constraints.keys.filter fun id =>
      (c.constraints.find? id).isNone
  | _ => []

/-- The numbers that calls give out, one call after the other. -/
def issuedFrom (c : Catalog) : List Call → List ConstraintId
  | [] => []
  | call :: rest => call.issued c ++ issuedFrom (call.attempt.after c) rest

/-- The numbers that calls give out from the catalog without tables on. -/
def issued (calls : List Call) : List ConstraintId := issuedFrom empty calls

/-- Between two catalogs some numbers were given out, in increasing order and from the
counter of the one up to that of the other; constraints have been registered under these
numbers only. -/
structure Issues (c c' : Catalog) (ids : List ConstraintId) : Prop where
  next : c.nextId ≤ c'.nextId
  ascending : ids.Pairwise fun id id' => id.index < id'.index
  bounds : ∀ id ∈ ids, c.nextId ≤ id.index ∧ id.index < c'.nextId
  registered : ∀ id k, c'.constraint? id = some k → c.constraint? id = some k ∨ id ∈ ids

theorem Issues.refl (c : Catalog) : c.Issues c [] where
  next := Nat.le_refl _
  ascending := .nil
  bounds _ h := absurd h List.not_mem_nil
  registered _ _ h := .inl h

theorem Issues.trans {c'' : Catalog} {ids more : List ConstraintId} (h : c.Issues c' ids)
    (h' : c'.Issues c'' more) : c.Issues c'' (ids ++ more) where
  next := Nat.le_trans h.next h'.next
  ascending := by
    refine List.pairwise_append.mpr ⟨h.ascending, h'.ascending, ?_⟩
    intro id hid id' hid'
    exact Nat.lt_of_lt_of_le (h.bounds id hid).2 (h'.bounds id' hid').1
  bounds := by
    intro id hid
    rcases List.mem_append.mp hid with hid | hid
    · exact ⟨(h.bounds id hid).1, Nat.lt_of_lt_of_le (h.bounds id hid).2 h'.next⟩
    · exact ⟨Nat.le_trans h.next (h'.bounds id hid).1, (h'.bounds id hid).2⟩
  registered := by
    intro id k hk
    rw [List.mem_append]
    rcases h'.registered id k hk with hk | hid
    · exact (h.registered id k hk).imp_right .inl
    · exact .inr (.inr hid)

/-- Numbers were given out, and none was taken for anything else. -/
structure IssuesExactly (c c' : Catalog) (ids : List ConstraintId) : Prop
    extends Issues c c' ids where
  counted : c'.nextId = c.nextId + ids.length

/-- A call that fails gives out nothing, nor does one that changes tables only or takes
constraints away. -/
theorem issuesExactly_of_same {α : Type} {f : Catalog → Except Error α} {g : α → Unit × Catalog}
    (h : ∀ a, f c = .ok a → (g a).2.nextId = c.nextId ∧
      ∀ id k, (g a).2.constraint? id = some k → c.constraint? id = some k) :
    c.IssuesExactly ((atomic fun c => (f c).map g).after c) [] := by
  cases hf : f c with
  | error e =>
    rw [after_atomic_of_error (e := e) (by rw [hf]; rfl)]
    exact ⟨.refl c, rfl⟩
  | ok a =>
    rw [after_atomic_of_ok (r := g a) (by rw [hf]; rfl)]
    obtain ⟨hnext, hold⟩ := h a hf
    refine ⟨⟨Nat.le_of_eq hnext.symm, .nil, ?_, fun id k hk => .inl (hold id k hk)⟩, hnext⟩
    intro id hid
    cases hid

/-- A call that registers one constraint gives out one number, unless it fails. -/
theorem issuesExactly_of_one {f : Catalog → Except Error (ConstraintId × Catalog)}
    (h : ∀ r, f c = .ok r → c.IssuesExactly r.2 [r.1]) :
    c.IssuesExactly ((atomic fun c => (f c).map fun r => ((), r.2)).after c)
      ((f c).toOption.map Prod.fst).toList := by
  cases hf : f c with
  | error e =>
    rw [after_atomic_of_error (e := e) (by rw [hf]; rfl)]
    exact ⟨.refl c, rfl⟩
  | ok r =>
    rw [after_atomic_of_ok (r := ((), r.2)) (by rw [hf]; rfl)]
    exact h r hf

theorem issuesExactly_addConstraint {name : Option String} {k : Constraint} {id : ConstraintId}
    (h : c.addConstraint name k = .ok (id, c')) : c.IssuesExactly c' [id] := by
  obtain ⟨c₁, happly, rfl, rfl⟩ := addConstraint_eq_ok h
  have hsame : c₁.nextId = c.nextId ∧ c₁.constraint? = c.constraint? := by
    rcases applyConstraint_eq_ok happly with ⟨table, key, -, hadd⟩ | ⟨fk, -, -, rfl⟩
    · obtain ⟨t, t', -, -, rfl⟩ := addKey_eq_ok hadd
      exact ⟨rfl, rfl⟩
    · exact ⟨rfl, rfl⟩
  refine ⟨⟨?_, List.pairwise_singleton _ _, ?_, ?_⟩, ?_⟩
  · rw [← hsame.1]
    exact Nat.le_succ _
  · intro id hid
    rw [List.mem_singleton.mp hid, ← hsame.1]
    exact ⟨Nat.le_refl _, Nat.lt_succ_self _⟩
  · intro id k' hk'
    rw [constraint?_register, hsame.2] at hk'
    split at hk'
    case isTrue hid => exact .inr (List.mem_singleton.mpr hid)
    case isFalse => exact .inl hk'
  · rw [← hsame.1]
    rfl

/-- The constraints that are behind those of a catalog are those that it has not. -/
theorem WellFormed.filter_keys (hc : c.WellFormed) {new : List (ConstraintId × CatalogEntry)}
    (hentries : c'.constraints.entries = c.constraints.entries ++ new)
    (hnew : ∀ id ∈ new.map Prod.fst, c.nextId ≤ id.index) :
    (c'.constraints.keys.filter fun id => (c.constraints.find? id).isNone) =
      new.map Prod.fst := by
  have hkeys : c'.constraints.keys = c.constraints.keys ++ new.map Prod.fst := by
    rw [SortedMap.keys, hentries, List.map_append]
    rfl
  have hold : (c.constraints.keys.filter fun id => (c.constraints.find? id).isNone) = [] := by
    rw [List.filter_eq_nil_iff]
    intro id hid
    obtain ⟨e, he⟩ := SortedMap.mem_keys.mp hid
    simp [he]
  have hall : ((new.map Prod.fst).filter fun id => (c.constraints.find? id).isNone) =
      new.map Prod.fst := by
    rw [List.filter_eq_self]
    intro id hid
    cases he : c.constraints.find? id with
    | none => rfl
    | some e =>
      have hlt := hc.numbered id e.constraint (by rw [constraint?, he]; rfl)
      exact absurd (hnew id hid) (Nat.not_le.mpr hlt)
  rw [hkeys, List.filter_append, hold, hall, List.nil_append]

/-- The numbers that a script gives out follow one another. -/
theorem Appends.issuesExactly (hc : c.WellFormed) (h : c.Appends c') :
    c.IssuesExactly c' (c'.constraints.keys.filter fun id => (c.constraints.find? id).isNone) := by
  obtain ⟨new, hentries, hnumbers, hnext⟩ := h.entries
  have hbounds : ∀ id ∈ new.map Prod.fst, c.nextId ≤ id.index ∧ id.index < c'.nextId := by
    intro id hid
    rw [hnumbers] at hid
    obtain ⟨n, hn, rfl⟩ := List.mem_map.mp hid
    rw [hnext]
    exact List.mem_range'_1.mp hn
  rw [hc.filter_keys hentries fun id hid => (hbounds id hid).1]
  refine ⟨⟨?_, ?_, hbounds, ?_⟩, ?_⟩
  · rw [hnext]
    exact Nat.le_add_right _ _
  · rw [hnumbers]
    exact List.pairwise_map.mpr List.pairwise_lt_range'
  · intro id k hk
    obtain ⟨e, he, rfl⟩ := Option.map_eq_some_iff.mp hk
    rw [SortedMap.find?_eq_some_iff_mem, hentries, List.mem_append] at he
    rcases he with he | he
    · left
      rw [constraint?, SortedMap.find?_eq_some_iff_mem.mpr he]
      rfl
    · exact .inr (List.mem_map_of_mem he)
  · rw [hnext, List.length_map]

theorem after_loadDdl (sql : String) (c : Catalog) :
    (Call.loadDdl sql).attempt.after c = (Catalog.loadDdl sql).after c := by
  rw [Call.attempt, Attempt.after, Attempt.after, run_bind]
  cases (Catalog.loadDdl sql).run.run c with
  | mk r c' => cases r <;> rfl

/-- The numbers that are taken are given to constraints, but for those of names of new
tables. -/
theorem WellFormed.issuesExactly (hc : c.WellFormed) {call : Call}
    (hcall : ∀ stem, call ≠ .freshTableName stem) :
    c.IssuesExactly (call.attempt.after c) (call.issued c) := by
  cases call with
  | addTable t =>
    refine issuesExactly_of_same fun c' hadd => ?_
    obtain ⟨-, rfl⟩ := addTable_eq_ok hadd
    exact ⟨rfl, fun _ _ hk => hk⟩
  | addConstraint name k => exact issuesExactly_of_one fun r hr => issuesExactly_addConstraint hr
  | addForeignKey t1 x t2 y name =>
    refine issuesExactly_of_one fun r hr => ?_
    obtain ⟨first, second, fk, -, -, -, hadd⟩ := addForeignKey_eq_ok hr
    exact issuesExactly_addConstraint hadd
  | loadDdl sql =>
    rw [after_loadDdl]
    exact (hc.appends_loadDdl sql).issuesExactly hc
  | dropTable name =>
    refine issuesExactly_of_same fun r hdrop => ⟨?_, ?_⟩
    · rw [(dropTable_eq_ok hdrop).2]
    · exact fun id k hk => ((constraint?_dropTable hdrop).mp hk).1
  | freshTableName stem => exact absurd rfl (hcall stem)
  | addKey table key =>
    refine issuesExactly_of_same fun c' hadd => ?_
    obtain ⟨t, t', -, -, rfl⟩ := addKey_eq_ok hadd
    exact ⟨rfl, fun _ _ hk => hk⟩
  | setDisplayName table displayName =>
    refine issuesExactly_of_same fun c' hset => ?_
    obtain ⟨t, -, rfl⟩ := setDisplayName_eq_ok hset
    exact ⟨rfl, fun _ _ hk => hk⟩

theorem WellFormed.issues (hc : c.WellFormed) (call : Call) :
    c.Issues (call.attempt.after c) (call.issued c) := by
  by_cases hfresh : ∃ stem, call = .freshTableName stem
  · obtain ⟨stem, rfl⟩ := hfresh
    refine ⟨Nat.le_succ_of_le (c.nextId_le_freshNumber stem), .nil, ?_, fun _ _ hk => .inl hk⟩
    intro id hid
    cases hid
  · exact (hc.issuesExactly fun stem heq => hfresh ⟨stem, heq⟩).toIssues

theorem WellFormed.issuesFrom (hc : c.WellFormed) (calls : List Call) :
    c.Issues (calls.foldl (fun c call => call.attempt.after c) c) (issuedFrom c calls) := by
  induction calls generalizing c with
  | nil => exact .refl c
  | cons call rest ih => exact (hc.issues call).trans (ih (call.keeps_wellFormed c hc))

/-! ## Catalogs stay intact -/

/-- After any calls, failing ones included, a catalog is integral, and the numbers given to
constraints are all different and below the counter. A call does what its steps do, and one
that fails changes nothing; of what was there, a script that stops half-way takes nothing
away and alters nothing. Dropping a table takes away the table and the constraints about it,
and nothing else. -/
theorem catalogs_stay_intact (calls : List Call) :
    (reached calls).Integral ∧
    ((issued calls).Nodup ∧ (∀ id ∈ issued calls, id.index < (reached calls).nextId) ∧
      ∀ id k, (reached calls).constraint? id = some k → id ∈ issued calls) ∧
    (∀ call : Call, call.inPlace = call.attempt ∧
      ((∀ sql, call ≠ .loadDdl sql) → call.inPlace.AllOrNothing) ∧
      ((∀ stem, call ≠ .freshTableName stem) → (call.attempt.after (reached calls)).nextId =
        (reached calls).nextId + (call.issued (reached calls)).length)) ∧
    (∀ sql e c', (loadDdl sql).run.run (reached calls) = (.error e, c') →
      (∀ name t, (reached calls).table name = .ok t → c'.table name = .ok t) ∧
      ∀ id entry, (reached calls).constraints.find? id = some entry →
        c'.constraints.find? id = some entry) ∧
    ∀ name t c', (reached calls).dropTable name = .ok (t, c') →
      (reached calls).table name = .ok t ∧
      (∀ name', c'.tables.find? name' =
        if name' = name then none else (reached calls).tables.find? name') ∧
      (∀ id, c'.constraints.find? id = ((reached calls).constraints.find? id).filter fun entry =>
        name ∉ entry.constraint.tables) ∧
      c'.nextId = (reached calls).nextId := by
  have hc := wellFormed_reached calls
  have hissues : empty.Issues (reached calls) (issued calls) := wellFormed_empty.issuesFrom calls
  refine ⟨integral_reached calls, ⟨?_, ?_, ?_⟩, ?_, ?_, ?_⟩
  · refine hissues.ascending.imp ?_
    rintro id id' hlt rfl
    exact Nat.lt_irrefl _ hlt
  · exact fun id hid => (hissues.bounds id hid).2
  · intro id k hk
    refine (hissues.registered id k hk).resolve_left ?_
    simp [constraint?, empty]
  · intro call
    exact ⟨call.inPlace_eq, Call.allOrNothing_inPlace, fun hcall => (hc.issuesExactly hcall).counted⟩
  · intro sql e c' hfail
    have happends := hc.appends_loadDdl sql
    rw [Attempt.after, hfail] at happends
    exact ⟨fun _ _ ht => happends.tables ht, fun _ _ he => happends.find? he⟩
  · intro name t c' hdrop
    obtain ⟨ht, rfl⟩ := dropTable_eq_ok hdrop
    refine ⟨ht, fun name' => SortedMap.find?_erase _ _ _, ?_, rfl⟩
    intro id
    rw [SortedMap.find?_filter]
    congr 1
    funext entry
    simp

/-- A script that stops at its third table, a foreign key that is handed over, and a key on
a column that is not there. -/
def shopCalls : List Call :=
  [.loadDdl "CREATE TABLE books (isbn TEXT PRIMARY KEY); CREATE TABLE sales (isbn TEXT);
      CREATE TABLE books (title TEXT);",
   .addConstraint none (.foreignKey ⟨⟨"sales", ["isbn"]⟩, ⟨"books", ["isbn"]⟩, .manyMany⟩),
   .addConstraint none (.unique "sales" (SortedSet.ofList ["day"]))]

/-- Two numbers were given out. Another script stops half-way, and the sales are as they
were. With the books their key and the foreign key to them go. -/
theorem catalogs_stay_intact_shop :
    issued shopCalls = [⟨0⟩, ⟨1⟩] ∧
    (Call.dropTable "authors").inPlace.AllOrNothing ∧
    ((Call.dropTable "books").attempt.after (reached shopCalls)).nextId = 2 ∧
    (∃ e c', (loadDdl "CREATE TABLE shelves (room TEXT); CREATE TABLE sales (day TEXT);").run.run
        (reached shopCalls) = (.error e, c') ∧ c'.containsTable "shelves" = true ∧
      ∃ t, (reached shopCalls).table "sales" = .ok t ∧ c'.table "sales" = .ok t) ∧
    ∃ t c', (reached shopCalls).dropTable "books" = .ok (t, c') ∧
      c'.containsTable "sales" = true ∧ c'.constraints.find? ⟨0⟩ = none ∧
      c'.constraints.find? ⟨1⟩ = none := by
  have hshop : issued shopCalls = [⟨0⟩, ⟨1⟩] ∧ (reached shopCalls).nextId = 2 ∧
      (reached shopCalls).containsTable "books" = true ∧
      (reached shopCalls).containsTable "sales" = true := by decide +kernel
  obtain ⟨hissued, hnext, hbooks, hsales⟩ := hshop
  obtain ⟨-, -, hcalls, hload, hdrop⟩ := catalogs_stay_intact shopCalls
  refine ⟨hissued, (hcalls (.dropTable "authors")).2.1 (by simp), ?_, ?_, ?_⟩
  · rw [(hcalls (.dropTable "books")).2.2 (by simp), hnext]
    rfl
  · have hshelves :
        ((loadDdl "CREATE TABLE shelves (room TEXT); CREATE TABLE sales (day TEXT);").run.run
          (reached shopCalls)).1 = .error (.duplicateTable "sales") ∧
        ((loadDdl "CREATE TABLE shelves (room TEXT); CREATE TABLE sales (day TEXT);").after
          (reached shopCalls)).containsTable "shelves" = true := by decide +kernel
    obtain ⟨hrun, hshelves⟩ := hshelves
    obtain ⟨t, ht⟩ := containsTable_iff.mp hsales
    have hfail := Prod.ext (x := (loadDdl _).run.run _) (y := (_, (loadDdl _).after _)) hrun rfl
    exact ⟨_, _, hfail, hshelves, t, ht, (hload _ _ _ hfail).1 "sales" t ht⟩
  · obtain ⟨t, ht⟩ := containsTable_iff.mp hbooks
    have hrun : ∃ c', (reached shopCalls).dropTable "books" = .ok (t, c') := by
      simp [Catalog.dropTable, ht]
    obtain ⟨c', hrun⟩ := hrun
    obtain ⟨-, htables, hconstraints, -⟩ := hdrop "books" t c' hrun
    have hgone : ∀ id ∈ [(⟨0⟩ : ConstraintId), ⟨1⟩],
        (((reached shopCalls).constraints.find? id).filter fun entry =>
          "books" ∉ entry.constraint.tables) = none := by decide +kernel
    refine ⟨t, c', hrun, ?_, ?_, ?_⟩
    · rw [containsTable, SortedMap.contains_eq_isSome, htables, if_neg (by decide),
        ← SortedMap.contains_eq_isSome]
      exact hsales
    · rw [hconstraints]
      exact hgone _ (by simp)
    · rw [hconstraints]
      exact hgone _ (by simp)

end Catalog

end KeyChart
