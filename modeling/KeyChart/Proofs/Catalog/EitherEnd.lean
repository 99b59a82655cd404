import KeyChart.Proofs.Catalog.InPlace
import KeyChart.Proofs.Catalog.LoadedTables
import KeyChart.Proofs.JoinGraph.Routes
import KeyChart.Proofs.TwoRuns

/-!
# Foreign keys from either end

A foreign key may be declared from either of its tables. A one-to-many key comes out the same;
the sides of any other one change places, and the two steps across a one-to-one key come in the
other order. Steps that leave different tables are never compared, and steps of a table to
itself lie on no shortest path, so that the order does not show. The proof runs two sequences of
calls side by side, which differ in the ends from which foreign keys are declared.
-/

namespace KeyChart

/-! ## Graphs with the same steps -/

namespace JoinGraph

/-- Two graphs with the same steps, which come in the same order if they leave one table for
others. -/
structure Reordered (g g' : JoinGraph) : Prop where
  steps : g'.steps.Perm g.steps
  onward : ∀ table, (g'.leaving table).filter (·.target.table ≠ table) =
    (g.leaving table).filter (·.target.table ≠ table)

namespace Reordered

variable {g g' : JoinGraph} (h : g.Reordered g')
include h

/-- A path is not lengthened by a step that stays in its last table. -/
theorem extensions (p : JoinPath) : g'.extensions p = g.extensions p := by
  -- The last table is one of the path's own, so that steps back to it are left out anyway.
  have honward : ∀ steps : List JoinStep, steps.filter (·.target.table ∉ p.tables) =
      (steps.filter (·.target.table ≠ p.destination)).filter (·.target.table ∉ p.tables) := by
    intro steps
    rw [List.filter_filter]
    refine List.filter_congr ?_
    intro s _
    by_cases hs : s.target.table ∈ p.tables
    · simp [hs]
    · have hne : s.target.table ≠ p.destination := by
        intro heq
        rw [heq] at hs
        exact hs (destination_mem_tables p)
      simp [hs, hne]
  rw [JoinGraph.extensions, JoinGraph.extensions, honward, h.onward, ← honward]

theorem reach (destination : String) (fuel : Nat) (frontier : List JoinPath) :
    g'.reach destination fuel frontier = g.reach destination fuel frontier := by
  have hextensions : g'.extensions = g.extensions := funext h.extensions
  induction fuel generalizing frontier with
  | zero => rfl
  | succ fuel ih => simp only [JoinGraph.reach, hextensions, ih]

theorem shortestPaths (source destination : String) :
    g'.shortestPaths source destination = g.shortestPaths source destination := by
  rw [JoinGraph.shortestPaths, JoinGraph.shortestPaths, h.steps.length_eq, h.reach]

end Reordered

theorem reordered_nil : Reordered ⟨[]⟩ ⟨[]⟩ := ⟨.refl _, fun _ => rfl⟩

theorem Reordered.append {steps steps' more more' : List JoinStep}
    (h : Reordered ⟨steps⟩ ⟨steps'⟩) (hmore : Reordered ⟨more⟩ ⟨more'⟩) :
    Reordered ⟨steps ++ more⟩ ⟨steps' ++ more'⟩ where
  steps := h.steps.append hmore.steps
  onward := by
    intro table
    have honward := h.onward table
    have honward' := hmore.onward table
    simp only [leaving] at honward honward' ⊢
    rw [List.filter_append, List.filter_append, List.filter_append, List.filter_append, honward,
      honward']

end JoinGraph

/-! ## The two forms of a foreign key -/

/-- The same foreign key, possibly with its sides in the other order. -/
inductive ForeignKey.Mirrors : ForeignKey → ForeignKey → Prop where
  | same (fk : ForeignKey) : Mirrors fk fk
  | turned (first second : KeySide) {cardinality : Cardinality} (h : cardinality ≠ .oneMany) :
      Mirrors ⟨first, second, cardinality⟩ ⟨second, first, cardinality⟩

/-- The same constraint, possibly a foreign key with its sides in the other order. -/
inductive Constraint.Mirrors : Constraint → Constraint → Prop where
  | same (k : Constraint) : Mirrors k k
  | turned {fk fk' : ForeignKey} (h : fk.Mirrors fk') : Mirrors (.foreignKey fk) (.foreignKey fk')

/-- Declared from the other end, a foreign key comes out the same or with its sides turned. -/
theorem ForeignKey.between_agree (t1 t2 : Table) (x y : List String) :
    Except.Agree ForeignKey.Mirrors (between t1 x t2 y) (between t2 y t1 x) := by
  have hshape : (y.isEmpty || y.length ≠ x.length : Bool) = (x.isEmpty || x.length ≠ y.length) := by
    cases x <;> cases y <;> simp [eq_comm]
  unfold between
  simp only [hshape]
  by_cases hbad : (x.isEmpty || x.length ≠ y.length : Bool) = true
  · simp only [hbad, if_true]
    exact .error _ _
  · simp only [hbad]
    cases t1.missing? x with
    | some a => cases t2.missing? y <;> exact .error _ _
    | none =>
      cases t2.missing? y with
      | some b => exact .error _ _
      | none =>
        refine .ok ?_
        -- If one side is a key it is put first; otherwise the sides stay as they are named.
        cases t1.isKey x with
        | true =>
          cases t2.isKey y with
          | true => exact .turned _ _ (by decide)
          | false => exact .same _
        | false =>
          cases t2.isKey y with
          | true => exact .same _
          | false => exact .turned _ _ (by decide)

theorem Constraint.Mirrors.contains_tables {k k' : Constraint} (h : k.Mirrors k') (name : String) :
    k'.tables.contains name = k.tables.contains name := by
  cases h with
  | same => rfl
  | turned h =>
    cases h with
    | same => rfl
    | turned first second h => simp [Constraint.tables, Bool.or_comm]

/-- The steps across both forms are the same, and at most one of them leaves a table for another. -/
theorem ForeignKey.Mirrors.reordered {fk fk' : ForeignKey} (h : fk.Mirrors fk')
    (id : ConstraintId) :
    JoinGraph.Reordered ⟨JoinGraph.stepsAcross id fk⟩ ⟨JoinGraph.stepsAcross id fk'⟩ := by
  cases h with
  | same => exact ⟨.refl _, fun _ => rfl⟩
  | @turned first second cardinality h =>
    cases cardinality with
    | oneMany => exact absurd rfl h
    | manyMany => exact JoinGraph.reordered_nil
    | oneOne =>
      refine ⟨.swap _ _ _, ?_⟩
      -- Both steps leave one table only if the key is within it, and then neither leads on.
      intro table
      simp only [JoinGraph.stepsAcross, JoinGraph.leaving, JoinStep.reverse]
      by_cases hfirst : first.table = table
      · by_cases hsecond : second.table = table
        · simp [hfirst, hsecond]
        · simp [hfirst, hsecond]
      · by_cases hsecond : second.table = table
        · simp [hfirst, hsecond]
        · simp [hfirst, hsecond]

theorem JoinGraph.reordered_ofForeignKeys {keys keys' : List (ConstraintId × ForeignKey)}
    (h : List.Forall₂ (fun k k' => k'.1 = k.1 ∧ k.2.Mirrors k'.2) keys keys') :
    (JoinGraph.ofForeignKeys keys).Reordered (JoinGraph.ofForeignKeys keys') := by
  induction h with
  | nil => exact reordered_nil
  | cons hk _ ih =>
    obtain ⟨hid, hmirrors⟩ := hk
    simp only [ofForeignKeys, List.flatMap_cons] at ih ⊢
    rw [hid]
    exact (hmirrors.reordered _).append ih

/-! ## Catalogs that differ in the ends of foreign keys -/

namespace Catalog

/-- An entry with the same number and name and the same constraint, up to the ends. -/
structure EntryMirrors (e e' : ConstraintId × CatalogEntry) : Prop where
  number : e'.1 = e.1
  name : e'.2.name = e.2.name
  constraint : e.2.constraint.Mirrors e'.2.constraint

/-- Catalogs with the same tables and the same constraints, up to the ends of foreign keys. -/
structure Mirrors (c c' : Catalog) : Prop where
  tables : c'.tables = c.tables
  entries : List.Forall₂ EntryMirrors c.constraints.entries c'.constraints.entries
  nextId : c'.nextId = c.nextId

theorem mirrors_refl (c : Catalog) : c.Mirrors c where
  tables := rfl
  entries := List.forall₂_same.mpr fun _ _ => ⟨rfl, rfl, .same _⟩
  nextId := rfl

theorem forall₂_insertEntry {es es' : List (ConstraintId × CatalogEntry)}
    (h : List.Forall₂ EntryMirrors es es') (id : ConstraintId) {e e' : CatalogEntry}
    (hname : e'.name = e.name) (hconstraint : e.constraint.Mirrors e'.constraint) :
    List.Forall₂ EntryMirrors (SortedMap.insertEntry id e es) (SortedMap.insertEntry id e' es') := by
  have hnew : EntryMirrors (id, e) (id, e') := ⟨rfl, hname, hconstraint⟩
  induction h with
  | nil => exact .cons hnew .nil
  | cons hfirst hrest ih =>
    simp only [SortedMap.insertEntry, hfirst.number]
    split
    · exact .cons hnew (.cons hfirst hrest)
    · exact .cons hnew hrest
    · exact .cons hfirst ih

theorem checkSides_of_hasSide {c : Catalog} {sides : List KeySide}
    (h : ∀ side ∈ sides, c.HasSide side) : c.checkSides sides = .ok () := by
  induction sides with
  | nil => rfl
  | cons side rest ih =>
    obtain ⟨t, ht, hattrs⟩ := h side (by simp)
    simp only [checkSides, ht, Table.missing?_eq_none.mpr hattrs]
    exact ih fun side' hside' => h side' (by simp [hside'])

/-- Both sides of a foreign key are there or not, whichever is looked at first. -/
theorem checkSides_swap (c : Catalog) (first second : KeySide) :
    Except.Agree (fun _ _ => True) (c.checkSides [first, second])
      (c.checkSides [second, first]) := by
  have hsides : ∀ first second : KeySide, c.checkSides [first, second] = .ok () →
      c.checkSides [second, first] = .ok () := by
    intro first second hok
    have hthere := hasSide_of_checkSides hok
    apply checkSides_of_hasSide
    simpa [and_comm] using hthere
  cases hforth : c.checkSides [first, second] with
  | ok u =>
    rw [hsides _ _ hforth]
    exact .ok trivial
  | error e =>
    cases hback : c.checkSides [second, first] with
    | error e' => exact .error e e'
    | ok u =>
      rw [hsides _ _ hback] at hforth
      cases hforth

theorem addConstraint_eq_map (c : Catalog) (name : Option String) (k : Constraint) :
    c.addConstraint name k = (c.applyConstraint k).map fun c => (⟨c.nextId⟩,
      { c with constraints := c.constraints.insert ⟨c.nextId⟩ ⟨name, k⟩, nextId := c.nextId + 1 }) := by
  unfold addConstraint
  cases c.applyConstraint k <;> rfl

namespace Mirrors

variable {c c' : Catalog} (h : c.Mirrors c')
include h

/-! ### What both catalogs say of tables -/

theorem table (name : String) : c'.table name = c.table name := by
  rw [Catalog.table, Catalog.table, h.tables]

theorem containsTable (name : String) : c'.containsTable name = c.containsTable name := by
  rw [Catalog.containsTable, Catalog.containsTable, h.tables]

theorem checkSides (sides : List KeySide) : c'.checkSides sides = c.checkSides sides := by
  induction sides with
  | nil => rfl
  | cons side rest ih => simp only [Catalog.checkSides, h.table, ih]

theorem withTables (tables : SortedMap String Table) :
    Mirrors { c with tables } { c' with tables } :=
  ⟨rfl, h.entries, h.nextId⟩

theorem keys_eq : c'.constraints.keys = c.constraints.keys := by
  have hkeys : List.Forall₂ Eq (c.constraints.entries.map Prod.fst)
      (c'.constraints.entries.map Prod.fst) := by
    rw [List.forall₂_map_left_iff, List.forall₂_map_right_iff]
    exact h.entries.imp fun _ _ he => he.number.symm
  exact (List.forall₂_eq_eq_eq ▸ hkeys).symm

theorem foreignKeys : List.Forall₂ (fun k k' => k'.1 = k.1 ∧ k.2.Mirrors k'.2)
    c.foreignKeys c'.foreignKeys := by
  unfold Catalog.foreignKeys
  refine List.rel_filterMap ?_ h.entries
  rintro ⟨id, name, k⟩ ⟨id', name', k'⟩ ⟨hid, -, hk⟩
  obtain rfl : id' = id := hid
  cases hk with
  | turned hfk => exact .some ⟨rfl, hfk⟩
  | same =>
    cases k with
    | foreignKey fk => exact .some ⟨rfl, .same fk⟩
    | primaryKey table key => exact .none
    | unique table key => exact .none

theorem reordered : c.joinGraph.Reordered c'.joinGraph :=
  JoinGraph.reordered_ofForeignKeys h.foreignKeys

/-! ### What calls do to both catalogs -/

theorem addTable (t : Table) : Except.Agree Mirrors (c.addTable t) (c'.addTable t) := by
  unfold Catalog.addTable
  rw [h.containsTable, h.tables]
  by_cases hknown : c.containsTable t.name = true
  · rw [if_pos hknown, if_pos hknown]
    exact .error _ _
  · rw [if_neg hknown, if_neg hknown]
    exact .ok (h.withTables _)

theorem addKey (name : String) (key : Key) :
    Except.Agree Mirrors (c.addKey name key) (c'.addKey name key) := by
  unfold Catalog.addKey
  rw [h.table, h.tables]
  cases c.table name with
  | error e => exact .error e e
  | ok t =>
    dsimp only
    cases t.addKey key with
    | error e => exact .error e e
    | ok t' => exact .ok (h.withTables _)

theorem setDisplayName (name displayName : String) :
    Except.Agree Mirrors (c.setDisplayName name displayName)
      (c'.setDisplayName name displayName) := by
  unfold Catalog.setDisplayName
  rw [h.table, h.tables]
  cases c.table name with
  | error e => exact .error e e
  | ok t => exact .ok (h.withTables _)

theorem freshTableName (stem : String) :
    (c.freshTableName stem).2.Mirrors (c'.freshTableName stem).2 where
  tables := h.tables
  entries := h.entries
  nextId := by
    have hcontains : c'.containsTable = c.containsTable := funext h.containsTable
    simp only [Catalog.freshTableName, freshNumber, h.tables, h.nextId, hcontains]

theorem dropTable (name : String) :
    Except.Agree (fun r r' => r.2.Mirrors r'.2) (c.dropTable name) (c'.dropTable name) := by
  unfold Catalog.dropTable
  rw [h.table, h.tables]
  cases c.table name with
  | error e => exact .error e e
  | ok t =>
    refine .ok ⟨rfl, ?_, h.nextId⟩
    -- A constraint goes with any of its tables, in whichever order they are named.
    refine List.rel_filter ?_ h.entries
    intro e e' he
    dsimp only
    rw [he.constraint.contains_tables]

theorem applyConstraint {k k' : Constraint} (hk : k.Mirrors k') :
    Except.Agree Mirrors (c.applyConstraint k) (c'.applyConstraint k') := by
  cases hk with
  | same =>
    cases k with
    | primaryKey table key => exact h.addKey table key
    | unique table key => exact h.addKey table key
    | foreignKey fk =>
      simp only [Catalog.applyConstraint, h.checkSides]
      exact (Except.agree_self _).map fun _ _ _ => h
  | turned hfk =>
    simp only [Catalog.applyConstraint, h.checkSides]
    cases hfk with
    | same => exact (Except.agree_self _).map fun _ _ _ => h
    | turned first second => exact (checkSides_swap c first second).map fun _ _ _ => h

/-- Both catalogs give out the same number. -/
theorem addConstraint (name : Option String) {k k' : Constraint} (hk : k.Mirrors k') :
    Except.Agree (fun r r' => r.1 = r'.1 ∧ r.2.Mirrors r'.2) (c.addConstraint name k)
      (c'.addConstraint name k') := by
  rw [addConstraint_eq_map, addConstraint_eq_map]
  refine (h.applyConstraint hk).map ?_
  intro d d' hd
  have hnumber : (⟨d.nextId⟩ : ConstraintId) = ⟨d'.nextId⟩ := by rw [hd.nextId]
  refine ⟨hnumber, hd.tables, ?_, ?_⟩
  · rw [← hnumber]
    exact forall₂_insertEntry hd.entries _ rfl hk
  · rw [hd.nextId]

theorem addForeignKey (t1 : String) (x : List String) (t2 : String) (y : List String)
    (name : Option String) :
    Except.Agree (fun r r' => r.1 = r'.1 ∧ r.2.Mirrors r'.2) (c.addForeignKey t1 x t2 y name)
      (c'.addForeignKey t1 x t2 y name) := by
  rw [addForeignKey_eq_bind, addForeignKey_eq_bind, h.table, h.table]
  refine (Except.agree_self _).bind ?_
  rintro first _ rfl
  refine (Except.agree_self _).bind ?_
  rintro second _ rfl
  refine (Except.agree_self _).bind ?_
  rintro fk _ rfl
  exact h.addConstraint name (.same _)

/-- A foreign key may be declared from either end. -/
theorem addForeignKey_turned (t1 : String) (x : List String) (t2 : String) (y : List String)
    (name : Option String) :
    Except.Agree (fun r r' => r.1 = r'.1 ∧ r.2.Mirrors r'.2) (c.addForeignKey t1 x t2 y name)
      (c'.addForeignKey t2 y t1 x name) := by
  rw [addForeignKey_eq_bind, addForeignKey_eq_bind, h.table, h.table]
  -- The tables are looked up in the other order, so another one may be missed first.
  cases c.table t1 with
  | error e =>
    cases c.table t2 <;> exact .error _ _
  | ok first =>
    cases c.table t2 with
    | error e => exact .error _ _
    | ok second =>
      refine (ForeignKey.between_agree first second x y).bind ?_
      intro fk fk' hfk
      exact h.addConstraint name (.turned hfk)

end Mirrors

/-! ## Sequences of calls -/

open Attempt

theorem registerKeys_agree (keys : List Constraint) :
    Agree Mirrors Eq (registerKeys keys) (registerKeys keys) := by
  unfold registerKeys
  refine agree_bind (V := Eq) (agree_forIn (fun k u => ?_) keys) fun _ _ _ => agree_pure rfl
  refine agree_bind (V := Eq) (agree_atomic fun c c' h => h.addConstraint none (.same k)) ?_
  exact fun _ _ _ => agree_pure rfl

theorem loadTable_agree (decl : Ddl.TableDecl) :
    Agree Mirrors Eq (loadTable decl) (loadTable decl) := by
  rw [loadTable_eq]
  refine agree_bind (agree_ofExcept (Except.agree_self _)) ?_
  rintro t _ rfl
  refine agree_bind (V := Eq) (agree_atomic ?_) ?_
  · intro c c' h
    exact (h.addTable t).map fun d d' hd => ⟨rfl, hd⟩
  rintro u _ rfl
  exact agree_bind (registerKeys_agree decl.constraints) fun _ _ _ => agree_pure rfl

theorem loadForeignKey_agree (decl : Ddl.ForeignKeyDecl) :
    Agree Mirrors Eq (loadForeignKey decl) (loadForeignKey decl) := by
  unfold loadForeignKey
  refine agree_bind agree_get ?_
  intro c c' h
  rw [h.containsTable, h.containsTable]
  refine agree_ite ?_ (agree_pure rfl)
  refine agree_bind (V := Eq) (agree_atomic fun c c' h => h.addForeignKey _ _ _ _ _) ?_
  exact fun _ _ _ => agree_pure rfl

theorem loadDdl_agree (sql : String) : Agree Mirrors Eq (loadDdl sql) (loadDdl sql) := by
  unfold loadDdl loadScript
  refine agree_bind (agree_ofExcept (Except.agree_self _)) ?_
  rintro script _ rfl
  refine agree_bind (agree_mapM loadTable_agree _) ?_
  rintro names _ rfl
  refine agree_bind (V := Eq) (agree_forIn (fun decl u => ?_) _) fun _ _ _ => agree_pure rfl
  exact agree_bind (loadForeignKey_agree decl) fun _ _ _ => agree_pure rfl

namespace Call

/-- The same call, possibly one that declares a foreign key from its other end. -/
inductive Mirrors : Call → Call → Prop where
  | same (call : Call) : Mirrors call call
  | turned (t1 : String) (x : List String) (t2 : String) (y : List String)
      (name : Option String) :
      Mirrors (.addForeignKey t1 x t2 y name) (.addForeignKey t2 y t1 x name)

/-- A call is done alike to catalogs that differ in the ends of foreign keys. -/
theorem attempt_agree (call : Call) :
    Agree Catalog.Mirrors Eq call.attempt call.attempt := by
  cases call with
  | addTable t => exact agree_atomic fun c c' h => (h.addTable t).map fun _ _ hd => ⟨rfl, hd⟩
  | addConstraint name k =>
    exact agree_atomic fun c c' h => (h.addConstraint name (.same k)).map fun _ _ hr => ⟨rfl, hr.2⟩
  | addForeignKey t1 x t2 y name =>
    exact agree_atomic fun c c' h => (h.addForeignKey t1 x t2 y name).map fun _ _ hr => ⟨rfl, hr.2⟩
  | loadDdl sql => exact agree_bind (loadDdl_agree sql) fun _ _ _ => agree_pure rfl
  | dropTable name =>
    exact agree_atomic fun c c' h => (h.dropTable name).map fun _ _ hr => ⟨rfl, hr⟩
  | freshTableName stem => exact agree_atomic fun c c' h => .ok ⟨rfl, h.freshTableName stem⟩
  | addKey table key =>
    exact agree_atomic fun c c' h => (h.addKey table key).map fun _ _ hd => ⟨rfl, hd⟩
  | setDisplayName table displayName =>
    exact agree_atomic fun c c' h =>
      (h.setDisplayName table displayName).map fun _ _ hd => ⟨rfl, hd⟩

theorem Mirrors.agree {call call' : Call} (h : call.Mirrors call') :
    Agree Catalog.Mirrors Eq call.attempt call'.attempt := by
  cases h with
  | same => exact call.attempt_agree
  | turned t1 x t2 y name =>
    exact agree_atomic fun c c' h =>
      (h.addForeignKey_turned t1 x t2 y name).map fun _ _ hr => ⟨rfl, hr.2⟩

end Call

/-- Which of some calls succeed, one made after the other. -/
def successes (c : Catalog) : List Call → List Bool
  | [] => []
  | call :: rest => (call.attempt.run.run c).1.isOk :: successes (call.attempt.after c) rest

/-- The same calls, up to the ends of foreign keys, succeed and lead to the same catalog, up to
the ends of foreign keys. -/
theorem mirrors_foldl {calls calls' : List Call} (hcalls : List.Forall₂ Call.Mirrors calls calls')
    {c c' : Catalog} (h : c.Mirrors c') :
    successes c' calls' = successes c calls ∧
      (calls.foldl (fun c call => call.attempt.after c) c).Mirrors
        (calls'.foldl (fun c call => call.attempt.after c) c') := by
  induction hcalls generalizing c c' with
  | nil => exact ⟨rfl, h⟩
  | cons hcall _ ih =>
    obtain ⟨hresult, hafter⟩ := hcall.agree c c' h
    obtain ⟨hrest, hmirrors⟩ := ih hafter
    rw [successes, successes, hresult.isOk_eq, hrest]
    exact ⟨rfl, hmirrors⟩

/-- Foreign keys may be declared from either end. If any calls that add a foreign key name its
sides in the other order, the same calls succeed, constraints have the same numbers, the steps
of joins are the same, and so are the shortest paths between any two tables, in order. -/
theorem foreign_keys_from_either_end {calls calls' : List Call}
    (hcalls : List.Forall₂ Call.Mirrors calls calls') :
    successes empty calls' = successes empty calls ∧
      (reached calls').constraints.keys = (reached calls).constraints.keys ∧
      (reached calls').joinGraph.steps.Perm (reached calls).joinGraph.steps ∧
      ∀ source destination,
        (reached calls').shortestPath? source destination =
          (reached calls).shortestPath? source destination ∧
        (reached calls').shortestPaths source destination =
          (reached calls).shortestPaths source destination := by
  obtain ⟨hsuccesses, hmirrors⟩ := mirrors_foldl hcalls (mirrors_refl empty)
  have hreached : (reached calls).Mirrors (reached calls') := hmirrors
  have hgraph := hreached.reordered
  refine ⟨hsuccesses, hreached.keys_eq, hgraph.steps, ?_⟩
  intro source destination
  -- Both searches look for their tables first, and those are the same.
  have hcheck : (reached calls').checkTables source destination =
      (reached calls).checkTables source destination := by
    rw [checkTables, checkTables, hreached.table, hreached.table]
  constructor
  · rw [shortestPath?, shortestPath?, hcheck, JoinGraph.shortestPath?, JoinGraph.shortestPath?,
      hgraph.shortestPaths]
  · rw [shortestPaths, shortestPaths, hcheck, hgraph.shortestPaths]

/-- Two tables, with the given calls for their foreign keys. -/
def passportCalls (foreignKeys : List Call) : List Call :=
  [.addTable (Table.ofSchema "people" ⟨[⟨"twin", .numeric⟩], by decide⟩),
   .addTable (Table.ofSchema "passports" ⟨[⟨"owner", .numeric⟩], by decide⟩),
   .addConstraint none (.unique "people" (SortedSet.ofList ["twin"])),
   .addConstraint none (.unique "passports" (SortedSet.ofList ["owner"]))] ++ foreignKeys

/-- Both foreign keys are one-to-one, and one of them is within a table. From the other end
they are registered the other way round, and all the same a passport leads to its owner. -/
theorem foreign_keys_from_either_end_passports : ∃ calls calls',
    calls = passportCalls [.addForeignKey "people" ["twin"] "people" ["id"] none,
      .addForeignKey "passports" ["owner"] "people" ["id"] none] ∧
    calls' = passportCalls [.addForeignKey "people" ["id"] "people" ["twin"] none,
      .addForeignKey "people" ["id"] "passports" ["owner"] none] ∧
    (reached calls').joinGraph.steps ≠ (reached calls).joinGraph.steps ∧
    successes empty calls' = successes empty calls ∧
    (reached calls').shortestPaths "passports" "people" =
      (reached calls).shortestPaths "passports" "people" := by
  refine ⟨_, _, rfl, rfl, by decide +kernel, ?_⟩
  obtain ⟨hsuccesses, -, -, hpaths⟩ := foreign_keys_from_either_end
    (List.rel_append (List.forall₂_same.mpr fun call _ => .same call)
      (.cons (.turned "people" ["twin"] "people" ["id"] none)
        (.cons (.turned "passports" ["owner"] "people" ["id"] none) .nil)))
  exact ⟨hsuccesses, (hpaths "passports" "people").2⟩

end Catalog

end KeyChart
