import KeyChart.Proofs.Catalog.Growth

/-!
# Calls step by step

What a call to a catalog does in place: it looks at the catalog, stops with an error, or
changes one thing after the other. Each call makes all its checks before its first change,
so that it does at once what its steps do, and one that fails changes nothing. Only a
script may stop half-way, between two of its registrations.
-/

namespace KeyChart

open Attempt

/-- Gives a table one more candidate key, in place. -/
def Table.pushKey (key : Key) : Attempt Table Unit := do
  let t ← get
  match t.missing? key.members with
  | some attr => throw (.missingAttribute t.name attr)
  | none => unless t.keys.contains key do set { t with keys := t.keys ++ [key] }

theorem Table.pushKey_eq (key : Key) :
    pushKey key = atomic fun t => (t.addKey key).map fun t => ((), t) := by
  apply Attempt.ext
  intro t
  simp only [pushKey, run_bind, run_get, run_atomic, addKey]
  cases t.missing? key.members with
  | some attr => rfl
  | none => cases ht : t.keys.contains key <;> rfl

namespace Catalog

variable {c : Catalog}

/-! ## Steps -/

/-- Changes a known table where it stands. -/
def onTable (name : String) (op : Attempt Table Unit) : Attempt Catalog Unit := do
  let t ← ask fun c : Catalog => c.table name
  within (fun _ => t) (fun t c => { c with tables := c.tables.insert name t }) op

/-- Gives out the next number. -/
def takeNumber : Attempt Catalog ConstraintId := do
  let c ← get
  set { c with nextId := c.nextId + 1 }
  return ⟨c.nextId⟩

/-- The checks of a constraint, and the change of a key's table. -/
def prepare : Constraint → Attempt Catalog Unit
  | .primaryKey table key | .unique table key => onTable table (Table.pushKey key)
  | .foreignKey fk => ask fun c => c.checkSides [fk.first, fk.second]

/-- Prepares a constraint, takes a number and enters the constraint under it. -/
def register (name : Option String) (k : Constraint) : Attempt Catalog ConstraintId := do
  prepare k
  let id ← takeNumber
  modify fun c => { c with constraints := c.constraints.insert id ⟨name, k⟩ }
  return id

/-- What a call does, step by step. -/
def Call.inPlace : Call → Attempt Catalog Unit
  | .addTable t => do
    let c ← get
    if c.containsTable t.name then throw (.duplicateTable t.name)
    else modify fun c => { c with tables := c.tables.insert t.name t }
  | .addConstraint name k => register name k >>= fun _ => pure ()
  | .addForeignKey t1 x t2 y name => do
    let first ← ask fun c : Catalog => c.table t1
    let second ← ask fun c : Catalog => c.table t2
    let fk ← Attempt.ofExcept (ForeignKey.between first x second y)
    let _ ← register name (.foreignKey fk)
  | .loadDdl sql => Catalog.loadDdl sql >>= fun _ => pure ()
  | .dropTable name => do
    let _ ← ask fun c : Catalog => c.table name
    modify fun c => { c with tables := c.tables.erase name }
    modify fun c => { c with
      constraints := c.constraints.filter fun _ e => !e.constraint.tables.contains name }
  | .freshTableName stem => modify fun c => (c.freshTableName stem).2
  | .addKey table key => onTable table (Table.pushKey key)
  | .setDisplayName table displayName =>
    onTable table (modify fun t => { t with displayName })

/-! ## Steps and calls -/

theorem tables_insert_self {name : String} {t : Table} (h : c.table name = .ok t) :
    c.tables.insert name t = c.tables := by
  apply SortedMap.eq_of_find?_eq
  intro name'
  rw [SortedMap.find?_insert]
  split
  case isTrue heq => rw [heq, table_eq_ok.mp h]
  case isFalse => rfl

/-- A change that is all or nothing on a table is so on the catalog. -/
theorem onTable_atomic (name : String) (f : Table → Except Error (Unit × Table)) :
    onTable name (atomic f) = atomic fun c : Catalog =>
      match c.table name with
      | .error e => .error e
      | .ok t => (f t).map fun r => ((), { c with tables := c.tables.insert name r.2 }) := by
  apply Attempt.ext
  intro c
  simp only [onTable, run_bind, run_ask, run_atomic, run_within]
  cases ht : c.table name with
  | error e => rfl
  | ok t =>
    dsimp only
    cases f t with
    | ok r => rfl
    | error e =>
      dsimp only
      rw [tables_insert_self ht]
      rfl

theorem onTable_pushKey (name : String) (key : Key) :
    onTable name (Table.pushKey key) =
      atomic fun c : Catalog => (c.addKey name key).map fun c => ((), c) := by
  rw [Table.pushKey_eq, onTable_atomic]
  congr 1
  funext c
  rw [addKey]
  cases c.table name with
  | error e => rfl
  | ok t =>
    dsimp only
    cases t.addKey key <;> rfl

theorem prepare_eq (k : Constraint) :
    prepare k = atomic fun c : Catalog => (c.applyConstraint k).map fun c => ((), c) := by
  cases k with
  | primaryKey table key => exact onTable_pushKey table key
  | unique table key => exact onTable_pushKey table key
  | foreignKey fk =>
    apply Attempt.ext
    intro c
    rw [run_atomic, prepare, run_ask, applyConstraint]
    cases c.checkSides [fk.first, fk.second] <;> rfl

theorem register_eq (name : Option String) (k : Constraint) :
    register name k = atomic fun c : Catalog => c.addConstraint name k := by
  apply Attempt.ext
  intro c
  rw [register, run_bind, prepare_eq, run_atomic, run_atomic, addConstraint]
  cases c.applyConstraint k <;> rfl

theorem register_bind_eq (name : Option String) (k : Constraint) :
    (register name k >>= fun _ => pure ()) =
      atomic fun c : Catalog => (c.addConstraint name k).map fun r => ((), r.2) := by
  rw [register_eq]
  exact atomic_bind_ok _ fun _ c => ((), c)

theorem addForeignKey_eq_bind (c : Catalog) (t1 : String) (x : List String) (t2 : String)
    (y : List String) (name : Option String) :
    c.addForeignKey t1 x t2 y name = (do
      let first ← c.table t1
      let second ← c.table t2
      let fk ← ForeignKey.between first x second y
      c.addConstraint name (.foreignKey fk)) := by
  rw [addForeignKey]
  cases c.table t1 with
  | error e => rfl
  | ok first =>
    cases c.table t2 with
    | error e => rfl
    | ok second => cases h : ForeignKey.between first x second y <;> simp [h, bind, Except.bind]

/-- The steps of a call do what the call does. -/
theorem Call.inPlace_eq (call : Call) : call.inPlace = call.attempt := by
  cases call with
  | addTable t =>
    apply Attempt.ext
    intro c
    simp only [inPlace, attempt, run_bind, run_get, run_atomic, Catalog.addTable]
    cases c.containsTable t.name <;> rfl
  | addConstraint name k => exact register_bind_eq name k
  | addForeignKey t1 x t2 y name =>
    simp only [inPlace, attempt, Attempt.ofExcept, register_bind_eq, ask_bind_atomic,
      addForeignKey_eq_bind, Except.map_bind]
  | loadDdl sql => rfl
  | dropTable name =>
    apply Attempt.ext
    intro c
    simp only [inPlace, attempt, run_bind, run_ask, run_atomic, Catalog.dropTable]
    cases c.table name <;> rfl
  | freshTableName stem => rfl
  | addKey table key => exact onTable_pushKey table key
  | setDisplayName table displayName =>
    have hset : (modify fun t : Table => { t with displayName } : Attempt Table Unit) =
        atomic fun t => .ok ((), { t with displayName }) := rfl
    rw [inPlace, hset, onTable_atomic, attempt]
    congr 1
    funext c
    rw [Catalog.setDisplayName]
    cases c.table table <;> rfl

/-- A call that fails changes nothing, unless it loads a script. -/
theorem Call.allOrNothing_inPlace {call : Call} (hcall : ∀ sql, call ≠ .loadDdl sql) :
    call.inPlace.AllOrNothing := by
  rw [call.inPlace_eq]
  cases call with
  | loadDdl sql => exact absurd rfl (hcall sql)
  | _ =>
    rw [attempt]
    exact allOrNothing_atomic _

end Catalog

end KeyChart
