import KeyChart.Proofs.Catalog.Calls
import KeyChart.Proofs.JoinGraph.Routes

/-!
# Searches of a catalog

What the searches of the graph of joins say of a catalog's foreign keys: a path
that is found is made of steps that the keys allow, and it leads from the one
table to the other.
-/

namespace KeyChart

/-- Every step across a foreign key is one between its two sides. -/
theorem JoinGraph.mem_stepsAcross {id : ConstraintId} {fk : ForeignKey} {s : JoinStep}
    (h : s ∈ stepsAcross id fk) :
    (s = ⟨id, fk.second, fk.first⟩ ∧ fk.cardinality ≠ .manyMany) ∨
      (s = ⟨id, fk.first, fk.second⟩ ∧ fk.cardinality = .oneOne) := by
  unfold stepsAcross at h
  cases hcard : fk.cardinality with
  | oneOne =>
    simp only [hcard, List.mem_cons, List.not_mem_nil, or_false] at h
    rcases h with rfl | rfl
    · exact .inl ⟨rfl, by simp⟩
    · exact .inr ⟨rfl, rfl⟩
  | oneMany =>
    simp only [hcard, List.mem_singleton] at h
    exact .inl ⟨h, by simp⟩
  | manyMany => simp [hcard] at h

namespace Catalog

variable {c : Catalog} {a b : String}

theorem mem_joinGraph_steps {s : JoinStep} :
    s ∈ c.joinGraph.steps ↔
      ∃ id fk, (id, fk) ∈ c.foreignKeys ∧ s ∈ JoinGraph.stepsAcross id fk := by
  simp [joinGraph, JoinGraph.ofForeignKeys]

theorem constraint_of_mem_stepsAcross {id : ConstraintId} {fk : ForeignKey} {s : JoinStep}
    (h : s ∈ JoinGraph.stepsAcross id fk) : s.constraint = id := by
  rcases JoinGraph.mem_stepsAcross h with ⟨rfl, -⟩ | ⟨rfl, -⟩ <;> rfl

/-- The foreign key that a step of the graph crosses, named by the step. -/
theorem foreignKey_of_mem_steps {s : JoinStep} (h : s ∈ c.joinGraph.steps) :
    ∃ fk, (s.constraint, fk) ∈ c.foreignKeys ∧ s ∈ JoinGraph.stepsAcross s.constraint fk := by
  obtain ⟨id, fk, hfk, hs⟩ := mem_joinGraph_steps.mp h
  obtain rfl := constraint_of_mem_stepsAcross hs
  exact ⟨fk, hfk, hs⟩

theorem foreignKey_eq_of_mem {id : ConstraintId} {fk fk' : ForeignKey}
    (h : (id, fk) ∈ c.foreignKeys) (h' : (id, fk') ∈ c.foreignKeys) : fk = fk' := by
  rw [mem_foreignKeys] at h h'
  rw [h] at h'
  simpa using h'

/-- Two steps across one constraint go the same way or one goes back the way of the
other. -/
theorem eq_or_eq_reverse {s s' : JoinStep} (hs : s ∈ c.joinGraph.steps)
    (hs' : s' ∈ c.joinGraph.steps) (hid : s'.constraint = s.constraint) :
    s' = s ∨ s' = s.reverse := by
  obtain ⟨fk, hfk, hin⟩ := foreignKey_of_mem_steps hs
  obtain ⟨fk', hfk', hin'⟩ := foreignKey_of_mem_steps hs'
  rw [hid] at hfk' hin'
  obtain rfl := foreignKey_eq_of_mem hfk hfk'
  rcases JoinGraph.mem_stepsAcross hin with ⟨heq, -⟩ | ⟨heq, -⟩ <;>
    rcases JoinGraph.mem_stepsAcross hin' with ⟨heq', -⟩ | ⟨heq', -⟩ <;>
    rw [heq, heq'] <;> simp [JoinStep.reverse]

theorem eq_of_checkTables_map {α : Type} {x y : α}
    (h : ((c.checkTables a b).map fun _ => x) = .ok y) : y = x := by
  obtain ⟨u, -, h⟩ := Except.map_eq_ok.mp h
  exact h.symm

theorem shortestPaths_eq_ok {paths : List JoinPath} (h : c.shortestPaths a b = .ok paths) :
    paths = c.joinGraph.shortestPaths a b := eq_of_checkTables_map h

theorem shortestPath?_eq_ok {path : Option JoinPath} (h : c.shortestPath? a b = .ok path) :
    path = c.joinGraph.shortestPath? a b := eq_of_checkTables_map h

theorem reversePath?_eq_ok {path : Option JoinPath} (h : c.reversePath? a b = .ok path) :
    path = (c.joinGraph.shortestPath? b a).map JoinPath.reverse := eq_of_checkTables_map h

theorem pathAcross_eq_ok {path : JoinPath} {id : ConstraintId}
    (h : c.pathAcross a b id = .ok path) : c.joinGraph.pathAcross? a b id = .ok path := by
  unfold pathAcross at h
  split at h
  · cases h
  · cases h
  · exact h

/-! ## What searches need -/

theorem checkTables_eq_ok_iff {u : Unit} :
    c.checkTables a b = .ok u ↔ c.containsTable a = true ∧ c.containsTable b = true := by
  unfold checkTables
  rw [containsTable_iff, containsTable_iff]
  cases c.table a with
  | error e => simp
  | ok t =>
    cases c.table b with
    | error e => simp
    | ok t' => simp

theorem checkTables_eq_error {e : Error} (h : c.checkTables a b = .error e) :
    ∃ name, e = .unknownTable name := by
  unfold checkTables at h
  split at h
  case h_1 hsource =>
    cases h
    exact ⟨_, table_eq_error hsource⟩
  case h_2 hdestination =>
    cases h
    exact ⟨_, table_eq_error hdestination⟩
  case h_3 => cases h

theorem foreignKey_eq_ok {id : ConstraintId} {fk : ForeignKey} :
    c.foreignKey id = .ok fk ↔ (id, fk) ∈ c.foreignKeys := by
  rw [mem_foreignKeys, foreignKey]
  cases hk : c.constraint? id with
  | none => simp
  | some k => cases k <;> simp [Constraint.foreignKey?]

/-- Whether a search across a constraint may be asked for: both tables are known,
and the constraint is a foreign key. -/
def MayCross (c : Catalog) (a b : String) (id : ConstraintId) : Prop :=
  (c.containsTable a = true ∧ c.containsTable b = true) ∧ ∃ fk, (id, fk) ∈ c.foreignKeys

theorem MayCross.symm {id : ConstraintId} (h : c.MayCross a b id) : c.MayCross b a id :=
  ⟨h.1.symm, h.2⟩

theorem MayCross.pathAcross {id : ConstraintId} (h : c.MayCross a b id) :
    c.pathAcross a b id = c.joinGraph.pathAcross? a b id := by
  obtain ⟨hknown, fk, hfk⟩ := h
  unfold Catalog.pathAcross
  rw [checkTables_eq_ok_iff (u := ()) |>.mpr hknown, foreignKey_eq_ok.mpr hfk]

theorem pathAcross?_eq_error {g : JoinGraph} {id : ConstraintId} {e : Error}
    (h : g.pathAcross? a b id = .error e) : e = .noPath a b := by
  simp only [JoinGraph.pathAcross?] at h
  split at h
  · cases h
  · cases h
    rfl

/-- If a search across a constraint was asked for what it may be asked for, it
fails only for want of a path. -/
theorem mayCross_or_error (c : Catalog) (a b : String) (id : ConstraintId) :
    c.MayCross a b id ∨
      ∃ e, c.pathAcross a b id = .error e ∧ ∀ s t, e ≠ .noPath s t := by
  unfold pathAcross
  cases hknown : c.checkTables a b with
  | error e =>
    obtain ⟨name, rfl⟩ := checkTables_eq_error hknown
    exact .inr ⟨_, rfl, by simp⟩
  | ok u =>
    cases hfk : c.foreignKey id with
    | error e =>
      refine .inr ⟨e, rfl, ?_⟩
      unfold foreignKey at hfk
      split at hfk
      · cases hfk
      · cases hfk
        simp
    | ok fk => exact .inl ⟨checkTables_eq_ok_iff.mp hknown, fk, foreignKey_eq_ok.mp hfk⟩

theorem mem_tablesWithAttribute {attr source name : String} :
    name ∈ c.tablesWithAttribute attr source ↔
      ∃ key t, c.table key = .ok t ∧ t.derived = false ∧ t.name ≠ source ∧
        t.schema.declares attr = true ∧ t.name = name := by
  simp only [tablesWithAttribute, SortedMap.values, List.mem_map, List.mem_filter,
    Bool.and_eq_true, Bool.not_eq_true', bne_iff_ne, Prod.exists, table_eq_ok,
    SortedMap.find?_eq_some_iff_mem]
  constructor
  · rintro ⟨t, ⟨⟨key, t', hmem, rfl⟩, ⟨hderived, hsource⟩, hattr⟩, rfl⟩
    exact ⟨key, t', hmem, hderived, hsource, hattr, rfl⟩
  · rintro ⟨key, t, hmem, hderived, hsource, hattr, rfl⟩
    exact ⟨t, ⟨⟨key, t, hmem, rfl⟩, ⟨hderived, hsource⟩, hattr⟩, rfl⟩

/-- A path that one of the searches returns. -/
def Finds (c : Catalog) (path : JoinPath) : Prop :=
  (∃ a b, c.shortestPath? a b = .ok (some path)) ∨
    (∃ a b paths, c.shortestPaths a b = .ok paths ∧ path ∈ paths) ∨
    ∃ a b id, c.pathAcross a b id = .ok path

/-- Whatever search returns a path, its steps are steps of the graph. -/
theorem Finds.mem_steps {path : JoinPath} (h : c.Finds path) :
    ∀ s ∈ path.steps, s ∈ c.joinGraph.steps := by
  rcases h with ⟨a, b, h⟩ | ⟨a, b, paths, h, hpath⟩ | ⟨a, b, id, h⟩
  · exact (JoinGraph.route_of_shortestPath? (shortestPath?_eq_ok h).symm).2.mem
  · rw [shortestPaths_eq_ok h] at hpath
    exact (JoinGraph.route_of_mem_shortestPaths hpath).2.mem
  · exact (JoinGraph.pathAcross?_follows (pathAcross_eq_ok h)).2.1

end Catalog

end KeyChart
