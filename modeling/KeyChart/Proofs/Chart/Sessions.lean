import KeyChart.Chart.Stages
import KeyChart.Proofs.Catalog.Growth
import KeyChart.Proofs.Except
import KeyChart.Proofs.Schedule.Execution

/-!
# Calls to a session

The calls that change a session. Most of them work on marks that are there: they
register tables, compute what was not computed yet and draw. A property that does
not depend on any of this is kept by all such calls, whatever the engine and the
renderer do. Such are the settings, the marks and the tables that were chosen for
them; only adding a mark chooses a table.
-/

namespace KeyChart

open Attempt

/-! ## The numbers of a catalog -/

namespace Catalog

variable {c c' : Catalog} {n : Nat}

/-- A catalog that has given out all numbers below one. -/
def PastNumber (n : Nat) (c : Catalog) : Prop := n ≤ c.nextId

theorem keptByAdding_pastNumber (n : Nat) : KeptByAdding (PastNumber n) where
  table _ hc := hc
  constraint _ hc := Nat.le_succ_of_le hc
  number hn hc := Nat.le_trans hc hn

theorem PastNumber.dropTable {name : String} {t : Table} (hc : PastNumber n c)
    (h : c.dropTable name = .ok (t, c')) : PastNumber n c' := by
  obtain ⟨-, rfl⟩ := dropTable_eq_ok h
  exact hc

end Catalog

/-! ## What stays of a chart -/

/-- A chart with the settings and the marks of another, and with their tables.
The catalog may have given out more numbers. -/
structure Chart.Continues (c c' : Chart) : Prop where
  config : c'.config = c.config
  nextMark : c'.nextMark = c.nextMark
  tables : ∀ id, (c'.marks.find? id).map Mark.table = (c.marks.find? id).map Mark.table
  nextId : c.catalog.nextId ≤ c'.catalog.nextId

namespace Chart

variable {c c' c'' : Chart}

theorem Continues.refl (c : Chart) : c.Continues c := ⟨rfl, rfl, fun _ => rfl, Nat.le_refl _⟩

theorem Continues.trans (h : c.Continues c') (h' : c'.Continues c'') : c.Continues c'' where
  config := h'.config.trans h.config
  nextMark := h'.nextMark.trans h.nextMark
  tables id := (h'.tables id).trans (h.tables id)
  nextId := Nat.le_trans h.nextId h'.nextId

theorem mark_eq_ok {id : MarkId} {m : Mark} : c.mark id = .ok m ↔ c.marks.find? id = some m := by
  unfold mark
  cases c.marks.find? id <;> simp

theorem continues_insertNest (c : Chart) (nest : MarkNest) : c.Continues (c.insertNest nest) :=
  ⟨rfl, rfl, fun _ => rfl, Nat.le_refl _⟩

theorem continues_nest {inner outer : MarkId} (h : c.nest inner outer = .ok c') :
    c.Continues c' := by
  obtain ⟨ends, -, h⟩ := Except.bind_eq_ok.mp h
  obtain ⟨⟨nest, warnings⟩, -, h⟩ := Except.bind_eq_ok.mp h
  cases h
  exact ⟨rfl, rfl, fun _ => rfl, Nat.le_refl _⟩

theorem continues_nestOn {inner outer : MarkId} {attrs : List String}
    (h : c.nestOn inner outer attrs = .ok c') : c.Continues c' := by
  obtain ⟨ends, -, h⟩ := Except.bind_eq_ok.mp h
  obtain ⟨nest, -, h⟩ := Except.bind_eq_ok.mp h
  cases h
  exact c.continues_insertNest nest

theorem continues_nestVia {inner outer : MarkId} {constraint : ConstraintId}
    (h : c.nestVia inner outer constraint = .ok c') : c.Continues c' := by
  obtain ⟨ends, -, h⟩ := Except.bind_eq_ok.mp h
  obtain ⟨nest, -, h⟩ := Except.bind_eq_ok.mp h
  cases h
  exact c.continues_insertNest nest

theorem continues_nestInRoot {id : MarkId} {box : Box} (h : c.nestInRoot id box = .ok c') :
    c.Continues c' := by
  obtain ⟨u, -, rfl⟩ := Except.map_eq_ok.mp h
  exact ⟨rfl, rfl, fun _ => rfl, Nat.le_refl _⟩

end Chart

/-! ## Adding a mark -/

/-- The chart with one more mark, and the catalog after its table was chosen. -/
def Chart.withMark (c : Chart) (spec : MarkSpec) (channels : List (String × Channel)) : Chart :=
  { c with
    catalog := (c.newMarkTable ⟨c.nextMark⟩).2
    nextMark := c.nextMark + 1 }.insertMark
      (Mark.ofSpec ⟨c.nextMark⟩ spec channels (c.newMarkTable ⟨c.nextMark⟩).1)

theorem Chart.addMark_inserts {c c' : Chart} {spec : MarkSpec} {id : MarkId}
    (h : c.addMark spec = .ok (id, c')) :
    ∃ channels, spec.classify c.catalog = .ok channels ∧
      (∀ channel ∈ channels, c.checkReference spec.source channel.2 = .ok ()) ∧
      c' = c.withMark spec channels := by
  obtain ⟨t, -, h⟩ := Except.bind_eq_ok.mp h
  obtain ⟨channels, hchannels, h⟩ := Except.bind_eq_ok.mp h
  obtain ⟨u, hchecks, h⟩ := Except.bind_eq_ok.mp h
  cases h
  exact ⟨channels, hchannels, Except.forM_eq_ok hchecks, rfl⟩

/-! ## Work on marks -/

/-- A mark without what was computed for it. -/
def Mark.declared (m : Mark) : Mark :=
  { m with
    query := none
    result := none
    partitions := []
    scales := .empty
    attributes := .empty
    level := 0 }

theorem Mark.declared_layOut (m : Mark) (boxOf : Value → Option Box) :
    (m.layOut boxOf).declared = m.declared := by
  unfold layOut
  split <;> rfl

namespace Chart

/-- A property that does not depend on what was drawn or computed for marks, nor
on the tables that are known. -/
structure KeptByWork (I : Chart → Prop) : Prop where
  catalog : ∀ {c : Chart} {k : Catalog}, c.catalog.nextId ≤ k.nextId → I c →
    I { c with catalog := k }
  fragments : ∀ {c : Chart} {fragments : SortedMap MarkId (List String)}, I c →
    I { c with fragments }
  marks : ∀ {c : Chart} {marks : SortedMap MarkId Mark},
    (∀ id, (marks.find? id).map Mark.declared = (c.marks.find? id).map Mark.declared) → I c →
    I { c with marks }

/-- A property that does not depend on what was drawn or computed for marks. -/
structure KeptByDrawing (I : Chart → Prop) : Prop where
  fragments : ∀ {c : Chart} {fragments : SortedMap MarkId (List String)}, I c →
    I { c with fragments }
  marks : ∀ {c : Chart} {marks : SortedMap MarkId Mark},
    (∀ id, (marks.find? id).map Mark.declared = (c.marks.find? id).map Mark.declared) → I c →
    I { c with marks }

theorem KeptByWork.keptByDrawing {I : Chart → Prop} (h : KeptByWork I) : KeptByDrawing I :=
  ⟨h.fragments, h.marks⟩

theorem keptByWork_continues (c : Chart) : KeptByWork c.Continues where
  catalog hle hc := ⟨hc.config, hc.nextMark, hc.tables, Nat.le_trans hc.nextId hle⟩
  fragments hc := ⟨hc.config, hc.nextMark, hc.tables, hc.nextId⟩
  marks := by
    intro d marks hmarks hc
    refine ⟨hc.config, hc.nextMark, ?_, hc.nextId⟩
    intro id
    have htable := congrArg (Option.map Mark.table) (hmarks id)
    rw [Option.map_map, Option.map_map] at htable
    exact htable.trans (hc.tables id)

theorem KeptByDrawing.and {I I' : Chart → Prop} (h : KeptByDrawing I) (h' : KeptByDrawing I') :
    KeptByDrawing fun c => I c ∧ I' c where
  fragments hc := ⟨h.fragments hc.1, h'.fragments hc.2⟩
  marks hmarks hc := ⟨h.marks hmarks hc.1, h'.marks hmarks hc.2⟩

/-- Work on marks leaves the schedule alone. -/
theorem KeptByWork.and_schedule {I : Chart → Prop} (h : KeptByWork I) (g : Schedule) :
    KeptByWork fun c => I c ∧ c.schedule = g where
  catalog hle hc := ⟨h.catalog hle hc.1, hc.2⟩
  fragments hc := ⟨h.fragments hc.1, hc.2⟩
  marks hmarks hc := ⟨h.marks hmarks hc.1, hc.2⟩

namespace KeptByDrawing

variable {I : Chart → Prop} (h : KeptByDrawing I)
include h

theorem insert {c : Chart} {id : MarkId} {m m' : Mark} (hm : c.mark id = .ok m)
    (hdeclared : m'.declared = m.declared) (hc : I c) :
    I { c with marks := c.marks.insert id m' } := by
  refine h.marks ?_ hc
  intro id'
  rw [SortedMap.find?_insert]
  by_cases hid : id' = id
  · rw [if_pos hid, hid, mark_eq_ok.mp hm, Option.map_some, Option.map_some, hdeclared]
  · rw [if_neg hid]

theorem setLevels {c c' : Chart} (hlevels : c.setLevels = .ok c') (hc : I c) : I c' := by
  unfold Chart.setLevels at hlevels
  simp only at hlevels
  split at hlevels
  · cases hlevels
    refine h.marks ?_ hc
    intro id
    rw [SortedMap.find?_mapValues, Option.map_map]
    rfl
  · cases hlevels

end KeptByDrawing

end Chart

namespace Session

variable {σ ρ α : Type} {c : Chart}

/-- What holds of the chart of a session. -/
def OfChart (I : Chart → Prop) (s : Session σ ρ) : Prop := I s.chart

/-- A session whose chart continues another. -/
def Continuing (c : Chart) (s : Session σ ρ) : Prop := c.Continues s.chart

theorem run_edit_of_ok {f : Chart → Except Error (α × Chart)} {s : Session σ ρ} {a : α}
    {d : Chart} (h : f s.chart = .ok (a, d)) :
    (edit f).run.run s = (.ok a, { s with chart := d }) := by
  unfold edit
  rw [run_atomic_of_ok (r := (a, { s with chart := d }))]
  rw [h]
  rfl

theorem run_edit_of_error {f : Chart → Except Error (α × Chart)} {s : Session σ ρ} {e : Error}
    (h : f s.chart = .error e) : (edit f).run.run s = (.error e, s) := by
  unfold edit
  rw [run_atomic_of_error (e := e)]
  rw [h]
  rfl

theorem after_edit_of_ok {f : Chart → Except Error (α × Chart)} {s : Session σ ρ} {a : α}
    {d : Chart} (h : f s.chart = .ok (a, d)) : (edit f).after s = { s with chart := d } := by
  rw [after, run_edit_of_ok h]

theorem after_edit_of_error {f : Chart → Except Error (α × Chart)} {s : Session σ ρ} {e : Error}
    (h : f s.chart = .error e) : (edit f).after s = s := by
  rw [after, run_edit_of_error h]

section Keeps

variable {I : Chart → Prop}

theorem keeps_onEngine (op : Attempt σ α) :
    Keeps (OfChart I) (onEngine op : Attempt (Session σ ρ) α) :=
  keeps_within fun _ h => h

theorem keeps_onRenderer (op : Attempt ρ α) :
    Keeps (OfChart I) (onRenderer op : Attempt (Session σ ρ) α) :=
  keeps_within fun _ h => h

theorem keeps_edit {f : Chart → Except Error (α × Chart)}
    (hf : ∀ c a c', f c = .ok (a, c') → I c → I c') :
    Keeps (OfChart I) (edit f : Attempt (Session σ ρ) α) := by
  intro s hs
  cases h : f s.chart with
  | error e =>
    rw [after_edit_of_error h]
    exact hs
  | ok r =>
    rw [after_edit_of_ok h]
    exact hf s.chart r.1 r.2 h hs

/-- An edit that hands back nothing but the chart. -/
theorem keeps_edit_map {f : Chart → Except Error Chart} (hf : ∀ c c', f c = .ok c' → I c → I c') :
    Keeps (OfChart I) (edit fun c => (f c).map fun c => ((), c) :
      Attempt (Session σ ρ) Unit) := by
  refine keeps_edit ?_
  intro c u c' hc
  obtain ⟨d, hd, heq⟩ := Except.map_eq_ok.mp hc
  cases heq
  exact hf c c' hd

end Keeps

theorem importConstraint_keeps {I : Catalog → Prop} (hI : Catalog.KeptByAdding I) (table : String)
    (k : TableConstraint) : Keeps I (importConstraint table k) := by
  cases k with
  | primaryKey columns => exact keeps_atomic_map fun d r h hd => hI.addConstraint h hd
  | unique columns => exact keeps_atomic_map fun d r h hd => hI.addConstraint h hd
  | foreignKey columns target targetColumns =>
    refine keeps_atomic ?_
    intro d u d' h hd
    split at h
    · obtain ⟨r, hr, heq⟩ := Except.map_eq_ok.mp h
      cases heq
      exact hI.addForeignKey hr hd
    · cases h
      exact hd

end Session

namespace Chart.KeptByDrawing

variable {σ ρ : Type} {I : Chart → Prop} (h : KeptByDrawing I) (b : Backend σ ρ)
include h

open Session

theorem updateMark (id : MarkId) {f : Mark → Mark} (hf : ∀ m, (f m).declared = m.declared) :
    Keeps (OfChart I) (Session.updateMark id f : Attempt (Session σ ρ) Unit) := by
  refine keeps_edit ?_
  intro d u d' hd hI
  obtain ⟨m, hm, heq⟩ := Except.map_eq_ok.mp hd
  cases heq
  exact h.insert hm (hf m) hI

theorem runQuery (id : MarkId) : Keeps (OfChart I) (Session.runQuery b id) := by
  unfold Session.runQuery
  refine keeps_bind (keeps_ask _) fun query => keeps_bind (keeps_ask _) fun m => ?_
  refine keeps_bind (keeps_onEngine _) fun _ => ?_
  refine keeps_bind (keeps_onEngine _) fun result => ?_
  exact h.updateMark id fun _ => rfl

theorem runLayout (id : MarkId) :
    Keeps (OfChart I) (Session.runLayout id : Attempt (Session σ ρ) Unit) :=
  keeps_bind (keeps_ask _) fun box => h.updateMark id fun m => m.declared_layOut box

theorem runRender (id : MarkId) : Keeps (OfChart I) (Session.runRender b id) := by
  unfold Session.runRender
  refine keeps_bind (keeps_ask _) fun m => ?_
  refine keeps_bind (keeps_mapM fun p _ => keeps_onRenderer _) fun drawings => ?_
  refine keeps_bind (keeps_edit ?_) fun _ => h.updateMark id fun _ => rfl
  intro d u d' hd hI
  cases hd
  exact h.fragments hI

end Chart.KeptByDrawing

namespace Chart.KeptByWork

variable {σ ρ α : Type} {I : Chart → Prop} (h : KeptByWork I) (b : Backend σ ρ)
include h

open Session

theorem onCatalog {op : Attempt Catalog α} (hop : ∀ n, op.Keeps (Catalog.PastNumber n)) :
    Keeps (OfChart I) (Session.onCatalog op : Attempt (Session σ ρ) α) := by
  refine keeps_within ?_
  intro s hs
  exact h.catalog (hop _ s.chart.catalog (Nat.le_refl _)) hs

/-! ### Tables -/

theorem loadDdl (sql : String) : Keeps (OfChart I) (Session.loadDdl b sql) :=
  keeps_bind (keeps_onEngine _) fun _ =>
    h.onCatalog fun n => (Catalog.keptByAdding_pastNumber n).keptByRegistering.loadDdl sql

theorem addTable (t : Table) :
    Keeps (OfChart I)
      (Session.onCatalog (atomic fun d => (d.addTable t).map fun d => ((), d)) :
        Attempt (Session σ ρ) Unit) :=
  h.onCatalog fun n => keeps_atomic_map fun _ _ h hd =>
    (Catalog.keptByAdding_pastNumber n).addTable h hd

theorem importTable (name : String) : Keeps (OfChart I) (Session.importTable b name) := by
  unfold Session.importTable
  refine keeps_bind (keeps_onEngine _) fun columns => ?_
  have hrest : Keeps (OfChart I) (do
      let constraints ← onEngine (b.engine.constraints name)
      let table ← Attempt.ofExcept (Table.ofAttributes name columns)
      Session.onCatalog (Attempt.atomic fun c => (c.addTable table).map fun c => ((), c))
      for constraint in constraints do
        Session.onCatalog (importConstraint name constraint) :
          Attempt (Session σ ρ) Unit) := by
    refine keeps_bind (keeps_onEngine _) fun constraints => ?_
    refine keeps_bind (keeps_ofExcept _) fun table => ?_
    refine keeps_bind (h.addTable table) fun _ => ?_
    refine keeps_bind (keeps_forIn fun k _ _ => ?_) fun _ => keeps_pure _
    refine keeps_bind (h.onCatalog fun n =>
      importConstraint_keeps (Catalog.keptByAdding_pastNumber n) name k) fun _ => keeps_pure _
  exact keeps_ite (keeps_bind (keeps_throw _) fun _ => hrest) hrest

theorem deriveTable (name query : String) :
    Keeps (OfChart I) (Session.deriveTable b name query) := by
  unfold Session.deriveTable
  refine keeps_bind keeps_get fun s => ?_
  have hrest : Keeps (OfChart I) (do
      onEngine (b.engine.createTableAs name query)
      Session.importTable b name : Attempt (Session σ ρ) Unit) :=
    keeps_bind (keeps_onEngine _) fun _ => h.importTable b name
  exact keeps_ite (keeps_bind (keeps_throw _) fun _ => hrest) hrest

/-! ### Stages -/

theorem createMarkTable (table source : String) (columns : List Attribute) :
    Keeps (OfChart I) (Session.createMarkTable b table source columns) := by
  unfold Session.createMarkTable
  refine keeps_bind (keeps_onEngine _) fun _ => keeps_bind (keeps_ofExcept _) fun t => ?_
  refine keeps_bind (h.addTable t) fun _ => ?_
  refine keeps_bind (h.onCatalog fun n => ?_) fun _ => h.onCatalog fun n => ?_
  · exact keeps_atomic_map fun d r h hd => (Catalog.keptByAdding_pastNumber n).addConstraint h hd
  · exact keeps_atomic_map fun d r h hd => (Catalog.keptByAdding_pastNumber n).addForeignKey h hd

theorem prepareMarkTable (table source : String) (wanted : List Attribute) :
    Keeps (OfChart I) (Session.prepareMarkTable b table source wanted) := by
  unfold Session.prepareMarkTable
  refine keeps_bind (keeps_onEngine _) fun present => keeps_bind keeps_get fun s => ?_
  refine keeps_ite (keeps_onEngine _) ?_
  have hcreate := h.createMarkTable b table source wanted
  have hdrop : Keeps (OfChart I) (Session.onCatalog (atomic fun d =>
      (d.dropTable table).map fun r => ((), r.2)) : Attempt (Session σ ρ) Unit) :=
    h.onCatalog fun n => keeps_atomic_map fun d r h hd => hd.dropTable h
  have hregistered : Keeps (OfChart I) (do
      if (← get).chart.catalog.containsTable table then
        Session.onCatalog (Attempt.atomic fun c => (c.dropTable table).map fun r => ((), r.2))
      Session.createMarkTable b table source wanted : Attempt (Session σ ρ) Unit) := by
    refine keeps_bind keeps_get fun s => ?_
    exact keeps_ite (keeps_bind hdrop fun _ => hcreate) hcreate
  exact keeps_ite hregistered (keeps_bind (keeps_onEngine _) fun _ => hregistered)

theorem runPersist (id : MarkId) : Keeps (OfChart I) (Session.runPersist b id) := by
  unfold Session.runPersist
  refine keeps_bind (keeps_ask _) fun m => ?_
  exact keeps_bind (h.prepareMarkTable b _ _ _) fun _ => keeps_onEngine _

theorem runTask (t : Task) : Keeps (OfChart I) (Session.runTask b t) := by
  obtain ⟨id, stage⟩ := t
  cases stage with
  | query => exact h.keptByDrawing.runQuery b id
  | layout => exact h.keptByDrawing.runLayout id
  | render => exact h.keptByDrawing.runRender b id
  | persist => exact h.runPersist b id

/-- A run does nothing but such work, and executes the schedule. -/
theorem run (hexecute : ∀ {c : Chart} (run : Schedule.Runner (Session σ ρ)) (s : Session σ ρ),
      I c → I { c with schedule := (c.schedule.execute run s).2.1 }) :
    Keeps (OfChart I) (Session.run b) := by
  unfold Session.run
  refine keeps_bind (keeps_edit_map fun d d' => h.keptByDrawing.setLevels) fun _ => ?_
  refine keeps_bind (keeps_ask _) fun _ => keeps_bind (keeps_edit ?_) fun _ => ?_
  · intro d u d' hd hI
    cases hd
    exact h.fragments hI
  · -- The schedule is put back into the session in which the tasks have left it.
    intro s hs
    obtain ⟨hafter, hsame⟩ := Schedule.execute_keeps
      (fun _ t => (h.and_schedule s.chart.schedule).runTask b t) s.chart.schedule ⟨hs, rfl⟩
    have hput := hexecute (fun _ t => Session.runTask b t) s hafter
    rw [hsame] at hput
    exact hput

end Chart.KeptByWork

/-! ## Calls -/

namespace Session

variable {σ ρ : Type} {c : Chart}

/-- A call that changes a session. -/
inductive Call where
  | loadDdl (sql : String)
  | importTable (name : String)
  | deriveTable (name query : String)
  | addMark (spec : MarkSpec)
  | nest (inner outer : MarkId)
  | nestOn (inner outer : MarkId) (attrs : List String)
  | nestVia (inner outer : MarkId) (constraint : ConstraintId)
  | nestInRoot (id : MarkId) (box : Box)
  | run

/-- What a call does. -/
def Call.attempt (b : Backend σ ρ) : Call → Attempt (Session σ ρ) Unit
  | .loadDdl sql => Session.loadDdl b sql >>= fun _ => pure ()
  | .importTable name => Session.importTable b name
  | .deriveTable name query => Session.deriveTable b name query
  | .addMark spec => edit fun c => (c.addMark spec).map fun r => ((), r.2)
  | .nest inner outer => edit fun c => (c.nest inner outer).map fun c => ((), c)
  | .nestOn inner outer attrs => edit fun c => (c.nestOn inner outer attrs).map fun c => ((), c)
  | .nestVia inner outer constraint =>
    edit fun c => (c.nestVia inner outer constraint).map fun c => ((), c)
  | .nestInRoot id box => edit fun c => (c.nestInRoot id box).map fun c => ((), c)
  | .run => Session.run b

/-- The session without tables and marks. -/
def start (config : ChartConfig) (engine : σ) (renderer : ρ) : Session σ ρ :=
  ⟨Chart.ofConfig config, engine, renderer⟩

/-- The session to which calls lead. -/
def reached (b : Backend σ ρ) (s : Session σ ρ) (calls : List Call) : Session σ ρ :=
  calls.foldl (fun s call => (call.attempt b).after s) s

/-- Any call but that which adds a mark leaves the marks their tables. -/
theorem Call.continuing (b : Backend σ ρ) {call : Call} (h : ∀ spec, call ≠ .addMark spec) :
    Keeps (Continuing c) (call.attempt b) := by
  have hc := c.keptByWork_continues
  cases call with
  | loadDdl sql => exact keeps_bind (hc.loadDdl b sql) fun _ => keeps_pure _
  | importTable name => exact hc.importTable b name
  | deriveTable name query => exact hc.deriveTable b name query
  | addMark spec => exact absurd rfl (h spec)
  | nest inner outer => exact keeps_edit_map fun d d' h hd => hd.trans (Chart.continues_nest h)
  | nestOn inner outer attrs =>
    exact keeps_edit_map fun d d' h hd => hd.trans (Chart.continues_nestOn h)
  | nestVia inner outer constraint =>
    exact keeps_edit_map fun d d' h hd => hd.trans (Chart.continues_nestVia h)
  | nestInRoot id box =>
    exact keeps_edit_map fun d d' h hd => hd.trans (Chart.continues_nestInRoot h)
  | run =>
    refine hc.run b ?_
    intro d run s hd
    exact ⟨hd.config, hd.nextMark, hd.tables, hd.nextId⟩

end Session

end KeyChart
