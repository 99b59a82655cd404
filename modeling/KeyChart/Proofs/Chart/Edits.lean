import KeyChart.Proofs.Chart.Operations
import KeyChart.Rehearsal

/-!
# Edits step by step

What an edit of a chart does in place: it asks the chart, stops with an error, or changes
one record after the other. Adding a mark and putting one somewhere change up to five of
them. Everything that may fail is asked before the first change, so that an edit does at
once what its steps do, and one that fails changes nothing.
-/

namespace KeyChart

open Attempt

namespace Chart

variable {c : Chart}

/-! ## Steps -/

/-- Gives out the next identity of a mark. -/
def takeMark : Attempt Chart MarkId := do
  let c ← get
  set { c with nextMark := c.nextMark + 1 }
  return ⟨c.nextMark⟩

/-- Chooses the table for the drawn rows of a mark. -/
def chooseTable (id : MarkId) : Attempt Chart String := do
  let c ← get
  let name := Catalog.numberedName c.config.tableStem id.index
  if c.catalog.containsTable name then
    let fresh := c.catalog.freshTableName c.config.tableStem
    set { c with catalog := fresh.2 }
    return fresh.1
  else return name

/-- Enters that a mark refers to another. -/
def enterReference (id ref : MarkId) : Attempt Chart Unit := do
  modify fun c => { c with refs := c.refs.insert ⟨ref, id⟩ }
  modify fun c => { c with schedule := c.schedule.addDependency ref id }

/-- Enters a mark, with what it refers to before the mark itself. -/
def enterMark (m : Mark) : Attempt Chart Unit := do
  modify fun c => { c with schedule := c.schedule.addMark m.id }
  m.refs.members.forM (enterReference m.id)
  modify fun c => { c with marks := c.marks.insert m.id m }

/-- Enters a declared mark under the next identity. -/
def enterDeclared (spec : MarkSpec) (channels : List (String × Channel)) :
    Attempt Chart Unit := do
  let id ← takeMark
  let table ← chooseTable id
  enterMark (Mark.ofSpec id spec channels table)

/-- Enters a nesting. -/
def enterNest (nest : MarkNest) : Attempt Chart Unit := do
  modify fun c => { c with schedule := c.schedule.addDependency nest.outer nest.inner }
  modify fun c => { c with nests := c.nests.insert nest.inner (.mark nest) }

/-- An edit of the marks of a chart or of where they stand. -/
inductive Edit where
  | addMark (spec : MarkSpec)
  | nest (inner outer : MarkId)
  | nestOn (inner outer : MarkId) (attrs : List String)
  | nestVia (inner outer : MarkId) (constraint : ConstraintId)
  | nestInRoot (id : MarkId) (box : Box)

namespace Edit

/-- What an edit does, step by step. -/
def inPlace : Edit → Attempt Chart Unit
  | addMark spec => do
    let _ ← ask fun c : Chart => c.catalog.table spec.source
    let channels ← ask fun c : Chart => spec.classify c.catalog
    channels.forM fun channel => ask fun c : Chart => c.checkReference spec.source channel.2
    enterDeclared spec channels
  | nest inner outer => do
    let ends ← ask fun c : Chart => c.nestEnds inner outer
    let found ← ask fun c : Chart => MarkNest.shortest c.catalog ends.1 ends.2
    modify fun c => { c with warnings := c.warnings ++ found.2 }
    enterNest found.1
  | nestOn inner outer attrs => do
    let ends ← ask fun c : Chart => c.nestEnds inner outer
    let nest ← ask fun c : Chart => MarkNest.byAttributes c.catalog ends.1 ends.2 attrs
    enterNest nest
  | nestVia inner outer constraint => do
    let ends ← ask fun c : Chart => c.nestEnds inner outer
    let nest ← ask fun c : Chart => MarkNest.across c.catalog ends.1 ends.2 constraint
    enterNest nest
  | nestInRoot id box => do
    ask fun c : Chart => c.checkUnnested id
    modify fun c => { c with nests := c.nests.insert id (.root box) }

/-- The chart that an edit makes of another, or why it cannot be made. -/
def result (c : Chart) : Edit → Except Error Chart
  | addMark spec => (c.addMark spec).map Prod.snd
  | nest inner outer => c.nest inner outer
  | nestOn inner outer attrs => c.nestOn inner outer attrs
  | nestVia inner outer constraint => c.nestVia inner outer constraint
  | nestInRoot id box => c.nestInRoot id box

/-- The call by which a session is asked for an edit. -/
def call : Edit → Session.Call
  | addMark spec => .addMark spec
  | nest inner outer => .nest inner outer
  | nestOn inner outer attrs => .nestOn inner outer attrs
  | nestVia inner outer constraint => .nestVia inner outer constraint
  | nestInRoot id box => .nestInRoot id box

end Edit

/-! ## Steps and edits -/

theorem run_takeMark (c : Chart) :
    takeMark.run.run c = (.ok ⟨c.nextMark⟩, { c with nextMark := c.nextMark + 1 }) := rfl

theorem run_chooseTable (id : MarkId) (c : Chart) :
    (chooseTable id).run.run c =
      (.ok (c.newMarkTable id).1, { c with catalog := (c.newMarkTable id).2 }) := by
  rw [chooseTable, newMarkTable, run_bind, run_get]
  dsimp only
  split <;> rfl

theorem run_enterReferences (id : MarkId) (refs : List MarkId) (c : Chart) :
    (refs.forM (enterReference id)).run.run c = (.ok (), { c with
      refs := refs.foldl (fun refs r => refs.insert ⟨r, id⟩) c.refs
      schedule := refs.foldl (fun g r => g.addDependency r id) c.schedule }) := by
  induction refs generalizing c with
  | nil => rfl
  | cons ref rest ih =>
    have hfirst : (enterReference id ref).run.run c = (.ok (), { c with
        refs := c.refs.insert ⟨ref, id⟩
        schedule := c.schedule.addDependency ref id }) := rfl
    rw [List.forM, run_bind_of_ok hfirst, ih]
    rfl

theorem run_enterMark (m : Mark) (c : Chart) :
    (enterMark m).run.run c = (.ok (), c.insertMark m) := by
  rw [enterMark, run_bind, run_modify]
  dsimp only
  rw [run_bind, run_enterReferences]
  rfl

theorem enterDeclared_eq (spec : MarkSpec) (channels : List (String × Channel)) :
    enterDeclared spec channels = atomic fun c => .ok ((), c.withMark spec channels) := by
  apply Attempt.ext
  intro c
  rw [enterDeclared, run_bind_of_ok (run_takeMark c), run_bind_of_ok (run_chooseTable _ _),
    run_enterMark]
  rfl

theorem enterNest_eq (nest : MarkNest) :
    enterNest nest = atomic fun c => .ok ((), c.insertNest nest) := rfl

/-- The steps of an edit do what the edit does. -/
theorem Edit.inPlace_eq (edit : Edit) :
    edit.inPlace = atomic fun c => (edit.result c).map fun c => ((), c) := by
  cases edit with
  | addMark spec =>
    simp only [inPlace, enterDeclared_eq, forM_ask, ask_bind_atomic, result, Chart.addMark,
      Except.map_bind]
    rfl
  | nest inner outer =>
    have henter : ∀ found : MarkNest × List Warning, (do
        modify fun c : Chart => { c with warnings := c.warnings ++ found.2 }
        enterNest found.1) =
          atomic fun c => .ok ((), { c with warnings := c.warnings ++ found.2 }.insertNest found.1) :=
      fun _ => rfl
    simp only [inPlace, henter, ask_bind_atomic, result, Chart.nest, Except.map_bind]
    rfl
  | nestOn inner outer attrs =>
    simp only [inPlace, enterNest_eq, ask_bind_atomic, result, Chart.nestOn, Except.map_bind]
    rfl
  | nestVia inner outer constraint =>
    simp only [inPlace, enterNest_eq, ask_bind_atomic, result, Chart.nestVia, Except.map_bind]
    rfl
  | nestInRoot id box =>
    have henter : (modify fun c : Chart => { c with nests := c.nests.insert id (.root box) } :
        Attempt Chart Unit) =
          atomic fun c => .ok ((), { c with nests := c.nests.insert id (.root box) }) := rfl
    simp only [inPlace, henter, ask_bind_atomic, result, Chart.nestInRoot]
    congr 1
    funext c
    cases c.checkUnnested id <;> rfl

end Chart

namespace Session

variable {σ ρ α : Type}

/-- An operation on the chart of a session. -/
def onChart (op : Attempt Chart α) : Attempt (Session σ ρ) α :=
  within Session.chart (fun chart s => { s with chart }) op

theorem onChart_atomic (f : Chart → Except Error (α × Chart)) :
    (onChart (atomic f) : Attempt (Session σ ρ) α) = edit f := by
  apply Attempt.ext
  intro s
  rw [onChart, run_within, run_atomic, edit, run_atomic]
  cases f s.chart <;> rfl

theorem attempt_call (b : Backend σ ρ) (made : Chart.Edit) :
    made.call.attempt b = onChart made.inPlace := by
  rw [made.inPlace_eq, onChart_atomic]
  cases made with
  | addMark spec =>
    rw [Chart.Edit.call, Call.attempt]
    congr 1
    funext c
    rw [Chart.Edit.result]
    cases c.addMark spec <;> rfl
  | _ => rfl

end Session

/-- Asked of a session, an edit does to the chart what its steps do, and nothing else. If it
fails, no step has changed anything: the tables and the number of the next constraint, the
marks, where they stand and what they refer to, the schedule with its states, the warnings,
what was drawn and the number of the next mark are all as before. -/
theorem failed_edits_change_nothing {σ ρ : Type} (b : Backend σ ρ) (edit : Chart.Edit) :
    edit.call.attempt b = Session.onChart edit.inPlace ∧
    (∀ c : Chart, edit.inPlace.run.run c = match edit.result c with
      | .ok c' => (.ok (), c')
      | .error e => (.error e, c)) ∧
    (∀ (c : Chart) e c', edit.inPlace.run.run c = (.error e, c') → c' = c) ∧
    ∀ (s : Session σ ρ) e s', (edit.call.attempt b).run.run s = (.error e, s') → s' = s := by
  have hatomic := allOrNothing_atomic fun c => (edit.result c).map fun c => ((), c)
  rw [← edit.inPlace_eq] at hatomic
  refine ⟨Session.attempt_call b edit, ?_, hatomic, ?_⟩
  · intro c
    rw [edit.inPlace_eq, run_atomic]
    cases edit.result c <;> rfl
  · intro s e s' hfail
    rw [Session.attempt_call, edit.inPlace_eq, Session.onChart_atomic] at hfail
    exact allOrNothing_atomic _ s e s' hfail

/-- Marks over two tables that no foreign key joins. -/
def unrelatedMarks : Chart :=
  [Chart.Edit.addMark { source := "books", shape := .rect },
    .addMark { source := "sales", shape := .rect }].foldl (fun c edit => edit.inPlace.after c)
    { Chart.ofConfig {} with
      catalog := Catalog.reached
        [.addTable (Table.ofSchema "books" ⟨[⟨"title", .string⟩], by decide⟩),
          .addTable (Table.ofSchema "sales" ⟨[⟨"day", .string⟩], by decide⟩)] }

/-- A mark over the sales whose second channel asks for the title of a book. -/
def titledSales : MarkSpec :=
  { source := "sales"
    shape := .rect
    channels := [("x", .get { column := "day" }),
      ("y", .get { column := "title", source := some (.table "books") })] }

/-- Neither can the mark be added nor the sales be put into the books. -/
theorem failed_edits_change_nothing_unrelated :
    (Chart.Edit.addMark titledSales).inPlace.run.run unrelatedMarks =
        (.error (.noPath "sales" "books"), unrelatedMarks) ∧
      (Chart.Edit.nest ⟨1⟩ ⟨0⟩).inPlace.run.run unrelatedMarks =
        (.error (.noPath "sales" "books"), unrelatedMarks) := by
  have hunchanged : ∀ edit : Chart.Edit,
      (edit.inPlace.run.run unrelatedMarks).1 = .error (.noPath "sales" "books") →
        edit.inPlace.run.run unrelatedMarks =
          (.error (.noPath "sales" "books"), unrelatedMarks) := by
    intro edit hfail
    have hsame := (failed_edits_change_nothing ⟨Rehearsal.engine, Rehearsal.renderer {} []⟩
      edit).2.2.1 _ _ _ (Prod.ext hfail rfl)
    exact Prod.ext hfail hsame
  constructor
  · apply hunchanged
    decide +kernel
  · apply hunchanged
    decide +kernel

end KeyChart
