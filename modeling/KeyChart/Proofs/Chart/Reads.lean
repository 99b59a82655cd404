import KeyChart.Proofs.Chart.Relations
import KeyChart.Proofs.Schedule.Chosen

/-!
# Reading stored rows

Once its rows are stored, the table of a mark is a table like any other: a query
may start from it, name it or pass through it. Only a reference to the mark itself
is recorded as a dependency. So a mark's query may come before the rows that it
reads are stored again, and this is so exactly if recording all that is read would
give another order.
-/

namespace KeyChart

open Attempt

namespace Chart

variable {c : Chart} {order : List MarkId} {a b : MarkId}

/-- The tables that the query of a mark reads: its own, and those on the paths of
its channels and on the path to its outer mark. -/
def tablesRead (c : Chart) (id : MarkId) : List String :=
  match c.mark id, c.compile id with
  | .ok m, .ok q => m.source :: (q.paths ++ (c.parentPath? id).toList).flatMap JoinPath.tables
  | _, _ => []

/-- Whether the query of one mark reads the stored rows of another. -/
def Reads (c : Chart) (b a : MarkId) : Prop :=
  a ≠ b ∧ ∃ table, c.markTables.find? a = some table ∧ table ∈ c.tablesRead b

/-- An edge from each mark whose stored rows are read to the mark that reads them. -/
def readEdges (c : Chart) : List (MarkId × MarkId) :=
  c.marks.keys.flatMap fun b =>
    (c.markTables.entries.filter fun e => e.1 ≠ b && e.2 ∈ c.tablesRead b).map fun e => (e.1, b)

theorem markTables_find?_eq_some {table : String} (h : c.markTables.find? a = some table) :
    ∃ m, c.mark a = .ok m ∧ m.table = table ∧ c.catalog.containsTable table = true := by
  rw [markTables, SortedMap.find?_mapValues, SortedMap.find?_filter] at h
  obtain ⟨m, hm, rfl⟩ := Option.map_eq_some_iff.mp h
  obtain ⟨hm, htable⟩ := Option.filter_eq_some_iff.mp hm
  exact ⟨m, mark_eq_ok.mpr hm, rfl, htable⟩

theorem Reads.knows (h : c.Reads b a) : c.Knows a ∧ c.Knows b := by
  obtain ⟨-, table, htable, hread⟩ := h
  obtain ⟨m, hm, -, -⟩ := markTables_find?_eq_some htable
  refine ⟨⟨m, hm⟩, ?_⟩
  unfold tablesRead at hread
  split at hread
  case h_1 m' _ hm' _ => exact ⟨m', hm'⟩
  case h_2 => cases hread

theorem mem_keys_iff_knows : a ∈ c.marks.keys ↔ c.Knows a :=
  SortedMap.mem_keys.trans (exists_congr fun _ => mark_eq_ok.symm)

theorem mem_readEdges : (a, b) ∈ c.readEdges ↔ c.Reads b a := by
  simp only [readEdges, List.mem_flatMap, List.mem_map, List.mem_filter, Bool.and_eq_true,
    decide_eq_true_eq, Prod.mk.injEq, Prod.exists]
  constructor
  · rintro ⟨b, -, a, table, ⟨hentry, hne, hread⟩, rfl, rfl⟩
    exact ⟨hne, table, SortedMap.find?_eq_some_iff_mem.mpr hentry, hread⟩
  · intro h
    have hb := mem_keys_iff_knows.mpr h.knows.2
    obtain ⟨hne, table, htable, hread⟩ := h
    exact ⟨b, hb, a, table,
      ⟨SortedMap.find?_eq_some_iff_mem.mp htable, hne, hread⟩, rfl, rfl⟩

/-- A mark that another one refers to, or in whose rows it stands, comes before it. -/
theorem Recorded.recorded_before (hc : c.Recorded) (horder : c.sortedMarks = .ok order)
    (h : (∃ m, c.mark b = .ok m ∧ a ∈ m.refs) ∨ c.outer? b = some a) :
    order.idxOf a < order.idxOf b := by
  have hclosed := hc.built.wellFormed_idle.1.closed
  have hedge : (⟨a, b⟩ : Dependency) ∈ c.schedule.dependencies := by
    rw [hc.dependencies, hc.referred]
    exact h
  rw [hc.sortedMarks_eq] at horder
  obtain ⟨hperm, hforward⟩ := Order.topologicalOrder_eq_ok (Schedule.orderMarks_eq_ok.mp horder)
  obtain ⟨ha, hb⟩ := hclosed _ hedge
  exact hforward.idxOf_lt (Schedule.mem_edges.mpr hedge) (hperm.mem_iff.mpr ha)
    (hperm.mem_iff.mpr hb)

/-- All that is read comes before exactly if recording it leaves the order as it is. -/
theorem reads_before_iff (horder : c.sortedMarks = .ok order) :
    (∀ a b, c.Reads b a → order.idxOf a < order.idxOf b) ↔
      Schedule.orderMarks c.marks.keys (c.dependencyEdges ++ c.readEdges) = .ok order := by
  have horder := Schedule.orderMarks_eq_ok.mp horder
  have hperm := (Order.topologicalOrder_eq_ok horder).1
  have hends : ∀ e ∈ c.readEdges, e.1 ∈ order ∧ e.2 ∈ order := by
    intro e he
    obtain ⟨ha, hb⟩ := (mem_readEdges.mp he).knows
    exact ⟨hperm.mem_iff.mpr (mem_keys_iff_knows.mpr ha),
      hperm.mem_iff.mpr (mem_keys_iff_knows.mpr hb)⟩
  rw [Schedule.orderMarks_eq_ok, Order.topologicalOrder_append_iff horder,
    Order.forward_iff_idxOf_lt (hperm.nodup_iff.mpr c.marks.nodup_keys) hends]
  simp only [mem_readEdges]

end Chart

open Session

/-- Where marks have an order, all stored rows that are read come from marks before
the reader exactly if recording every read as a dependency leaves the order as it
is. References to marks and nestings are recorded. A run stores the rows of a mark
before the query of another one exactly if the mark comes before the other. -/
theorem reads_in_order_iff {σ ρ : Type} {s : Session σ ρ} (hs : s.Reached) {order : List MarkId}
    (horder : s.chart.sortedMarks = .ok order) :
    ((∀ a b, s.chart.Reads b a → order.idxOf a < order.idxOf b) ↔
      Schedule.orderMarks s.chart.marks.keys (s.chart.dependencyEdges ++ s.chart.readEdges) =
        .ok order) ∧
    (∀ a b, (∃ m, s.chart.mark b = .ok m ∧ a ∈ m.refs) ∨ s.chart.outer? b = some a →
      order.idxOf a < order.idxOf b) ∧
    ∀ (τ : Type) (run : Schedule.Runner τ) (t : τ),
      ∀ call ∈ Schedule.calls run s.chart.schedule t, ∀ a b, s.chart.Knows a →
        call.task = ⟨b, .query⟩ →
        (call.seen.state? ⟨a, .persist⟩ = some .complete ↔ order.idxOf a < order.idxOf b) := by
  obtain ⟨backend, config, engine, renderer, ops, rfl⟩ := hs
  have hc := operated_recorded backend config engine renderer ops
  refine ⟨Chart.reads_before_iff horder, fun a b => hc.recorded_before horder, ?_⟩
  intro τ run t call hcall a b ha htask
  have hmem : a ∈ order :=
    (Order.topologicalOrder_eq_ok (Schedule.orderMarks_eq_ok.mp horder)).1.mem_iff.mpr
      (Chart.mem_keys_iff_knows.mpr ha)
  rw [hc.sortedMarks_eq] at horder
  exact Schedule.stored_iff_before hc.built horder run t hcall hmem htask

/-- Counts the stored rows of the first mark, which is run once before. -/
def countingRows (target : RefSource) : List (Operation Rehearsal.Script) :=
  [.call (.importTable "T"), .call (.addMark { source := "T", shape := .rect }), .call .run,
    .call (.addMark
      { source := "T", shape := .text
        channels :=
          [("text", .get { column := "id", source := some target, aggregate := some .max })] })]

/-- The second mark reads the rows of the first by reference to it. -/
def readByReference : Session Rehearsal.Script Nat :=
  operated ⟨Rehearsal.engine, Rehearsal.renderer {} []⟩ (start {} oneTable 0)
    (countingRows (.mark ⟨0⟩))

theorem reads_in_order_by_reference :
    readByReference.chart.readEdges = [(⟨0⟩, ⟨1⟩)] ∧
      ∀ a b, readByReference.chart.Reads b a →
        ([⟨0⟩, ⟨1⟩] : List MarkId).idxOf a < ([⟨0⟩, ⟨1⟩] : List MarkId).idxOf b := by
  have horder : readByReference.chart.sortedMarks = .ok [⟨0⟩, ⟨1⟩] := by decide +kernel
  refine ⟨by decide +kernel, ?_⟩
  refine (reads_in_order_iff ⟨_, _, _, _, _, rfl⟩ horder).1.mpr ?_
  decide +kernel

/-- The second mark reads the rows of the first by the name of their table, and
the first mark is then nested in a third one. -/
def readByName : Session Rehearsal.Script Nat :=
  operated ⟨Rehearsal.engine, Rehearsal.renderer {} []⟩ (start {} oneTable 0)
    (countingRows (.table "mark_0") ++
      [.call (.addMark { source := "T", shape := .rect }), .call (.nest ⟨0⟩ ⟨2⟩)])

/-- The first mark has to wait for the third, but the second does not wait for the
first. -/
theorem stored_rows_read_early :
    ¬ ∀ order, readByName.chart.sortedMarks = .ok order → ∀ a b, readByName.chart.Reads b a →
      order.idxOf a < order.idxOf b := by
  intro h
  have horder : readByName.chart.sortedMarks = .ok [⟨1⟩, ⟨2⟩, ⟨0⟩] := by decide +kernel
  have hread : (⟨0⟩, ⟨1⟩) ∈ readByName.chart.readEdges := by decide +kernel
  exact absurd (h _ horder _ _ (Chart.mem_readEdges.mp hread)) (by decide)

end KeyChart
