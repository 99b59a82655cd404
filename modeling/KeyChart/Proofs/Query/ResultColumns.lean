import KeyChart.Mark.Basic
import KeyChart.Proofs.Grouping
import KeyChart.Proofs.Query.Names

/-!
# The columns of a query's rows

The rows of a query have the columns of the mark's own rows and, behind them, the selected
ones. The column of outer rows has a name of its own, which no joined column is given, so
that rows are grouped by the outer rows of a nested mark, and not at all otherwise. A table
may declare a column of that name, though. Its values come first, and the rows are grouped
by them.
-/

namespace KeyChart

open Query

/-! ## Columns by name -/

namespace Query.Statement

/-- The columns of a statement's sub-query, in order. -/
def columnsOf (s : Statement) (name : String) : List String :=
  match s.subqueries.find? (·.name == name) with
  | some sub => sub.items.map SubqueryItem.exposed
  | none => []

/-- The columns of a statement's rows, in order: all those of the mark's own rows, and the
selected ones. -/
def resultColumns (s : Statement) : List QualifiedColumn :=
  (s.columnsOf baseName).map (⟨baseName, ·⟩) ++ s.selected

/-- Of the columns of a statement's rows, that of the outer rows has the reserved name if
the mark is nested, and no other one does. -/
def NamesOuter (s : Statement) (nested : Bool) : Prop :=
  s.resultColumns.filter (·.column == parentId) =
    if nested then [⟨parentName, parentId⟩] else []

/-- A result with the columns that a statement asks for. -/
def Returns (s : Statement) (r : ResultSet) : Prop :=
  r.columns = s.resultColumns.map QualifiedColumn.column

/-- The values of a column in a statement's result, from top to bottom. -/
def valuesIn (s : Statement) (column : QualifiedColumn) (r : ResultSet) : List Value :=
  r.rows.map fun row => row.getD (s.resultColumns.idxOf column) .null

/-- A statement reads outer rows along a path: one of its sub-queries goes along the path and
gives the reserved name to the identity of the rows at the end. -/
def ReadsOuter (s : Statement) (c : Catalog) (path : JoinPath) : Prop :=
  ∃ sub outer, sub ∈ s.subqueries ∧ sub.name = parentName ∧ sub.chain.tables = path.tables ∧
    c.table path.destination = .ok outer ∧
    ⟨none, ⟨path.steps.length, outer.column rowId⟩, some parentId⟩ ∈ sub.items

theorem findIdx?_eq_idxOf {columns : List QualifiedColumn} {p : QualifiedColumn → Bool}
    {column : QualifiedColumn} (h : columns.find? p = some column) :
    columns.findIdx? p = some (columns.idxOf column) := by
  induction columns with
  | nil => cases h
  | cons first rest ih =>
    by_cases hfirst : p first = true
    · rw [List.find?_cons_of_pos hfirst] at h
      obtain rfl := Option.some.inj h
      rw [List.findIdx?_cons, if_pos hfirst, List.idxOf_cons_self]
    · rw [List.find?_cons_of_neg hfirst] at h
      have hne : first ≠ column := by
        rintro rfl
        exact hfirst (List.find?_some h)
      rw [List.findIdx?_cons, if_neg hfirst, ih h, List.idxOf_cons_ne _ hne]
      rfl

/-- The column of a name in a result is the first one that the statement asks for under it. -/
theorem column?_of_find? {s : Statement} {r : ResultSet} (hr : s.Returns r) {name : String}
    {column : QualifiedColumn} (h : s.resultColumns.find? (·.column == name) = some column) :
    r.column? name = some (s.valuesIn column r) := by
  have hindex : r.columnIndex? name = some (s.resultColumns.idxOf column) := by
    rw [ResultSet.columnIndex?, hr, List.findIdx?_map]
    exact findIdx?_eq_idxOf h
  rw [ResultSet.column?, hindex]
  rfl

theorem column?_eq_none {s : Statement} {r : ResultSet} (hr : s.Returns r) {name : String}
    (h : s.resultColumns.find? (·.column == name) = none) : r.column? name = none := by
  have hindex : r.columnIndex? name = none := by
    rw [ResultSet.columnIndex?, hr, List.findIdx?_map, List.findIdx?_eq_none_iff]
    simpa using List.find?_eq_none.mp h
  rw [ResultSet.column?, hindex]
  rfl

end Query.Statement

namespace MarkQuery

variable {c : Catalog} {a : String} {parent : Option JoinPath}
  {markTables : SortedMap MarkId String}

/-! ## Fresh names -/

theorem numbered_not_mem (used : SortedSet String) (stem : String) :
    numbered used stem ∉ used := by
  unfold numbered
  by_cases hstem : stem ∈ used
  · -- One name more is tried than are used, so the search cannot miss.
    obtain ⟨n, hn, hfree⟩ := exists_free_number (numbered_injective stem) used.members 1
    rw [if_neg (not_not_intro hstem)]
    dsimp only
    generalize hnames : (List.range' 1 (used.members.length + 1)).map
      (fun n => stem ++ "_" ++ toString n) = names
    have hname : stem ++ "_" ++ toString n ∈ names := by
      rw [← hnames]
      exact List.mem_map_of_mem hn
    cases hfind : names.find? (· ∉ used) with
    | some name => simpa using List.find?_some hfind
    | none =>
      have hused : stem ++ "_" ++ toString n ∈ used := by
        simpa using List.find?_eq_none.mp hfind _ hname
      exact absurd hused hfree
  · rwa [if_pos hstem]

theorem freshName_not_mem (used : SortedSet String) (base channel : String) :
    freshName used base channel ∉ used := by
  unfold freshName
  by_cases hbase : base ∈ used
  · rw [if_neg (not_not_intro hbase)]
    exact numbered_not_mem used _
  · rwa [if_pos hbase]

/-- A name that a plan gives to none of its columns, now and later. -/
structure Plan.Reserves (p : Plan) (name : String) : Prop where
  used : name ∈ p.used
  differs : ∀ j ∈ p.joins, ∀ column ∈ j.columns, column.resultName ≠ name

theorem Plan.Reserves.addReference {p : Plan} {name : String} (hp : p.Reserves name)
    (channel : String) (r : ForeignRef) (path : JoinPath) (found : List Warning) :
    (p.addReference channel r path found).Reserves name where
  used := by
    simp only [Plan.addReference, SortedSet.mem_insert]
    exact .inr hp.used
  differs := by
    intro j' hj' column hcolumn
    rcases mem_askAlong hj' with hj' | ⟨j, hj, rfl⟩
    · exact hp.differs j' hj' column hcolumn
    rcases PlannedJoin.mem_ask_columns hcolumn with hcolumn | rfl
    · rcases hj with ⟨hj, -⟩ | ⟨-, hempty⟩
      · exact hp.differs j hj column hcolumn
      · simp [hempty] at hcolumn
    · -- The name is in use, and a new column never takes one of these.
      rintro rfl
      exact freshName_not_mem p.used r.baseName channel hp.used

theorem Plan.Reserves.addChannels {p p' : Plan} {name : String}
    {channels : List (String × Channel)} (hp : p.Reserves name)
    (h : p.addChannels c a markTables channels = .ok p') : p'.Reserves name := by
  apply addChannels_keeps (I := fun p => p.Reserves name) _ h hp
  intro channel _ p p' hadd hp
  rcases addChannel_cases hadd with ⟨attr, -, rfl⟩ | ⟨r, path, found, -, -, rfl⟩ | rfl
  · exact ⟨hp.used, hp.differs⟩
  · exact hp.addReference _ _ _ _
  · exact hp

theorem reserves_start (source : Table) {name : String}
    (h : name ∈ source.schema.names ++ [rowId, parentId]) : (Plan.start source).Reserves name where
  used := SortedSet.mem_ofList.mpr h
  differs := by simp [Plan.start]

/-! ## The columns of a compiled query -/

variable {r : Request} {q : MarkQuery} {source : Table} {plan : Plan}
  {parents paths : List Subquery}

/-- The columns of the mark's own rows, in order. -/
def ownColumns (source : Table) : List String :=
  rowId :: source.schema.names.filter (· ≠ rowId)

theorem mem_ownColumns {attr : String} :
    attr ∈ ownColumns source ↔ source.hasAttribute attr = true := by
  by_cases hid : attr = rowId
  · simp [ownColumns, Table.hasAttribute, hid]
  · simp [ownColumns, Table.hasAttribute, Schema.declares, hid]

/-- The row identity has another name than the outer rows. -/
theorem parentId_mem_ownColumns :
    parentId ∈ ownColumns source ↔ source.schema.declares parentId = true := by
  have hother : (parentId == rowId) = false := by decide
  rw [mem_ownColumns, Table.hasAttribute, hother, Bool.false_or]

theorem exposed_baseSubquery (source : Table) :
    (baseSubquery source).items.map SubqueryItem.exposed = ownColumns source := by
  rw [baseSubquery, List.map_cons, List.map_map]
  exact congrArg (rowId :: ·) (List.map_id _)

namespace Compiled

variable (h : Compiled c r parent markTables q source plan parents paths)
include h

theorem columnsOf_base : q.statement.columnsOf baseName = ownColumns source := by
  rw [Statement.columnsOf, h.subqueries, List.cons_append, List.find?_cons_of_pos]
  · exact exposed_baseSubquery source
  · rfl

/-- Of the selected columns, only that of the outer rows has the reserved name. -/
theorem filter_selected : q.statement.selected.filter (·.column == parentId) =
    if parent.isSome then [⟨parentName, parentId⟩] else [] := by
  have hreserved : parentId ∈ source.schema.names ++ [rowId, parentId] := by simp
  have hplan := (reserves_start source hreserved).addChannels h.planned
  have hjoined : (plan.joins.flatMap fun j =>
      j.columns.map fun column => (⟨j.name, column.resultName⟩ : QualifiedColumn)).filter
        (·.column == parentId) = [] := by
    rw [List.filter_eq_nil_iff]
    intro selected hselected
    obtain ⟨j, hj, hselected⟩ := List.mem_flatMap.mp hselected
    obtain ⟨column, hcolumn, rfl⟩ := List.mem_map.mp hselected
    simpa using hplan.differs j hj column hcolumn
  have hlength : parents.length = parent.toList.length :=
    (Except.mapM_eq_ok h.outer).length_eq.symm
  rw [h.selected, List.filter_append, hjoined, List.append_nil, List.map_const', hlength]
  cases parent <;> rfl

theorem filter_resultColumns (hsource : source.schema.declares parentId = false) :
    q.statement.resultColumns.filter (·.column == parentId) =
      if parent.isSome then [⟨parentName, parentId⟩] else [] := by
  have hown : ((ownColumns source).map
      (⟨baseName, ·⟩ : String → QualifiedColumn)).filter (·.column == parentId) = [] := by
    rw [List.filter_eq_nil_iff]
    intro own hown heq
    obtain ⟨attr, hattr, rfl⟩ := List.mem_map.mp hown
    obtain rfl : attr = parentId := beq_iff_eq.mp heq
    rw [parentId_mem_ownColumns.mp hattr] at hsource
    cases hsource
  rw [Statement.resultColumns, h.columnsOf_base, List.filter_append, hown, List.nil_append,
    h.filter_selected]

/-- A declared column of the reserved name comes before the one of the outer rows. -/
theorem find?_resultColumns (hsource : source.schema.declares parentId = true) :
    q.statement.resultColumns.find? (·.column == parentId) = some ⟨baseName, parentId⟩ := by
  have hattr := parentId_mem_ownColumns.mpr hsource
  have hown : ((ownColumns source).map
      (⟨baseName, ·⟩ : String → QualifiedColumn)).find? (·.column == parentId) =
        some ⟨baseName, parentId⟩ := by
    cases hfind : List.find? _ _ with
    | none =>
      have hnone := List.find?_eq_none.mp hfind _ (List.mem_map_of_mem hattr)
      exact absurd (beq_self_eq_true parentId) hnone
    | some column =>
      obtain ⟨attr, -, rfl⟩ := List.mem_map.mp (List.mem_of_find?_eq_some hfind)
      have heq := List.find?_some hfind
      obtain rfl : attr = parentId := beq_iff_eq.mp heq
      rfl
  rw [Statement.resultColumns, h.columnsOf_base, List.find?_append, hown]
  rfl

theorem namesOuter_iff :
    q.statement.NamesOuter parent.isSome ↔ source.schema.declares parentId = false := by
  constructor
  · intro hnames
    cases hsource : source.schema.declares parentId with
    | false => rfl
    | true =>
      -- The declared column would be the first of the name, but the first is that of the
      -- outer rows, or there is none.
      have hfind := h.find?_resultColumns hsource
      rw [← List.head?_filter, hnames] at hfind
      cases parent <;> simp [baseName, parentName] at hfind
  · exact h.filter_resultColumns

theorem readsOuter {path : JoinPath} (hparent : parent = some path) :
    q.statement.ReadsOuter c path := by
  obtain ⟨s, hmem, hs⟩ := Except.exists_of_mapM h.outer (Option.mem_toList.mpr hparent)
  obtain ⟨source, outer, hpath⟩ := exists_parentSubquery hs
  have hin : s ∈ q.statement.subqueries := by simp [h.subqueries, hmem]
  exact ⟨s, outer, hin, hpath.name, tables_chainAlong hpath.chain, hpath.ends,
    by simp [hpath.items]⟩

end Compiled

end MarkQuery

open RowGroup

/-- The rows of a query are told apart by outer rows as they should be exactly if the mark's
table declares no column of the reserved name. Then a nested mark's rows are grouped by the
identities of the rows at the end of the path to the outer mark's table, and those of a mark
that is not nested are one group. Otherwise rows are grouped by the declared column. -/
theorem rows_grouped_by_outer_iff (c : Catalog) (m : Mark) (parent : Option JoinPath)
    (markTables : SortedMap MarkId String) (q : MarkQuery)
    (h : m.compile c parent markTables = .ok q) :
    ∃ source, c.table m.source = .ok source ∧
      (q.statement.NamesOuter parent.isSome ↔ source.schema.declares parentId = false) ∧
      (∀ path, parent = some path → q.statement.ReadsOuter c path) ∧
      ∀ result, q.statement.Returns result →
        if source.schema.declares parentId then
          Groups (q.statement.valuesIn ⟨baseName, parentId⟩ result) (ofResult result)
        else if parent.isSome then
          Groups (q.statement.valuesIn ⟨parentName, parentId⟩ result) (ofResult result)
        else ofResult result = [⟨.null, List.range result.rows.length⟩] := by
  obtain ⟨source, plan, parents, paths, hq⟩ := MarkQuery.exists_compiled h
  refine ⟨source, hq.known, hq.namesOuter_iff, fun path => hq.readsOuter, ?_⟩
  intro result hresult
  by_cases hdeclared : source.schema.declares parentId = true
  · rw [if_pos hdeclared]
    exact groups_ofResult (Statement.column?_of_find? hresult (hq.find?_resultColumns hdeclared))
  · rw [if_neg hdeclared]
    have hfind := hq.filter_resultColumns (by simpa using hdeclared)
    cases parent with
    | some path =>
      have hfirst : q.statement.resultColumns.find? (·.column == parentId) =
          some ⟨parentName, parentId⟩ := by
        rw [← List.head?_filter, hfind]
        rfl
      exact groups_ofResult (Statement.column?_of_find? hresult hfirst)
    | none =>
      have hnone : q.statement.resultColumns.find? (·.column == parentId) = none := by
        rw [← List.head?_filter, hfind]
        rfl
      exact ofResult_of_none (Statement.column?_eq_none hresult hnone)

/-- Sales that are nested in their districts are grouped by district. -/
theorem rows_grouped_by_outer_iff_districts : ∃ q,
    labelledSales.compile (Catalog.reached salesCalls) (some salePath) .empty = .ok q ∧
      q.statement.NamesOuter true ∧
      ∀ result, q.statement.Returns result →
        Groups (q.statement.valuesIn ⟨parentName, parentId⟩ result) (ofResult result) := by
  have hok : (labelledSales.compile (Catalog.reached salesCalls) (some salePath) .empty).map
      MarkQuery.paths = .ok [salePath] := by decide +kernel
  obtain ⟨q, hq, -⟩ := Except.map_eq_ok.mp hok
  obtain ⟨source, hsource, hnames, -, hgroups⟩ := rows_grouped_by_outer_iff
    (Catalog.reached salesCalls) labelledSales (some salePath) .empty q hq
  have hundeclared : source.schema.declares parentId = false := by
    have hdecide : ((Catalog.reached salesCalls).table labelledSales.source).map
        (·.schema.declares parentId) = .ok false := by decide +kernel
    rw [hsource] at hdecide
    exact Except.ok.inj hdecide
  refine ⟨q, hq, hnames.mpr hundeclared, ?_⟩
  intro result hresult
  simpa [hundeclared] using hgroups result hresult

/-- A mark over rows with a column that is called like that of the outer rows. -/
def keyedMark : Mark := .ofSpec ⟨0⟩ { source := "T", shape := .rect } [] "mark_0"

/-- Two of its rows. -/
def keyedRows : ResultSet where
  columns := [rowId, parentId]
  rows := [[.int 1, .int 5], [.int 2, .int 6]]

/-- The mark is not nested, and yet its rows are told apart. -/
theorem declared_column_tells_rows_apart : ∃ q,
    keyedMark.compile (Catalog.reached [.loadDdl "CREATE TABLE T (__parent_id INTEGER);"])
      none .empty = .ok q ∧
      ¬ q.statement.NamesOuter false ∧ q.statement.Returns keyedRows ∧
      (ofResult keyedRows).map RowGroup.rows = [[0], [1]] := by
  have hok : (keyedMark.compile
      (Catalog.reached [.loadDdl "CREATE TABLE T (__parent_id INTEGER);"]) none .empty).map
        (·.statement.resultColumns) = .ok [⟨baseName, rowId⟩, ⟨baseName, parentId⟩] := by
    decide +kernel
  obtain ⟨q, hq, hcolumns⟩ := Except.map_eq_ok.mp hok
  refine ⟨q, hq, ?_, ?_, by decide +kernel⟩
  · rw [Statement.NamesOuter, hcolumns]
    decide
  · rw [Statement.Returns, hcolumns]
    rfl

end KeyChart
