import KeyChart.Proofs.Catalog.Integrity
import KeyChart.Proofs.Mark.Classification
import KeyChart.Proofs.Query.ResultColumns

/-!
# Columns in scope

Inside a sub-query a column is qualified by the place of its table in the chain, elsewhere by
the name of a sub-query. The columns of channels are checked when these are classified, and
those that joins compare when their foreign keys are registered; the paths are chosen later,
and channels share sub-queries. In the end every table has the columns that it is asked for,
and so has every sub-query.
-/

namespace KeyChart

open Query

/-! ## Steps across foreign keys -/

namespace Catalog

variable {c : Catalog}

/-- The tables of a step across a registered foreign key have the attributes compared. -/
theorem Integral.hasSides (hc : c.Integral) {s : JoinStep}
    (h : s ∈ c.joinGraph.steps ∨ s.reverse ∈ c.joinGraph.steps) :
    c.HasSide s.source ∧ c.HasSide s.target := by
  have hforth : ∀ s ∈ c.joinGraph.steps, c.HasSide s.source ∧ c.HasSide s.target := by
    intro s hs
    obtain ⟨fk, hfk, hacross⟩ := foreignKey_of_mem_steps hs
    have hsides := hc.sides _ _ (mem_foreignKeys.mp hfk)
    have hfirst : c.HasSide fk.first := hsides _ (by simp [Constraint.sides])
    have hsecond : c.HasSide fk.second := hsides _ (by simp [Constraint.sides])
    rcases JoinGraph.mem_stepsAcross hacross with ⟨heq, -⟩ | ⟨heq, -⟩
    · rw [heq]
      exact ⟨hsecond, hfirst⟩
    · rw [heq]
      exact ⟨hfirst, hsecond⟩
  rcases h with hs | hs
  · exact hforth s hs
  · exact (hforth _ hs).symm

end Catalog

/-! ## The columns of tables -/

/-- Whether a table has a column: a declared one, or the engine's own row identity if it
declares none. -/
def Table.Holds (t : Table) : ColumnName → Prop
  | .declared name => t.schema.declares name = true
  | .implicitRowId => t.hasExplicitRowId = false

theorem Table.holds_column {t : Table} {attr : String} (h : t.hasAttribute attr = true) :
    t.Holds (t.column attr) := by
  unfold column
  split
  case isTrue hrow =>
    rw [Bool.and_eq_true, Bool.not_eq_true'] at hrow
    exact hrow.2
  case isFalse hrow =>
    rw [Bool.and_eq_true, Bool.not_eq_true', not_and, Bool.not_eq_false] at hrow
    rw [hasAttribute, Bool.or_eq_true] at h
    rcases h with hid | hattr
    · obtain rfl := beq_iff_eq.mp hid
      exact hrow hid
    · exact hattr

namespace Query

/-- The table at the place of a column has it. -/
def Provides (c : Catalog) (tables : List String) (column : ChainColumn) : Prop :=
  ∃ name t, tables[column.place]? = some name ∧ c.table name = .ok t ∧ t.Holds column.name

/-- The columns that a sub-query names: those that it selects, those that it compares, and
those by which it groups. -/
def Subquery.columns (s : Subquery) : List ChainColumn :=
  s.items.map SubqueryItem.column ++
    s.chain.joins.flatMap (fun j => j.pairs.flatMap fun p => [p.1, p.2]) ++ s.groupBy

/-- A sub-query names only columns that the tables of its chain have. -/
def Subquery.Scoped (c : Catalog) (s : Subquery) : Prop :=
  ∀ column ∈ s.columns, Provides c s.chain.tables column

/-- The columns that are compared to join a sub-query. -/
def SubqueryJoin.columns (j : SubqueryJoin) : List QualifiedColumn :=
  [⟨j.name, rowId⟩, ⟨baseName, rowId⟩]

/-- The columns that a statement names outside its sub-queries. -/
def Statement.columns (s : Statement) : List QualifiedColumn :=
  s.selected ++ s.joins.flatMap SubqueryJoin.columns ++ s.conditions.map Condition.column ++
    s.order.map SortKey.column

/-- A column is one of the sub-query that it is qualified by. -/
def Statement.InScope (s : Statement) (column : QualifiedColumn) : Prop :=
  column.column ∈ s.columnsOf column.subquery

/-- The sub-queries of a statement have different names and name only columns of their
tables, and the statement names only columns of its sub-queries. -/
structure Statement.Scoped (c : Catalog) (s : Statement) : Prop where
  distinct : s.introduced.Nodup
  subqueries : ∀ sub ∈ s.subqueries, sub.Scoped c
  columns : ∀ column ∈ s.columns, s.InScope column

theorem Statement.columnsOf_of_mem {s : Statement} (hnames : s.introduced.Nodup) {sub : Subquery}
    (hsub : sub ∈ s.subqueries) : s.columnsOf sub.name = sub.items.map SubqueryItem.exposed := by
  unfold columnsOf
  cases hfind : s.subqueries.find? (·.name == sub.name) with
  | none => simpa using List.find?_eq_none.mp hfind sub hsub
  | some sub' =>
    -- The first sub-query of the name is the only one.
    have hsame : sub'.name = sub.name := by simpa using List.find?_some hfind
    rw [List.inj_on_of_nodup_map hnames (List.mem_of_find?_eq_some hfind) hsub hsame]

end Query

namespace MarkQuery

variable {c : Catalog} {a : String} {markTables : SortedMap MarkId String}

/-! ## Sub-queries -/

theorem provides_column {tables : List String} {place : Nat} {name attr : String} {t : Table}
    (hplace : tables[place]? = some name) (ht : c.table name = .ok t)
    (hattr : t.hasAttribute attr = true) : Provides c tables ⟨place, t.column attr⟩ :=
  ⟨name, t, hplace, ht, Table.holds_column hattr⟩

/-- Joins compare columns of the tables before and behind them. `before` are the tables of the
chain up to the one that the steps leave. -/
theorem provides_chainJoins (before : List String) {m b : String} {steps : List JoinStep}
    {joins : List ChainJoin} (hleads : Leads m steps b)
    (hsides : ∀ s ∈ steps, c.HasSide s.source ∧ c.HasSide s.target)
    (h : chainJoins c before.length steps = .ok joins) :
    ∀ j ∈ joins, ∀ p ∈ j.pairs, Provides c (before ++ m :: entered steps) p.1 ∧
      Provides c (before ++ m :: entered steps) p.2 := by
  induction steps generalizing before m joins with
  | nil =>
    cases h
    simp
  | cons s rest ih =>
    obtain ⟨rfl, hleads⟩ := hleads
    obtain ⟨⟨source, hsource, hattrs⟩, target, htarget, hattrs'⟩ := hsides s (by simp)
    simp only [chainJoins, hsource, htarget] at h
    obtain ⟨joins', hjoins', rfl⟩ := Except.map_eq_ok.mp h
    intro j hj p hp
    rcases List.mem_cons.mp hj with rfl | hj
    · obtain ⟨⟨x, y⟩, hxy, rfl⟩ := List.mem_map.mp hp
      obtain ⟨hx, hy⟩ := List.of_mem_zip hxy
      refine ⟨provides_column ?_ hsource (hattrs x hx), provides_column ?_ htarget (hattrs' y hy)⟩
      · simp
      · simp [entered]
    · -- The table that this step leaves comes before those of the other joins.
      have hlength : before.length + 1 = (before ++ [s.source.table]).length := by simp
      rw [hlength] at hjoins'
      have hrest := ih _ hleads (fun s hs => hsides s (by simp [hs])) hjoins' j hj p hp
      rwa [List.append_assoc] at hrest

/-- A sub-query along a path is scoped if the columns that it selects and those by which it
groups are there. -/
theorem scoped_of_chainAlong (hc : c.Integral) {path : JoinPath} (hpath : c.Follows path)
    {isOuter : Bool} {s : Subquery} (hchain : chainAlong c path isOuter = .ok s.chain)
    (hitems : ∀ item ∈ s.items, Provides c path.tables item.column)
    (hgroup : ∀ column ∈ s.groupBy, Provides c path.tables column) : s.Scoped c := by
  intro column hcolumn
  rw [tables_chainAlong hchain]
  simp only [Subquery.columns, List.mem_append, or_assoc] at hcolumn
  rcases hcolumn with hselected | hpair | hcolumn
  · obtain ⟨item, hitem, rfl⟩ := List.mem_map.mp hselected
    exact hitems item hitem
  · obtain ⟨joins, hjoins, heq⟩ := Except.map_eq_ok.mp hchain
    obtain ⟨j, hj, hpair⟩ := List.mem_flatMap.mp hpair
    obtain ⟨p, hp, hcolumn⟩ := List.mem_flatMap.mp hpair
    rw [← heq] at hj
    have hboth := provides_chainJoins [] hpath.leads
      (fun s hs => hc.hasSides (hpath.across s hs)) hjoins j hj p hp
    rcases List.mem_cons.mp hcolumn with rfl | hcolumn
    · exact hboth.1
    · rw [List.mem_singleton.mp hcolumn]
      exact hboth.2
  · exact hgroup column hcolumn

theorem scoped_baseSubquery (hc : c.WellFormed) {name : String} {source : Table}
    (hsource : c.table name = .ok source) : (baseSubquery source).Scoped c := by
  have hname : source.name = name := hc.named name source hsource
  have hplace : (baseSubquery source).chain.tables[0]? = some name := by
    rw [← hname]
    rfl
  intro column hcolumn
  simp only [Subquery.columns, baseSubquery, List.map_cons, List.map_map, List.flatMap_nil,
    List.append_nil, List.mem_cons] at hcolumn
  rcases hcolumn with rfl | hcolumn
  · exact provides_column hplace hsource rfl
  · obtain ⟨attr, hattr, rfl⟩ := List.mem_map.mp hcolumn
    exact ⟨name, source, hplace, hsource, List.contains_iff_mem.mpr (List.mem_of_mem_filter hattr)⟩

theorem scoped_parentSubquery (hc : c.Integral) {path : JoinPath} (hpath : c.Follows path)
    {s : Subquery} (h : parentSubquery c path = .ok s) : s.Scoped c := by
  obtain ⟨source, outer, hs⟩ := exists_parentSubquery h
  refine scoped_of_chainAlong hc hpath hs.chain ?_ (by simp [hs.groupBy])
  intro item hitem
  rw [hs.items] at hitem
  rcases List.mem_cons.mp hitem with rfl | hitem
  · exact provides_column rfl hs.leaves rfl
  · rw [List.mem_singleton.mp hitem]
    exact provides_column (JoinGraph.tables_destination path) hs.ends rfl

theorem scoped_pathSubquery (hc : c.Integral) {j : PlannedJoin} (hpath : c.Follows j.path)
    (hcolumns : ∀ column ∈ j.columns, ∃ t, c.table j.path.destination = .ok t ∧
      t.hasAttribute (column.column.getD rowId) = true)
    {s : Subquery} (h : pathSubquery c j = .ok s) : s.Scoped c := by
  obtain ⟨source, target, hs⟩ := exists_pathSubquery h
  have hid : Provides c j.path.tables ⟨0, source.column rowId⟩ :=
    provides_column rfl hs.leaves rfl
  have hvalue : ∀ column ∈ j.columns, Provides c j.path.tables (j.valueColumn target column) := by
    intro column hcolumn
    obtain ⟨t, ht, hattr⟩ := hcolumns column hcolumn
    obtain rfl : target = t := Except.ok.inj (hs.ends.symm.trans ht)
    exact provides_column (JoinGraph.tables_destination j.path) ht hattr
  refine scoped_of_chainAlong hc hpath hs.chain ?_ ?_
  · intro item hitem
    rw [hs.items] at hitem
    rcases List.mem_cons.mp hitem with rfl | hitem
    · exact hid
    · obtain ⟨column, hcolumn, rfl⟩ := List.mem_map.mp hitem
      exact hvalue column hcolumn
  · intro column hcolumn
    rw [hs.groupBy] at hcolumn
    split at hcolumn
    · rcases List.mem_cons.mp hcolumn with rfl | hcolumn
      · exact hid
      · obtain ⟨plain, hplain, rfl⟩ := List.mem_map.mp hcolumn
        exact hvalue plain (List.mem_of_mem_filter hplain)
    · cases hcolumn

/-! ## Plans -/

/-- A column is exposed according to a plan: an attribute by the mark's own rows, a planned
column by its sub-query. -/
def Plan.Exposes (p : Plan) (source : Table) (place : QualifiedColumn) : Prop :=
  (place.subquery = baseName ∧ source.hasAttribute place.column = true) ∨
    ∃ j ∈ p.joins, j.name = place.subquery ∧
      ∃ column ∈ j.columns, column.resultName = place.column

/-- The tables in which the paths of a plan end have the columns that are planned, and the
places of channels are exposed. -/
structure Plan.Grounded (c : Catalog) (source : Table) (p : Plan) : Prop where
  columns : ∀ j ∈ p.joins, ∀ column ∈ j.columns, ∃ t, c.table j.path.destination = .ok t ∧
    t.hasAttribute (column.column.getD rowId) = true
  places : ∀ channel place, p.places.find? channel = some place → p.Exposes source place

theorem grounded_start (source : Table) : (Plan.start source).Grounded c source where
  columns := by simp [Plan.start]
  places := by simp [Plan.start]

theorem Plan.Exposes.mono {p p' : Plan} {source : Table} {place : QualifiedColumn}
    (h : p.Exposes source place)
    (hjoins : ∀ j ∈ p.joins, ∃ j' ∈ p'.joins, j'.name = j.name ∧ j.columns ⊆ j'.columns) :
    p'.Exposes source place := by
  rcases h with hbase | ⟨j, hj, hname, column, hcolumn, hresult⟩
  · exact .inl hbase
  · obtain ⟨j', hj', hname', hsubset⟩ := hjoins j hj
    exact .inr ⟨j', hj', hname'.trans hname, column, hsubset hcolumn, hresult⟩

theorem Plan.Grounded.addReference {p : Plan} {source : Table} (hp : p.Grounded c source)
    (channel : String) {r : ForeignRef} {path : JoinPath} (found : List Warning)
    (hr : ∃ t, c.table path.destination = .ok t ∧
      t.hasAttribute (r.column.getD rowId) = true) :
    (p.addReference channel r path found).Grounded c source where
  columns := by
    intro j' hj' column hcolumn
    rcases mem_askAlong hj' with hj' | ⟨j, hj, rfl⟩
    · exact hp.columns j' hj' column hcolumn
    rw [PlannedJoin.ask_path]
    rcases hj with ⟨hj, hfollows⟩ | ⟨hpath, hempty⟩
    · rcases PlannedJoin.mem_ask_columns hcolumn with hcolumn | rfl
      · exact hp.columns j hj column hcolumn
      · -- Sub-queries are shared only by references to one table.
        simp only [PlannedJoin.follows, Bool.and_eq_true, beq_iff_eq] at hfollows
        rw [hfollows.2]
        exact hr
    · rcases PlannedJoin.mem_ask_columns hcolumn with hcolumn | rfl
      · simp [hempty] at hcolumn
      · rw [hpath]
        exact hr
  places := by
    intro channel' place hplace
    simp only [Plan.addReference, SortedMap.find?_insert] at hplace
    split at hplace
    · cases hplace
      exact .inr (exists_askAlong_column p.used channel r path 0 p.joins)
    · exact (hp.places channel' place hplace).mono fun j hj =>
        exists_askAlong p.used channel r path 0 hj

theorem Plan.Grounded.addColumn {p : Plan} {source : Table} (hp : p.Grounded c source)
    (channel : String) {attr : String} (hattr : source.hasAttribute attr = true) :
    Plan.Grounded c source { p with
      columns := p.columns.insert channel attr
      places := p.places.insert channel ⟨baseName, attr⟩ } where
  columns := hp.columns
  places := by
    intro channel' place hplace
    simp only [SortedMap.find?_insert] at hplace
    split at hplace
    · cases hplace
      exact .inl ⟨rfl, hattr⟩
    · exact hp.places channel' place hplace

theorem Plan.Grounded.addChannels (hc : c.WellFormed) {source : Table}
    {channels : List (String × Channel)}
    (hchannels : ∀ channel ∈ channels,
      channel.2.Grounded c source ∧ channel.2.referencedMark? = none)
    {p p' : Plan} (hp : p.Grounded c source)
    (h : p.addChannels c a markTables channels = .ok p') : p'.Grounded c source := by
  apply addChannels_keeps (I := fun p => p.Grounded c source) _ h hp
  intro channel hchannel p p' hadd hp
  obtain ⟨hgrounded, hmark⟩ := hchannels channel hchannel
  rcases addChannel_cases hadd with ⟨attr, hattr, rfl⟩ | ⟨r, path, found, hr, hresolve, rfl⟩ | rfl
  · exact hp.addColumn _ (hgrounded.column attr hattr)
  · obtain ⟨-, hreaches⟩ := Reference.resolve_resolved hresolve
    exact hp.addReference _ _ (Reference.hasAttribute_of_reaches hc hgrounded hr hmark hreaches)
  · exact hp

/-! ## Whole queries -/

theorem exposed_parentSubquery {path : JoinPath} {s : Subquery}
    (h : parentSubquery c path = .ok s) :
    s.items.map SubqueryItem.exposed = [rowId, parentId] := by
  obtain ⟨source, outer, hs⟩ := exists_parentSubquery h
  rw [hs.items]
  rfl

theorem exposed_pathSubquery {j : PlannedJoin} {s : Subquery} (h : pathSubquery c j = .ok s) :
    s.items.map SubqueryItem.exposed = rowId :: j.columns.map PlannedColumn.resultName := by
  obtain ⟨source, target, hs⟩ := exists_pathSubquery h
  rw [hs.items, List.map_cons, List.map_map]
  rfl

namespace Compiled

variable {r : Request} {parent : Option JoinPath} {q : MarkQuery} {source : Table} {plan : Plan}
  {parents paths : List Subquery}
variable (h : Compiled c r parent markTables q source plan parents paths)
variable (hnames : q.statement.introduced.Nodup)
include h

theorem inScope_base {attr : String} (hattr : source.hasAttribute attr = true) :
    q.statement.InScope ⟨baseName, attr⟩ := by
  rw [Statement.InScope, h.columnsOf_base]
  exact mem_ownColumns.mpr hattr

include hnames

theorem columnsOf_parent {s : Subquery} (hs : s ∈ parents) :
    s.name = parentName ∧ q.statement.columnsOf parentName = [rowId, parentId] := by
  obtain ⟨path, -, hpath⟩ := Except.exists_of_mem_mapM h.outer hs
  have hname := (name_tables_parentSubquery hpath).1
  have hmem : s ∈ q.statement.subqueries := by simp [h.subqueries, hs]
  rw [← hname, Statement.columnsOf_of_mem hnames hmem]
  exact ⟨rfl, exposed_parentSubquery hpath⟩

theorem columnsOf_join {j : PlannedJoin} (hj : j ∈ plan.joins) :
    q.statement.columnsOf j.name = rowId :: j.columns.map PlannedColumn.resultName := by
  obtain ⟨s, hs, hpath⟩ := Except.exists_of_mapM h.along hj
  have hmem : s ∈ q.statement.subqueries := by simp [h.subqueries, hs]
  rw [← (name_tables_pathSubquery hpath).1, Statement.columnsOf_of_mem hnames hmem]
  exact exposed_pathSubquery hpath

theorem inScope_planned {j : PlannedJoin} (hj : j ∈ plan.joins) {column : PlannedColumn}
    (hcolumn : column ∈ j.columns) : q.statement.InScope ⟨j.name, column.resultName⟩ := by
  rw [Statement.InScope, h.columnsOf_join hnames hj]
  exact List.mem_cons_of_mem _ (List.mem_map_of_mem hcolumn)

/-- Filters and sort keys are about attributes of the mark's table, or about channels. -/
theorem inScope_of_placeOf (hplan : plan.Grounded c source) {column : String}
    {place : QualifiedColumn} (hplace : placeOf source plan column = .ok place) :
    q.statement.InScope place := by
  unfold placeOf at hplace
  split at hplace
  case isTrue hattr =>
    cases hplace
    exact h.inScope_base hattr
  case isFalse =>
    split at hplace
    case h_2 => cases hplace
    case h_1 place' hfind =>
      cases hplace
      obtain ⟨subquery, column⟩ := place
      rcases hplan.places _ _ hfind with ⟨rfl, hattr⟩ | ⟨j, hj, rfl, planned, hplanned, rfl⟩
      · exact h.inScope_base hattr
      · exact h.inScope_planned hnames hj hplanned

theorem inScope_of_mem_columns (hplan : plan.Grounded c source) :
    ∀ column ∈ q.statement.columns, q.statement.InScope column := by
  intro column hcolumn
  simp only [Statement.columns, List.mem_append, or_assoc] at hcolumn
  rcases hcolumn with hselected | hjoined | hcondition | hkey
  · -- Selected are the identity of the outer row, and what was planned.
    rw [h.selected] at hselected
    rcases List.mem_append.mp hselected with houter | hplanned
    · obtain ⟨s, hs, rfl⟩ := List.mem_map.mp houter
      rw [Statement.InScope, (h.columnsOf_parent hnames hs).2]
      decide
    · obtain ⟨j, hj, hplanned⟩ := List.mem_flatMap.mp hplanned
      obtain ⟨planned, hmem, rfl⟩ := List.mem_map.mp hplanned
      exact h.inScope_planned hnames hj hmem
  · -- Every sub-query exposes the row identity by which it is joined.
    obtain ⟨j, hj, hcolumn⟩ := List.mem_flatMap.mp hjoined
    rcases List.mem_cons.mp hcolumn with rfl | hcolumn
    · rw [h.joined] at hj
      rcases List.mem_append.mp hj with hj | hj
      · obtain ⟨s, hs, rfl⟩ := List.mem_map.mp hj
        obtain ⟨hname, hcolumns⟩ := h.columnsOf_parent hnames hs
        rw [Statement.InScope, hname, hcolumns]
        exact List.mem_cons_self
      · obtain ⟨planned, hmem, rfl⟩ := List.mem_map.mp hj
        rw [Statement.InScope, h.columnsOf_join hnames hmem]
        exact List.mem_cons_self
    · rw [List.mem_singleton.mp hcolumn]
      exact h.inScope_base rfl
  · obtain ⟨condition, hmem, rfl⟩ := List.mem_map.mp hcondition
    obtain ⟨f, -, hf⟩ := Except.exists_of_mem_mapM h.conditions hmem
    obtain ⟨place, hplace, rfl⟩ := Except.map_eq_ok.mp hf
    exact h.inScope_of_placeOf hnames hplan hplace
  · obtain ⟨key, hmem, rfl⟩ := List.mem_map.mp hkey
    obtain ⟨keys, hkeys, horder⟩ := h.order
    rw [horder] at hmem
    split at hmem
    · rw [List.mem_singleton.mp hmem]
      exact h.inScope_base rfl
    · obtain ⟨o, -, ho⟩ := Except.exists_of_mem_mapM hkeys hmem
      obtain ⟨place, hplace, rfl⟩ := Except.map_eq_ok.mp ho
      exact h.inScope_of_placeOf hnames hplan hplace

omit hnames

theorem scoped_of_mem_subqueries (hc : c.WellFormed) (hintegral : c.Integral)
    (hparent : ∀ path ∈ parent, c.Follows path) (hplan : plan.Grounded c source) :
    ∀ sub ∈ q.statement.subqueries, sub.Scoped c := by
  intro sub hsub
  rw [h.subqueries, List.mem_append, List.mem_cons] at hsub
  rcases hsub with (rfl | hsub) | hsub
  · exact scoped_baseSubquery hc h.known
  · obtain ⟨path, hpath, hs⟩ := Except.exists_of_mem_mapM h.outer hsub
    exact scoped_parentSubquery hintegral (hparent path (by simpa using hpath)) hs
  · obtain ⟨j, hj, hs⟩ := Except.exists_of_mem_mapM h.along hsub
    have hsound := addChannels_sound h.planned (by simp [Plan.start]) j hj
    exact scoped_pathSubquery hintegral hsound.follows (hplan.columns j hj) hs

end Compiled

end MarkQuery

/-- Every column that a mark's query names is there, if the mark's channels were classified
against the catalog, refer to no marks, and the path to the outer mark's table was found in
it. A sub-query reads the tables along its path and names columns that these have at their
places, and the columns that the statement selects, compares and sorts by are among those of
the sub-queries by which they are qualified. -/
theorem query_columns_in_scope (calls : List Catalog.Call) (m : Mark) (parent : Option JoinPath)
    (markTables : SortedMap MarkId String) (q : MarkQuery)
    (hclassified : m.Classified (Catalog.reached calls))
    (hmarks : ∀ channel ∈ m.channels, channel.2.referencedMark? = none)
    (hparent : ∀ path ∈ parent, (Catalog.reached calls).FindsEitherWay path)
    (h : m.compile (Catalog.reached calls) parent markTables = .ok q) :
    q.statement.subqueries.map (·.chain.tables) =
      [m.source] :: (parent.toList ++ q.paths).map JoinPath.tables ∧
    q.statement.Scoped (Catalog.reached calls) := by
  have hc := Catalog.wellFormed_reached calls
  have hnames := MarkQuery.nodup_introduced h
  obtain ⟨source, plan, parents, paths, hq⟩ := MarkQuery.exists_compiled h
  have hplan : plan.Grounded (Catalog.reached calls) source := by
    refine (MarkQuery.grounded_start source).addChannels hc ?_ hq.planned
    intro channel hchannel
    obtain ⟨mapping, hmapping⟩ := hclassified channel hchannel
    exact ⟨Channel.grounded_of_classify hq.known hmapping, hmarks channel hchannel⟩
  refine ⟨MarkQuery.tables_of_compile hc h, hnames, ?_, hq.inScope_of_mem_columns hnames hplan⟩
  exact hq.scoped_of_mem_subqueries hc (Catalog.integral_reached calls)
    (fun path hpath => (hparent path hpath).follows) hplan

/-- Sales of products, with the district by the deal of the maker unless that is the north, in
the order of the districts that are next. -/
def sortedSales : MarkSpec where
  source := "sales"
  shape := .text
  channels :=
    [("text", .get { column := "name", source := some (.table "districts"), via := some ⟨2⟩ }),
     ("title", .get { column := "name" })]
  filters := [⟨"product", .ne, .null⟩, ⟨"text", .ne, .text "north"⟩]
  orderBy := [⟨"title", false⟩]

/-- Nested in districts, they have a query with two more sub-queries. -/
theorem query_columns_in_scope_sales : ∃ channels q,
    sortedSales.classify (Catalog.reached salesCalls) = .ok channels ∧
      (Mark.ofSpec ⟨1⟩ sortedSales channels "mark_1").compile (Catalog.reached salesCalls)
        (some salePath) .empty = .ok q ∧
      q.paths.map JoinPath.signature = [[⟨5⟩, ⟨3⟩, ⟨2⟩, ⟨1⟩, ⟨0⟩], [⟨4⟩, ⟨0⟩]] ∧
      q.statement.Scoped (Catalog.reached salesCalls) := by
  have hok : ((sortedSales.classify (Catalog.reached salesCalls)) >>= fun channels =>
      ((Mark.ofSpec ⟨1⟩ sortedSales channels "mark_1").compile (Catalog.reached salesCalls)
        (some salePath) .empty).map fun q =>
          (channels.map (·.2.referencedMark?), q.paths.map JoinPath.signature)) =
      .ok ([none, none], [[⟨5⟩, ⟨3⟩, ⟨2⟩, ⟨1⟩, ⟨0⟩], [⟨4⟩, ⟨0⟩]]) := by decide +kernel
  have hfound : (Catalog.reached salesCalls).pathAcross "sales" "districts" ⟨2⟩ = .ok salePath := by
    decide +kernel
  obtain ⟨channels, hchannels, hok⟩ := Except.bind_eq_ok.mp hok
  obtain ⟨q, hq, heq⟩ := Except.map_eq_ok.mp hok
  simp only [Prod.mk.injEq] at heq
  refine ⟨channels, q, hchannels, hq, heq.2, ?_⟩
  have hscoped := query_columns_in_scope salesCalls
    (Mark.ofSpec ⟨1⟩ sortedSales channels "mark_1") (some salePath) .empty q
    (Mark.classified_ofSpec hchannels _ _) ?_ ?_ hq
  · exact hscoped.2
  · intro channel hchannel
    have hmark : channel.2.referencedMark? ∈ channels.map (·.2.referencedMark?) :=
      List.mem_map_of_mem hchannel
    rw [heq.1] at hmark
    simpa using hmark
  · rintro path ⟨⟩
    exact .inl (.inr (.inr ⟨_, _, _, hfound⟩))

end KeyChart
