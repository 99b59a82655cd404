import KeyChart.Proofs.Chart.StoredCells
import KeyChart.Proofs.Chart.TiedRows
import KeyChart.Rehearsal

/-!
# Storing rows again

The rows of a mark are stored whenever they were drawn, and each time with the columns
that they have then. What was stored before is emptied if its columns still fit, and
otherwise made anew, in the engine and in the catalog alike. So the two stay in step, and
storing the same rows again changes nothing of the catalog.
-/

namespace KeyChart

open Attempt

/-! ## Columns of tables of rows -/

/-- A column as it is reported of a table that was created with it. -/
def ColumnDef.reported (c : ColumnDef) : Attribute := ⟨c.name, ColumnType.ofSql c.sqlType⟩

/-- Columns of a table of rows: no two of one name, and the row identity a number. -/
structure RowColumns (columns : List Attribute) : Prop where
  nonempty : columns ≠ []
  distinct : (columns.map Attribute.name).Nodup
  numbered : ∀ a ∈ columns, a.name = rowId → a.type = .numeric

theorem rowColumns_allColumns (attributes : SortedMap Int Record) :
    RowColumns (storedTable attributes).allColumns where
  nonempty := List.cons_ne_nil _ _
  distinct := (shows_storedTable attributes).distinct
  numbered := by
    intro a ha hname
    rcases List.mem_cons.mp ha with rfl | hmem
    · rfl
    · exact absurd hname (name_ne_rowId hmem)

namespace RowColumns

variable {columns : List Attribute} (h : RowColumns columns)
include h

/-- A table is reported with the columns that it was created for. -/
theorem reported : (columnDefs columns).map ColumnDef.reported = columns := by
  rw [columnDefs, List.map_map]
  refine (List.map_congr_left fun a ha => ?_).trans (List.map_id _)
  obtain ⟨name, kind⟩ := a
  rw [Function.comp_apply]
  by_cases hname : name = rowId
  · have hkind : kind = .numeric := h.numbered _ ha hname
    simp only [if_pos hname, ColumnDef.reported, hkind, id_eq, ColumnType.ofSql_integer]
  · simp only [if_neg hname, ColumnDef.reported, ColumnType.ofSql_toSql, id_eq]

theorem nodup_columnDefs : ((columnDefs columns).map ColumnDef.name).Nodup := by
  have hnames : (columnDefs columns).map ColumnDef.name = columns.map Attribute.name := by
    rw [columnDefs, List.map_map]
    refine List.map_congr_left fun a _ => ?_
    by_cases hname : a.name = rowId <;> simp [hname]
  rw [hnames]
  exact h.distinct

end RowColumns

/-! ## Engines that keep tables -/

section Keeping

variable {σ α : Type}

/-- A call that succeeds. Afterwards the tables have the columns that are given. -/
def Succeeds (Usable : σ → Prop) (columns : σ → String → List Attribute) (op : Attempt σ α) (s : σ)
    (a : α) (after : String → List Attribute) : Prop :=
  ∃ s', op.run.run s = (.ok a, s') ∧ Usable s' ∧ columns s' = after

/-- An engine in which a table has the columns that it was created with, until it is
dropped. Calls succeed where they make sense: only a missing table is created, only a
table that is there is dropped or emptied, and rows fit the columns that they go to. -/
structure ColumnKeeping (e : Engine σ) where
  Usable : σ → Prop
  columns : σ → String → List Attribute
  reports : ∀ {s} (table : String), Usable s →
    Succeeds Usable columns (e.columns table) s (columns s table) (columns s)
  creates : ∀ {s} (table : String) {defs : List ColumnDef}, Usable s → columns s table = [] →
    (defs.map ColumnDef.name).Nodup → Succeeds Usable columns (e.createTable table defs) s ()
      (Function.update (columns s) table (defs.map ColumnDef.reported))
  drops : ∀ {s} (table : String), Usable s → columns s table ≠ [] →
    Succeeds Usable columns (e.dropTable table) s () (Function.update (columns s) table [])
  empties : ∀ {s} (table : String), Usable s → columns s table ≠ [] →
    Succeeds Usable columns (e.run ("DELETE FROM " ++ quoteIdent table)) s () (columns s)
  inserts : ∀ {s} (table : String) (rows : List (List Value)), Usable s → columns s table ≠ [] →
    (∀ row ∈ rows, row.length = (columns s table).length) →
    Succeeds Usable columns
      (e.insertRows table ((columns s table).map Attribute.name) rows) s () (columns s)

end Keeping

/-- Empties a table and fills it again. -/
def refill {σ : Type} (e : Engine σ) (table : String) (t : StoredTable) : Attempt σ Unit := do
  let _ ← e.columns table
  e.run ("DELETE FROM " ++ quoteIdent table)
  e.insertRows table (t.allColumns.map Attribute.name) t.rows

/-! ## Tables of rows in the catalog -/

theorem Schema.repeated?_eq_none {seen names : List String} (hnodup : names.Nodup)
    (hseen : ∀ n ∈ names, n ∉ seen) : repeated? seen names = none := by
  induction names generalizing seen with
  | nil => rfl
  | cons name rest ih =>
    obtain ⟨hname, hrest⟩ := List.nodup_cons.mp hnodup
    rw [repeated?, if_neg (hseen name (by simp))]
    refine ih hrest fun n hn => ?_
    rw [List.mem_cons, not_or]
    exact ⟨fun heq => hname (heq ▸ hn), hseen n (by simp [hn])⟩

theorem Table.exists_ofAttributes (name : String) {columns : List Attribute} (derived : Bool)
    (hnodup : (columns.map Attribute.name).Nodup) :
    ∃ t, ofAttributes name columns derived = .ok t ∧ t.name = name ∧
      t.schema.attributes = columns := by
  have hnone : Schema.repeated? [] (columns.map Attribute.name) = none :=
    Schema.repeated?_eq_none hnodup fun _ _ => List.not_mem_nil
  refine ⟨ofSchema name ⟨columns, hnodup⟩ derived, ?_, rfl, rfl⟩
  have hschema : Schema.ofAttributes columns = .ok ⟨columns, hnodup⟩ := by
    unfold Schema.ofAttributes
    split
    · rfl
    case h_2 hsome =>
      rw [hnone] at hsome
      cases hsome
  rw [ofAttributes, hschema]

namespace Catalog

variable {c : Catalog}

/-- A table is known, under its own name. -/
def Registers (c : Catalog) (name : String) : Prop := ∃ t, c.table name = .ok t ∧ t.name = name

/-- A new table is registered with its key and its tie to another one. -/
theorem exists_makeTable {t : Table} {source : String} (hnew : c.containsTable t.name = false)
    (hsource : c.Registers source) :
    ∃ d u, (makeTable t source).run.run c = (.ok (), d) ∧ d.table t.name = .ok u ∧
      u.schema = t.schema ∧ ∀ name, name ≠ t.name → d.table name = c.table name := by
  obtain ⟨ts, hts, rfl⟩ := hsource
  obtain ⟨u, c₁, c₂, hadd, hprimary, ⟨hname, -, -, hschema⟩, -, htables⟩ := exists_rowKeyed hnew
  have hne : ts.name ≠ t.name := ne_of_containsTable (containsTable_iff.mpr ⟨ts, hts⟩) hnew
  have hu : c₂.table u.name = .ok u := by rw [htables, if_pos hname]
  have hsource₂ : c₂.table ts.name = .ok ts := by rw [htables, if_neg hne, hts]
  obtain ⟨fk, hforeign, -⟩ := addForeignKey_rowId hu hsource₂
  rw [hname] at hforeign
  refine ⟨{ c₂ with
      constraints := c₂.constraints.insert ⟨c₂.nextId⟩ ⟨none, .foreignKey fk⟩
      nextId := c₂.nextId + 1 }, u, ?_, (htables t.name).trans (if_pos rfl), hschema,
    fun name hother => (htables name).trans (if_neg hother)⟩
  rw [run_makeTable hadd hprimary]
  exact run_atomic_of_ok (r := ((), _)) (by rw [hforeign]; rfl)

/-- A known table can be dropped. -/
theorem exists_dropTable {table : String} (h : c.containsTable table = true) :
    ∃ t d, c.dropTable table = .ok (t, d) ∧ d.containsTable table = false ∧
      ∀ name, name ≠ table → d.table name = c.table name := by
  obtain ⟨t, ht⟩ := containsTable_iff.mp h
  obtain ⟨⟨u, d⟩, hdrop⟩ : ∃ r, c.dropTable table = .ok r := by simp [dropTable, ht]
  refine ⟨u, d, hdrop, ?_, ?_⟩
  · rw [← Bool.not_eq_true, containsTable_dropTable hdrop]
    simp
  · intro name hne
    obtain ⟨-, rfl⟩ := dropTable_eq_ok hdrop
    simp [Catalog.table, hne]

end Catalog

namespace Session

variable {σ ρ α : Type} {b : Backend σ ρ} {s s' : Session σ ρ} {id : MarkId} {m : Mark}
  {table source : String}

theorem run_onEngine {op : Attempt σ α} {r : Except Error α} {e : σ}
    (h : op.run.run s.engine = (r, e)) : (onEngine op).run.run s = (r, { s with engine := e }) := by
  rw [onEngine, run_within, h]

/-! ## Making a table ready -/

section Preparing

variable (k : ColumnKeeping b.engine)

/-- A table that is registered has the columns in the catalog that it has in the engine. -/
def InStep (table : String) (s : Session σ ρ) : Prop :=
  ∀ t, s.chart.catalog.table table = .ok t → t.schema.attributes = k.columns s.engine table

/-- A session in which the table of a mark has been made ready for rows: it has the given
columns, in the engine and in the catalog. Marks and the other tables stay. -/
structure Prepares (table : String) (wanted : List Attribute) (s s' : Session σ ρ) : Prop where
  usable : k.Usable s'.engine
  columns : k.columns s'.engine table = wanted
  registered : ∃ t, s'.chart.catalog.table table = .ok t ∧ t.schema.attributes = wanted
  others : ∀ name, name ≠ table → s'.chart.catalog.table name = s.chart.catalog.table name
  marks : s'.chart.marks = s.chart.marks

variable {k} {wanted : List Attribute}

theorem exists_createMarkTable (hwanted : RowColumns wanted) (husable : k.Usable s.engine)
    (hnone : k.columns s.engine table = []) (hnew : s.chart.catalog.containsTable table = false)
    (hsource : s.chart.catalog.Registers source) :
    ∃ s', (createMarkTable b table source wanted).run.run s = (.ok (), s') ∧
      Prepares k table wanted s s' := by
  obtain ⟨e, hcreate, husable', hcolumns⟩ := k.creates table husable hnone hwanted.nodup_columnDefs
  rw [hwanted.reported] at hcolumns
  obtain ⟨t, ht, rfl, hattributes⟩ := Table.exists_ofAttributes table true hwanted.distinct
  obtain ⟨d, u, hmake, hu, hschema, hothers⟩ := Catalog.exists_makeTable hnew hsource
  refine ⟨{ s with chart := { s.chart with catalog := d }, engine := e }, ?_,
    ⟨husable', ?_, ⟨u, hu, ?_⟩, hothers, rfl⟩⟩
  · rw [createMarkTable_eq, run_bind_of_ok (run_onEngine hcreate),
      run_bind_of_ok (a := t) (by rw [run_ofExcept, ht])]
    exact run_onCatalog hmake
  · show k.columns e t.name = wanted
    rw [hcolumns, Function.update_self]
  · rw [hschema, hattributes]

/-- Once the engine has no such table, what is registered of it is dropped, and it is made. -/
theorem exists_remakeMarkTable {e : σ} (hwanted : RowColumns wanted) (husable : k.Usable e)
    (hnone : k.columns e table = []) (hsource : s.chart.catalog.Registers source)
    (hne : source ≠ table) :
    ∃ s', (remakeMarkTable b table source wanted).run.run { s with engine := e } =
        (.ok (), s') ∧ Prepares k table wanted s s' := by
  unfold remakeMarkTable
  rw [run_bind_of_ok (run_get _)]
  by_cases hold : s.chart.catalog.containsTable table = true
  · obtain ⟨t, d, hdrop, hgone, hothers⟩ := Catalog.exists_dropTable hold
    have hrun : (onCatalog (Attempt.atomic fun c => (c.dropTable table).map fun r => ((), r.2)) :
        Attempt (Session σ ρ) Unit).run.run { s with engine := e } =
          (.ok (), { s with chart := { s.chart with catalog := d }, engine := e }) :=
      run_onCatalog (run_atomic_of_ok (r := ((), d)) (by rw [hdrop]; rfl))
    rw [if_pos hold, run_bind_of_ok hrun]
    have hsource' : d.Registers source := by
      rwa [Catalog.Registers, hothers source hne]
    obtain ⟨s', hrun', h⟩ := exists_createMarkTable
      (s := { s with chart := { s.chart with catalog := d }, engine := e })
      hwanted husable hnone hgone hsource'
    exact ⟨s', hrun', h.usable, h.columns, h.registered,
      fun name hname => (h.others name hname).trans (hothers name hname), h.marks⟩
  · rw [if_neg hold]
    obtain ⟨s', hrun', h⟩ := exists_createMarkTable (s := { s with engine := e }) hwanted husable
      hnone (Bool.not_eq_true _ ▸ hold) hsource
    exact ⟨s', hrun', h.usable, h.columns, h.registered, h.others, h.marks⟩

/-- A table whose columns are in step is only emptied if they are the wanted ones. -/
theorem exists_prepareMarkTable (hwanted : RowColumns wanted) (husable : k.Usable s.engine)
    (hsource : s.chart.catalog.Registers source) (hne : source ≠ table)
    (hstep : InStep k table s) :
    ∃ s', (prepareMarkTable b table source wanted).run.run s = (.ok (), s') ∧
      Prepares k table wanted s s' := by
  obtain ⟨e, hreport, husable', hsame⟩ := k.reports table husable
  rw [prepareMarkTable_eq, run_bind_of_ok (run_onEngine hreport), run_bind_of_ok (run_get _)]
  by_cases hkept : k.columns s.engine table = wanted ∧
      s.chart.catalog.containsTable table = true
  · obtain ⟨t, ht⟩ := Catalog.containsTable_iff.mp hkept.2
    have hpresent : k.columns e table = wanted := by rw [hsame, hkept.1]
    obtain ⟨e', hempty, husable'', hsame'⟩ := k.empties table husable' (hpresent ▸ hwanted.nonempty)
    rw [if_pos (by simpa using hkept)]
    refine ⟨_, run_onEngine hempty, husable'', ?_, ⟨t, ht, ?_⟩, fun _ _ => rfl, rfl⟩
    · show k.columns e' table = wanted
      rw [hsame', hpresent]
    · rw [hstep t ht, hkept.1]
  · rw [if_neg (by simpa using hkept)]
    by_cases hnone : k.columns s.engine table = []
    · rw [if_pos (by simpa using hnone)]
      have hnone' : k.columns e table = [] := by rw [hsame, hnone]
      exact exists_remakeMarkTable hwanted husable' hnone' hsource hne
    · rw [if_neg (by simpa using hnone)]
      have hthere : k.columns e table ≠ [] := by rwa [hsame]
      obtain ⟨e', hdrop, husable'', hgone⟩ := k.drops table husable' hthere
      rw [run_bind_of_ok (run_onEngine hdrop)]
      have hnone' : k.columns e' table = [] := by rw [hgone, Function.update_self]
      exact exists_remakeMarkTable hwanted husable'' hnone' hsource hne

end Preparing

/-! ## Storing rows -/

section Storing

variable (k : ColumnKeeping b.engine)

/-- A session in which a mark draws rows from one table and stores them in another. The
first is registered under its name, and the engine can be called. -/
structure Ready (id : MarkId) (table source : String) (s : Session σ ρ) : Prop where
  usable : k.Usable s.engine
  mark : ∃ m, s.chart.mark id = .ok m ∧ m.table = table ∧ m.source = source
  source : s.chart.catalog.Registers source

/-- A session in which the rows of a mark have just been stored. Their table has the same
columns in the catalog and in the engine, and the rows were the last thing that the engine
was given. -/
structure Persists (m : Mark) (s s' : Session σ ρ) : Prop where
  registered : ∃ t, s'.chart.catalog.table m.table = .ok t ∧
    t.schema.attributes = k.columns s'.engine m.table
  columns : k.columns s'.engine m.table = (storedTable m.attributes).allColumns
  inserted : ∃ e, (b.engine.insertRows m.table
    ((storedTable m.attributes).allColumns.map Attribute.name)
    (storedTable m.attributes).rows).run.run e = (.ok (), s'.engine)
  others : ∀ name, name ≠ m.table → s'.chart.catalog.table name = s.chart.catalog.table name
  marks : s'.chart.marks = s.chart.marks

variable {k}

/-- Rows can be stored in a table that has their columns. -/
theorem exists_insertRows {e : σ} (husable : k.Usable e) {attributes : SortedMap Int Record}
    (hcolumns : k.columns e table = (storedTable attributes).allColumns) :
    Succeeds k.Usable k.columns (b.engine.insertRows table
      ((storedTable attributes).allColumns.map Attribute.name) (storedTable attributes).rows)
      e () (k.columns e) := by
  have hinsert := k.inserts table (storedTable attributes).rows husable
    (by rw [hcolumns]; exact (rowColumns_allColumns attributes).nonempty)
    (by rw [hcolumns]; exact (shows_storedTable attributes).width)
  rwa [hcolumns] at hinsert

/-- While table and catalog are in step, the rows of a mark can be stored, and the two are
in step again. -/
theorem Ready.exists_runPersist (hs : Ready k id table source s) (hstep : InStep k table s)
    (hne : source ≠ table) (hm : s.chart.mark id = .ok m) :
    ∃ s', (runPersist b id).run.run s = (.ok (), s') ∧ Persists k m s s' ∧
      Ready k id table source s' := by
  obtain ⟨m', hm', rfl, rfl⟩ := hs.mark
  cases hm.symm.trans hm'
  obtain ⟨s₁, hprepare, hs₁⟩ := exists_prepareMarkTable (rowColumns_allColumns m.attributes)
    hs.usable hs.source hne hstep
  obtain ⟨e, hinsert, husable, hsame⟩ := exists_insertRows hs₁.usable hs₁.columns
  have hcolumns : k.columns e m.table = (storedTable m.attributes).allColumns := by
    rw [hsame, hs₁.columns]
  refine ⟨{ s₁ with engine := e }, ?run, ⟨?registered, hcolumns, ⟨_, hinsert⟩, hs₁.others,
    hs₁.marks⟩, husable, ⟨m, ?mark, rfl, rfl⟩, ?source⟩
  case run =>
    unfold runPersist
    rw [run_bind_of_ok (a := m) (by rw [ask, run_ask, hm]), run_bind_of_ok hprepare]
    exact run_onEngine hinsert
  case registered =>
    obtain ⟨t, ht, hschema⟩ := hs₁.registered
    exact ⟨t, ht, hschema.trans hcolumns.symm⟩
  case mark =>
    rw [Chart.mark_eq_ok, ← Chart.mark_eq_ok.mp hm]
    exact congrArg (·.find? id) hs₁.marks
  case source =>
    obtain ⟨t, ht, hname⟩ := hs.source
    exact ⟨t, (hs₁.others _ hne).trans ht, hname⟩

/-- Rows whose columns are there already are stored by emptying their table and filling it
again. -/
theorem runPersist_eq_refill (husable : k.Usable s.engine) (hm : s.chart.mark id = .ok m)
    (hin : s.chart.catalog.containsTable m.table = true)
    (hcolumns : k.columns s.engine m.table = (storedTable m.attributes).allColumns) :
    ∃ e, (refill b.engine m.table (storedTable m.attributes)).run.run s.engine = (.ok (), e) ∧
      (runPersist b id).run.run s = (.ok (), { s with engine := e }) := by
  obtain ⟨e₁, hreport, husable₁, hsame₁⟩ := k.reports m.table husable
  have hcolumns₁ : k.columns e₁ m.table = (storedTable m.attributes).allColumns := by
    rw [hsame₁, hcolumns]
  obtain ⟨e₂, hempty, husable₂, hsame₂⟩ := k.empties m.table husable₁
    (by rw [hcolumns₁]; exact (rowColumns_allColumns m.attributes).nonempty)
  have hcolumns₂ : k.columns e₂ m.table = (storedTable m.attributes).allColumns := by
    rw [hsame₂, hcolumns₁]
  obtain ⟨e, hinsert, -, -⟩ := exists_insertRows husable₂ hcolumns₂
  refine ⟨e, ?_, ?_⟩
  · rw [refill, run_bind_of_ok hreport, run_bind_of_ok hempty, hinsert]
  · have hprepare : (prepareMarkTable b m.table m.source
        (storedTable m.attributes).allColumns).run.run s = (.ok (), { s with engine := e₂ }) := by
      rw [prepareMarkTable_eq, run_bind_of_ok (run_onEngine hreport), run_bind_of_ok (run_get _),
        if_pos (by simpa using ⟨hcolumns, hin⟩)]
      exact run_onEngine hempty
    unfold runPersist
    rw [run_bind_of_ok (a := m) (by rw [ask, run_ask, hm]), run_bind_of_ok hprepare]
    exact run_onEngine hinsert

variable (k)

/-! ## Storing rows again and again -/

/-- What may happen before the rows are stored again: they may have been drawn anew, and
all else may change other than the table that they are stored in. -/
structure Undisturbed (id : MarkId) (table source : String) (s s' : Session σ ρ) : Prop where
  ready : Ready k id table source s'
  entry : s'.chart.catalog.table table = s.chart.catalog.table table
  columns : k.columns s'.engine table = k.columns s.engine table

/-- Sessions in which the rows of a mark have been stored any number of times, in a table
that nothing else stores rows in. -/
inductive Storing (id : MarkId) (table source : String) : Session σ ρ → Prop where
  | start {s : Session σ ρ} : Ready k id table source s →
    s.chart.catalog.containsTable table = false → Storing id table source s
  | between {s s' : Session σ ρ} : Storing id table source s → Undisturbed k id table source s s' →
    Storing id table source s'
  | persist {s : Session σ ρ} : Storing id table source s →
    Storing id table source ((runPersist b id).after s)

variable {k}

theorem Storing.inStep (hs : Storing k id table source s) :
    Ready k id table source s ∧ InStep k table s ∧ source ≠ table := by
  induction hs with
  | start hready hnew =>
    obtain ⟨t, ht, -⟩ := hready.source
    refine ⟨hready, ?_, Catalog.ne_of_containsTable (Catalog.containsTable_iff.mpr ⟨t, ht⟩) hnew⟩
    intro t ht
    rw [Catalog.containsTable_iff.mpr ⟨t, ht⟩] at hnew
    cases hnew
  | between _ hnext ih =>
    obtain ⟨-, hstep, hne⟩ := ih
    refine ⟨hnext.ready, ?_, hne⟩
    intro t ht
    rw [hnext.columns]
    exact hstep t (hnext.entry ▸ ht)
  | persist _ ih =>
    obtain ⟨hready, hstep, hne⟩ := ih
    obtain ⟨m, hm, htable, -⟩ := hready.mark
    obtain ⟨s', hrun, hs', hready'⟩ := hready.exists_runPersist hstep hne hm
    rw [after, hrun]
    refine ⟨hready', ?_, hne⟩
    intro t ht
    obtain ⟨t', ht', hschema⟩ := hs'.registered
    rw [htable] at ht' hschema
    cases ht.symm.trans ht'
    exact hschema

/-- A session in which the rows of a mark have been drawn anew. -/
def redrawn (id : MarkId) (attributes : SortedMap Int Record) (s : Session σ ρ) : Session σ ρ :=
  (updateMark id fun m => { m with attributes }).after s

theorem redrawn_eq (hm : s.chart.mark id = .ok m) (attributes : SortedMap Int Record) :
    redrawn id attributes s = { s with chart := { s.chart with
      marks := s.chart.marks.insert id { m with attributes } } } :=
  after_edit_of_ok (by rw [hm]; rfl)

theorem mark_redrawn (hm : s.chart.mark id = .ok m) (attributes : SortedMap Int Record) :
    (redrawn id attributes s).chart.mark id = .ok { m with attributes } := by
  rw [redrawn_eq hm, Chart.mark_eq_ok, SortedMap.find?_insert, if_pos rfl]

theorem Ready.undisturbed_redrawn (hs : Ready k id table source s)
    (attributes : SortedMap Int Record) :
    Undisturbed k id table source s (redrawn id attributes s) := by
  obtain ⟨m, hm, htable, hsource⟩ := hs.mark
  have hmark := mark_redrawn hm attributes
  rw [redrawn_eq hm] at hmark ⊢
  exact ⟨⟨hs.usable, ⟨_, hmark, htable, hsource⟩, hs.source⟩, rfl, rfl⟩

end Storing

end Session

open Session

namespace Rehearsal

theorem run_note {s : Script} (h : s.refused = []) (call : Call) :
    (note call).run.run s = (.ok (), { s with calls := call :: s.calls }) := by
  unfold note
  rw [run_bind_of_ok (run_get s), run_bind_of_ok (run_set s _), h]
  rfl

/-- An engine that refuses nothing keeps the columns of its tables. -/
def columnKeeping : ColumnKeeping engine where
  Usable s := s.refused = []
  columns s table := ((s.tables.find? table).map KnownTable.columns).getD []
  reports {s} table h := by
    refine ⟨{ s with calls := .columns table :: s.calls }, ?_, h, rfl⟩
    show (note (.columns table) >>= _).run.run s = _
    rw [run_bind_of_ok (run_note h _)]
    rfl
  creates {s} table {defs} h _ _ := by
    refine ⟨{ s with
        calls := .createTable table defs :: s.calls
        tables := s.tables.insert table ⟨defs.map ColumnDef.reported, []⟩ }, ?_, h, ?_⟩
    · show (note (.createTable table defs) >>= _).run.run s = _
      rw [run_bind_of_ok (run_note h _)]
      rfl
    · funext name
      by_cases hname : name = table <;> simp [hname, Function.update]
  drops {s} table h _ := by
    refine ⟨{ s with
        calls := .dropTable table :: s.calls
        tables := s.tables.erase table }, ?_, h, ?_⟩
    · show (note (.dropTable table) >>= _).run.run s = _
      rw [run_bind_of_ok (run_note h _)]
      rfl
    · funext name
      by_cases hname : name = table <;> simp [hname, Function.update]
  empties _ h _ := ⟨_, run_note h _, h, rfl⟩
  inserts _ _ h _ _ := ⟨_, run_note h _, h, rfl⟩

end Rehearsal

/-- Rows with a label that spells a number. -/
def numberedRows : SortedMap Int Record :=
  .ofList [(1, .ofList [("id", .int 1), ("label", .text "7")]),
    (0, .ofList [("id", .int 0), ("x", .int 4)])]

/-- Rows with a label that does not. -/
def labelledRows : SortedMap Int Record :=
  .ofList [(1, .ofList [("id", .int 1), ("label", .text "p")]),
    (0, .ofList [("id", .int 0), ("x", .int 4)])]

/-- A mark whose rows have not been stored yet. -/
def unstored : Session Rehearsal.Script Nat :=
  reached ⟨Rehearsal.engine, Rehearsal.renderer {} []⟩ (start {} oneTable 0)
    [.importTable "T", .addMark { source := "T", shape := .rect }]

/-- Its rows have been stored with a column of numbers, and then been drawn anew. -/
def relabelled : Session Rehearsal.Script Nat :=
  redrawn ⟨0⟩ labelledRows ((runPersist ⟨Rehearsal.engine, Rehearsal.renderer {} []⟩ ⟨0⟩).after
    (redrawn ⟨0⟩ numberedRows unstored))

end KeyChart
