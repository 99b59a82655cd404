import KeyChart.Proofs.Catalog.Ties
import KeyChart.Proofs.Chart.MarkTables
import KeyChart.Proofs.Chart.Relations
import KeyChart.Proofs.Chart.StoredRows

/-!
# Ties of marks

A run stores the rows of every mark in a table of its own and ties them to the table
that they were drawn from. If the engine still has a table with the right columns, it is
only emptied and keeps its ties; otherwise it is made anew, and what was tied to it
before is not tied again. So after a run the rows of a mark are tied, unless they were
drawn from the rows of another mark and the table of those is the later one.
-/

namespace KeyChart

open Attempt

namespace Session

variable {σ ρ α β : Type} {marks : SortedMap MarkId Mark} {drawn : String → String → Prop}

/-! ## The catalog of a session -/

/-- A session with given marks, whose catalog has a property. -/
def WithMarks (marks : SortedMap MarkId Mark) (I : Catalog → Prop) (s : Session σ ρ) : Prop :=
  s.chart.marks = marks ∧ I s.chart.catalog

theorem keeps_onEngine_withMarks {I : Catalog → Prop} (op : Attempt σ α) :
    Keeps (WithMarks marks I) (onEngine op : Attempt (Session σ ρ) α) :=
  keeps_onEngine (I := fun c => c.marks = marks ∧ I c.catalog) op

theorem takes_onCatalog {op : Attempt Catalog α} {I E : Catalog → Prop} {J : α → Catalog → Prop}
    (h : Takes I op J E) :
    Takes (WithMarks marks I) (onCatalog op : Attempt (Session σ ρ) α)
      (fun a => WithMarks marks (J a)) (WithMarks marks E) := by
  rintro s ⟨hmarks, hs⟩
  obtain ⟨hok, herror⟩ := h _ hs
  constructor
  · intro a s' hrun
    exact ⟨(marks_of_onCatalog hrun).trans hmarks, hok a _ (catalog_of_onCatalog hrun)⟩
  · intro e s' hrun
    exact ⟨(marks_of_onCatalog hrun).trans hmarks, herror e _ (catalog_of_onCatalog hrun)⟩

theorem keeps_onCatalog_withMarks {I : Catalog → Prop} {op : Attempt Catalog α} (h : op.Keeps I) :
    Keeps (WithMarks marks I) (onCatalog op : Attempt (Session σ ρ) α) :=
  (takes_onCatalog h.takes).keeps (fun _ _ hs => hs) fun _ hs => hs

theorem run_onCatalog {op : Attempt Catalog α} {s : Session σ ρ} {r : Except Error α}
    {c : Catalog} (h : op.run.run s.chart.catalog = (r, c)) :
    (onCatalog op).run.run s = (r, { s with chart := { s.chart with catalog := c } }) := by
  show ((op.run.run s.chart.catalog).1, { s with chart := { s.chart with
    catalog := (op.run.run s.chart.catalog).2 } }) = _
  rw [h]

theorem onCatalog_bind (op : Attempt Catalog α) (f : α → Attempt Catalog β) :
    (onCatalog (op >>= f) : Attempt (Session σ ρ) β) =
      onCatalog op >>= fun a => onCatalog (f a) := by
  refine funext fun s => ?_
  show (onCatalog (op >>= f)).run.run s = (onCatalog op >>= fun a => onCatalog (f a)).run.run s
  cases hop : op.run.run s.chart.catalog with
  | mk r c =>
    cases r with
    | error e =>
      rw [run_onCatalog (run_bind_of_error hop), run_bind_of_error (run_onCatalog hop)]
    | ok a =>
      have hboth : (op >>= f).run.run s.chart.catalog =
          (((f a).run.run c).1, ((f a).run.run c).2) := run_bind_of_ok hop
      rw [run_bind_of_ok (run_onCatalog hop), run_onCatalog hboth]
      rfl

/-! ## Storing rows -/

/-- In the catalog, a table of rows is made in one go. -/
theorem createMarkTable_eq (b : Backend σ ρ) (table source : String) (columns : List Attribute) :
    createMarkTable b table source columns = (do
      onEngine (b.engine.createTable table (columnDefs columns))
      let t ← Attempt.ofExcept (Table.ofAttributes table columns true)
      onCatalog (Catalog.makeTable t source)) := by
  apply Attempt.ext
  intro s
  unfold createMarkTable
  rw [run_bind, run_bind]
  split
  case h_2 => rfl
  case h_1 =>
    rw [run_bind, run_bind, run_ofExcept]
    cases ht : Table.ofAttributes table columns true with
    | error e => rfl
    | ok t => simp only [Catalog.makeTable, onCatalog_bind, (Table.ofAttributes_eq_ok ht).1]

section Storing

variable (marks) (b : Backend σ ρ) {c : Catalog} {table source : String} (hdrawn : drawn table source)
  (hone : ∀ t s s', drawn t s → drawn t s' → s = s') (hne : source ≠ table)
  (hsource : c.containsTable source = true ∨ ∃ s', drawn source s')
include hdrawn hone hne hsource

theorem takes_createMarkTable (columns : List Attribute) :
    Takes (WithMarks marks fun d => c.Redoes drawn d table ∧ d.containsTable table = false)
      (createMarkTable b table source columns)
      (fun _ => WithMarks marks fun d => c.Redoes drawn d table ∧ d.containsTable table = true)
      (WithMarks marks fun d => c.Redoes drawn d table) := by
  have hweaken : ∀ s : Session σ ρ,
      WithMarks marks (fun d => c.Redoes drawn d table ∧ d.containsTable table = false) s →
      WithMarks marks (fun d => c.Redoes drawn d table) s := fun s hs => ⟨hs.1, hs.2.1⟩
  rw [createMarkTable_eq]
  refine takes_bind ((keeps_onEngine_withMarks _).takes.mono (fun _ hs => hs) (fun _ _ hs => hs)
    hweaken) fun _ => ?_
  refine takes_bind ((takes_ask _).mono (fun _ hs => hs) (fun _ _ hs => hs) hweaken) fun t => ?_
  rintro s ⟨ht, hs⟩
  exact takes_onCatalog (Catalog.takes_makeTable hdrawn hone hne hsource ht) s hs

theorem takes_prepareMarkTable (wanted : List Attribute) :
    Takes (WithMarks marks fun d => c.Redoes drawn d table)
      (prepareMarkTable b table source wanted)
      (fun _ => WithMarks marks fun d => c.Redoes drawn d table ∧ d.containsTable table = true)
      (WithMarks marks fun d => c.Redoes drawn d table) := by
  have hcreate := takes_createMarkTable marks b hdrawn hone hne hsource wanted
  have hanew : Takes (WithMarks marks fun d => c.Redoes drawn d table)
      (remakeMarkTable b table source wanted)
      (fun _ => WithMarks marks fun d => c.Redoes drawn d table ∧ d.containsTable table = true)
      (WithMarks marks fun d => c.Redoes drawn d table) := by
    unfold remakeMarkTable
    refine takes_bind takes_get fun s₀ => takes_ite ?_ ?_
    · intro _
      refine takes_bind ?_ fun _ => hcreate
      exact (takes_onCatalog (Catalog.takes_dropTable hdrawn)).mono (fun _ hs => hs.2)
        (fun _ _ hs => hs) fun _ hs => hs
    · intro hnew
      refine hcreate.mono ?_ (fun _ _ hs => hs) fun _ hs => hs
      rintro s ⟨rfl, hmarks, hs⟩
      exact ⟨hmarks, hs, Bool.not_eq_true _ ▸ hnew⟩
  rw [prepareMarkTable_eq]
  refine takes_bind (keeps_onEngine_withMarks _).takes fun present => ?_
  refine takes_bind takes_get fun s₀ => takes_ite ?_ ?_
  · intro hkept
    rw [Bool.and_eq_true] at hkept
    refine ((keeps_onEngine_withMarks _).takes).mono ?_ (fun _ _ hs => hs)
      fun _ hs => ⟨hs.1, hs.2.1⟩
    rintro s ⟨rfl, hmarks, hs⟩
    exact ⟨hmarks, hs, hkept.2⟩
  · intro _
    refine takes_ite ?_ ?_
    · intro _
      exact hanew.mono (fun _ hs => hs.2) (fun _ _ hs => hs) fun _ hs => hs
    · intro _
      refine takes_bind ?_ fun _ => hanew
      exact (keeps_onEngine_withMarks _).takes.mono (fun _ hs => hs.2) (fun _ _ hs => hs)
        fun _ hs => hs

end Storing

end Session

/-! ## Charts with tied rows -/

namespace Chart

variable {drawn : String → String → Prop} {c d : Chart} {done : List Task} {id : MarkId} {m : Mark}

/-- The names of the tables in which marks store their rows. -/
def storageNames (c : Chart) : List String := c.marks.values.map Mark.table

/-- The rows of a mark are drawn from one table and stored in another. -/
def Draws (c : Chart) (table source : String) : Prop :=
  ∃ id m, c.mark id = .ok m ∧ m.table = table ∧ m.source = source

theorem mem_values_of_mark (h : c.mark id = .ok m) : m ∈ c.marks.values :=
  List.mem_map.mpr ⟨(id, m), SortedMap.find?_eq_some_iff_mem.mp (mark_eq_ok.mp h), rfl⟩

theorem Draws.mem_storageNames {table source : String} (h : c.Draws table source) :
    table ∈ c.storageNames := by
  obtain ⟨id, m, hm, rfl, -⟩ := h
  exact List.mem_map.mpr ⟨m, mem_values_of_mark hm, rfl⟩

theorem Draws.unique (hnames : c.storageNames.Nodup) {table s s' : String} (h : c.Draws table s)
    (h' : c.Draws table s') : s = s' := by
  obtain ⟨id, m, hm, rfl, rfl⟩ := h
  obtain ⟨id', m', hm', htable, rfl⟩ := h'
  rw [List.inj_on_of_nodup_map hnames (mem_values_of_mark hm) (mem_values_of_mark hm')
    htable.symm]

/-- A chart whose marks draw rows as `drawn` says, each from a table that is known or that
holds rows. The rows are tied, and the tasks that are done have stored theirs. -/
structure Ties (drawn : String → String → Prop) (done : List Task) (c : Chart) : Prop where
  draws : ∀ id m, c.mark id = .ok m → drawn m.table m.source
  sources : ∀ id m, c.mark id = .ok m →
    c.catalog.containsTable m.source = true ∨ ∃ s, drawn m.source s
  tied : c.catalog.Tied drawn
  stored : ∀ t ∈ done, t.stage = .persist → ∀ m, c.mark t.mark = .ok m →
    c.catalog.containsTable m.table = true

theorem ties_ofConfig (drawn : String → String → Prop) (config : ChartConfig) :
    (ofConfig config).Ties drawn [] where
  draws _ _ hm := by cases hm
  sources _ _ hm := by cases hm
  tied := Catalog.tied_empty drawn
  stored _ ht := absurd ht List.not_mem_nil

theorem keptByDrawing_ties (drawn : String → String → Prop) (done : List Task) :
    KeptByDrawing (Ties drawn done) where
  fragments hc := ⟨hc.draws, hc.sources, hc.tied, hc.stored⟩
  marks := by
    intro c marks hmarks hc
    have hold : ∀ {id m}, { c with marks }.mark id = .ok m →
        ∃ m', c.mark id = .ok m' ∧ m'.table = m.table ∧ m'.source = m.source := by
      intro id m hm
      obtain ⟨m', hm', hsame⟩ := exists_declared hmarks (mark_eq_ok.mp hm)
      exact ⟨m', mark_eq_ok.mpr hm', (congrArg Mark.table hsame :), (congrArg Mark.source hsame :)⟩
    refine ⟨?_, ?_, hc.tied, ?_⟩
    · intro id m hm
      obtain ⟨m', hm', htable, hsource⟩ := hold hm
      rw [← htable, ← hsource]
      exact hc.draws id m' hm'
    · intro id m hm
      obtain ⟨m', hm', -, hsource⟩ := hold hm
      rw [← hsource]
      exact hc.sources id m' hm'
    · intro t ht hstage m hm
      obtain ⟨m', hm', htable, -⟩ := hold hm
      rw [← htable]
      exact hc.stored t ht hstage m' hm'

theorem Ties.forget (hc : c.Ties drawn done) : c.Ties drawn [] :=
  ⟨hc.draws, hc.sources, hc.tied, fun _ ht => absurd ht List.not_mem_nil⟩

/-- Tasks of other stages store nothing. -/
theorem Ties.skip (hc : c.Ties drawn done) {t : Task} (ht : t.stage ≠ .persist) :
    c.Ties drawn (done ++ [t]) := by
  refine ⟨hc.draws, hc.sources, hc.tied, ?_⟩
  intro u hu hstage
  rcases List.mem_append.mp hu with hu | hu
  · exact hc.stored u hu hstage
  · rw [List.mem_singleton.mp hu] at hstage
    exact absurd hstage ht

theorem Ties.redoes (hc : c.Ties drawn done) (hm : c.mark id = .ok m) (hmarks : d.marks = c.marks)
    (h : c.catalog.Redoes drawn d.catalog m.table) : d.Ties drawn [] := by
  have hsame : ∀ id, d.mark id = c.mark id := fun id => by rw [mark, mark, hmarks]
  refine ⟨?_, ?_, h.tied, fun _ ht => absurd ht List.not_mem_nil⟩
  · intro id' m' hm'
    exact hc.draws id' m' (hsame id' ▸ hm')
  · intro id' m' hm'
    by_cases heq : m'.source = m.table
    · exact .inr ⟨m.source, heq ▸ hc.draws id m hm⟩
    · exact (hc.sources id' m' (hsame id' ▸ hm')).imp_left (h.others _ heq)

theorem Ties.stores (hc : c.Ties drawn done) (hm : c.mark id = .ok m) (hmarks : d.marks = c.marks)
    (h : c.catalog.Redoes drawn d.catalog m.table)
    (hin : d.catalog.containsTable m.table = true) : d.Ties drawn (done ++ [⟨id, .persist⟩]) := by
  have hd := hc.redoes hm hmarks h
  refine ⟨hd.draws, hd.sources, hd.tied, ?_⟩
  intro t ht hstage m' hm'
  by_cases heq : m'.table = m.table
  · rwa [heq]
  · have hold : c.mark t.mark = .ok m' := by rwa [mark, hmarks] at hm'
    rcases List.mem_append.mp ht with ht | ht
    · exact h.others _ heq (hc.stored t ht hstage m' hold)
    · -- The task is that of the mark itself.
      rw [List.mem_singleton.mp ht, hm] at hold
      cases hold
      exact hin

theorem containsTable_of_addMark {spec : MarkSpec} (h : c.addMark spec = .ok (id, d)) :
    c.catalog.containsTable spec.source = true := by
  obtain ⟨t, ht, -⟩ := Except.bind_eq_ok.mp h
  exact Catalog.containsTable_iff.mpr ⟨t, ht⟩

/-- Loading tables other than those of marks leaves rows tied. -/
theorem Ties.extends (hc : c.Ties drawn done) (hmarks : d.marks = c.marks)
    (h : c.catalog.Extends d.catalog)
    (hother : ∀ t s, drawn t s → d.catalog.containsTable t = true →
      c.catalog.containsTable t = true) : d.Ties drawn [] := by
  have hsame : ∀ id, d.mark id = c.mark id := fun id => by rw [mark, mark, hmarks]
  refine ⟨?_, ?_, hc.tied.extends h hother, fun _ ht => absurd ht List.not_mem_nil⟩
  · intro id m hm
    exact hc.draws id m (hsame id ▸ hm)
  · intro id m hm
    exact (hc.sources id m (hsame id ▸ hm)).imp_left h.containsTable

theorem Ties.congr (hc : c.Ties drawn done) (hmarks : d.marks = c.marks)
    (hcatalog : d.catalog = c.catalog) : d.Ties drawn [] := by
  apply hc.extends hmarks
  · rw [hcatalog]
    exact .refl hc.tied.wellFormed hc.tied.keyed
  · intro t s _ hin
    rwa [← hcatalog]

theorem Ties.withMark (hc : c.Ties drawn done) {spec : MarkSpec}
    {channels : List (String × Channel)} (hsource : c.catalog.containsTable spec.source = true)
    (hdraws : ∀ id m, (c.withMark spec channels).mark id = .ok m → drawn m.table m.source) :
    (c.withMark spec channels).Ties drawn [] := by
  obtain ⟨n, hn, hcatalog⟩ := c.exists_newMarkTable ⟨c.nextMark⟩
  have hcatalog : (c.withMark spec channels).catalog = { c.catalog with nextId := n } := hcatalog
  refine ⟨hdraws, ?_, ?_, fun _ ht => absurd ht List.not_mem_nil⟩
  · intro id m hm
    rw [hcatalog]
    rw [mark_withMark] at hm
    split at hm
    · cases hm
      exact .inl hsource
    · exact hc.sources id m hm
  · rw [hcatalog]
    exact hc.tied.extends ((Catalog.Extends.refl hc.tied.wellFormed hc.tied.keyed).number hn)
      fun _ _ _ hin => hin

theorem Ties.nests (hc : c.Ties drawn done) {inner outer : MarkId} (h : c.Nests inner outer d) :
    d.Ties drawn [] := by
  obtain ⟨-, -, nest, warnings, -, -, rfl⟩ := h
  exact hc.congr rfl rfl

theorem keptByRelating_apart :
    KeptByRelating fun c => ∀ id m, c.mark id = .ok m → m.source ≠ m.table where
  catalog hc := hc
  fragments hc := hc
  marks := by
    intro c marks hmarks hc id m hm
    obtain ⟨m', hm', hsame⟩ := exists_declared hmarks (mark_eq_ok.mp hm)
    have htable : m'.table = m.table := (congrArg Mark.table hsame :)
    have hsource : m'.source = m.source := (congrArg Mark.source hsame :)
    rw [← htable, ← hsource]
    exact hc id m' (mark_eq_ok.mpr hm')
  execute _ _ hc := hc
  nest := by
    rintro c c' inner outer ⟨-, -, nest, warnings, -, -, rfl⟩ hc
    exact hc
  box _ _ _ hc := hc

/-- The table of a new mark is not the one that it draws. -/
theorem apart_addMark {spec : MarkSpec} (h : c.addMark spec = .ok (id, d))
    (hc : ∀ id m, c.mark id = .ok m → m.source ≠ m.table) :
    ∀ id m, d.mark id = .ok m → m.source ≠ m.table := by
  have hsource := containsTable_of_addMark h
  obtain ⟨channels, -, -, rfl⟩ := addMark_inserts h
  intro id m hm
  rw [mark_withMark] at hm
  split at hm
  · cases hm
    exact Catalog.ne_of_containsTable hsource (c.containsTable_newMarkTable _)
  · exact hc id m hm

/-- What is registered of the rows of a mark after a run: a table of rows, its row
identity as primary key under a number, and under the next one the tie to the table that
the rows were drawn from. The tie is there exactly if the table of no mark that the rows
were drawn from was made later. -/
structure StoresRows (c : Chart) (m : Mark) (n : Nat) : Prop where
  derived : ∃ t, c.catalog.table m.table = .ok t ∧ t.derived = true ∧
    SortedSet.ofList [rowId] ∈ t.keys
  keyed : c.catalog.KeyedAt m.table n
  tied : c.catalog.TiedAt m.table m.source (n + 1) ↔
    ∀ id a, c.mark id = .ok a → a.table = m.source → ∃ k < n, c.catalog.KeyedAt a.table k

theorem Ties.storesRows (hc : c.Ties c.Draws done) (hm : c.mark id = .ok m)
    (hin : c.catalog.containsTable m.table = true) : ∃ n, c.StoresRows m n := by
  obtain ⟨t, ht⟩ := Catalog.containsTable_iff.mp hin
  have hdraws : c.Draws m.table m.source := ⟨id, m, hm, rfl, rfl⟩
  obtain ⟨hderived, n, hn⟩ := hc.tied.stored hdraws ht
  refine ⟨n, ⟨t, ht, hderived, hc.tied.keyed _ _ ht⟩, hn, ?_⟩
  constructor
  · intro htie j a ha hsource
    by_contra hlater
    refine (hc.tied.untied hdraws ⟨j, a, ha, hsource, rfl⟩ hn ?_).1 htie
    intro k hk hkeyed
    exact hlater ⟨k, hk, hsource ▸ hkeyed⟩
  · intro hbefore
    refine hc.tied.tied hdraws hn ?_
    rintro s ⟨j, a, ha, hsource, -⟩
    obtain ⟨k, hk, hkeyed⟩ := hbefore j a ha hsource
    exact ⟨k, hk, hsource ▸ hkeyed⟩

end Chart

namespace Session

variable {σ ρ : Type} {drawn : String → String → Prop} (b : Backend σ ρ)

/-! ## Loading tables -/

section Loading

variable {marks : SortedMap MarkId Mark} {c : Catalog} (hc : c.WellFormed)
include hc

theorem extends_loadDdl (sql : String) : (loadDdl b sql).Keeps (WithMarks marks c.Extends) :=
  keeps_bind (keeps_onEngine_withMarks _) fun _ =>
    keeps_onCatalog_withMarks ((Catalog.keptByLoading_extends hc).loadDdl sql)

/-- What the engine reports about a new table. -/
theorem extends_importConstraint {name : String} (hnew : c.containsTable name = false)
    (k : TableConstraint) : (importConstraint name k).Keeps c.Extends := by
  cases k with
  | primaryKey columns =>
    refine keeps_atomic_map ?_
    intro d r hd hadd
    refine hadd.addConstraint hc ?_ hd
    intro table key hkey
    cases hkey
    exact hnew
  | unique columns =>
    refine keeps_atomic_map ?_
    intro d r hd hadd
    refine hadd.addConstraint hc ?_ hd
    intro table key hkey
    cases hkey
  | foreignKey columns target targetColumns =>
    refine keeps_atomic ?_
    intro d u d' h hd
    split at h
    · obtain ⟨r, hr, heq⟩ := Except.map_eq_ok.mp h
      cases heq
      exact hd.addForeignKey hc hr
    · cases h
      exact hd

theorem extends_importTable (name : String) :
    (importTable b name).Keeps (WithMarks marks c.Extends) := by
  unfold importTable
  refine keeps_bind (keeps_onEngine_withMarks _) fun columns => ?_
  have hrest : Keeps (WithMarks marks c.Extends) (do
      let constraints ← onEngine (b.engine.constraints name)
      let table ← Attempt.ofExcept (Table.ofAttributes name columns)
      onCatalog (Attempt.atomic fun c => (c.addTable table).map fun c => ((), c))
      for constraint in constraints do
        onCatalog (importConstraint name constraint) : Attempt (Session σ ρ) Unit) := by
    refine keeps_bind (keeps_onEngine_withMarks _) fun constraints => ?_
    refine Takes.keeps (J := fun _ => WithMarks marks c.Extends) ?_ (fun _ _ hs => hs)
      fun _ hs => hs
    apply takes_bind (takes_ask _)
    rintro table s ⟨htable, hs⟩
    refine takes_bind (takes_onCatalog ((Catalog.keptByLoading_extends hc).takes_addTable
      (Catalog.ofAttributes_keyed htable))) ?_ s hs
    rintro u s ⟨hmarks, hnew, hs⟩
    rw [(Table.ofAttributes_eq_ok htable).1] at hnew
    have hconstraints : Keeps (WithMarks marks c.Extends) (do
        for constraint in constraints do
          onCatalog (importConstraint name constraint) : Attempt (Session σ ρ) Unit) := by
      refine keeps_bind (keeps_forIn fun k _ _ => ?_) fun _ => keeps_pure _
      exact keeps_bind (keeps_onCatalog_withMarks (extends_importConstraint hc hnew k))
        fun _ => keeps_pure _
    exact hconstraints.takes s ⟨hmarks, hs⟩
  exact keeps_ite (keeps_bind (keeps_throw _) fun _ => hrest) hrest

theorem extends_deriveTable (name query : String) :
    (deriveTable b name query).Keeps (WithMarks marks c.Extends) := by
  unfold deriveTable
  refine keeps_bind keeps_get fun s => ?_
  have hrest : Keeps (WithMarks marks c.Extends) (do
      onEngine (b.engine.createTableAs name query)
      importTable b name : Attempt (Session σ ρ) Unit) :=
    keeps_bind (keeps_onEngine_withMarks _) fun _ => extends_importTable b hc name
  exact keeps_ite (keeps_bind (keeps_throw _) fun _ => hrest) hrest

end Loading

/-! ## Running marks -/

section Running

variable (hone : ∀ t s s', drawn t s → drawn t s' → s = s') (hne : ∀ t s, drawn t s → s ≠ t)
include hone hne

theorem takes_runPersist (done : List Task) (id : MarkId) :
    Takes (OfChart (Chart.Ties drawn done)) (runPersist b id)
      (fun _ => OfChart (Chart.Ties drawn (done ++ [⟨id, .persist⟩])))
      (OfChart (Chart.Ties drawn [])) := by
  unfold runPersist
  refine takes_bind ((takes_ask _).mono (fun _ hs => hs) (fun _ _ hs => hs)
    fun _ hs => hs.forget) fun m => ?_
  rintro s ⟨hm, hs⟩
  have hdrawn := hs.draws id m hm
  have hprepare := takes_prepareMarkTable s.chart.marks b hdrawn hone
    (hne _ _ hdrawn) (hs.sources id m hm) (storedTable m.attributes).allColumns
  have hpersist := takes_bind hprepare fun _ =>
    (keeps_onEngine_withMarks (b.engine.insertRows m.table
      ((storedTable m.attributes).allColumns.map Attribute.name)
      (storedTable m.attributes).rows)).takes.mono (fun _ hd => hd) (fun _ _ hd => hd)
        fun _ hd => ⟨hd.1, hd.2.1⟩
  have hstart : WithMarks s.chart.marks
      (fun d => s.chart.catalog.Redoes drawn d m.table) s := ⟨rfl, hs.tied, fun _ _ hin => hin⟩
  exact (hpersist.mono (fun _ hd => hd) (fun _ d hd => hs.stores hm hd.1 hd.2.1 hd.2.2)
    fun d hd => hs.redoes hm hd.1 hd.2) s hstart

theorem takes_runTask (done : List Task) (t : Task) :
    Takes (OfChart (Chart.Ties drawn done)) (runTask b t)
      (fun _ => OfChart (Chart.Ties drawn (done ++ [t]))) (OfChart (Chart.Ties drawn [])) := by
  have hdrawing := Chart.keptByDrawing_ties drawn done
  obtain ⟨id, stage⟩ := t
  have hother : ∀ op : Attempt (Session σ ρ) Unit, stage ≠ .persist →
      op.Keeps (OfChart (Chart.Ties drawn done)) →
      Takes (OfChart (Chart.Ties drawn done)) op
        (fun _ => OfChart (Chart.Ties drawn (done ++ [⟨id, stage⟩])))
        (OfChart (Chart.Ties drawn [])) :=
    fun op hstage hop => hop.takes.mono (fun _ hs => hs) (fun _ _ hs => hs.skip hstage)
      fun _ hs => hs.forget
  cases stage with
  | query => exact hother _ (by decide) (hdrawing.runQuery b id)
  | layout => exact hother _ (by decide) (hdrawing.runLayout id)
  | render => exact hother _ (by decide) (hdrawing.runRender b id)
  | persist => exact takes_runPersist b hone hne done id

/-- A run that succeeds has stored the rows of every mark. -/
theorem takes_run :
    Takes (OfChart fun c => c.Ties drawn [] ∧ c.Recorded) (run b)
      (fun _ => OfChart fun c => c.Ties drawn [] ∧
        ∀ id m, c.mark id = .ok m → c.catalog.containsTable m.table = true)
      (OfChart (Chart.Ties drawn [])) := by
  have hrecorded := Chart.keptByRelating_recorded.keptByWork
  have hdrawing := (Chart.keptByDrawing_ties drawn []).and hrecorded.keptByDrawing
  unfold run
  refine takes_bind ((keeps_edit_map fun _ _ => hdrawing.setLevels).takes.mono (fun _ hs => hs)
    (fun _ _ hs => hs) fun _ hs => hs.1) fun _ => ?_
  refine takes_bind ((keeps_ask _).takes.mono (fun _ hs => hs) (fun _ _ hs => hs)
    fun _ hs => hs.1) fun _ => ?_
  refine takes_bind ((keeps_edit ?_).takes.mono (fun _ hs => hs) (fun _ _ hs => hs)
    fun _ hs => hs.1) fun _ => ?_
  · intro c u c' hc hties
    cases hc
    exact hdrawing.fragments hties
  · rintro s ⟨hties, hs⟩
    -- The tasks leave the schedule alone, so that all marks in it are stored in the end.
    obtain ⟨hok, herror⟩ := Schedule.execute_takes (fun _ t => runTask b t)
      hs.built.wellFormed_idle.1 (E := OfChart (Chart.Ties drawn []))
      (fun done _ t => ((takes_runTask b hone hne done t).and_keeps
        ((hrecorded.and_schedule s.chart.schedule).runTask b t)).mono (fun _ hd => hd)
          (fun _ _ hd => hd) fun _ hd => hd.1)
      (fun _ hd => hd.1) ⟨hties, hs, rfl⟩
    constructor
    · intro u s' hrun
      obtain ⟨tasks, hall, hdone, hknown, hschedule⟩ := hok (congrArg Prod.fst hrun)
      obtain rfl := congrArg Prod.snd hrun
      refine ⟨⟨hdone.draws, hdone.sources, hdone.tied, hdone.forget.stored⟩, ?_⟩
      intro id m hm
      refine hdone.stored ⟨id, .persist⟩ ((hall _).mpr ?_) rfl m hm
      rw [← hschedule, hknown.scheduled]
      exact ⟨m, hm⟩
    · intro e s' hrun
      have hdone := herror e (congrArg Prod.fst hrun)
      obtain rfl := congrArg Prod.snd hrun
      exact ⟨hdone.draws, hdone.sources, hdone.tied, hdone.stored⟩

end Running

/-! ## Sequences of calls -/

/-- The tables that a call has registered, other than a run. -/
def Call.loaded (s : Session σ ρ) : Call → List String
  | .run => []
  | call => ((call.attempt b).after s).chart.catalog.tables.keys.filter fun name =>
      !s.chart.catalog.containsTable name

/-- The tables that calls have registered, other than runs. -/
def loadedTables : Session σ ρ → List Call → List String
  | _, [] => []
  | s, call :: rest => call.loaded b s ++ loadedTables ((call.attempt b).after s) rest

/-- Calls after which each mark has a table of its own, different from those that were
loaded. -/
def Separate (s : Session σ ρ) (calls : List Call) : Prop :=
  (reached b s calls).chart.storageNames.Nodup ∧
    ∀ name ∈ loadedTables b s calls, name ∉ (reached b s calls).chart.storageNames

instance (s : Session σ ρ) (calls : List Call) : Decidable (Separate b s calls) :=
  inferInstanceAs (Decidable (_ ∧ _))

theorem mem_loadedTables_append {s : Session σ ρ} {calls more : List Call} {name : String}
    (h : name ∈ loadedTables b s calls) : name ∈ loadedTables b s (calls ++ more) := by
  induction calls generalizing s with
  | nil => cases h
  | cons call rest ih => exact List.mem_append.mpr ((List.mem_append.mp h).imp_right ih)

theorem reached_append (s : Session σ ρ) (calls more : List Call) :
    reached b s (calls ++ more) = reached b (reached b s calls) more := List.foldl_append

/-- A mark stays what it was declared to be. -/
theorem keptByRelating_declared (id : MarkId) (m : Mark) :
    Chart.KeptByRelating fun c =>
      id.index < c.nextMark ∧ (c.marks.find? id).map Mark.declared = some m where
  catalog hc := hc
  fragments hc := hc
  marks hmarks hc := ⟨hc.1, (hmarks id).trans hc.2⟩
  execute _ _ hc := hc
  nest := by
    rintro c c' inner outer ⟨-, -, nest, warnings, -, -, rfl⟩ hc
    exact hc
  box _ _ _ hc := hc

theorem reached_eq_operated (s : Session σ ρ) (calls : List Call) :
    reached b s calls = operated b s (calls.map .call) := by
  rw [operated, List.foldl_map]
  rfl

theorem reached_recorded {s : Session σ ρ} (hs : s.chart.Recorded) (calls : List Call) :
    (reached b s calls).chart.Recorded := by
  rw [reached_eq_operated]
  exact operated_keeps Chart.keptByRelating_recorded b (fun h hc => hc.addMark h) _ hs

theorem reached_apart (config : ChartConfig) (engine : σ) (renderer : ρ) (calls : List Call)
    {id : MarkId} {m : Mark}
    (hm : (reached b (start config engine renderer) calls).chart.mark id = .ok m) :
    m.source ≠ m.table := by
  rw [reached_eq_operated] at hm
  refine operated_keeps Chart.keptByRelating_apart b (fun h hc => Chart.apart_addMark h hc)
    (calls.map .call) ?_ id m hm
  intro id m hm
  cases hm

theorem exists_reached_mark {s : Session σ ρ} (hs : s.chart.Recorded) {id : MarkId} {m : Mark}
    (hm : s.chart.mark id = .ok m) (calls : List Call) :
    ∃ m', (reached b s calls).chart.mark id = .ok m' ∧ m'.declared = m.declared := by
  have hbelow := (hs.numbered id).mp ⟨m, hm⟩
  have hkept := operated_keeps (keptByRelating_declared id m.declared) b ?_ (calls.map .call)
    (s := s) ⟨hbelow, by rw [Chart.mark_eq_ok.mp hm]; rfl⟩
  · rw [← reached_eq_operated] at hkept
    obtain ⟨m', hm', hsame⟩ := Option.map_eq_some_iff.mp hkept.2
    exact ⟨m', Chart.mark_eq_ok.mpr hm', hsame⟩
  · intro spec c c' id' hadd hc
    obtain ⟨m', -, hmarks, -, hnext, -⟩ := Chart.addMark_eq_ok hadd
    refine ⟨hnext ▸ Nat.lt_succ_of_lt hc.1, ?_⟩
    rw [hmarks, SortedMap.find?_insert, if_neg, hc.2]
    rintro rfl
    exact Nat.lt_irrefl _ hc.1

/-- What a mark draws now it draws in the end. -/
theorem reached_draws {s : Session σ ρ} (hs : s.chart.Recorded) {id : MarkId} {m : Mark}
    (hm : s.chart.mark id = .ok m) (calls : List Call) :
    (reached b s calls).chart.Draws m.table m.source := by
  obtain ⟨m', hm', hsame⟩ := exists_reached_mark b hs hm calls
  exact ⟨id, m', hm', (congrArg Mark.table hsame :), (congrArg Mark.source hsame :)⟩

theorem ties_after_edit {f : Chart → Except Error (Unit × Chart)} {s : Session σ ρ}
    (hs : s.chart.Ties drawn []) (hf : ∀ u d, f s.chart = .ok (u, d) → d.Ties drawn []) :
    ((edit f : Attempt (Session σ ρ) Unit).after s).chart.Ties drawn [] := by
  cases hfs : f s.chart with
  | error e =>
    rw [after_edit_of_error hfs]
    exact hs
  | ok r =>
    rw [after_edit_of_ok hfs]
    exact hf _ _ hfs

/-- Loading tables keeps rows tied, unless it takes the name of a table for rows. -/
theorem ties_after_loading {op : Attempt (Session σ ρ) Unit} {s : Session σ ρ}
    (hs : s.chart.Ties drawn [])
    (hop : op.Keeps (WithMarks s.chart.marks s.chart.catalog.Extends))
    (hloaded : ∀ name ∈ (op.after s).chart.catalog.tables.keys.filter fun name =>
      !s.chart.catalog.containsTable name, ∀ source, ¬ drawn name source) :
    (op.after s).chart.Ties drawn [] := by
  obtain ⟨hmarks, hextends⟩ := hop s ⟨rfl, .refl hs.tied.wellFormed hs.tied.keyed⟩
  refine hs.extends hmarks hextends ?_
  intro name source hdrawn hin
  by_contra hnew
  refine hloaded name ?_ source hdrawn
  obtain ⟨t, ht⟩ := Catalog.containsTable_iff.mp hin
  rw [Bool.not_eq_true] at hnew
  rw [List.mem_filter, hnew]
  exact ⟨SortedMap.mem_keys.mpr ⟨t, Catalog.table_eq_ok.mp ht⟩, rfl⟩

theorem Call.ties {call : Call} {s : Session σ ρ}
    (hone : ∀ t s s', drawn t s → drawn t s' → s = s') (hne : ∀ t s, drawn t s → s ≠ t)
    (hdraws : ∀ id m, ((call.attempt b).after s).chart.mark id = .ok m → drawn m.table m.source)
    (hloaded : ∀ name ∈ call.loaded b s, ∀ source, ¬ drawn name source)
    (hrecorded : s.chart.Recorded) (hs : s.chart.Ties drawn []) :
    ((call.attempt b).after s).chart.Ties drawn [] := by
  have hwell := hs.tied.wellFormed
  have hnest : ∀ result : Except Error Chart, (∀ d, result = .ok d → d.Ties drawn []) →
      ∀ u d, result.map (fun c => ((), c)) = .ok (u, d) → d.Ties drawn [] := by
    intro result hresult u d hd
    obtain ⟨d', hd', heq⟩ := Except.map_eq_ok.mp hd
    cases heq
    exact hresult d hd'
  cases call with
  | loadDdl sql =>
    exact ties_after_loading hs
      (keeps_bind (extends_loadDdl b hwell sql) fun _ => keeps_pure _) hloaded
  | importTable name => exact ties_after_loading hs (extends_importTable b hwell name) hloaded
  | deriveTable name query =>
    exact ties_after_loading hs (extends_deriveTable b hwell name query) hloaded
  | addMark spec =>
    cases hadd : s.chart.addMark spec with
    | error e =>
      have hafter : ((Call.addMark spec).attempt b).after s = s :=
        after_edit_of_error (by rw [hadd]; rfl)
      rwa [hafter]
    | ok r =>
      have hafter : ((Call.addMark spec).attempt b).after s = { s with chart := r.2 } :=
        after_edit_of_ok (Except.map_eq_ok.mpr ⟨r, hadd, rfl⟩)
      have hadd : s.chart.addMark spec = .ok (r.1, r.2) := hadd
      obtain ⟨channels, -, -, hr⟩ := Chart.addMark_inserts hadd
      rw [hafter, hr] at hdraws ⊢
      exact hs.withMark (Chart.containsTable_of_addMark hadd) hdraws
  | nest inner outer =>
    exact ties_after_edit hs (hnest _ fun d hd => hs.nests (Chart.nest_eq_ok hd))
  | nestOn inner outer attrs =>
    exact ties_after_edit hs (hnest _ fun d hd => hs.nests (Chart.nestOn_eq_ok hd))
  | nestVia inner outer constraint =>
    exact ties_after_edit hs (hnest _ fun d hd => hs.nests (Chart.nestVia_eq_ok hd))
  | nestInRoot id box =>
    refine ties_after_edit hs (hnest _ ?_)
    intro d hd
    obtain ⟨u, -, rfl⟩ := Except.map_eq_ok.mp hd
    exact hs.congr rfl rfl
  | run =>
    exact (takes_run b hone hne).after (K := OfChart (Chart.Ties drawn [])) (fun _ _ hd => hd.1)
      (fun _ hd => hd) ⟨hs, hrecorded⟩

/-- Calls that take no names of tables for rows keep rows tied. -/
theorem reached_ties {calls : List Call} {s : Session σ ρ}
    (hone : ∀ t s s', drawn t s → drawn t s' → s = s') (hne : ∀ t s, drawn t s → s ≠ t)
    (hdraws : ∀ t s', (reached b s calls).chart.Draws t s' → drawn t s')
    (hloaded : ∀ name ∈ loadedTables b s calls, ∀ source, ¬ drawn name source)
    (hrecorded : s.chart.Recorded) (hs : s.chart.Ties drawn []) :
    (reached b s calls).chart.Ties drawn [] := by
  induction calls generalizing s with
  | nil => exact hs
  | cons call rest ih =>
    have hnext : ((call.attempt b).after s).chart.Recorded := reached_recorded b hrecorded [call]
    refine ih hdraws (fun name hname => hloaded name (List.mem_append_right _ hname)) hnext ?_
    refine call.ties b hone hne ?_ (fun name hname => hloaded name (List.mem_append_left _ hname))
      hrecorded hs
    intro id m hm
    exact hdraws _ _ (reached_draws b hnext hm rest)

end Session

open Session

/-- After any calls, if each mark has a table of its own that was not loaded, a run that
succeeds leaves the rows of every mark registered: in a table of rows with the row
identity as primary key, tied to the table that they were drawn from unless that is a
table of rows that was made later. -/
theorem rows_stored_and_tied_iff {σ ρ : Type} (b : Backend σ ρ) (config : ChartConfig)
    (engine : σ) (renderer : ρ) (calls : List Session.Call)
    (hseparate : Separate b (start config engine renderer) (calls ++ [.run]))
    (hrun : ((run b).run.run (reached b (start config engine renderer) calls)).1 = .ok ()) :
    ∀ id m, (reached b (start config engine renderer) (calls ++ [.run])).chart.mark id = .ok m →
      ∃ n, (reached b (start config engine renderer) (calls ++ [.run])).chart.StoresRows m n := by
  obtain ⟨hnames, hloaded⟩ := hseparate
  have hrecorded := Chart.recorded_ofConfig config
  have hcalls := reached_recorded b (s := start config engine renderer) hrecorded calls
  obtain ⟨c, hc⟩ : ∃ c, c = (reached b (start config engine renderer) (calls ++ [.run])).chart :=
    ⟨_, rfl⟩
  rw [← hc] at hnames hloaded ⊢
  have hone : ∀ t s s', c.Draws t s → c.Draws t s' → s = s' := fun _ _ _ h h' => h.unique hnames h'
  have hne : ∀ t s, c.Draws t s → s ≠ t := by
    rintro t s ⟨id, m, hm, rfl, rfl⟩
    rw [hc] at hm
    exact reached_apart b config engine renderer _ hm
  have hties : (reached b (start config engine renderer) calls).chart.Ties c.Draws [] := by
    apply reached_ties b hone hne ?_ ?_ hrecorded (Chart.ties_ofConfig _ config)
    · rintro t s ⟨id, m, hm, rfl, rfl⟩
      rw [hc, reached_append]
      exact reached_draws b hcalls hm [.run]
    · intro name hname source hdraws
      exact hloaded name (mem_loadedTables_append b hname) hdraws.mem_storageNames
  have hend : c = ((run b).after (reached b (start config engine renderer) calls)).chart := by
    rw [hc, reached_append]
    rfl
  obtain ⟨hstored, hall⟩ := (takes_run b hone hne _ ⟨hties, hcalls⟩).1 () _ (Prod.ext hrun rfl)
  intro id m hm
  rw [hend] at hm hstored ⊢
  exact hstored.storesRows hm (hall id m hm)

/-- An engine that answers with no rows three times, and then with a row. -/
def growingRows : Rehearsal.Script :=
  { oneTable with results := [[], [], [], [[.int 1]]].map fun rows => ⟨["id"], rows⟩ }

/-- A mark, and another one that draws the rows of the first. -/
def rowsOfRows : List Session.Call :=
  [.importTable "T", .addMark { source := "T", shape := .rect }, .run,
    .addMark { source := "mark_0", shape := .rect }, .run]

/-- The chart after two more runs. -/
def remadeRows : Chart :=
  (reached ⟨Rehearsal.engine, Rehearsal.renderer {} []⟩ (start {} growingRows 0)
    (rowsOfRows ++ [.run])).chart

theorem rows_stored_and_tied_iff_remade :
    Separate ⟨Rehearsal.engine, Rehearsal.renderer {} []⟩ (start {} growingRows 0)
        (rowsOfRows ++ [.run]) ∧
      ∀ id m, remadeRows.mark id = .ok m → ∃ n, remadeRows.StoresRows m n := by
  have hseparate : Separate ⟨Rehearsal.engine, Rehearsal.renderer {} []⟩
      (start {} growingRows 0) (rowsOfRows ++ [.run]) := by decide +kernel
  exact ⟨hseparate, rows_stored_and_tied_iff _ _ _ _ _ hseparate (by decide +kernel)⟩

/-- The first mark gets its first row in the last run. Its table is made anew, and that of
the second mark is kept but not tied to it again. -/
theorem rows_untied_when_source_remade :
    Separate ⟨Rehearsal.engine, Rehearsal.renderer {} []⟩ (start {} growingRows 0)
        (rowsOfRows ++ [.run]) ∧
      ((run ⟨Rehearsal.engine, Rehearsal.renderer {} []⟩).run.run
        (reached ⟨Rehearsal.engine, Rehearsal.renderer {} []⟩ (start {} growingRows 0)
          rowsOfRows)).1 = .ok () ∧
      ¬ ∀ id m, remadeRows.mark id = .ok m →
        ∃ n, remadeRows.catalog.TiedAt m.table m.source n ∨
          remadeRows.catalog.TiedAt m.source m.table n := by
  refine ⟨by decide +kernel, by decide +kernel, fun h => ?_⟩
  have hties : remadeRows.catalog.foreignKeys.map Prod.snd = [Catalog.tie "mark_0" "T"] := by
    decide +kernel
  have hmark : (remadeRows.marks.find? ⟨1⟩).map (fun m => (m.table, m.source)) =
      some ("mark_1", "mark_0") := by decide +kernel
  have honly : ∀ table source n, remadeRows.catalog.TiedAt table source n →
      Catalog.tie table source = Catalog.tie "mark_0" "T" := by
    intro table source n htie
    have hmem := List.mem_map_of_mem (f := Prod.snd) (Catalog.mem_foreignKeys.mpr htie)
    rwa [hties, List.mem_singleton] at hmem
  obtain ⟨m, hm, hends⟩ := Option.map_eq_some_iff.mp hmark
  obtain ⟨htable, hsource⟩ := Prod.mk.inj hends
  obtain ⟨n, htie | htie⟩ := h ⟨1⟩ m (Chart.mark_eq_ok.mpr hm)
  · have heq := honly _ _ n htie
    rw [htable, hsource] at heq
    exact absurd heq (by decide)
  · have heq := honly _ _ n htie
    rw [htable, hsource] at heq
    exact absurd heq (by decide)

end KeyChart
