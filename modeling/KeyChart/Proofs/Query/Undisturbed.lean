import KeyChart.Proofs.Chart.StoredRows
import KeyChart.Proofs.Mark.Additions
import KeyChart.Proofs.Query.Plans

/-!
# Queries beside stored tables

A query is made of what the catalog says of the tables it names and of the paths
between them. A table of drawn rows is on none of these paths unless it is named. So
the query of a mark is the same before and after the rows of another one are stored.
-/

namespace KeyChart

variable {c c' : Catalog} {n : String}

/-- A path that does not touch a table. -/
structure JoinPath.Avoids (path : JoinPath) (n : String) : Prop where
  source : path.source ≠ n
  steps : ∀ s ∈ path.steps, s.source.table ≠ n ∧ s.target.table ≠ n

theorem JoinPath.Avoids.destination {path : JoinPath} (h : path.Avoids n) :
    path.destination ≠ n := by
  rcases List.mem_cons.mp (JoinGraph.destination_mem_tables path) with heq | hmem
  · rw [heq]
    exact h.source
  · obtain ⟨s, hs, heq⟩ := List.mem_map.mp hmem
    rw [← heq]
    exact (h.steps s hs).2

/-! ## References -/

namespace Reference

variable {a b : String} {r : ForeignRef}

/-- A reference to a table or by search that leaves its path to the catalog, but for
a registered constraint that it may have to cross. -/
structure Direct (c : Catalog) (r : ForeignRef) : Prop where
  target : ∀ id, r.target ≠ .mark id
  searchKey : r.searchKey = none
  via : ∀ id, r.via = some id → ∃ k, c.constraint? id = some k

section SameBut

variable (h : c.SameBut c' n)
include h

theorem pathAcross_eq {fanOut : Bool} {id : ConstraintId} (ha : a ≠ n) (hb : b ≠ n)
    (hid : ∃ k, c.constraint? id = some k) :
    pathAcross c' a b fanOut id = pathAcross c a b fanOut id := by
  unfold pathAcross
  rw [h.pathAcross ha hb hid, h.pathAcross hb ha hid]

theorem pathTo_eq (hr : Direct c r) (ha : a ≠ n) (hb : b ≠ n) :
    pathTo c' a b r = pathTo c a b r := by
  cases hvia : r.via with
  | some id =>
    rw [pathTo_of_via hr.searchKey hvia, pathTo_of_via hr.searchKey hvia,
      pathAcross_eq h ha hb (hr.via id hvia)]
  | none =>
    simp only [pathTo, hr.searchKey, hvia, h.shortestPaths ha hb, h.reversePath? ha hb]

theorem reachable_eq (hr : Direct c r) (ha : a ≠ n) {targets : List String} (ht : n ∉ targets) :
    reachable c' a r targets = reachable c a r targets := by
  induction targets with
  | nil => rfl
  | cons target rest ih =>
    have htarget : target ≠ n := by
      rintro rfl
      simp at ht
    have hrest : n ∉ rest := fun hin => ht (List.mem_cons_of_mem _ hin)
    simp only [reachable]
    rw [pathTo_eq h hr ha htarget, ih hrest]

theorem search_eq (hr : Direct c r) (ha : a ≠ n) : search c' a r = search c a r := by
  unfold search
  simp only [h.tablesWithAttribute, reachable_eq h hr ha (h.unsearched _ a)]

theorem resolve_eq {markTables markTables' : SortedMap MarkId String} (hr : Direct c r)
    (ha : a ≠ n) (hn : r.target ≠ .table n) :
    resolve c' a markTables' r = resolve c a markTables r := by
  unfold resolve
  cases htarget : r.target with
  | table name =>
    have hname : name ≠ n := by
      rintro rfl
      exact hn htarget
    exact pathTo_eq h hr ha hname
  | mark id => exact absurd htarget (hr.target id)
  | search => exact search_eq h hr ha

end SameBut

theorem ne_table_of_resolve {markTables : SortedMap MarkId String}
    {hit : JoinPath × List Warning} (hnew : c.containsTable n = false)
    (h : resolve c a markTables r = .ok hit) : r.target ≠ .table n := by
  intro htarget
  simp only [resolve, htarget] at h
  exact Catalog.ne_of_containsTable (pathTo_known h).1.2 hnew rfl

end Reference

namespace MarkQuery

/-! ## Plans -/

variable {a : String} {markTables markTables' : SortedMap MarkId String}

section SameBut

variable (h : c.SameBut c' n)
include h

theorem addChannel_eq {p : Plan} {name : String} {channel : Channel} (ha : a ≠ n)
    (hr : ∀ r, channel.foreign? = some r → Reference.Direct c r ∧ r.target ≠ .table n) :
    p.addChannel c' a markTables' name channel = p.addChannel c a markTables name channel := by
  unfold Plan.addChannel
  cases channel.column? with
  | some attr => rfl
  | none =>
    cases hforeign : channel.foreign? with
    | none => rfl
    | some r =>
      obtain ⟨hdirect, hn⟩ := hr r hforeign
      have hsame : Reference.resolve c' a markTables' r = Reference.resolve c a markTables r :=
        Reference.resolve_eq h hdirect ha hn
      simp only [hsame]

theorem addChannels_eq {p : Plan} {channels : List (String × Channel)} (ha : a ≠ n)
    (hr : ∀ channel ∈ channels, ∀ r, channel.2.foreign? = some r →
      Reference.Direct c r ∧ r.target ≠ .table n) :
    p.addChannels c' a markTables' channels = p.addChannels c a markTables channels := by
  induction channels generalizing p with
  | nil => rfl
  | cons channel rest ih =>
    have hfirst : p.addChannel c' a markTables' channel.1 channel.2 =
        p.addChannel c a markTables channel.1 channel.2 := addChannel_eq h ha (hr channel (by simp))
    simp only [Plan.addChannels, hfirst]
    split
    · rfl
    · exact ih fun channel hchannel => hr channel (by simp [hchannel])

/-! ## Sub-queries -/

theorem chainJoins_eq {place : Nat} {steps : List JoinStep}
    (hsteps : ∀ s ∈ steps, s.source.table ≠ n ∧ s.target.table ≠ n) :
    chainJoins c' place steps = chainJoins c place steps := by
  induction steps generalizing place with
  | nil => rfl
  | cons step rest ih =>
    obtain ⟨hsource, htarget⟩ := hsteps step (by simp)
    simp only [chainJoins]
    rw [h.table hsource, h.table htarget, ih fun s hs => hsteps s (by simp [hs])]

theorem parentSubquery_eq {path : JoinPath} (hpath : path.Avoids n) :
    parentSubquery c' path = parentSubquery c path := by
  unfold parentSubquery chainAlong
  rw [h.table hpath.source, h.table hpath.destination, chainJoins_eq h hpath.steps]

theorem pathSubquery_eq {j : PlannedJoin} (hpath : j.path.Avoids n) :
    pathSubquery c' j = pathSubquery c j := by
  unfold pathSubquery chainAlong
  rw [h.table hpath.source, h.table hpath.destination, chainJoins_eq h hpath.steps]

/-- Planned sub-queries go along paths of the first catalog. -/
theorem PlannedJoin.Sound.avoids {j : PlannedJoin} (hj : j.Sound c a) (ha : a ≠ n) :
    j.path.Avoids n := by
  rcases hj.path with hforth | hback
  · exact ⟨by rwa [hforth.source], fun s hs => h.apart s (hforth.mem s hs)⟩
  · exact ⟨by rwa [hback.source], fun s hs => (h.apart _ (hback.mem s hs)).symm⟩

/-! ## Whole queries -/

theorem compile_eq {r : Request} {parent : Option JoinPath} (ha : r.source ≠ n)
    (hr : ∀ channel ∈ r.channels, ∀ ref, channel.2.foreign? = some ref →
      Reference.Direct c ref ∧ ref.target ≠ .table n)
    (hparent : ∀ path ∈ parent, path.Avoids n) :
    compile c' r parent markTables' = compile c r parent markTables := by
  unfold compile
  rw [h.table ha]
  refine Except.bind_congr fun source _ => ?_
  rw [addChannels_eq h ha hr]
  refine Except.bind_congr fun plan hplan => ?_
  have hjoins : ∀ j ∈ plan.joins, j.path.Avoids n := by
    intro j hj
    exact (addChannels_sound hplan (by simp [Plan.start]) j hj).avoids h ha
  have hparents : parent.toList.mapM (parentSubquery c') = parent.toList.mapM (parentSubquery c) :=
    Except.mapM_congr fun path hpath => parentSubquery_eq h (hparent path (by simpa using hpath))
  have hpaths : plan.joins.mapM (pathSubquery c') = plan.joins.mapM (pathSubquery c) :=
    Except.mapM_congr fun j hj => pathSubquery_eq h (hjoins j hj)
  rw [hparents, hpaths]

end SameBut

/-! ## Tables that a query names -/

theorem column?_of_foreign? {channel : Channel} {r : ForeignRef}
    (h : channel.foreign? = some r) : channel.column? = none := by
  induction channel with
  | scaled source scale ih => exact ih h
  | foreign ref => rfl
  | _ => cases h

section New

variable (hnew : c.containsTable n = false)
include hnew

theorem ne_of_table {t : Table} (h : c.table a = .ok t) : a ≠ n :=
  Catalog.ne_of_containsTable (Catalog.containsTable_iff.mpr ⟨t, h⟩) hnew

theorem ne_table_of_addChannel {p p' : Plan} {name : String} {channel : Channel}
    (h : p.addChannel c a markTables name channel = .ok p') :
    ∀ r, channel.foreign? = some r → r.target ≠ .table n := by
  intro r hr
  simp only [Plan.addChannel, hr, column?_of_foreign? hr] at h
  split at h
  · cases h
  case h_2 hresolve => exact Reference.ne_table_of_resolve hnew hresolve

theorem ne_table_of_addChannels {p p' : Plan} {channels : List (String × Channel)}
    (h : p.addChannels c a markTables channels = .ok p') :
    ∀ channel ∈ channels, ∀ r, channel.2.foreign? = some r → r.target ≠ .table n := by
  induction channels generalizing p with
  | nil => simp
  | cons channel rest ih =>
    simp only [Plan.addChannels] at h
    split at h
    · cases h
    case h_2 p₁ hadd =>
      intro channel' hchannel'
      rcases List.mem_cons.mp hchannel' with rfl | hchannel'
      · exact ne_table_of_addChannel hnew hadd
      · exact ih h channel' hchannel'

theorem ne_of_chainJoins {place : Nat} {steps : List JoinStep} {joins : List Query.ChainJoin}
    (h : chainJoins c place steps = .ok joins) :
    ∀ s ∈ steps, s.source.table ≠ n ∧ s.target.table ≠ n := by
  induction steps generalizing place joins with
  | nil => simp
  | cons step rest ih =>
    simp only [chainJoins] at h
    split at h
    · cases h
    · cases h
    case h_3 source target hsource htarget =>
      obtain ⟨joins', hjoins', -⟩ := Except.map_eq_ok.mp h
      intro s hs
      rcases List.mem_cons.mp hs with rfl | hs
      · exact ⟨ne_of_table hnew hsource, ne_of_table hnew htarget⟩
      · exact ih hjoins' s hs

theorem avoids_of_chainAlong {path : JoinPath} {isOuter : Bool} {source : Table}
    {chain : Query.Chain} (hsource : c.table path.source = .ok source)
    (h : chainAlong c path isOuter = .ok chain) : path.Avoids n := by
  obtain ⟨joins, hjoins, -⟩ := Except.map_eq_ok.mp h
  exact ⟨ne_of_table hnew hsource, ne_of_chainJoins hnew hjoins⟩

/-- A query that can be compiled names no table that is not known. -/
theorem ne_of_compile {r : Request} {parent : Option JoinPath} {q : MarkQuery}
    (h : compile c r parent markTables = .ok q) :
    r.source ≠ n ∧
      (∀ channel ∈ r.channels, ∀ ref, channel.2.foreign? = some ref → ref.target ≠ .table n) ∧
      ∀ path ∈ parent, path.Avoids n := by
  obtain ⟨source, plan, parents, paths, hq⟩ := exists_compiled h
  refine ⟨ne_of_table hnew hq.known, ne_table_of_addChannels hnew hq.planned, ?_⟩
  intro path hpath
  obtain ⟨s, -, hs⟩ := Except.exists_of_mapM hq.outer (Option.mem_toList.mpr hpath)
  obtain ⟨source, outer, hs⟩ := exists_parentSubquery hs
  exact avoids_of_chainAlong hnew hs.leaves hs.chain

end New

end MarkQuery

/-! ## Stored tables -/

/-- A catalog with the table of a mark's drawn rows, new and tied to a known one, and otherwise
as it was. All searches between other tables find what they found, in the same order, and tables
with a column are the same. So a mark whose references are to tables or by search, without a
search key and across registered constraints at most, has the same query as before, or fails in
the same way; one that names the new table had no query. -/
structure Undisturbed (c c' : Catalog) (n source : String) : Prop where
  stores : c.Stores c' n source
  paths : ∀ u v, u ≠ n → v ≠ n →
    c'.shortestPaths u v = c.shortestPaths u v ∧ c'.shortestPath? u v = c.shortestPath? u v ∧
    c'.reversePath? u v = c.reversePath? u v ∧
    ∀ id, (∃ k, c.constraint? id = some k) → c'.pathAcross u v id = c.pathAcross u v id
  columns : ∀ attr u, c'.tablesWithAttribute attr u = c.tablesWithAttribute attr u
  queries : ∀ (m : Mark) (parent : Option JoinPath) (markTables : SortedMap MarkId String),
    (∀ channel ∈ m.channels, ∀ r, channel.2.foreign? = some r → Reference.Direct c r) →
    (∀ q, m.compile c parent markTables = .ok q → m.compile c' parent markTables = .ok q) ∧
    (m.source ≠ n →
      (∀ channel ∈ m.channels, ∀ r, channel.2.foreign? = some r → r.target ≠ .table n) →
      (∀ path ∈ parent, path.Avoids n) →
      m.compile c' parent markTables = m.compile c parent markTables)

theorem Catalog.Stores.undisturbed {source : String} (hstores : c.Stores c' n source)
    (hwell : c.WellFormed) : Undisturbed c c' n source := by
  have hsame := hstores.sameBut hwell
  refine ⟨hstores, ?_, hsame.tablesWithAttribute, ?_⟩
  · intro u v hu hv
    exact ⟨hsame.shortestPaths hu hv, hsame.shortestPath? hu hv, hsame.reversePath? hu hv,
      fun id hid => hsame.pathAcross hu hv hid⟩
  · intro m parent markTables hdirect
    have heq : m.source ≠ n →
        (∀ channel ∈ m.channels, ∀ r, channel.2.foreign? = some r → r.target ≠ .table n) →
        (∀ path ∈ parent, path.Avoids n) →
        m.compile c' parent markTables = m.compile c parent markTables :=
      fun hm htargets hparent => MarkQuery.compile_eq hsame hm
        (fun channel hchannel r hr =>
          ⟨hdirect channel hchannel r hr, htargets channel hchannel r hr⟩) hparent
    refine ⟨?_, heq⟩
    intro q hq
    obtain ⟨hm, htargets, hparent⟩ := MarkQuery.ne_of_compile hstores.new hq
    rw [heq hm htargets hparent, hq]

/-- Storing the rows of a mark in a new table of a catalog, tied to a known one, changes nothing
between other tables, nor the queries of marks that leave their paths to the catalog. That is
what a first storing of drawn rows does, whatever their columns are and whatever engine they are
stored in. -/
theorem stored_tables_disturb_nothing {calls : List Catalog.Call} {t : Table} {source : String}
    (hc : Catalog.reached calls = c)
    (hc' : Catalog.reached (calls ++ Catalog.storing t source) = c')
    (hderived : t.derived = true) (hnew : c.containsTable t.name = false)
    (hsource : c.containsTable source = true) :
    Undisturbed c c' t.name source ∧
      ∀ {σ ρ : Type} (b : Backend σ ρ) (s s' : Session σ ρ) (id : MarkId) (m : Mark),
        s.chart.catalog = c → s.chart.mark id = .ok m → m.table = t.name → m.source = source →
        (Session.runPersist b id).run.run s = (.ok (), s') →
        Undisturbed c s'.chart.catalog t.name source := by
  have hwell : c.WellFormed := hc ▸ Catalog.wellFormed_reached calls
  constructor
  · refine Catalog.Stores.undisturbed ?_ hwell
    rw [← hc', Catalog.reached_append, hc]
    exact hwell.stores hderived hnew hsource
  · rintro σ ρ b s s' id m rfl hm htable rfl hpersist
    rw [← htable] at hnew ⊢
    exact (Session.runPersist_stores hm hwell hnew hsource hpersist).undisturbed hwell

/-- Sales labelled with the district, by the deal of the maker. -/
def labelledSales : Mark :=
  .ofSpec ⟨1⟩ { source := "sales", shape := .text } [("text", .foreign districtByDeal)] "mark_1"

/-- Reps that have been drawn. -/
def drawnReps : Table := Table.ofSchema "mark_0" ⟨[⟨"x", .numeric⟩], by decide⟩ true

/-- A label keeps its query when drawn reps are stored. -/
theorem stored_tables_disturb_nothing_reps :
    ∃ q, q.paths = [salePath] ∧
      labelledSales.compile (Catalog.reached (salesCalls ++ Catalog.storing drawnReps "reps"))
        none .empty = .ok q := by
  have hok : (labelledSales.compile (Catalog.reached salesCalls) none .empty).map MarkQuery.paths =
      .ok [salePath] := by decide +kernel
  obtain ⟨q, hq, hpaths⟩ := Except.map_eq_ok.mp hok
  have hnew : (Catalog.reached salesCalls).containsTable drawnReps.name = false := by
    decide +kernel
  have hsource : (Catalog.reached salesCalls).containsTable "reps" = true := by decide +kernel
  obtain ⟨hsame, -⟩ := stored_tables_disturb_nothing rfl rfl rfl hnew hsource
  refine ⟨q, hpaths, (hsame.queries labelledSales none .empty ?_).1 q hq⟩
  intro channel hchannel r hr
  obtain rfl := List.mem_singleton.mp hchannel
  obtain rfl := Option.some.inj hr
  refine ⟨by simp [districtByDeal], rfl, ?_⟩
  intro id hid
  obtain rfl := Option.some.inj hid
  exact Option.isSome_iff_exists.mp (by decide +kernel)

end KeyChart
