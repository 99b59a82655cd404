import KeyChart.Proofs.Catalog.Growth
import KeyChart.Proofs.JoinGraph.Complete
import KeyChart.Proofs.Mark.References

/-!
# References in growing catalogs

A reference without a hint is resolved to a shortest path, and there still is one
when tables, keys and foreign keys are added. A path across a required constraint
is only searched for behind the first shortest way to it, and through tables off
that way. An addition may give another first way, behind which the search finds
nothing. So such a reference stays resolvable as long as the way that it took is
still the first.
-/

namespace KeyChart

/-! ## Paths that stay found -/

namespace JoinGraph

variable {g g' : JoinGraph} {a b : String}

/-- Where a path crosses a constraint behind the first shortest way to it, that way
is the first in the other graph, too. -/
def KeepsWay (g g' : JoinGraph) (id : ConstraintId) (path : JoinPath) : Prop :=
  ∀ before s after, path.steps = before ++ s :: after → s.constraint = id →
    g.shortestPath? path.source s.source.table = some ⟨path.source, before⟩ →
    g'.shortestPath? path.source s.source.table = some ⟨path.source, before⟩

/-- Behind the same way the search is still successful. -/
theorem pathAcross?_mono (hsteps : ∀ s ∈ g.steps, s ∈ g'.steps) {id : ConstraintId}
    {path : JoinPath} (h : g.pathAcross? a b id = .ok path) (hkeeps : g.KeepsWay g' id path) :
    ∃ path', g'.pathAcross? a b id = .ok path' := by
  obtain ⟨before, s, after, rfl, hs, hway, hafter⟩ := approach_of_pathAcross? h
  obtain ⟨hmem, hid⟩ := mem_crossing.mp hs
  have hway' := hkeeps before s after rfl hid hway
  refine pathAcross?_isOk_iff.mpr ⟨JoinPath.extend ⟨a, before⟩ s, ?_, ?_⟩
  · exact mem_approaches.mpr ⟨_, s, mem_crossing.mpr ⟨hsteps s hmem, hid⟩, hway', rfl⟩
  · refine descend?_isSome_mono hsteps ?_
    rw [extend_destination, hafter]
    rfl

end JoinGraph

theorem Catalog.Grown.mayCross {c c' : Catalog} (h : c.Grown c') {a b : String}
    {id : ConstraintId} (hmay : c.MayCross a b id) : c'.MayCross a b id := by
  obtain ⟨⟨ha, hb⟩, fk, hfk⟩ := hmay
  exact ⟨⟨h.containsTable ha, h.containsTable hb⟩, fk, h.foreignKeys hfk⟩

namespace Reference

variable {c c' : Catalog} {a b : String} {r : ForeignRef} {id : ConstraintId} {fanOut : Bool}
  {path : JoinPath}

/-! ## Ways to keep -/

/-- The foreign keys of which a reference asks its path to cross one. -/
def Crosses (c : Catalog) (source : String) (r : ForeignRef) (id : ConstraintId) : Prop :=
  match r.searchKey with
  | some key => ∃ fk, (id, fk) ∈ c.foreignKeys ∧ fk.matchesSide source key = true
  | none => r.via = some id

/-- In the other catalog, too, the way to every foreign key that the path of a
reference was asked to cross is the first. -/
def KeepsWays (c c' : Catalog) (source : String) (r : ForeignRef) (path : JoinPath) : Prop :=
  ∀ id, Crosses c source r id → c.joinGraph.KeepsWay c'.joinGraph id path ∧
    (r.aggregate.isSome = true → c.joinGraph.KeepsWay c'.joinGraph id path.reverse)

/-! ## References in a grown catalog -/

section Grown

variable (h : c.Grown c')
include h

theorem pathAcross_grown (hok : pathAcross c a b fanOut id = .ok path)
    (hforth : c.joinGraph.KeepsWay c'.joinGraph id path)
    (hback : fanOut = true → c.joinGraph.KeepsWay c'.joinGraph id path.reverse) :
    ∃ path', pathAcross c' a b fanOut id = .ok path' := by
  obtain ⟨hmay, hfound⟩ := pathAcross_eq_ok hok
  rw [pathAcross_of_mayCross (h.mayCross hmay)]
  rcases hfound with hfound | ⟨hfan, hfound⟩
  · obtain ⟨path', hpath'⟩ := JoinGraph.pathAcross?_mono (fun s => h.steps) hfound hforth
    exact ⟨path', by rw [hpath']⟩
  · -- Forwards there may be a path by now; backwards there is one.
    obtain ⟨path', hpath'⟩ := JoinGraph.pathAcross?_mono (fun s => h.steps) hfound (hback hfan)
    split
    · exact ⟨_, rfl⟩
    · rw [if_pos hfan, hpath']
      exact ⟨_, rfl⟩

theorem pathTo_grown {found : List Warning} (hok : pathTo c a b r = .ok (path, found))
    (hways : KeepsWays c c' a r path) : ∃ hit, pathTo c' a b r = .ok hit := by
  obtain ⟨⟨ha, hb⟩, -⟩ := pathTo_known hok
  cases hkey : r.searchKey with
  | some key =>
    rw [pathTo_of_searchKey hkey] at hok ⊢
    obtain ⟨path', hfirst, heq⟩ := Except.map_eq_ok.mp hok
    cases heq
    obtain ⟨id, hid, hpath⟩ := exists_of_firstAcross hfirst
    obtain ⟨fk, hfk, hmatches⟩ := mem_candidates.mp hid
    have hcrosses : Crosses c a r id := by
      rw [Crosses, hkey]
      exact ⟨fk, hfk, hmatches⟩
    obtain ⟨hforth, hback⟩ := hways id hcrosses
    obtain ⟨path', hpath'⟩ := pathAcross_grown h hpath hforth hback
    obtain ⟨path'', hpath''⟩ :=
      firstAcross_isOk (mem_candidates.mpr ⟨fk, h.foreignKeys hfk, hmatches⟩) hpath'
    exact ⟨_, by rw [hpath'']; rfl⟩
  | none =>
    cases hvia : r.via with
    | some id =>
      rw [pathTo_of_via hkey hvia] at hok ⊢
      obtain ⟨path', hpath, heq⟩ := Except.map_eq_ok.mp hok
      cases heq
      have hcrosses : Crosses c a r id := by
        rw [Crosses, hkey]
        exact hvia
      obtain ⟨hforth, hback⟩ := hways id hcrosses
      obtain ⟨path', hpath'⟩ := pathAcross_grown h hpath hforth hback
      exact ⟨_, by rw [hpath']; rfl⟩
    | none =>
      rw [pathTo_isOk_iff hkey hvia
        (Catalog.checkTables_eq_ok_iff.mpr ⟨h.containsTable ha, h.containsTable hb⟩)]
      have hroute := (pathTo_isOk_iff hkey hvia (Catalog.checkTables_eq_ok_iff.mpr ⟨ha, hb⟩)).mp
        ⟨_, hok⟩
      exact hroute.imp (JoinGraph.shortestPaths_ne_nil_mono fun s => h.steps)
        (And.imp_right (JoinGraph.shortestPaths_ne_nil_mono fun s => h.steps))

theorem search_grown (hc' : c'.WellFormed) {found : List Warning}
    (hok : search c a r = .ok (path, found)) (hways : KeepsWays c c' a r path) :
    ∃ hit, search c' a r = .ok hit := by
  obtain ⟨t, ht, found', hpath⟩ := exists_of_search hok
  obtain ⟨⟨ha, -⟩, hvia⟩ := pathTo_known hpath
  obtain ⟨hit, hhit⟩ := pathTo_grown h hpath hways
  refine search_isOk (h.tablesWithAttribute ht) hhit ?_
  intro t' ht' e he
  refine pathTo_misses (h.containsTable ha) ?_ ?_ he
  · obtain ⟨key, table, htable, -, -, -, rfl⟩ := Catalog.mem_tablesWithAttribute.mp ht'
    rw [hc'.named key table htable]
    exact Catalog.containsTable_iff.mpr ⟨table, htable⟩
  · intro hkey id hid
    obtain ⟨fk, hfk⟩ := hvia hkey id hid
    exact ⟨fk, h.foreignKeys hfk⟩

end Grown

end Reference

/-- Calls that only add to a catalog keep a reference to a table or by search
resolvable. If it asks for a path across a foreign key, the way of its path to that
key has to stay the first shortest one. -/
theorem additions_keep_references {calls more : List Catalog.Call}
    (hmore : ∀ name, Catalog.Call.dropTable name ∉ more) {source : String} {r : ForeignRef}
    (hr : ∀ id, r.target ≠ .mark id) {markTables markTables' : SortedMap MarkId String}
    {path : JoinPath} {found : List Warning}
    (h : Reference.resolve (Catalog.reached calls) source markTables r = .ok (path, found))
    (hways : Reference.KeepsWays (Catalog.reached calls) (Catalog.reached (calls ++ more)) source r
      path) :
    ∃ hit, Reference.resolve (Catalog.reached (calls ++ more)) source markTables' r = .ok hit := by
  have hgrown : (Catalog.reached calls).Grown (Catalog.reached (calls ++ more)) :=
    Catalog.grown_reached hmore
  unfold Reference.resolve at h ⊢
  cases htarget : r.target with
  | table name =>
    simp only [htarget] at h ⊢
    exact Reference.pathTo_grown hgrown h hways
  | mark id => exact absurd htarget (hr id)
  | search =>
    simp only [htarget] at h ⊢
    exact Reference.search_grown hgrown (Catalog.wellFormed_reached _) h hways

/-- Sales with the rep and the product sold. Makers of products are bound by a deal
with a rep, and reps have a district. -/
def salesCalls : List Catalog.Call :=
  [.addTable (Table.ofSchema "districts" ⟨[⟨"name", .string⟩], by decide⟩),
   .addTable (Table.ofSchema "reps" ⟨[⟨"district", .numeric⟩, ⟨"maker", .numeric⟩], by decide⟩),
   .addTable (Table.ofSchema "deals" ⟨[⟨"rep", .numeric⟩], by decide⟩),
   .addTable (Table.ofSchema "makers" ⟨[⟨"deal", .numeric⟩], by decide⟩),
   .addTable (Table.ofSchema "products" ⟨[⟨"maker", .numeric⟩], by decide⟩),
   .addTable (Table.ofSchema "sales" ⟨[⟨"rep", .numeric⟩, ⟨"product", .numeric⟩], by decide⟩),
   .addForeignKey "reps" ["district"] "districts" ["id"] none,
   .addForeignKey "deals" ["rep"] "reps" ["id"] none,
   .addForeignKey "makers" ["deal"] "deals" ["id"] none,
   .addForeignKey "products" ["maker"] "makers" ["id"] none,
   .addForeignKey "sales" ["rep"] "reps" ["id"] none,
   .addForeignKey "sales" ["product"] "products" ["id"] none]

/-- The district for a sale, by the deal of the maker. -/
def districtByDeal : ForeignRef where
  column := some "name"
  aggregate := none
  target := .table "districts"
  searchKey := none
  via := some ⟨2⟩
  transform := none

/-- The joins from a sale by its product to the deal, and on to the district. -/
def salePath : JoinPath where
  source := "sales"
  steps :=
    [⟨⟨5⟩, ⟨"sales", ["product"]⟩, ⟨"products", ["id"]⟩⟩,
     ⟨⟨3⟩, ⟨"products", ["maker"]⟩, ⟨"makers", ["id"]⟩⟩,
     ⟨⟨2⟩, ⟨"makers", ["deal"]⟩, ⟨"deals", ["id"]⟩⟩,
     ⟨⟨1⟩, ⟨"deals", ["rep"]⟩, ⟨"reps", ["id"]⟩⟩,
     ⟨⟨0⟩, ⟨"reps", ["district"]⟩, ⟨"districts", ["id"]⟩⟩]

/-- Regions of districts do not come before the deal. -/
theorem additions_keep_references_regions :
    ∃ hit, Reference.resolve
      (Catalog.reached (salesCalls ++
        [.addTable (Table.ofSchema "regions" ⟨[], by decide⟩),
         .addForeignKey "districts" ["name"] "regions" ["id"] none]))
      "sales" .empty districtByDeal = .ok hit := by
  have hfound : Reference.resolve (Catalog.reached salesCalls) "sales" .empty districtByDeal =
      .ok (salePath, []) := by decide +kernel
  refine additions_keep_references (by simp) (by simp [districtByDeal]) hfound ?_
  intro id _
  refine ⟨?_, fun hfan => by cases hfan⟩
  have hsame : ∀ s ∈ salePath.steps,
      (Catalog.reached (salesCalls ++
        [.addTable (Table.ofSchema "regions" ⟨[], by decide⟩),
         .addForeignKey "districts" ["name"] "regions" ["id"] none])).joinGraph.shortestPath?
          "sales" s.source.table =
        (Catalog.reached salesCalls).joinGraph.shortestPath? "sales" s.source.table := by
    decide +kernel
  intro before s after hsteps _ hway
  exact (hsame s (by rw [hsteps]; simp)).trans hway

/-- If reps have a maker, the first shortest way to the makers is by the rep of the
sale, and the search does not come back to reps. -/
theorem reference_lost_to_addition :
    ¬ ∀ hit, Reference.resolve (Catalog.reached salesCalls) "sales" .empty districtByDeal = .ok hit →
      ∃ hit', Reference.resolve
        (Catalog.reached (salesCalls ++ [.addForeignKey "reps" ["maker"] "makers" ["id"] none]))
        "sales" .empty districtByDeal = .ok hit' := by
  intro h
  have hfound : Reference.resolve (Catalog.reached salesCalls) "sales" .empty districtByDeal =
      .ok (salePath, []) := by decide +kernel
  have hlost : Reference.resolve
      (Catalog.reached (salesCalls ++ [.addForeignKey "reps" ["maker"] "makers" ["id"] none]))
      "sales" .empty districtByDeal = .error (.noPath "sales" "districts") := by decide +kernel
  obtain ⟨hit', hhit'⟩ := h _ hfound
  cases hlost.symm.trans hhit'

end KeyChart
