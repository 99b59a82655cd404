import KeyChart.Proofs.Catalog.Growth
import KeyChart.Proofs.Mark.References
import KeyChart.Proofs.Mark.SearchKeys

/-!
# The nearest table with an attribute

A search tries the tables that declare its attribute by their names, and orders the ones
it reaches by the lengths of their paths. Sorting is stable, so equally near ones stay in
the order of their names: the first one is taken, and a warning lists all of them in this
order.

Whether a search without a hint may be made at all is told by its first table. From a
source that is not known, it fails as soon as there is a table to try.
-/

namespace KeyChart

/-- A stable sort of a list that is ordered already keeps this order where the sort does
not decide. -/
theorem pairwise_mergeSort_stable {α : Type} (le : α → α → Bool) {R : α → α → Prop}
    (trans : ∀ x y z, le x y = true → le y z = true → le x z = true)
    (total : ∀ x y, (le x y || le y x) = true) {l : List α} (hl : l.Pairwise R) :
    (l.mergeSort le).Pairwise fun x y => le x y = true ∧ (le y x = true → R x y) := by
  induction l with
  | nil => simp
  | cons x rest ih =>
    obtain ⟨hx, hrest⟩ := List.pairwise_cons.mp hl
    obtain ⟨before, after, hsort, hsort', hbefore⟩ := List.mergeSort_cons trans total x rest
    have hsorted := List.pairwise_mergeSort trans total (x :: rest)
    rw [hsort, List.pairwise_append] at hsorted
    have hle := (List.pairwise_cons.mp hsorted.2.1).1
    have hpairs := ih hrest
    rw [hsort', List.pairwise_append] at hpairs
    obtain ⟨hpairs, hpairs', hacross⟩ := hpairs
    rw [hsort, List.pairwise_append]
    refine ⟨hpairs, List.pairwise_cons.mpr ⟨?_, hpairs'⟩, ?_⟩
    · intro y hy
      have hmem : y ∈ rest := by
        apply List.mem_mergeSort.mp
        rw [hsort']
        exact List.mem_append_right _ hy
      exact ⟨hle y hy, fun _ => hx y hmem⟩
    · intro y hy z hz
      rcases List.mem_cons.mp hz with rfl | hz
      · -- What was put before `x` is less than `x`, so the sort decides.
        have hlt : le z y = false := by simpa using hbefore y hy
        have hle := total z y
        rw [hlt, Bool.false_or] at hle
        exact ⟨hle, fun h => by rw [hlt] at h; cases h⟩
      · exact hacross y hy z hz

namespace Catalog

variable {c : Catalog} {a attr : String}

/-- Whether a search from a table tries a table: another one that declares the attribute and
does not hold the rows of a drawn mark. -/
def Supplies (c : Catalog) (a attr t : String) : Prop :=
  ∃ table, c.table t = .ok table ∧ table.derived = false ∧ t ≠ a ∧
    table.schema.declares attr = true

theorem WellFormed.mem_tablesWithAttribute (hc : c.WellFormed) {t : String} :
    t ∈ c.tablesWithAttribute attr a ↔ c.Supplies a attr t := by
  rw [Catalog.mem_tablesWithAttribute]
  constructor
  · rintro ⟨key, table, htable, hdrawn, hsource, hattr, rfl⟩
    obtain rfl := hc.named key table htable
    exact ⟨table, htable, hdrawn, hsource, hattr⟩
  · rintro ⟨table, htable, hdrawn, hsource, hattr⟩
    have hname := hc.named t table htable
    exact ⟨t, table, htable, hdrawn, hname ▸ hsource, hattr, hname⟩

/-- The tables are tried in the order of their names. -/
theorem WellFormed.tablesWithAttribute_sorted (hc : c.WellFormed) :
    (c.tablesWithAttribute attr a).Pairwise (· < ·) := by
  unfold tablesWithAttribute SortedMap.values
  rw [List.pairwise_map]
  apply List.Pairwise.filter
  rw [List.pairwise_map]
  refine c.tables.sorted.imp_of_mem ?_
  intro e e' he he' hlt
  -- The tables come in the order of their keys, and these are their names.
  have hname : ∀ e ∈ c.tables.entries, e.2.name = e.1 := fun e he =>
    hc.named e.1 e.2 (table_eq_ok.mpr (SortedMap.find?_eq_some_iff_mem.mpr he))
  rw [hname e he, hname e' he']
  exact compareOfLessAndEq_eq_lt.mp hlt

end Catalog

/-- A table that a search reaches, and how. -/
structure Supplier where
  table : String
  path : JoinPath
  warnings : List Warning
  deriving DecidableEq

/-- A table is nearer than another one by its path, or else by its name. -/
def Supplier.Nearer (s s' : Supplier) : Prop :=
  s.path.steps.length < s'.path.steps.length ∨
    (s.path.steps.length = s'.path.steps.length ∧ s.table < s'.table)

namespace Reference

variable {c : Catalog} {a t : String} {r : ForeignRef} {targets : List String} {s : Supplier}
  {e : Error}

/-- A table that a search tries, with the path to it. -/
def Reached (c : Catalog) (a : String) (r : ForeignRef) (s : Supplier) : Prop :=
  c.Supplies a (searchedAttr r) s.table ∧ pathTo c a s.table r = .ok (s.path, s.warnings)

/-- Whether a search without a hint has a table to try, but no known source to start from. -/
def FromUnknown (c : Catalog) (a : String) (r : ForeignRef) : Prop :=
  c.containsTable a = false ∧ r.searchKey = none ∧ ∃ t, c.Supplies a (searchedAttr r) t

/-- Those of some tables that are reached. -/
def suppliers (c : Catalog) (a : String) (r : ForeignRef) (targets : List String) :
    List Supplier :=
  targets.filterMap fun t => (pathTo c a t r).toOption.map fun hit => ⟨t, hit.1, hit.2⟩

theorem suppliers_eq_some :
    ((pathTo c a t r).toOption.map fun hit => (⟨t, hit.1, hit.2⟩ : Supplier)) = some s ↔
      s.table = t ∧ pathTo c a t r = .ok (s.path, s.warnings) := by
  rw [Option.map_eq_some_iff]
  simp only [Except.toOption_eq_some]
  constructor
  · rintro ⟨hit, hhit, rfl⟩
    exact ⟨rfl, hhit⟩
  · rintro ⟨rfl, hhit⟩
    exact ⟨_, hhit, rfl⟩

theorem mem_suppliers :
    s ∈ suppliers c a r targets ↔
      s.table ∈ targets ∧ pathTo c a s.table r = .ok (s.path, s.warnings) := by
  simp only [suppliers, List.mem_filterMap, suppliers_eq_some]
  constructor
  · rintro ⟨t, ht, rfl, hpath⟩
    exact ⟨ht, hpath⟩
  · rintro ⟨ht, hpath⟩
    exact ⟨s.table, ht, rfl, hpath⟩

theorem mem_suppliers_iff (hc : c.WellFormed) :
    s ∈ suppliers c a r (c.tablesWithAttribute (searchedAttr r) a) ↔ Reached c a r s := by
  rw [mem_suppliers, hc.mem_tablesWithAttribute, Reached]

/-- The search collects the paths to the suppliers. -/
theorem reachable_eq_suppliers {hits : List (JoinPath × List Warning)}
    (h : reachable c a r targets = .ok hits) :
    hits = (suppliers c a r targets).map fun s => (s.path, s.warnings) := by
  rw [reachable_eq_ok h, suppliers, List.map_filterMap]
  refine List.filterMap_congr ?_
  intro t _
  rw [Option.map_map]
  exact Option.map_id'.symm

theorem suppliers_sorted (h : targets.Pairwise (· < ·)) :
    (suppliers c a r targets).Pairwise fun s s' => s.table < s'.table := by
  refine List.pairwise_filterMap.mpr (h.imp ?_)
  intro t t' hlt s hs s' hs'
  rw [(suppliers_eq_some.mp hs).1, (suppliers_eq_some.mp hs').1]
  exact hlt

/-- The suppliers in the order in which the search ranks them. -/
def ranked (c : Catalog) (a : String) (r : ForeignRef) : List Supplier :=
  (suppliers c a r (c.tablesWithAttribute (searchedAttr r) a)).mergeSort fun s s' =>
    s.path.steps.length ≤ s'.path.steps.length

theorem mem_ranked (hc : c.WellFormed) : s ∈ ranked c a r ↔ Reached c a r s := by
  rw [ranked, List.mem_mergeSort, mem_suppliers_iff hc]

theorem ranked_sorted (hc : c.WellFormed) : (ranked c a r).Pairwise Supplier.Nearer := by
  have hnames : (suppliers c a r (c.tablesWithAttribute (searchedAttr r) a)).Pairwise
      fun s s' => s.table < s'.table := suppliers_sorted hc.tablesWithAttribute_sorted
  have hstable := pairwise_mergeSort_stable
    (fun s s' => decide (s.path.steps.length ≤ s'.path.steps.length))
    (fun s s' s'' => by simpa using Nat.le_trans)
    (fun s s' => by simpa using Nat.le_total _ _) hnames
  refine hstable.imp ?_
  intro s s' ⟨hle, htie⟩
  simp only [decide_eq_true_eq] at hle htie
  rcases Nat.lt_or_eq_of_le hle with hlt | heq
  · exact .inl hlt
  · exact .inr ⟨heq, htie (by omega)⟩

/-- A search that collects the paths returns the first one it ranks, and warns if there are
others. -/
theorem search_of_reachable {hits : List (JoinPath × List Warning)}
    (h : reachable c a r (c.tablesWithAttribute (searchedAttr r) a) = .ok hits) :
    search c a r =
      match ranked c a r with
      | [] => .error (.noPath a (searchedAttr r))
      | s :: others =>
        .ok (s.path, s.warnings ++ if others = [] then []
          else [⟨searchedAttr r, (s :: others).map Supplier.table, s.table⟩]) := by
  have hsort : (hits.mergeSort fun x y => x.1.steps.length ≤ y.1.steps.length) =
      (ranked c a r).map fun s => (s.path, s.warnings) := by
    rw [reachable_eq_suppliers h, ranked, List.map_mergeSort]
    exact fun _ _ _ _ => rfl
  have hends : ∀ s ∈ ranked c a r, s.path.destination = s.table := by
    intro s hs
    obtain ⟨-, hpath⟩ := mem_suppliers.mp (List.mem_mergeSort.mp hs)
    exact (pathTo_resolved hpath).2
  unfold search
  simp only [h, hsort]
  cases hranked : ranked c a r with
  | nil => rfl
  | cons s others =>
    rw [hranked] at hends
    have hnames : others.map (fun s => s.path.destination) = others.map Supplier.table :=
      List.map_congr_left fun s' hs' => hends s' (List.mem_cons_of_mem _ hs')
    have hempty : (others.map fun s => (s.path, s.warnings)).isEmpty = true ↔ others = [] := by
      simp
    simp only [List.map_cons, List.map_map, Function.comp_def, hends s (by simp), hnames, hempty]

/-- Without a hint, the search for a path tells that the source is not known. -/
theorem pathTo_of_unknown (ha : c.containsTable a = false) (hkey : r.searchKey = none)
    (hvia : r.via = none) : pathTo c a t r = .error (.unknownTable a) := by
  apply pathTo_error_of_unknown hkey hvia
  cases htable : c.table a with
  | ok table =>
    rw [Catalog.containsTable_iff.mpr ⟨table, htable⟩] at ha
    cases ha
  | error e =>
    simp only [Catalog.checkTables, htable]
    exact congrArg Except.error (Catalog.table_eq_error htable)

/-- A search key matches nothing on a source that is not known. -/
theorem pathTo_eq_error (hc : c.WellFormed) (hvia : r.via = none)
    (ht : c.containsTable t = true) (h : pathTo c a t r = .error e) :
    Misses e ∨ (c.containsTable a = false ∧ r.searchKey = none ∧ e = .unknownTable a) := by
  by_cases ha : c.containsTable a = true
  · refine .inl (pathTo_misses ha ht ?_ h)
    intro _ id hid
    rw [hvia] at hid
    cases hid
  · cases hkey : r.searchKey with
    | none =>
      have ha : c.containsTable a = false := by simpa using ha
      rw [pathTo_of_unknown ha hkey hvia] at h
      exact .inr ⟨ha, rfl, (Except.error.inj h).symm⟩
    | some key =>
      have hnone : (c.foreignKeys.filter fun k => k.2.matchesSide a key) = [] := by
        rw [List.filter_eq_nil_iff]
        intro k hk hmatch
        -- A foreign key is between known tables, so none touches the source.
        apply ha
        apply hc.known k.1 (.foreignKey k.2) (Catalog.mem_foreignKeys.mp hk)
        have htouches : k.2.first.table = a ∨ k.2.second.table = a := by
          simpa [ForeignKey.involves] using Catalog.involves_of_matchesSide hmatch
        rcases htouches with rfl | rfl <;> simp [Constraint.tables]
      rw [pathTo_of_searchKey hkey, hnone] at h
      exact .inl (.inr ⟨a, t, key, (Except.error.inj h).symm⟩)

theorem Reached.known (h : Reached c a r s) : c.containsTable a = true :=
  (pathTo_known h.2).1.1

theorem search_eq_ok {path : JoinPath} {found : List Warning}
    (h : search c a r = .ok (path, found)) :
    ∃ s others, ranked c a r = s :: others ∧ path = s.path ∧
      found = s.warnings ++ if others = [] then []
        else [⟨searchedAttr r, (s :: others).map Supplier.table, s.table⟩] := by
  cases hreach : reachable c a r (c.tablesWithAttribute (searchedAttr r) a) with
  | error e => simp [search, hreach] at h
  | ok hits =>
    rw [search_of_reachable hreach] at h
    cases hranked : ranked c a r with
    | nil => simp [hranked] at h
    | cons s others =>
      rw [hranked] at h
      cases h
      exact ⟨s, others, rfl, rfl, rfl⟩

theorem search_eq_error (hc : c.WellFormed) (hvia : r.via = none) (h : search c a r = .error e) :
    (∀ s, ¬Reached c a r s) ∧
      ((FromUnknown c a r ∧ e = .unknownTable a) ∨
        (¬FromUnknown c a r ∧ e = .noPath a (searchedAttr r))) := by
  cases hreach : reachable c a r (c.tablesWithAttribute (searchedAttr r) a) with
  | error e' =>
    obtain rfl : e' = e := by simpa [search, hreach] using h
    obtain ⟨⟨t, ht, hpath⟩, hmiss⟩ := reachable_eq_error hreach
    obtain ⟨table, htable, -⟩ := hc.mem_tablesWithAttribute.mp ht
    have hknown := Catalog.containsTable_iff.mpr ⟨table, htable⟩
    obtain ⟨hunknown, hkey, hsame⟩ := (pathTo_eq_error hc hvia hknown hpath).resolve_left hmiss
    refine ⟨?_, .inl ⟨⟨hunknown, hkey, t, hc.mem_tablesWithAttribute.mp ht⟩, hsame⟩⟩
    intro s hs
    rw [hs.known] at hunknown
    cases hunknown
  | ok hits =>
    rw [search_of_reachable hreach] at h
    cases hranked : ranked c a r with
    | cons s others => simp [hranked] at h
    | nil =>
      rw [hranked] at h
      cases h
      refine ⟨?_, .inr ⟨?_, rfl⟩⟩
      · intro s hs
        have hmem := (mem_ranked hc).mpr hs
        rw [hranked] at hmem
        cases hmem
      · -- The first table that is tried would have told.
        rintro ⟨hunknown, hkey, t, ht⟩
        obtain ⟨t', rest, htargets⟩ :=
          List.exists_cons_of_ne_nil (List.ne_nil_of_mem (hc.mem_tablesWithAttribute.mpr ht))
        simp [htargets, reachable, pathTo_of_unknown hunknown hkey hvia] at hreach

/-- A search without a required constraint succeeds if it reaches one of the tables it
tries. It takes the nearest one, and of equally near ones the first by name, and warns if
there are others, nearest first. Otherwise there is no path to the attribute, unless it is
searched for from a source that is not known. -/
theorem search_takes_nearest (calls : List Catalog.Call) (a : String)
    (markTables : SortedMap MarkId String) (r : ForeignRef) (htarget : r.target = .search)
    (hvia : r.via = none) :
    ((∃ hit, resolve (Catalog.reached calls) a markTables r = .ok hit) ↔
        ∃ s, Reached (Catalog.reached calls) a r s) ∧
      (∀ path found, resolve (Catalog.reached calls) a markTables r = .ok (path, found) →
        ∃ s others, (∀ s', s' ∈ s :: others ↔ Reached (Catalog.reached calls) a r s') ∧
          (s :: others).Pairwise Supplier.Nearer ∧ path = s.path ∧
          found = s.warnings ++ if others = [] then []
            else [⟨searchedAttr r, (s :: others).map Supplier.table, s.table⟩]) ∧
      ∀ e, resolve (Catalog.reached calls) a markTables r = .error e →
        (FromUnknown (Catalog.reached calls) a r ∧ e = .unknownTable a) ∨
          (¬FromUnknown (Catalog.reached calls) a r ∧ e = .noPath a (searchedAttr r)) := by
  have hc := Catalog.wellFormed_reached calls
  have hsearch : resolve (Catalog.reached calls) a markTables r =
      search (Catalog.reached calls) a r := by simp only [resolve, htarget]
  rw [hsearch]
  refine ⟨⟨?_, ?_⟩, ?_, ?_⟩
  · rintro ⟨⟨path, found⟩, hhit⟩
    obtain ⟨s, others, hranked, -⟩ := search_eq_ok hhit
    exact ⟨s, (mem_ranked hc).mp (by rw [hranked]; simp)⟩
  · rintro ⟨s, hs⟩
    cases hresult : search (Catalog.reached calls) a r with
    | ok hit => exact ⟨hit, rfl⟩
    | error e => exact absurd hs ((search_eq_error hc hvia hresult).1 s)
  · intro path found hhit
    obtain ⟨s, others, hranked, hpath, hfound⟩ := search_eq_ok hhit
    refine ⟨s, others, ?_, ?_, hpath, hfound⟩
    · intro s'
      rw [← hranked]
      exact mem_ranked hc
    · rw [← hranked]
      exact ranked_sorted hc
  · intro e he
    exact (search_eq_error hc hvia he).2

/-- The district of a sale, wherever it is found. -/
def districtAnywhere : ForeignRef where
  column := some "district"
  aggregate := none
  target := .search
  searchKey := none
  via := none
  transform := none

/-- A sale's own rep declares a district, and so does its shop. -/
def repsOfSales : Supplier where
  table := "reps"
  path := ⟨"sales", [⟨⟨4⟩, ⟨"sales", ["rep"]⟩, ⟨"reps", ["id"]⟩⟩]⟩
  warnings := []

/-- The shop of a sale. -/
def shopsOfSales : Supplier where
  table := "shops"
  path := ⟨"sales", [⟨⟨5⟩, ⟨"sales", ["shop"]⟩, ⟨"shops", ["id"]⟩⟩]⟩
  warnings := []

/-- Reps and shops are equally near, so reps are taken, with a warning. -/
theorem search_takes_nearest_trade :
    (districtAnywhere.target = .search ∧ districtAnywhere.via = none) ∧
      ∃ found, resolve (Catalog.reached Catalog.tradeCalls) "sales" .empty districtAnywhere =
          .ok (repsOfSales.path, found) ∧
        ∃ w ∈ found, w.attr = "district" ∧ w.chosen = "reps" := by
  have hall : suppliers (Catalog.reached Catalog.tradeCalls) "sales" districtAnywhere
      ((Catalog.reached Catalog.tradeCalls).tablesWithAttribute "district" "sales") =
        [repsOfSales, shopsOfSales] := by decide +kernel
  have hreached : ∀ s, Reached (Catalog.reached Catalog.tradeCalls) "sales" districtAnywhere s ↔
      s = repsOfSales ∨ s = shopsOfSales := by
    intro s
    rw [← mem_suppliers_iff (Catalog.wellFormed_reached _)]
    show s ∈ suppliers _ _ _ (Catalog.tablesWithAttribute _ "district" "sales") ↔ _
    rw [hall]
    simp
  obtain ⟨hfound, hnearest, -⟩ :=
    search_takes_nearest Catalog.tradeCalls "sales" .empty districtAnywhere rfl rfl
  obtain ⟨⟨path, found⟩, hhit⟩ := hfound.mpr ⟨repsOfSales, (hreached _).mpr (.inl rfl)⟩
  obtain ⟨s, others, hmem, hsorted, rfl, rfl⟩ := hnearest path found hhit
  have hreps := (hmem repsOfSales).mpr ((hreached _).mpr (.inl rfl))
  have hshops := (hmem shopsOfSales).mpr ((hreached _).mpr (.inr rfl))
  obtain rfl : s = repsOfSales := by
    rcases (hreached s).mp ((hmem s).mp (by simp)) with hs | rfl
    · exact hs
    · have hothers := (List.mem_cons.mp hreps).resolve_left (by decide)
      exact absurd ((List.pairwise_cons.mp hsorted).1 _ hothers) (by
        unfold Supplier.Nearer
        decide)
  have hothers : others ≠ [] :=
    List.ne_nil_of_mem ((List.mem_cons.mp hshops).resolve_left (by decide))
  rw [if_neg hothers] at hhit
  refine ⟨⟨rfl, rfl⟩, _, hhit, ⟨"district", "reps" :: others.map Supplier.table, "reps"⟩, ?_⟩
  exact ⟨List.mem_append_right _ (List.mem_singleton_self _), rfl, rfl⟩

/-- There are no orders, and this is what the search fails with. -/
theorem search_from_unknown_source :
    ¬ ∀ e, resolve (Catalog.reached Catalog.tradeCalls) "orders" .empty districtAnywhere =
        .error e → e = .noPath "orders" "district" := by
  intro h
  have hfails : resolve (Catalog.reached Catalog.tradeCalls) "orders" .empty districtAnywhere =
      .error (.unknownTable "orders") := by decide +kernel
  exact absurd (h _ hfails) (by decide)

end Reference

end KeyChart
