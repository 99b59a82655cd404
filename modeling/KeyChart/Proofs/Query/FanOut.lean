import KeyChart.Proofs.Catalog.OneSides
import KeyChart.Proofs.Query.ChainRows

/-!
# Sub-queries that go from one row to many

A sub-query along a path returns at most one row for each row of the mark's
table. If it has a plain column, its path follows the graph of joins, along
which no row meets two. If its path leaves the graph somewhere, every column is
a summary and the rows are grouped by the row identity alone.
-/

namespace KeyChart.MarkQuery

open Query

/-- What a sub-query along a path of a mark's query returns. -/
structure SingleAlong (c : Catalog) (source : String) (path : JoinPath) (s : Subquery) : Prop where
  source : path.source = source
  chain : chainAlong c path s.chain.isOuter = .ok s.chain
  crossed : ∀ step ∈ path.steps, step ∉ c.joinGraph.steps ↔ c.FansOut step
  plain : (∃ item ∈ s.items.tail, item.aggregate = none) →
    ∀ step ∈ path.steps, step ∈ c.joinGraph.steps
  summaries : (∃ step ∈ path.steps, c.FansOut step) →
    (∀ item ∈ s.items.tail, item.aggregate ≠ none) ∧
      ∃ t, c.table path.source = .ok t ∧ s.groupBy = [⟨0, t.column rowId⟩]
  single : ∀ (ρ ν : Type) (p : Population ρ ν), p.Respects c → ∀ r tuple tuple',
    p.ChainRow s.chain r tuple → p.ChainRow s.chain r tuple' → p.Merged s tuple tuple'

variable {c : Catalog} {a : String} {j : PlannedJoin} {s : Subquery}

/-- The chain of a sub-query is that of its path. -/
theorem chain_of_pathSubquery (h : pathSubquery c j = .ok s) :
    chainAlong c j.path s.chain.isOuter = .ok s.chain := by
  obtain ⟨source, target, hs⟩ := exists_pathSubquery h
  have houter : s.chain.isOuter = j.columns.any (·.aggregate.isSome) := by
    obtain ⟨joins, -, heq⟩ := Except.map_eq_ok.mp hs.chain
    rw [← heq]
  rw [houter]
  exact hs.chain

theorem exists_plain_column (h : pathSubquery c j = .ok s)
    (hplain : ∃ item ∈ s.items.tail, item.aggregate = none) :
    ∃ column ∈ j.columns, column.aggregate = none := by
  obtain ⟨source, target, hs⟩ := exists_pathSubquery h
  obtain ⟨item, hitem, hnone⟩ := hplain
  rw [hs.items, List.tail_cons] at hitem
  obtain ⟨column, hcolumn, rfl⟩ := List.mem_map.mp hitem
  exact ⟨column, hcolumn, hnone⟩

/-- A sub-query of summaries only is grouped by the row identity. -/
theorem groupBy_of_summaries (h : pathSubquery c j = .ok s) (hasked : j.columns ≠ [])
    (hall : ∀ column ∈ j.columns, column.aggregate ≠ none) :
    ∃ t, c.table j.path.source = .ok t ∧ s.groupBy = [⟨0, t.column rowId⟩] := by
  obtain ⟨source, target, hs⟩ := exists_pathSubquery h
  have hany : j.columns.any (·.aggregate.isSome) = true := by
    obtain ⟨column, hcolumn⟩ := List.exists_mem_of_ne_nil _ hasked
    exact List.any_eq_true.mpr ⟨column, hcolumn, Option.isSome_iff_ne_none.mpr (hall column hcolumn)⟩
  have hplain : j.columns.filter (·.aggregate.isNone) = [] := by
    refine List.filter_eq_nil_iff.mpr ?_
    intro column hcolumn
    simpa using hall column hcolumn
  refine ⟨source, hs.leaves, ?_⟩
  rw [hs.groupBy, if_pos hany, hplain, List.map_nil]

/-- Two rows of a chain that one row starts become one row: they are the same
along the graph, and in one group where the path leaves it. -/
theorem merged_of_chainRow (hj : j.Sound c a) (h : pathSubquery c j = .ok s) {ρ ν : Type}
    {p : Population ρ ν} (hp : p.Respects c) {r : ρ} {tuple tuple' : List (Option ρ)}
    (ht : p.ChainRow s.chain r tuple) (ht' : p.ChainRow s.chain r tuple') :
    p.Merged s tuple tuple' := by
  by_cases hmem : ∀ step ∈ j.path.steps, step ∈ c.joinGraph.steps
  · have hsame : tuple = tuple' :=
      ht.unique (fun step hstep => hp step (hmem step hstep)) (chain_of_pathSubquery h) ht'
    subst hsame
    unfold Population.Merged
    split
    · rfl
    · exact fun column _ => rfl
  · -- Off the graph there are summaries only, grouped by what the first row holds.
    have hall : ∀ column ∈ j.columns, column.aggregate ≠ none :=
      fun column hcolumn hnone => hmem (hj.plain column hcolumn hnone)
    obtain ⟨t, -, hgroup⟩ := groupBy_of_summaries h hj.asked hall
    unfold Population.Merged
    rw [hgroup]
    intro column hcolumn
    rw [List.mem_singleton.mp hcolumn, ht.cell_first, ht'.cell_first]

theorem singleAlong_of_sound (hj : j.Sound c a) (h : pathSubquery c j = .ok s) :
    SingleAlong c a j.path s := by
  have hcrossed : ∀ step ∈ j.path.steps, step ∉ c.joinGraph.steps ↔ c.FansOut step :=
    fun step hstep => Catalog.not_mem_steps_iff_fansOut (hj.follows.across step hstep)
  have hplain : (∃ column ∈ j.columns, column.aggregate = none) →
      ∀ step ∈ j.path.steps, step ∈ c.joinGraph.steps := by
    rintro ⟨column, hcolumn, hnone⟩
    exact hj.plain column hcolumn hnone
  refine ⟨?_, chain_of_pathSubquery h, hcrossed, ?_, ?_, ?_⟩
  · rcases hj.path with hforward | hbackward
    · exact hforward.source
    · exact hbackward.source
  · intro hitem
    exact hplain (exists_plain_column h hitem)
  · rintro ⟨step, hstep, hfans⟩
    have hout : ¬ ∃ column ∈ j.columns, column.aggregate = none :=
      fun hcolumn => (hcrossed step hstep).mpr hfans (hplain hcolumn step hstep)
    refine ⟨fun item hitem hnone => hout (exists_plain_column h ⟨item, hitem, hnone⟩), ?_⟩
    exact groupBy_of_summaries h hj.asked fun column hcolumn hnone => hout ⟨column, hcolumn, hnone⟩
  · intro ρ ν p hp r tuple tuple' ht ht'
    exact merged_of_chainRow hj h hp ht ht'

/-- Whatever a mark's channels refer to and in whatever order: each sub-query
along a path returns at most one row for a row of the mark's table. With a plain
column its path follows the graph of joins; where the path goes from one row to
many, the columns are summaries and the rows are grouped by the row identity
alone. -/
theorem path_subqueries_keep_rows_single {m : Mark} {parent : Option JoinPath}
    {markTables : SortedMap MarkId String} {q : MarkQuery}
    (h : m.compile c parent markTables = .ok q) :
    List.Forall₂ (SingleAlong c m.source) q.paths (q.pathSubqueries parent) := by
  obtain ⟨joins, hsound, hpaths, hsubqueries⟩ := compile_eq_ok h
  rw [hpaths, List.forall₂_map_left_iff]
  clear hpaths
  generalize q.pathSubqueries parent = subqueries at hsubqueries ⊢
  induction hsubqueries with
  | nil => exact .nil
  | cons hs _ ih =>
    refine .cons (singleAlong_of_sound (hsound _ (by simp)) hs) ?_
    exact ih fun j hj => hsound j (by simp [hj])

/-- Books drawn by the number of their loans. -/
def lentBooks : Mark :=
  .ofSpec ⟨0⟩ { source := "books", shape := .rect }
    [("n", .foreign ⟨none, some .count, .table "loans", none, none, none⟩)] "mark_0"

/-- The second and the third loan are of the first book. -/
theorem path_subqueries_keep_rows_single_loans :
    ∃ q s, lentBooks.compile (Catalog.reached Catalog.libraryCalls) none .empty = .ok q ∧
      q.pathSubqueries none = [s] ∧
      Catalog.libraryRows.ChainRow s.chain ("books", 1) [some ("books", 1), some ("loans", 2)] ∧
      Catalog.libraryRows.ChainRow s.chain ("books", 1) [some ("books", 1), some ("loans", 3)] ∧
      Catalog.libraryRows.Merged s [some ("books", 1), some ("loans", 2)]
        [some ("books", 1), some ("loans", 3)] := by
  have hok : (lentBooks.compile (Catalog.reached Catalog.libraryCalls) none .empty).map
      (fun q => q.pathSubqueries none) = .ok [⟨"p0",
        [⟨none, ⟨0, .implicitRowId⟩, some "id"⟩, ⟨some .count, ⟨1, .implicitRowId⟩, some "count"⟩],
        ⟨"books", [⟨"loans", [(⟨0, .declared "isbn"⟩, ⟨1, .declared "isbn"⟩)]⟩], true⟩,
        [⟨0, .implicitRowId⟩]⟩] := by
    decide +kernel
  obtain ⟨q, hq, hs⟩ := Except.map_eq_ok.mp hok
  have hsingle := path_subqueries_keep_rows_single hq
  rw [hs] at hsingle
  have hrow : ∀ n, n / 2 = 1 → Catalog.libraryRows.ChainRow
      ⟨"books", [⟨"loans", [(⟨0, .declared "isbn"⟩, ⟨1, .declared "isbn"⟩)]⟩], true⟩
      ("books", 1) [some ("books", 1), some ("loans", n)] := by
    intro n hn
    refine ⟨rfl, .join (.row (s := ("loans", n)) rfl ?_) (.done _)⟩
    simp [Population.Admits, Population.cell, ColumnName.attribute, Catalog.libraryRows, hn]
  refine ⟨q, _, hq, hs, hrow 2 rfl, hrow 3 rfl, ?_⟩
  obtain ⟨path, _, hfirst, -⟩ := List.forall₂_cons_right_iff.mp hsingle
  have hrespects := (Catalog.oneSided_reached (by decide)).respects Catalog.keyed_libraryRows
  exact hfirst.single _ _ _ hrespects _ _ _ (hrow 2 rfl) (hrow 3 rfl)

end KeyChart.MarkQuery
