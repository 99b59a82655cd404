import KeyChart.Proofs.Numerals
import KeyChart.Proofs.Query.Undisturbed

/-!
# Names in queries

A statement gives its sub-queries names, and these hide the tables that are called the
same. The names are fixed ones and numbered ones, so that no two sub-queries share one.
Tables may be called anything, though, and nothing looks at their names: a table that
is called like a sub-query is hidden from the statement that reads it.
-/

namespace KeyChart

namespace Query.Statement

/-- The names of a statement's sub-queries, in order. -/
def introduced (s : Statement) : List String := s.subqueries.map Subquery.name

/-- The tables that the sub-queries of a statement read, in order. -/
def reads (s : Statement) : List String := s.subqueries.flatMap (·.chain.tables)

/-- The names of the sub-queries differ from each other and hide no table that the
statement reads. -/
structure Hygienic (s : Statement) : Prop where
  distinct : s.introduced.Nodup
  visible : ∀ name ∈ s.introduced, name ∉ s.reads

end Query.Statement

namespace MarkQuery

open Query

variable {c : Catalog} {parent : Option JoinPath} {markTables : SortedMap MarkId String}

/-! ## Numbered sub-queries -/

theorem pathName_injective {m n : Nat} (h : pathName m = pathName n) : m = n :=
  toString_injective ((String.append_right_inj _).mp h)

theorem baseName_ne_pathName (n : Nat) : baseName ≠ pathName n := by
  intro h
  have hchars := congrArg String.toList h
  simp [baseName, pathName] at hchars

theorem parentName_ne_pathName (n : Nat) : parentName ≠ pathName n := by
  intro h
  have hdigits : toString n = "arent" := (String.append_right_inj "p").mp h.symm
  have ha : 'a'.isDigit = true := by
    apply isDigit_of_mem_toString (n := n)
    rw [hdigits]
    decide
  cases ha

/-- Sub-queries are named by their places in the list, whatever is asked of them. -/
theorem names_askAlong {used : SortedSet String} {channel : String} {r : ForeignRef}
    {path : JoinPath} {joins : List PlannedJoin}
    (h : joins.map PlannedJoin.name = (List.range joins.length).map pathName) :
    (askAlong used channel r path 0 joins).1.map PlannedJoin.name =
      (List.range (askAlong used channel r path 0 joins).1.length).map pathName := by
  obtain ⟨before, j, after, hasked, heq⟩ := exists_asked used channel r path 0 joins
  rw [heq]
  rcases hasked with ⟨rfl, -⟩ | ⟨rfl, rfl, rfl⟩
  · simpa [PlannedJoin.ask_name] using h
  · simp [PlannedJoin.ask_name, h, List.range_succ]

theorem names_addChannel {a : String} {p p' : Plan} {name : String} {channel : Channel}
    (h : p.addChannel c a markTables name channel = .ok p')
    (hp : p.joins.map PlannedJoin.name = (List.range p.joins.length).map pathName) :
    p'.joins.map PlannedJoin.name = (List.range p'.joins.length).map pathName := by
  rcases addChannel_cases h with ⟨attr, -, rfl⟩ | ⟨r, path, found, -, -, rfl⟩ | rfl
  · exact hp
  · exact names_askAlong hp
  · exact hp

theorem names_addChannels {a : String} {channels : List (String × Channel)} {p p' : Plan}
    (h : p.addChannels c a markTables channels = .ok p')
    (hp : p.joins.map PlannedJoin.name = (List.range p.joins.length).map pathName) :
    p'.joins.map PlannedJoin.name = (List.range p'.joins.length).map pathName :=
  addChannels_keeps
    (I := fun p => p.joins.map PlannedJoin.name = (List.range p.joins.length).map pathName)
    (fun _ _ _ _ hadd hp => names_addChannel hadd hp) h hp

/-! ## The tables of sub-queries -/

theorem tables_chainJoins {place : Nat} {steps : List JoinStep} {joins : List ChainJoin}
    (h : chainJoins c place steps = .ok joins) :
    joins.map ChainJoin.table = steps.map (·.target.table) := by
  induction steps generalizing place joins with
  | nil =>
    cases h
    rfl
  | cons step rest ih =>
    simp only [chainJoins] at h
    split at h
    · cases h
    · cases h
    · obtain ⟨joins', hjoins', rfl⟩ := Except.map_eq_ok.mp h
      rw [List.map_cons, List.map_cons, ih hjoins']

theorem tables_chainAlong {path : JoinPath} {isOuter : Bool} {chain : Chain}
    (h : chainAlong c path isOuter = .ok chain) : chain.tables = path.tables := by
  obtain ⟨joins, hjoins, rfl⟩ := Except.map_eq_ok.mp h
  rw [Chain.tables, JoinPath.tables, tables_chainJoins hjoins]

theorem name_tables_parentSubquery {path : JoinPath} {s : Subquery}
    (h : parentSubquery c path = .ok s) :
    s.name = parentName ∧ s.chain.tables = path.tables := by
  obtain ⟨source, outer, hs⟩ := exists_parentSubquery h
  exact ⟨hs.name, tables_chainAlong hs.chain⟩

theorem name_tables_pathSubquery {j : PlannedJoin} {s : Subquery}
    (h : pathSubquery c j = .ok s) : s.name = j.name ∧ s.chain.tables = j.path.tables := by
  obtain ⟨source, target, hs⟩ := exists_pathSubquery h
  exact ⟨hs.name, tables_chainAlong hs.chain⟩

theorem not_mem_tables_of_avoids {path : JoinPath} {n : String} (h : path.Avoids n) :
    n ∉ path.tables := by
  intro hn
  rcases List.mem_cons.mp hn with heq | hn
  · exact h.source heq.symm
  · obtain ⟨step, hstep, heq⟩ := List.mem_map.mp hn
    exact (h.steps step hstep).2 heq

/-! ## Whole queries -/

/-- The names that a compiled query introduces. -/
theorem introduced_of_compile {r : Request} {q : MarkQuery}
    (h : compile c r parent markTables = .ok q) :
    q.statement.introduced =
      baseName :: (parent.toList.map fun _ => parentName) ++
        (List.range q.paths.length).map pathName := by
  obtain ⟨source, plan, parents, paths, hq⟩ := exists_compiled h
  have hp : parents.map Subquery.name = parent.toList.map fun _ => parentName :=
    Except.map_of_mapM hq.outer fun _ _ hs => (name_tables_parentSubquery hs).1
  have hj : paths.map Subquery.name = plan.joins.map PlannedJoin.name :=
    Except.map_of_mapM hq.along fun _ _ hs => (name_tables_pathSubquery hs).1
  rw [Statement.introduced, hq.subqueries, List.map_append, List.map_cons, hp, hj,
    names_addChannels hq.planned rfl, hq.joinPaths, List.length_map]
  rfl

theorem nodup_introduced {r : Request} {q : MarkQuery}
    (h : compile c r parent markTables = .ok q) : q.statement.introduced.Nodup := by
  have hpaths : ((List.range q.paths.length).map pathName).Nodup :=
    List.Nodup.map (fun _ _ => pathName_injective) List.nodup_range
  rw [introduced_of_compile h]
  cases parent with
  | none => simpa [baseName_ne_pathName, eq_comm] using hpaths
  | some path =>
    have hdiffer : baseName ≠ parentName := by decide
    simpa [baseName_ne_pathName, parentName_ne_pathName, hdiffer, eq_comm] using hpaths

/-- The tables of the sub-queries of a compiled query: the mark's own, and those of every
path. -/
theorem tables_of_compile (hc : c.WellFormed) {r : Request} {q : MarkQuery}
    (h : compile c r parent markTables = .ok q) :
    q.statement.subqueries.map (·.chain.tables) =
      [r.source] :: (parent.toList ++ q.paths).map JoinPath.tables := by
  obtain ⟨source, plan, parents, paths, hq⟩ := exists_compiled h
  have hp : parents.map (·.chain.tables) = parent.toList.map JoinPath.tables :=
    Except.map_of_mapM hq.outer fun _ _ hs => (name_tables_parentSubquery hs).2
  have hj : paths.map (·.chain.tables) = plan.joins.map (·.path.tables) :=
    Except.map_of_mapM hq.along fun _ _ hs => (name_tables_pathSubquery hs).2
  have hbase : (baseSubquery source).chain.tables = [r.source] := by
    rw [← hc.named _ _ hq.known]
    rfl
  rw [hq.subqueries, hq.joinPaths, List.map_append, List.map_cons, hp, hj, hbase,
    List.map_append, List.map_map]
  rfl

/-- The tables that a compiled query reads: the mark's own, and those of every path. -/
theorem reads_of_compile (hc : c.WellFormed) {r : Request} {q : MarkQuery}
    (h : compile c r parent markTables = .ok q) :
    q.statement.reads = r.source :: (parent.toList ++ q.paths).flatMap JoinPath.tables := by
  rw [Statement.reads, List.flatMap_def, tables_of_compile hc h, List.flatMap_def]
  rfl

/-- A compiled query reads only tables that the catalog knows. -/
theorem known_of_compile (hc : c.WellFormed) {r : Request} {q : MarkQuery}
    (h : compile c r parent markTables = .ok q) {n : String} (hn : n ∈ q.statement.reads) :
    c.containsTable n = true := by
  by_contra hnot
  have hnew : c.containsTable n = false := by simpa using hnot
  obtain ⟨hsource, -, hparent⟩ := ne_of_compile hnew h
  obtain ⟨source, plan, parents, paths, hq⟩ := exists_compiled h
  rw [reads_of_compile hc h] at hn
  rcases List.mem_cons.mp hn with heq | hn
  · exact hsource heq.symm
  · obtain ⟨path, hpath, hn⟩ := List.mem_flatMap.mp hn
    apply not_mem_tables_of_avoids _ hn
    rcases List.mem_append.mp hpath with hpath | hpath
    · exact hparent path (by simpa using hpath)
    · rw [hq.joinPaths] at hpath
      obtain ⟨j, hj, rfl⟩ := List.mem_map.mp hpath
      obtain ⟨s, -, hs⟩ := Except.exists_of_mapM hq.along hj
      obtain ⟨source, target, hs⟩ := exists_pathSubquery hs
      exact avoids_of_chainAlong hnew hs.leaves hs.chain

/-- A compiled query is hygienic if none of its fixed and numbered names is among the
tables that it reads. -/
theorem hygienic_iff {r : Request} {q : MarkQuery}
    (h : compile c r parent markTables = .ok q) :
    q.statement.Hygienic ↔ baseName ∉ q.statement.reads ∧
      (parent.isSome → parentName ∉ q.statement.reads) ∧
      ∀ i < q.paths.length, pathName i ∉ q.statement.reads := by
  constructor
  · intro hygienic
    have hvisible := hygienic.visible
    rw [introduced_of_compile h] at hvisible
    refine ⟨hvisible _ (by simp), ?_, ?_⟩
    · intro hsome
      obtain ⟨path, rfl⟩ := Option.isSome_iff_exists.mp hsome
      exact hvisible _ (by simp)
    · intro i hi
      apply hvisible
      simp only [List.mem_append, List.mem_map, List.mem_range]
      exact .inr ⟨i, hi, rfl⟩
  · rintro ⟨hbase, hparent, hpaths⟩
    refine ⟨nodup_introduced h, ?_⟩
    intro name hname
    rw [introduced_of_compile h] at hname
    rcases List.mem_append.mp hname with hname | hname
    · rcases List.mem_cons.mp hname with rfl | hname
      · exact hbase
      · obtain ⟨path, hpath, rfl⟩ := List.mem_map.mp hname
        exact hparent (Option.isSome_iff_exists.mpr ⟨path, by simpa using hpath⟩)
    · obtain ⟨i, hi, rfl⟩ := List.mem_map.mp hname
      exact hpaths i (List.mem_range.mp hi)

end MarkQuery

open MarkQuery Query

/-- The sub-queries of a mark's query always have different names, and it reads the
mark's table and the tables along its paths, all of them known. Its names hide none of
these exactly if none is called like the sub-query of the mark's own rows, like that of
the outer rows if the mark is nested, or like the one along a path. -/
theorem query_names_hygienic_iff (calls : List Catalog.Call) (m : Mark) (parent : Option JoinPath)
    (markTables : SortedMap MarkId String) (q : MarkQuery)
    (h : m.compile (Catalog.reached calls) parent markTables = .ok q) :
    q.statement.introduced.Nodup ∧
      q.statement.reads = m.source :: (parent.toList ++ q.paths).flatMap JoinPath.tables ∧
      (∀ n ∈ q.statement.reads, (Catalog.reached calls).containsTable n = true) ∧
      (q.statement.Hygienic ↔ baseName ∉ q.statement.reads ∧
        (parent.isSome → parentName ∉ q.statement.reads) ∧
        ∀ i < q.paths.length, pathName i ∉ q.statement.reads) := by
  have hc := Catalog.wellFormed_reached calls
  exact ⟨nodup_introduced h, reads_of_compile hc h, fun n hn => known_of_compile hc h hn,
    hygienic_iff h⟩

/-- The query of sales by district hides no table. -/
theorem query_names_hygienic_iff_sales : ∃ q, labelledSales.compile (Catalog.reached salesCalls)
    none .empty = .ok q ∧ q.statement.Hygienic := by
  have hok : (labelledSales.compile (Catalog.reached salesCalls) none .empty).map MarkQuery.paths =
      .ok [salePath] := by decide +kernel
  obtain ⟨q, hq, hpaths⟩ := Except.map_eq_ok.mp hok
  obtain ⟨-, hreads, -, hiff⟩ := query_names_hygienic_iff salesCalls labelledSales none .empty q hq
  refine ⟨q, hq, hiff.mpr ?_⟩
  rw [hreads, hpaths]
  decide

/-- A mark over a table that is called like the sub-query of a mark's own rows. -/
def baseMark : Mark := .ofSpec ⟨0⟩ { source := "base", shape := .rect } [] "mark_0"

/-- Its query reads the table by a name that it has given away. -/
theorem query_name_hides_table : ∃ q,
    baseMark.compile (Catalog.reached [.loadDdl "CREATE TABLE base (id INTEGER PRIMARY KEY);"])
      none .empty = .ok q ∧ ¬ q.statement.Hygienic := by
  have hok : (baseMark.compile
      (Catalog.reached [.loadDdl "CREATE TABLE base (id INTEGER PRIMARY KEY);"]) none .empty).map
        (fun q => (q.statement.introduced, q.statement.reads)) = .ok (["base"], ["base"]) := by
    decide +kernel
  obtain ⟨q, hq, heq⟩ := Except.map_eq_ok.mp hok
  simp only [Prod.mk.injEq] at heq
  refine ⟨q, hq, ?_⟩
  intro hygienic
  apply hygienic.visible "base"
  · rw [heq.1]
    decide
  · rw [heq.2]
    decide

end KeyChart
