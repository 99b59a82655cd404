import KeyChart.Mark.Basic
import KeyChart.Proofs.Mark.References

/-!
# Planned sub-queries

References that follow the same joins are planned into one sub-query, along the
path of the first of them. A summary may have asked for a path backwards and a
plain column for one forwards; they share a sub-query only if both paths follow
the graph of joins. So a sub-query with a plain column never goes from one row
to many, in whatever order the channels come.
-/

namespace KeyChart.MarkQuery

variable {c : Catalog} {a : String}

/-- What holds of every planned sub-query: it was asked for a column, its path
goes one way throughout, and forwards if one of its columns is not a summary. -/
structure PlannedJoin.Sound (c : Catalog) (a : String) (j : PlannedJoin) : Prop where
  asked : j.columns ≠ []
  path : c.Forward a j.path ∨ c.Backward a j.path
  plain : ∀ column ∈ j.columns, column.aggregate = none → ∀ s ∈ j.path.steps, s ∈ c.joinGraph.steps

theorem PlannedJoin.Sound.follows {j : PlannedJoin} (h : j.Sound c a) : c.Follows j.path := by
  rcases h.path with hforward | hbackward
  · exact hforward.follows
  · exact hbackward.follows

/-! ## Asking for columns -/

/-- The name of the sub-query along a path, by its number. -/
def pathName (number : Nat) : String := "p" ++ toString number

theorem PlannedJoin.ask_path (j : PlannedJoin) (used : SortedSet String) (channel : String)
    (r : ForeignRef) : (j.ask used channel r).1.path = j.path := by
  unfold ask
  split <;> rfl

theorem PlannedJoin.ask_name (j : PlannedJoin) (used : SortedSet String) (channel : String)
    (r : ForeignRef) : (j.ask used channel r).1.name = j.name := by
  unfold ask
  split <;> rfl

/-- The columns of a sub-query that is asked for one more are those from before and, unless
one of them serves, a new one with a fresh name. The answer names one that serves. -/
theorem PlannedJoin.ask_columns (j : PlannedJoin) (used : SortedSet String) (channel : String)
    (r : ForeignRef) :
    (∃ column ∈ j.columns, (j.ask used channel r).2 = column.resultName ∧
      (j.ask used channel r).1.columns = j.columns) ∨
    ((j.ask used channel r).2 = freshName used r.baseName channel ∧
      (j.ask used channel r).1.columns =
        j.columns ++ [⟨r.column, r.aggregate, freshName used r.baseName channel⟩]) := by
  unfold ask
  split
  case h_1 column hfind => exact .inl ⟨column, List.mem_of_find?_eq_some hfind, rfl, rfl⟩
  case h_2 => exact .inr ⟨rfl, rfl⟩

theorem PlannedJoin.mem_ask_columns {j : PlannedJoin} {used : SortedSet String} {channel : String}
    {r : ForeignRef} {column : PlannedColumn} (h : column ∈ (j.ask used channel r).1.columns) :
    column ∈ j.columns ∨
      column = ⟨r.column, r.aggregate, freshName used r.baseName channel⟩ := by
  rcases j.ask_columns used channel r with ⟨_, -, -, heq⟩ | ⟨-, heq⟩
  · rw [heq] at h
    exact .inl h
  · rw [heq] at h
    simpa using h

theorem PlannedJoin.subset_ask_columns (j : PlannedJoin) (used : SortedSet String)
    (channel : String) (r : ForeignRef) : j.columns ⊆ (j.ask used channel r).1.columns := by
  rcases j.ask_columns used channel r with ⟨_, -, -, heq⟩ | ⟨-, heq⟩ <;> simp [heq]

theorem PlannedJoin.exists_ask_column (j : PlannedJoin) (used : SortedSet String)
    (channel : String) (r : ForeignRef) :
    ∃ column ∈ (j.ask used channel r).1.columns,
      column.resultName = (j.ask used channel r).2 := by
  rcases j.ask_columns used channel r with ⟨column, hcolumn, hname, heq⟩ | ⟨hname, heq⟩
  · exact ⟨column, by rwa [heq], hname.symm⟩
  · exact ⟨_, by rw [heq]; exact List.mem_append_right _ (List.mem_singleton_self _), hname.symm⟩

/-- Of some sub-queries, that one is asked which follows a path, or a new one behind them. -/
def Asked (joins : List PlannedJoin) (path : JoinPath) (number : Nat)
    (before : List PlannedJoin) (j : PlannedJoin) (after : List PlannedJoin) : Prop :=
  (joins = before ++ j :: after ∧ j.follows path = true) ∨
    (joins = before ∧ after = [] ∧ j = ⟨pathName (number + before.length), path, []⟩)

theorem exists_asked (used : SortedSet String) (channel : String) (r : ForeignRef)
    (path : JoinPath) (number : Nat) (joins : List PlannedJoin) :
    ∃ before j after, Asked joins path number before j after ∧
      askAlong used channel r path number joins =
        (before ++ (j.ask used channel r).1 :: after, ⟨j.name, (j.ask used channel r).2⟩) := by
  induction joins generalizing number with
  | nil =>
    refine ⟨[], ⟨pathName number, path, []⟩, [], .inr ⟨rfl, rfl, rfl⟩, ?_⟩
    simp only [askAlong, PlannedJoin.ask_name]
    rfl
  | cons join rest ih =>
    rw [askAlong]
    by_cases hfollows : join.follows path = true
    · refine ⟨[], join, rest, .inl ⟨rfl, hfollows⟩, ?_⟩
      simp only [if_pos hfollows, PlannedJoin.ask_name, List.nil_append]
    · obtain ⟨before, j, after, hasked, heq⟩ := ih (number + 1)
      refine ⟨join :: before, j, after, ?_, ?_⟩
      · rcases hasked with ⟨rfl, hj⟩ | ⟨rfl, rfl, rfl⟩
        · exact .inl ⟨rfl, hj⟩
        · refine .inr ⟨rfl, rfl, ?_⟩
          rw [List.length_cons, Nat.add_assoc, Nat.add_comm 1]
      · rw [if_neg hfollows, heq]
        rfl

/-- After asking along a path, the sub-queries are those from before, but for the one that
was asked: it follows the path, or is new. -/
theorem mem_askAlong {used : SortedSet String} {channel : String} {r : ForeignRef}
    {path : JoinPath} {number : Nat} {joins : List PlannedJoin} {j' : PlannedJoin}
    (h : j' ∈ (askAlong used channel r path number joins).1) :
    j' ∈ joins ∨ ∃ j, (j ∈ joins ∧ j.follows path = true ∨ j.path = path ∧ j.columns = []) ∧
      j' = (j.ask used channel r).1 := by
  obtain ⟨before, j, after, hasked, heq⟩ := exists_asked used channel r path number joins
  rw [heq] at h
  rcases hasked with ⟨rfl, hfollows⟩ | ⟨rfl, rfl, rfl⟩
  · rcases List.mem_append.mp h with h | h
    · exact .inl (by simp [h])
    · rcases List.mem_cons.mp h with rfl | h
      · exact .inr ⟨j, .inl ⟨by simp, hfollows⟩, rfl⟩
      · exact .inl (by simp [h])
  · rcases List.mem_append.mp h with h | h
    · exact .inl h
    · exact .inr ⟨_, .inr ⟨rfl, rfl⟩, List.mem_singleton.mp h⟩

/-- Sub-queries keep their names and columns when one of them is asked for one more. -/
theorem exists_askAlong (used : SortedSet String) (channel : String) (r : ForeignRef)
    (path : JoinPath) (number : Nat) {joins : List PlannedJoin} {j : PlannedJoin}
    (hj : j ∈ joins) : ∃ j' ∈ (askAlong used channel r path number joins).1,
      j'.name = j.name ∧ j.columns ⊆ j'.columns := by
  obtain ⟨before, asked, after, hasked, heq⟩ := exists_asked used channel r path number joins
  rw [heq]
  rcases hasked with ⟨rfl, -⟩ | ⟨rfl, -, -⟩
  · rcases List.mem_append.mp hj with hj | hj
    · exact ⟨j, by simp [hj], rfl, fun _ h => h⟩
    · rcases List.mem_cons.mp hj with rfl | hj
      · exact ⟨_, by simp, j.ask_name used channel r, j.subset_ask_columns used channel r⟩
      · exact ⟨j, by simp [hj], rfl, fun _ h => h⟩
  · exact ⟨j, by simp [hj], rfl, fun _ h => h⟩

/-- The answer names a column of a sub-query. -/
theorem exists_askAlong_column (used : SortedSet String) (channel : String) (r : ForeignRef)
    (path : JoinPath) (number : Nat) (joins : List PlannedJoin) :
    ∃ j' ∈ (askAlong used channel r path number joins).1,
      j'.name = (askAlong used channel r path number joins).2.subquery ∧
      ∃ column ∈ j'.columns,
        column.resultName = (askAlong used channel r path number joins).2.column := by
  obtain ⟨before, asked, after, -, heq⟩ := exists_asked used channel r path number joins
  rw [heq]
  exact ⟨_, by simp, asked.ask_name used channel r, asked.exists_ask_column used channel r⟩

/-- A sub-query that is asked for a column is sound if its path was before, and
goes forwards in case a column is plain. -/
theorem PlannedJoin.sound_ask {j : PlannedJoin} {used : SortedSet String} {channel : String}
    {r : ForeignRef} (hpath : c.Forward a j.path ∨ c.Backward a j.path)
    (hplain : ∀ column ∈ j.columns, column.aggregate = none →
      ∀ s ∈ j.path.steps, s ∈ c.joinGraph.steps)
    (hr : r.aggregate = none → ∀ s ∈ j.path.steps, s ∈ c.joinGraph.steps) :
    (j.ask used channel r).1.Sound c a where
  asked := by
    obtain ⟨column, hcolumn, -⟩ := j.exists_ask_column used channel r
    exact List.ne_nil_of_mem hcolumn
  path := by
    rw [j.ask_path]
    exact hpath
  plain := by
    intro column hcolumn hnone
    rw [j.ask_path]
    rcases mem_ask_columns hcolumn with hcolumn | rfl
    · exact hplain column hcolumn hnone
    · exact hr hnone

/-- A plain reference may join a sub-query whose joins it follows. -/
theorem PlannedJoin.Sound.mem_of_follows {j : PlannedJoin} (h : j.Sound c a) {path : JoinPath}
    (hpath : c.Forward a path) (hfollows : j.follows path = true) :
    ∀ s ∈ j.path.steps, s ∈ c.joinGraph.steps := by
  simp only [PlannedJoin.follows, Bool.and_eq_true, beq_iff_eq] at hfollows
  rcases h.path with hforward | hbackward
  · exact hforward.mem
  · exact hbackward.mem_of_shared hpath hfollows.1.symm hfollows.2.symm

theorem askAlong_sound {used : SortedSet String} {channel : String} {r : ForeignRef}
    {path : JoinPath} {number : Nat} {joins : List PlannedJoin}
    (hpath : Reference.Resolved c a r path) (h : ∀ j ∈ joins, j.Sound c a) :
    ∀ j ∈ (askAlong used channel r path number joins).1, j.Sound c a := by
  have hforward : r.aggregate = none → c.Forward a path := by
    intro hplain
    rcases hpath with hforward | ⟨hsummary, -⟩
    · exact hforward
    · simp [hplain] at hsummary
  intro j' hj'
  rcases mem_askAlong hj' with hj' | ⟨j, hj | ⟨hpath', hempty⟩, rfl⟩
  · exact h j' hj'
  · -- The sub-query keeps its own path, whatever path the reference was resolved to.
    have hold := h j hj.1
    exact PlannedJoin.sound_ask hold.path hold.plain fun hplain =>
      hold.mem_of_follows (hforward hplain) hj.2
  · rw [← hpath'] at hpath hforward
    exact PlannedJoin.sound_ask (Or.imp id And.right hpath) (by simp [hempty]) fun hplain =>
      (hforward hplain).mem

/-! ## Adding channels -/

variable {markTables : SortedMap MarkId String}

/-- What adding each of some channels keeps, adding them in order keeps. -/
theorem addChannels_keeps {I : Plan → Prop} {channels : List (String × Channel)} {p p' : Plan}
    (hkeeps : ∀ channel ∈ channels, ∀ {p p' : Plan},
      p.addChannel c a markTables channel.1 channel.2 = .ok p' → I p → I p')
    (h : p.addChannels c a markTables channels = .ok p') (hp : I p) : I p' := by
  induction channels generalizing p with
  | nil =>
    cases h
    exact hp
  | cons channel rest ih =>
    simp only [Plan.addChannels] at h
    split at h
    · cases h
    case h_2 p₁ hadd =>
      exact ih (fun ch hch => hkeeps ch (by simp [hch])) h (hkeeps channel (by simp) hadd hp)

/-- A channel that is added names an attribute, or a reference that is resolved, or nothing
that the query has to supply. -/
theorem addChannel_cases {p p' : Plan} {name : String} {channel : Channel}
    (h : p.addChannel c a markTables name channel = .ok p') :
    (∃ attr, channel.column? = some attr ∧
      p' = { p with
        columns := p.columns.insert name attr
        places := p.places.insert name ⟨Query.baseName, attr⟩ }) ∨
    (∃ r path found, channel.foreign? = some r ∧
      Reference.resolve c a markTables r = .ok (path, found) ∧
      p' = p.addReference name r path found) ∨
    p' = p := by
  unfold Plan.addChannel at h
  split at h
  case h_1 attr hattr =>
    cases h
    exact .inl ⟨attr, hattr, rfl⟩
  case h_2 r _ hr =>
    split at h
    · cases h
    case h_2 path found hresolve =>
      cases h
      exact .inr (.inl ⟨r, path, found, hr, hresolve, rfl⟩)
  case h_3 =>
    cases h
    exact .inr (.inr rfl)

theorem addChannel_sound {p p' : Plan} {name : String} {channel : Channel}
    (h : p.addChannel c a markTables name channel = .ok p') (hp : ∀ j ∈ p.joins, j.Sound c a) :
    ∀ j ∈ p'.joins, j.Sound c a := by
  rcases addChannel_cases h with ⟨attr, -, rfl⟩ | ⟨r, path, found, -, hresolve, rfl⟩ | rfl
  · exact hp
  · exact askAlong_sound (Reference.resolve_resolved hresolve).1 hp
  · exact hp

theorem addChannels_sound {channels : List (String × Channel)} {p p' : Plan}
    (h : p.addChannels c a markTables channels = .ok p') (hp : ∀ j ∈ p.joins, j.Sound c a) :
    ∀ j ∈ p'.joins, j.Sound c a :=
  addChannels_keeps (I := fun p => ∀ j ∈ p.joins, j.Sound c a)
    (fun _ _ _ _ hadd hp => addChannel_sound hadd hp) h hp

/-! ## From the plan to the statement -/

/-- What a compiled query is made of: the plan for its channels, the sub-queries for the
outer rows and along the planned paths, and what these select, join and compare. -/
structure Compiled (c : Catalog) (r : Request) (parent : Option JoinPath)
    (markTables : SortedMap MarkId String) (q : MarkQuery) (source : Table) (plan : Plan)
    (parents paths : List Query.Subquery) : Prop where
  known : c.table r.source = .ok source
  planned : (Plan.start source).addChannels c r.source markTables r.channels = .ok plan
  outer : parent.toList.mapM (parentSubquery c) = .ok parents
  along : plan.joins.mapM (pathSubquery c) = .ok paths
  conditions : r.filters.mapM (conditionOf source plan) = .ok q.statement.conditions
  order : ∃ keys, r.orderBy.mapM (sortKeyOf source plan) = .ok keys ∧
    q.statement.order = if keys.isEmpty then [⟨⟨Query.baseName, rowId⟩, false⟩] else keys
  subqueries : q.statement.subqueries = baseSubquery source :: parents ++ paths
  selected : q.statement.selected =
    (parents.map fun _ => ⟨Query.parentName, parentId⟩) ++
      plan.joins.flatMap fun j => j.columns.map fun column => ⟨j.name, column.resultName⟩
  joined : q.statement.joins =
    (parents.map fun s => ⟨s.name, false⟩) ++ plan.joins.map fun j => ⟨j.name, true⟩
  joinPaths : q.paths = plan.joins.map PlannedJoin.path
  columns : q.columns = plan.columns

theorem exists_compiled {r : Request} {parent : Option JoinPath} {q : MarkQuery}
    (h : compile c r parent markTables = .ok q) :
    ∃ source plan parents paths, Compiled c r parent markTables q source plan parents paths := by
  unfold compile at h
  obtain ⟨source, hsource, h⟩ := Except.bind_eq_ok.mp h
  obtain ⟨plan, hplan, h⟩ := Except.bind_eq_ok.mp h
  obtain ⟨parents, hparents, h⟩ := Except.bind_eq_ok.mp h
  obtain ⟨paths, hpaths, h⟩ := Except.bind_eq_ok.mp h
  obtain ⟨conditions, hconditions, h⟩ := Except.bind_eq_ok.mp h
  obtain ⟨order, horder, h⟩ := Except.bind_eq_ok.mp h
  cases h
  exact ⟨source, plan, parents, paths, hsource, hplan, hparents, hpaths, hconditions,
    ⟨order, horder, rfl⟩, rfl, rfl, rfl, rfl, rfl⟩

/-- The sub-queries along paths: all but the mark's own rows and those paired
with outer rows. -/
def pathSubqueries (q : MarkQuery) (parent : Option JoinPath) : List Query.Subquery :=
  q.statement.subqueries.drop (parent.toList.length + 1)

/-- A query has one sub-query for each planned one. -/
theorem compile_eq_ok {r : Request} {parent : Option JoinPath} {q : MarkQuery}
    (h : compile c r parent markTables = .ok q) :
    ∃ joins : List PlannedJoin, (∀ j ∈ joins, j.Sound c r.source) ∧
      q.paths = joins.map PlannedJoin.path ∧
      List.Forall₂ (fun j s => pathSubquery c j = .ok s) joins (q.pathSubqueries parent) := by
  obtain ⟨source, plan, parents, paths, hq⟩ := exists_compiled h
  refine ⟨plan.joins, addChannels_sound hq.planned (by simp [Plan.start]), hq.joinPaths, ?_⟩
  have hlen : parents.length = parent.toList.length :=
    (Except.mapM_eq_ok hq.outer).length_eq.symm
  rw [pathSubqueries, hq.subqueries, ← hlen, List.cons_append, List.drop_succ_cons, List.drop_left]
  exact Except.mapM_eq_ok hq.along

/-- What the sub-query for outer rows along a path is made of. -/
structure ParentSubquery (c : Catalog) (path : JoinPath) (s : Query.Subquery)
    (source outer : Table) : Prop where
  leaves : c.table path.source = .ok source
  ends : c.table path.destination = .ok outer
  chain : chainAlong c path false = .ok s.chain
  name : s.name = Query.parentName
  items : s.items =
    [⟨none, ⟨0, source.column rowId⟩, some rowId⟩,
     ⟨none, ⟨path.steps.length, outer.column rowId⟩, some parentId⟩]
  groupBy : s.groupBy = []

theorem exists_parentSubquery {path : JoinPath} {s : Query.Subquery}
    (h : parentSubquery c path = .ok s) : ∃ source outer, ParentSubquery c path s source outer := by
  unfold parentSubquery at h
  split at h
  · cases h
  · cases h
  case h_3 source outer hsource houter =>
    obtain ⟨chain, hchain, rfl⟩ := Except.map_eq_ok.mp h
    exact ⟨source, outer, hsource, houter, hchain, rfl, rfl, rfl⟩

/-- Where a planned column is found: in the table at the end of the path. -/
def PlannedJoin.valueColumn (j : PlannedJoin) (target : Table) (column : PlannedColumn) :
    Query.ChainColumn :=
  ⟨j.path.steps.length, target.column (column.column.getD rowId)⟩

/-- What the sub-query along a planned path is made of. -/
structure PathSubquery (c : Catalog) (j : PlannedJoin) (s : Query.Subquery)
    (source target : Table) : Prop where
  leaves : c.table j.path.source = .ok source
  ends : c.table j.path.destination = .ok target
  chain : chainAlong c j.path (j.columns.any (·.aggregate.isSome)) = .ok s.chain
  name : s.name = j.name
  items : s.items = ⟨none, ⟨0, source.column rowId⟩, some rowId⟩ ::
    j.columns.map fun column =>
      ⟨column.aggregate, j.valueColumn target column, some column.resultName⟩
  groupBy : s.groupBy = if j.columns.any (·.aggregate.isSome) then
      ⟨0, source.column rowId⟩ ::
        (j.columns.filter (·.aggregate.isNone)).map (j.valueColumn target)
    else []

theorem exists_pathSubquery {j : PlannedJoin} {s : Query.Subquery}
    (h : pathSubquery c j = .ok s) : ∃ source target, PathSubquery c j s source target := by
  unfold pathSubquery at h
  split at h
  · cases h
  · cases h
  case h_3 source target hsource htarget =>
    obtain ⟨chain, hchain, rfl⟩ := Except.map_eq_ok.mp h
    exact ⟨source, target, hsource, htarget, hchain, rfl, rfl, rfl⟩

end KeyChart.MarkQuery
