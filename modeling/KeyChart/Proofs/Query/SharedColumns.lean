import KeyChart.Proofs.Query.ResultColumns

/-!
# Result columns of references

Channels share a column of the result exactly if they refer to one column at the end of the
same joins. The planned sub-queries are read as a table of result names: under a path and a
reference it holds the name that a channel with this reference is given, and asking for one
more column is one more entry.
-/

namespace KeyChart

/-- A channel whose values come with the query: those of a column or of a reference. -/
def Channel.IsQueried (channel : Channel) : Prop :=
  channel.column?.isSome = true ∨ channel.foreign?.isSome = true

/-- A channel of a mark refers elsewhere, and its reference is resolved to a path. -/
def Mark.Refers (m : Mark) (c : Catalog) (markTables : SortedMap MarkId String) (name : String)
    (r : ForeignRef) (path : JoinPath) : Prop :=
  ∃ channel found, (name, channel) ∈ m.channels ∧ channel.foreign? = some r ∧
    Reference.resolve c m.source markTables r = .ok (path, found)

namespace MarkQuery

/-! ## What tells columns apart -/

/-- Paths along the same joins to the same table. -/
def SameJoins (path path' : JoinPath) : Prop :=
  path.signature = path'.signature ∧ path.destination = path'.destination

/-- References to the same column, summarised in the same way. -/
def SameColumn (r r' : ForeignRef) : Prop :=
  r.column = r'.column ∧ r.aggregate = r'.aggregate

instance (path path' : JoinPath) : Decidable (SameJoins path path') :=
  inferInstanceAs (Decidable (_ ∧ _))

instance (r r' : ForeignRef) : Decidable (SameColumn r r') :=
  inferInstanceAs (Decidable (_ ∧ _))

theorem SameJoins.symm_trans {path path' path'' : JoinPath} (h : SameJoins path path')
    (h' : SameJoins path path'') : SameJoins path' path'' :=
  ⟨h.1.symm.trans h'.1, h.2.symm.trans h'.2⟩

theorem SameColumn.symm_trans {r r' r'' : ForeignRef} (h : SameColumn r r')
    (h' : SameColumn r r'') : SameColumn r' r'' :=
  ⟨h.1.symm.trans h'.1, h.2.symm.trans h'.2⟩

theorem PlannedJoin.follows_iff {j : PlannedJoin} {path : JoinPath} :
    j.follows path = true ↔ SameJoins j.path path := by
  simp [follows, SameJoins]

theorem PlannedColumn.serves_iff {column : PlannedColumn} {r : ForeignRef} :
    column.serves r = true ↔ column.column = r.column ∧ column.aggregate = r.aggregate := by
  simp [serves]

theorem PlannedJoin.follows_congr (j : PlannedJoin) {path path' : JoinPath}
    (h : SameJoins path path') : j.follows path = j.follows path' := by
  rw [follows, follows, h.1, h.2]

theorem PlannedColumn.serves_congr (column : PlannedColumn) {r r' : ForeignRef}
    (h : SameColumn r r') : column.serves r = column.serves r' := by
  rw [serves, serves, h.1, h.2]

/-! ## Names of planned columns -/

/-- The result name that a sub-query has for the column of a reference. -/
def PlannedJoin.nameFor? (j : PlannedJoin) (r : ForeignRef) : Option String :=
  (j.columns.find? (·.serves r)).map PlannedColumn.resultName

/-- The result name that sub-queries have for the column of a reference along a path. -/
def nameAlong? (joins : List PlannedJoin) (path : JoinPath) (r : ForeignRef) : Option String :=
  (joins.find? (·.follows path)).bind (·.nameFor? r)

theorem PlannedJoin.nameFor?_congr (j : PlannedJoin) {r r' : ForeignRef} (h : SameColumn r r') :
    j.nameFor? r = j.nameFor? r' := by
  simp only [nameFor?, PlannedColumn.serves_congr _ h]

theorem nameAlong?_congr (joins : List PlannedJoin) {path path' : JoinPath} {r r' : ForeignRef}
    (hpath : SameJoins path path') (hr : SameColumn r r') :
    nameAlong? joins path r = nameAlong? joins path' r' := by
  simp only [nameAlong?, PlannedJoin.follows_congr _ hpath, PlannedJoin.nameFor?_congr _ hr]

theorem nameAlong?_cons_of_follows {j : PlannedJoin} {path : JoinPath} {r : ForeignRef}
    (rest : List PlannedJoin) (h : j.follows path = true) :
    nameAlong? (j :: rest) path r = j.nameFor? r := by
  simp [nameAlong?, h]

theorem nameAlong?_cons_of_not_follows {j : PlannedJoin} {path : JoinPath} {r : ForeignRef}
    (rest : List PlannedJoin) (h : ¬ j.follows path = true) :
    nameAlong? (j :: rest) path r = nameAlong? rest path r := by
  simp [nameAlong?, h]

theorem exists_of_nameAlong? {joins : List PlannedJoin} {path : JoinPath} {r : ForeignRef}
    {name : String} (h : nameAlong? joins path r = some name) :
    ∃ j ∈ joins, ∃ column ∈ j.columns, column.resultName = name := by
  obtain ⟨j, hj, hname⟩ := Option.bind_eq_some_iff.mp h
  obtain ⟨column, hcolumn, hresult⟩ := Option.map_eq_some_iff.mp hname
  exact ⟨j, List.mem_of_find?_eq_some hj, column, List.mem_of_find?_eq_some hcolumn, hresult⟩

/-! ## Asking for a column -/

section Ask

variable (used : SortedSet String) (channel : String) (r : ForeignRef)

/-- The answer is the name that is there, or else a fresh one. -/
theorem PlannedJoin.ask_name_eq (j : PlannedJoin) :
    (j.ask used channel r).2 = (j.nameFor? r).getD (freshName used r.baseName channel) := by
  unfold ask nameFor?
  cases j.columns.find? (·.serves r) <;> rfl

/-- Afterwards the sub-query has the answer as the name for the column, and the names from
before for all others. -/
theorem PlannedJoin.nameFor?_ask (j : PlannedJoin) (r' : ForeignRef) :
    (j.ask used channel r).1.nameFor? r' =
      if SameColumn r r' then some (j.ask used channel r).2 else j.nameFor? r' := by
  unfold ask
  cases hfind : j.columns.find? (·.serves r) with
  | some column =>
    by_cases hsame : SameColumn r r'
    · rw [if_pos hsame, ← j.nameFor?_congr hsame, nameFor?, hfind]
      rfl
    · rw [if_neg hsame]
  | none =>
    simp only [nameFor?, List.find?_append]
    by_cases hsame : SameColumn r r'
    · -- None of the columns from before serves, so the new one is found.
      have hnone : j.columns.find? (·.serves r') = none := by
        rw [← hfind]
        simp only [PlannedColumn.serves_congr _ hsame]
      have hnew : PlannedColumn.serves
          ⟨r.column, r.aggregate, freshName used r.baseName channel⟩ r' = true :=
        PlannedColumn.serves_iff.mpr hsame
      simp [hsame, hnone, hnew]
    · have hnew : ¬ PlannedColumn.serves
          ⟨r.column, r.aggregate, freshName used r.baseName channel⟩ r' = true :=
        fun hserves => hsame (PlannedColumn.serves_iff.mp hserves)
      simp [hsame, hnew]

variable (path : JoinPath)

theorem askAlong_name_eq (number : Nat) (joins : List PlannedJoin) :
    (askAlong used channel r path number joins).2.column =
      (nameAlong? joins path r).getD (freshName used r.baseName channel) := by
  induction joins generalizing number with
  | nil => rfl
  | cons join rest ih =>
    rw [askAlong]
    by_cases hfollows : join.follows path = true
    · rw [if_pos hfollows, nameAlong?_cons_of_follows rest hfollows]
      exact join.ask_name_eq used channel r
    · rw [if_neg hfollows, nameAlong?_cons_of_not_follows rest hfollows]
      exact ih (number + 1)

/-- Afterwards the sub-queries have the answer as the name for the column along the path, and
the names from before for all others. -/
theorem nameAlong?_askAlong (number : Nat) (joins : List PlannedJoin) (path' : JoinPath)
    (r' : ForeignRef) :
    nameAlong? (askAlong used channel r path number joins).1 path' r' =
      if SameJoins path path' ∧ SameColumn r r' then
        some (askAlong used channel r path number joins).2.column
      else nameAlong? joins path' r' := by
  have hasked : ∀ j : PlannedJoin, (j.ask used channel r).1.follows path' = j.follows path' :=
    fun j => by rw [PlannedJoin.follows, PlannedJoin.ask_path, PlannedJoin.follows]
  induction joins generalizing number with
  | nil =>
    rw [askAlong]
    by_cases hpath : SameJoins path path'
    · have hfollows : (PlannedJoin.ask ⟨"p" ++ toString number, path, []⟩ used channel r).1.follows
          path' = true := by
        rw [hasked]
        exact PlannedJoin.follows_iff.mpr hpath
      rw [nameAlong?_cons_of_follows [] hfollows, PlannedJoin.nameFor?_ask]
      simp only [hpath, true_and]
      rfl
    · have hfollows : ¬ (PlannedJoin.ask ⟨"p" ++ toString number, path, []⟩ used channel r).1.follows
          path' = true := by
        rw [hasked]
        exact fun h => hpath (PlannedJoin.follows_iff.mp h)
      rw [nameAlong?_cons_of_not_follows [] hfollows, if_neg fun h => hpath h.1]
  | cons join rest ih =>
    rw [askAlong]
    by_cases hfollows : join.follows path = true
    · rw [if_pos hfollows]
      by_cases hpath : SameJoins path path'
      · -- The sub-query that is asked is also the first one along the other path.
        have hfollows' : join.follows path' = true := by
          rwa [← join.follows_congr hpath]
        rw [nameAlong?_cons_of_follows rest hfollows', nameAlong?_cons_of_follows rest
          ((hasked join).trans hfollows'), PlannedJoin.nameFor?_ask]
        simp only [hpath, true_and]
      · have hfollows' : ¬ join.follows path' = true := by
          intro h
          have hjoins := PlannedJoin.follows_iff.mp hfollows
          exact hpath (hjoins.symm_trans (PlannedJoin.follows_iff.mp h))
        rw [nameAlong?_cons_of_not_follows rest hfollows', nameAlong?_cons_of_not_follows rest
          ((hasked join).symm ▸ hfollows'), if_neg fun h => hpath h.1]
    · -- The sub-query is left alone, and the first one along the other path may be this one.
      rw [if_neg hfollows]
      by_cases hfollows' : join.follows path' = true
      · have hpath : ¬ SameJoins path path' := fun h =>
          hfollows ((join.follows_congr h).trans hfollows')
        rw [nameAlong?_cons_of_follows _ hfollows', nameAlong?_cons_of_follows _ hfollows',
          if_neg fun h => hpath h.1]
      · rw [nameAlong?_cons_of_not_follows _ hfollows', nameAlong?_cons_of_not_follows _ hfollows']
        exact ih (number + 1)

end Ask

/-! ## Plans -/

/-- The names of planned columns are in use, and no two columns share one. -/
structure Plan.Distinct (p : Plan) : Prop where
  used : ∀ {path r name}, nameAlong? p.joins path r = some name → name ∈ p.used
  apart : ∀ {path path' r r' name}, nameAlong? p.joins path r = some name →
    nameAlong? p.joins path' r' = some name → SameJoins path path' ∧ SameColumn r r'

theorem distinct_start (source : Table) : (Plan.start source).Distinct where
  used := by
    intro path r name h
    cases h
  apart := by
    intro path path' r r' name h
    cases h

section AddReference

variable {p : Plan} {channel : String} {r : ForeignRef} {path : JoinPath} {found : List Warning}

/-- The column that a reference is given has the name that is planned for it from then on. -/
theorem nameAlong?_addReference (path' : JoinPath) (r' : ForeignRef) :
    nameAlong? (p.addReference channel r path found).joins path' r' =
      if SameJoins path path' ∧ SameColumn r r' then
        some (askAlong p.used channel r path 0 p.joins).2.column
      else nameAlong? p.joins path' r' :=
  nameAlong?_askAlong p.used channel r path 0 p.joins path' r'

/-- Planned names stay. -/
theorem nameAlong?_addReference_of_some {path' : JoinPath} {r' : ForeignRef} {name : String}
    (h : nameAlong? p.joins path' r' = some name) :
    nameAlong? (p.addReference channel r path found).joins path' r' = some name := by
  rw [nameAlong?_addReference]
  by_cases hsame : SameJoins path path' ∧ SameColumn r r'
  · -- The column is asked for again, and the answer is the name that it has.
    rw [if_pos hsame, askAlong_name_eq, nameAlong?_congr p.joins hsame.1 hsame.2, h]
    rfl
  · rwa [if_neg hsame]

/-- No other column has the name that a reference is given. -/
theorem Plan.Distinct.same_of_answer (hp : p.Distinct) {path' : JoinPath} {r' : ForeignRef}
    (h : nameAlong? p.joins path' r' =
      some (askAlong p.used channel r path 0 p.joins).2.column) :
    SameJoins path path' ∧ SameColumn r r' := by
  rw [askAlong_name_eq] at h
  cases hknown : nameAlong? p.joins path r with
  | some name =>
    rw [hknown] at h
    exact hp.apart hknown h
  | none =>
    rw [hknown] at h
    exact absurd (hp.used h) (freshName_not_mem p.used r.baseName channel)

theorem Plan.Distinct.addReference (hp : p.Distinct) :
    (p.addReference channel r path found).Distinct where
  used := by
    intro path' r' name h
    rw [nameAlong?_addReference] at h
    apply SortedSet.mem_insert.mpr
    by_cases hsame : SameJoins path path' ∧ SameColumn r r'
    · rw [if_pos hsame] at h
      exact .inl (Option.some.inj h).symm
    · rw [if_neg hsame] at h
      exact .inr (hp.used h)
  apart := by
    intro path₁ path₂ r₁ r₂ name h₁ h₂
    rw [nameAlong?_addReference] at h₁ h₂
    by_cases hsame₁ : SameJoins path path₁ ∧ SameColumn r r₁
    · -- The first column is the one that is asked for, and so is the second by its name.
      have hsame₂ : SameJoins path path₂ ∧ SameColumn r r₂ := by
        by_contra hsame₂
        rw [if_pos hsame₁] at h₁
        rw [if_neg hsame₂, ← h₁] at h₂
        exact hsame₂ (hp.same_of_answer h₂)
      exact ⟨hsame₁.1.symm_trans hsame₂.1, hsame₁.2.symm_trans hsame₂.2⟩
    · have hsame₂ : ¬ (SameJoins path path₂ ∧ SameColumn r r₂) := by
        intro hsame₂
        rw [if_pos hsame₂] at h₂
        rw [if_neg hsame₁, ← h₂] at h₁
        exact hsame₁ (hp.same_of_answer h₁)
      rw [if_neg hsame₁] at h₁
      rw [if_neg hsame₂] at h₂
      exact hp.apart h₁ h₂

end AddReference

theorem Plan.Distinct.addChannels {c : Catalog} {a : String} {markTables : SortedMap MarkId String}
    {channels : List (String × Channel)} {p p' : Plan} (hp : p.Distinct)
    (h : p.addChannels c a markTables channels = .ok p') : p'.Distinct := by
  apply addChannels_keeps (I := fun p => p.Distinct) _ h hp
  intro channel _ p p' hadd hp
  rcases addChannel_cases hadd with ⟨attr, -, rfl⟩ | ⟨r, path, found, -, -, rfl⟩ | rfl
  · exact ⟨hp.used, hp.apart⟩
  · exact hp.addReference
  · exact hp

/-! ## Columns of channels -/

variable {c : Catalog} {a : String} {markTables : SortedMap MarkId String}

/-- What a plan says of the columns of some channels: those with values from the query have
one, which is the attribute for a column, and for a reference the planned name. -/
structure Plan.Names (c : Catalog) (a : String) (markTables : SortedMap MarkId String)
    (channels : List (String × Channel)) (p : Plan) : Prop where
  queried : ∀ name, (∃ column, p.columns.find? name = some column) ↔
    ∃ channel, (name, channel) ∈ channels ∧ channel.IsQueried
  own : ∀ {name channel attr}, (name, channel) ∈ channels → channel.column? = some attr →
    p.columns.find? name = some attr
  foreign : ∀ {name channel r}, (name, channel) ∈ channels → channel.foreign? = some r →
    ∃ path found column, Reference.resolve c a markTables r = .ok (path, found) ∧
      nameAlong? p.joins path r = some column ∧ p.columns.find? name = some column

theorem names_start (source : Table) : (Plan.start source).Names c a markTables [] where
  queried := by simp [Plan.start]
  own := by simp
  foreign := by simp

variable {channels : List (String × Channel)} {p p' : Plan} {name column : String}
  {channel : Channel}

/-- A channel of a new name is given a column, and the others keep theirs. -/
theorem Plan.Names.extend (hp : p.Names c a markTables channels)
    (hnew : ∀ other, (name, other) ∉ channels) (hcolumns : p'.columns = p.columns.insert name column)
    (hkeeps : ∀ {path r column}, nameAlong? p.joins path r = some column →
      nameAlong? p'.joins path r = some column)
    (hqueried : channel.IsQueried) (hown : ∀ attr, channel.column? = some attr → attr = column)
    (hforeign : ∀ r, channel.foreign? = some r → ∃ path found,
      Reference.resolve c a markTables r = .ok (path, found) ∧
        nameAlong? p'.joins path r = some column) :
    p'.Names c a markTables (channels ++ [(name, channel)]) := by
  have hself : p'.columns.find? name = some column := by
    rw [hcolumns, SortedMap.find?_insert, if_pos rfl]
  have hother : ∀ {name' channel'}, (name', channel') ∈ channels →
      p'.columns.find? name' = p.columns.find? name' := by
    intro name' channel' hmem
    have hne : name' ≠ name := by
      rintro rfl
      exact hnew channel' hmem
    rw [hcolumns, SortedMap.find?_insert, if_neg hne]
  constructor
  case queried =>
    intro name'
    by_cases heq : name' = name
    · rw [heq]
      exact ⟨fun _ => ⟨channel, by simp, hqueried⟩, fun _ => ⟨column, hself⟩⟩
    · have hold : p'.columns.find? name' = p.columns.find? name' := by
        rw [hcolumns, SortedMap.find?_insert, if_neg heq]
      rw [hold, hp.queried name']
      simp [heq]
  case own =>
    intro name' channel' attr hmem hattr
    rcases List.mem_append.mp hmem with hmem | hmem
    · rw [hother hmem]
      exact hp.own hmem hattr
    · obtain ⟨rfl, rfl⟩ := Prod.mk.inj (List.mem_singleton.mp hmem)
      rw [hown attr hattr]
      exact hself
  case foreign =>
    intro name' channel' r hmem hr
    rcases List.mem_append.mp hmem with hmem | hmem
    · obtain ⟨path, found, column', hresolve, hname, hcolumn⟩ := hp.foreign hmem hr
      exact ⟨path, found, column', hresolve, hkeeps hname, (hother hmem).trans hcolumn⟩
    · obtain ⟨rfl, rfl⟩ := Prod.mk.inj (List.mem_singleton.mp hmem)
      obtain ⟨path, found, hresolve, hname⟩ := hforeign r hr
      exact ⟨path, found, column, hresolve, hname, hself⟩

/-- A channel that needs nothing of the query changes nothing. -/
theorem Plan.Names.skip (hp : p.Names c a markTables channels) (hcolumn : channel.column? = none)
    (hforeign : channel.foreign? = none) :
    p.Names c a markTables (channels ++ [(name, channel)]) where
  queried := by
    intro name'
    have hnot : ¬ channel.IsQueried := by simp [Channel.IsQueried, hcolumn, hforeign]
    rw [hp.queried name']
    constructor
    · rintro ⟨other, hmem, hother⟩
      exact ⟨other, List.mem_append_left _ hmem, hother⟩
    · rintro ⟨other, hmem, hother⟩
      rcases List.mem_append.mp hmem with hmem | hmem
      · exact ⟨other, hmem, hother⟩
      · obtain ⟨-, rfl⟩ := Prod.mk.inj (List.mem_singleton.mp hmem)
        exact absurd hother hnot
  own := by
    intro name' channel' attr hmem hattr
    rcases List.mem_append.mp hmem with hmem | hmem
    · exact hp.own hmem hattr
    · obtain ⟨-, rfl⟩ := Prod.mk.inj (List.mem_singleton.mp hmem)
      rw [hcolumn] at hattr
      cases hattr
  foreign := by
    intro name' channel' r hmem hr
    rcases List.mem_append.mp hmem with hmem | hmem
    · exact hp.foreign hmem hr
    · obtain ⟨-, rfl⟩ := Prod.mk.inj (List.mem_singleton.mp hmem)
      rw [hforeign] at hr
      cases hr

theorem Plan.Names.addChannel (hp : p.Names c a markTables channels)
    (hnew : ∀ other, (name, other) ∉ channels)
    (h : p.addChannel c a markTables name channel = .ok p') :
    p'.Names c a markTables (channels ++ [(name, channel)]) := by
  cases hcolumn : channel.column? with
  | some attr =>
    simp only [Plan.addChannel, hcolumn] at h
    cases h
    have hqueried : channel.IsQueried := .inl (by rw [hcolumn]; rfl)
    refine hp.extend hnew rfl id hqueried ?_ ?_
    · intro attr' hattr'
      exact (Option.some.inj (hcolumn.symm.trans hattr')).symm
    · intro r hr
      rw [column?_of_foreign? hr] at hcolumn
      cases hcolumn
  | none =>
    cases hr : channel.foreign? with
    | none =>
      simp only [Plan.addChannel, hcolumn, hr] at h
      cases h
      exact hp.skip hcolumn hr
    | some r =>
      simp only [Plan.addChannel, hcolumn, hr] at h
      split at h
      · cases h
      case h_2 path found hresolve =>
        cases h
        have hqueried : channel.IsQueried := .inr (by rw [hr]; rfl)
        refine hp.extend hnew rfl nameAlong?_addReference_of_some hqueried ?_ ?_
        · intro attr hattr
          rw [hcolumn] at hattr
          cases hattr
        · rintro r' hr'
          obtain rfl := Option.some.inj (hr.symm.trans hr')
          refine ⟨path, found, hresolve, ?_⟩
          rw [nameAlong?_addReference, if_pos ⟨⟨rfl, rfl⟩, rfl, rfl⟩]

/-- Adding channels of different names in order. `done` are those that come before. -/
theorem Plan.Names.addChannels {done : List (String × Channel)} (hp : p.Names c a markTables done)
    (hnames : ((done ++ channels).map Prod.fst).Nodup)
    (h : p.addChannels c a markTables channels = .ok p') :
    p'.Names c a markTables (done ++ channels) := by
  induction channels generalizing p done with
  | nil =>
    cases h
    rwa [List.append_nil]
  | cons first rest ih =>
    obtain ⟨name, channel⟩ := first
    simp only [Plan.addChannels] at h
    split at h
    · cases h
    case h_2 p₁ hadd =>
      have hnew : ∀ other, (name, other) ∉ done := by
        intro other hmem
        rw [List.map_append, List.nodup_append] at hnames
        exact hnames.2.2 name (List.mem_map_of_mem hmem) name (by simp) rfl
      rw [List.append_cons] at hnames ⊢
      exact ih (hp.addChannel hnew hadd) hnames h

end MarkQuery

open MarkQuery

/-- The result columns of a mark's channels tell what the channels refer to. Those channels have
one that are backed by a column of the mark's table, which is then the column, or by a reference
elsewhere, which is resolved to a path. The column of a reference has a name that neither the
mark's own rows nor the outer rows use, and two references have the same column exactly if they
are resolved to the same joins to the same table and are to the same column, summarised in the
same way. -/
theorem result_columns_identify_references (c : Catalog) (m : Mark) (parent : Option JoinPath)
    (markTables : SortedMap MarkId String) (q : MarkQuery)
    (hnames : (m.channels.map Prod.fst).Nodup) (h : m.compile c parent markTables = .ok q) :
    ∃ source, c.table m.source = .ok source ∧
      (∀ name, (∃ column, q.columns.find? name = some column) ↔
        ∃ channel, (name, channel) ∈ m.channels ∧ channel.IsQueried) ∧
      (∀ name channel attr, (name, channel) ∈ m.channels → channel.column? = some attr →
        q.columns.find? name = some attr) ∧
      (∀ name channel r, (name, channel) ∈ m.channels → channel.foreign? = some r →
        ∃ path, m.Refers c markTables name r path) ∧
      (∀ name r path, m.Refers c markTables name r path →
        ∃ column, q.columns.find? name = some column ∧ source.schema.declares column = false ∧
          column ≠ rowId ∧ column ≠ parentId) ∧
      ∀ name r path name' r' path', m.Refers c markTables name r path →
        m.Refers c markTables name' r' path' →
        (q.columns.find? name = q.columns.find? name' ↔
          (path.signature = path'.signature ∧ path.destination = path'.destination) ∧
            r.column = r'.column ∧ r.aggregate = r'.aggregate) := by
  obtain ⟨source, plan, parents, paths, hq⟩ := exists_compiled h
  have hplan : plan.Names c m.source markTables m.channels :=
    (names_start source).addChannels hnames hq.planned
  have hdistinct := (distinct_start source).addChannels hq.planned
  -- A reference has the name that is planned for it along its path.
  have hplanned : ∀ {name r path}, m.Refers c markTables name r path →
      ∃ column, nameAlong? plan.joins path r = some column ∧
        plan.columns.find? name = some column := by
    rintro name r path ⟨channel, found, hmem, hr, hresolve⟩
    obtain ⟨path', found', column, hresolve', hname, hcolumn⟩ := hplan.foreign hmem hr
    obtain ⟨rfl, -⟩ := Prod.mk.inj (Except.ok.inj (hresolve.symm.trans hresolve'))
    exact ⟨column, hname, hcolumn⟩
  refine ⟨source, hq.known, ?_, ?_, ?_, ?_, ?_⟩
  · rw [hq.columns]
    exact hplan.queried
  · intro name channel attr hmem hattr
    rw [hq.columns]
    exact hplan.own hmem hattr
  · intro name channel r hmem hr
    obtain ⟨path, found, column, hresolve, -⟩ := hplan.foreign hmem hr
    exact ⟨path, channel, found, hmem, hr, hresolve⟩
  · intro name r path hrefers
    obtain ⟨column, hname, hcolumn⟩ := hplanned hrefers
    obtain ⟨j, hj, planned, hmem, hresult⟩ := exists_of_nameAlong? hname
    -- A name that the plan starts with is never given to a planned column.
    have hfree : column ∉ source.schema.names ++ [rowId, parentId] := by
      intro hused
      have hreserves := (reserves_start source hused).addChannels hq.planned
      exact hreserves.differs j hj planned hmem hresult
    simp only [List.mem_append, List.mem_cons, List.not_mem_nil, or_false, not_or] at hfree
    rw [hq.columns]
    exact ⟨column, hcolumn, by simpa [Schema.declares] using hfree.1, hfree.2⟩
  · intro name r path name' r' path' hrefers hrefers'
    obtain ⟨column, hname, hcolumn⟩ := hplanned hrefers
    obtain ⟨column', hname', hcolumn'⟩ := hplanned hrefers'
    rw [hq.columns, hcolumn, hcolumn']
    constructor
    · -- A name belongs to one column along one path.
      intro heq
      rw [← heq] at hname'
      exact hdistinct.apart hname hname'
    · rintro ⟨hpath, hr⟩
      rw [← hname, ← hname']
      exact nameAlong?_congr plan.joins hpath hr

/-- The district for a sale, by the shortest path. -/
def nearestDistrict : ForeignRef := ⟨some "name", none, .table "districts", none, none, none⟩

/-- Sales that show a district by the deal, once more as a title, and the nearest one. -/
def describedSales : Mark :=
  .ofSpec ⟨1⟩ { source := "sales", shape := .text }
    [("text", .foreign districtByDeal), ("title", .foreign districtByDeal),
     ("near", .foreign nearestDistrict)] "mark_1"

/-- The title shares a column with the text, and the nearest district has one of its own. -/
theorem result_columns_identify_references_sales : ∃ q,
    describedSales.compile (Catalog.reached salesCalls) none .empty = .ok q ∧
      q.columns.find? "text" = q.columns.find? "title" ∧
      q.columns.find? "text" ≠ q.columns.find? "near" := by
  have hok : (describedSales.compile (Catalog.reached salesCalls) none .empty).map
      (fun q => q.paths.map JoinPath.signature) =
        .ok [salePath.signature, [⟨4⟩, ⟨0⟩]] := by decide +kernel
  obtain ⟨q, hq, -⟩ := Except.map_eq_ok.mp hok
  obtain ⟨source, -, -, -, -, -, hsame⟩ := result_columns_identify_references
    (Catalog.reached salesCalls) describedSales none .empty q (by decide) hq
  have hdeal : Reference.resolve (Catalog.reached salesCalls) "sales" .empty districtByDeal =
      .ok (salePath, []) := by decide +kernel
  have hshort : (Reference.resolve (Catalog.reached salesCalls) "sales" .empty
      nearestDistrict).map (·.1.signature) = .ok [⟨4⟩, ⟨0⟩] := by decide +kernel
  obtain ⟨⟨path, found⟩, hpath, hsignature⟩ := Except.map_eq_ok.mp hshort
  have htext : describedSales.Refers (Catalog.reached salesCalls) .empty "text" districtByDeal
      salePath := ⟨_, [], .head _, rfl, hdeal⟩
  have htitle : describedSales.Refers (Catalog.reached salesCalls) .empty "title" districtByDeal
      salePath := ⟨_, [], .tail _ (.head _), rfl, hdeal⟩
  have hnear : describedSales.Refers (Catalog.reached salesCalls) .empty "near" nearestDistrict
      path := ⟨_, found, .tail _ (.tail _ (.head _)), rfl, hpath⟩
  refine ⟨q, hq, ?_, ?_⟩
  · exact (hsame _ _ _ _ _ _ htext htitle).mpr ⟨⟨rfl, rfl⟩, rfl, rfl⟩
  · intro heq
    have hjoins := ((hsame _ _ _ _ _ _ htext hnear).mp heq).1.1
    rw [hsignature] at hjoins
    cases hjoins

end KeyChart
