import KeyChart.Proofs.JoinedRows
import KeyChart.Proofs.Query.Plans

/-!
# Rows of a chain

What the chain of a sub-query returns: rows of its tables side by side, each
table joined to what stands there already. An inner chain drops what meets
nothing, an outer chain leaves the place empty. Along steps that multiply no
rows, a row of the first table starts at most one such row, whether the chain is
inner or outer.
-/

namespace KeyChart

/-- The attribute that a column holds. -/
def ColumnName.attribute : ColumnName → String
  | .implicitRowId => rowId
  | .declared name => name

@[simp] theorem Table.attribute_column (t : Table) (attr : String) :
    (t.column attr).attribute = attr := by
  unfold column
  split
  case isTrue h =>
    simp only [Bool.and_eq_true, beq_iff_eq] at h
    exact h.1.symm
  case isFalse => rfl

namespace Population

open Query

variable {ρ ν : Type} (p : Population ρ ν)

/-- The value in a column of rows that stand side by side. An empty place has
no values. -/
def cell (tuple : List (Option ρ)) (column : ChainColumn) : Option ν :=
  tuple[column.place]?.join.map fun r => p.value r column.name.attribute

/-- Whether rows side by side agree on the columns of a join. What is empty
agrees with nothing. -/
def Admits (j : ChainJoin) (tuple : List (Option ρ)) : Prop :=
  ∀ pair ∈ j.pairs, ∃ v w, p.cell tuple pair.1 = some v ∧ p.cell tuple pair.2 = some w ∧
    p.agrees v w

/-- One more table joined to rows that stand side by side. -/
inductive Extends (isOuter : Bool) (j : ChainJoin) (tuple : List (Option ρ)) :
    List (Option ρ) → Prop where
  | row {s : ρ} : s ∈ p.rows j.table → p.Admits j (tuple ++ [some s]) →
      Extends isOuter j tuple (tuple ++ [some s])
  | alone : isOuter = true → (∀ s ∈ p.rows j.table, ¬ p.Admits j (tuple ++ [some s])) →
      Extends isOuter j tuple (tuple ++ [none])

/-- Several tables joined, one to the next. -/
inductive Chained (isOuter : Bool) : List ChainJoin → List (Option ρ) → List (Option ρ) → Prop where
  | done (tuple : List (Option ρ)) : Chained isOuter [] tuple tuple
  | join {j : ChainJoin} {rest : List ChainJoin} {tuple tuple' tuple'' : List (Option ρ)} :
      p.Extends isOuter j tuple tuple' → Chained isOuter rest tuple' tuple'' →
      Chained isOuter (j :: rest) tuple tuple''

/-- The rows of a chain that a row of its first table starts. -/
def ChainRow (chain : Chain) (r : ρ) (tuple : List (Option ρ)) : Prop :=
  r ∈ p.rows chain.first ∧ p.Chained chain.isOuter chain.joins [some r] tuple

/-- Whether a sub-query returns one row for two rows of its chain: for the same
one, and for all of a group if it has groups. -/
def Merged (s : Subquery) (tuple tuple' : List (Option ρ)) : Prop :=
  if s.groupBy.isEmpty then tuple = tuple'
  else ∀ column ∈ s.groupBy, p.cell tuple column = p.cell tuple' column

variable {p} {isOuter : Bool} {tuple tuple' tuple'' : List (Option ρ)}

/-! ## Joining one table -/

theorem Extends.exists_append {j : ChainJoin} (h : p.Extends isOuter j tuple tuple') :
    ∃ place, tuple' = tuple ++ [place] := by
  cases h with
  | row => exact ⟨_, rfl⟩
  | alone => exact ⟨_, rfl⟩

/-- If at most one row is admitted, a join has at most one result. -/
theorem Extends.unique {j : ChainJoin}
    (hone : ∀ s ∈ p.rows j.table, ∀ s' ∈ p.rows j.table, p.Admits j (tuple ++ [some s]) →
      p.Admits j (tuple ++ [some s']) → s = s')
    (h : p.Extends isOuter j tuple tuple') (h' : p.Extends isOuter j tuple tuple'') :
    tuple' = tuple'' := by
  cases h with
  | row hs hadmits =>
    cases h' with
    | row hs' hadmits' => rw [hone _ hs _ hs' hadmits hadmits']
    | alone _ hnone => exact absurd hadmits (hnone _ hs)
  | alone _ hnone =>
    cases h' with
    | row hs' hadmits' => exact absurd hadmits' (hnone _ hs')
    | alone => rfl

theorem cell_last {column : ChainColumn} {place : Option ρ} (h : column.place = tuple.length) :
    p.cell (tuple ++ [place]) column = place.map fun r => p.value r column.name.attribute := by
  simp [cell, h]

theorem cell_append {column : ChainColumn} {places : List (Option ρ)}
    (h : column.place < tuple.length) :
    p.cell (tuple ++ places) column = p.cell tuple column := by
  simp [cell, List.getElem?_append_left h]

/-- The join that a step becomes, behind the table at some place. -/
def joinAlong (source target : Table) (place : Nat) (step : JoinStep) : ChainJoin :=
  ⟨step.target.table, (step.source.attrs.zip step.target.attrs).map fun pair =>
    (⟨place, source.column pair.1⟩, ⟨place + 1, target.column pair.2⟩)⟩

/-- An admitted row agrees with the row in the place before it, if the join has
columns at all. -/
theorem Admits.agrees {source target : Table} {place : Nat} {step : JoinStep} {s : ρ}
    (hlen : tuple.length = place + 1)
    (h : p.Admits (joinAlong source target place step) (tuple ++ [some s]))
    {pair : String × String} (hpair : pair ∈ step.source.attrs.zip step.target.attrs) :
    ∃ r, tuple[place]?.join = some r ∧ p.agrees (p.value r pair.1) (p.value s pair.2) := by
  obtain ⟨v, w, hv, hw, hagrees⟩ := h _ (List.mem_map.mpr ⟨pair, hpair, rfl⟩)
  rw [cell_append (by show place < tuple.length; omega)] at hv
  rw [cell_last hlen.symm] at hw
  simp only [cell, Table.attribute_column, Option.map_eq_some_iff] at hv
  obtain ⟨r, hr, rfl⟩ := hv
  simp only [Option.map_some, Table.attribute_column, Option.some.injEq] at hw
  rw [hw]
  exact ⟨r, hr, hagrees⟩

/-- Two rows that are admitted in one place are met by one row. -/
theorem exists_meets {source target : Table} {place : Nat} {step : JoinStep} {s s' : ρ}
    (hlen : tuple.length = place + 1) (hs : s ∈ p.rows step.target.table)
    (hs' : s' ∈ p.rows step.target.table)
    (h : p.Admits (joinAlong source target place step) (tuple ++ [some s]))
    (h' : p.Admits (joinAlong source target place step) (tuple ++ [some s'])) :
    ∃ r, p.Meets step r s ∧ p.Meets step r s' := by
  cases hplace : tuple[place]?.join with
  | some r =>
    have hmeets : ∀ {u : ρ}, u ∈ p.rows step.target.table →
        p.Admits (joinAlong source target place step) (tuple ++ [some u]) → p.Meets step r u := by
      intro u hu hadmits
      refine ⟨hu, ?_⟩
      intro pair hpair
      obtain ⟨r', hr', hagrees⟩ := hadmits.agrees hlen hpair
      rw [hplace] at hr'
      cases hr'
      exact hagrees
    exact ⟨r, hmeets hs h, hmeets hs' h'⟩
  | none =>
    -- Behind an empty place only a join without columns admits a row, and it admits all.
    have hnone : ∀ pair ∈ step.source.attrs.zip step.target.attrs, False := by
      intro pair hpair
      obtain ⟨r, hr, -⟩ := h.agrees hlen hpair
      rw [hplace] at hr
      cases hr
    exact ⟨s, ⟨hs, fun pair hpair => (hnone pair hpair).elim⟩,
      ⟨hs', fun pair hpair => (hnone pair hpair).elim⟩⟩

/-! ## Whole chains -/

theorem Chained.exists_append {joins : List ChainJoin} (h : p.Chained isOuter joins tuple tuple') :
    ∃ places, tuple' = tuple ++ places := by
  induction h with
  | done tuple => exact ⟨[], by simp⟩
  | join hjoin _ ih =>
    obtain ⟨place, rfl⟩ := hjoin.exists_append
    obtain ⟨places, rfl⟩ := ih
    exact ⟨place :: places, by simp⟩

theorem chainJoins_cons_eq_ok {c : Catalog} {place : Nat} {step : JoinStep}
    {rest : List JoinStep} {joins : List ChainJoin}
    (h : MarkQuery.chainJoins c place (step :: rest) = .ok joins) :
    ∃ source target joins', MarkQuery.chainJoins c (place + 1) rest = .ok joins' ∧
      joins = joinAlong source target place step :: joins' := by
  simp only [MarkQuery.chainJoins] at h
  split at h
  · cases h
  · cases h
  case h_3 source target _ _ =>
    obtain ⟨joins', hjoins', rfl⟩ := Except.map_eq_ok.mp h
    exact ⟨source, target, joins', hjoins', rfl⟩

/-- Along steps that multiply no rows, joining has at most one result. -/
theorem Chained.unique {c : Catalog} {steps : List JoinStep} {place : Nat}
    {joins : List ChainJoin} (hsteps : ∀ step ∈ steps, p.Functional step)
    (hjoins : MarkQuery.chainJoins c place steps = .ok joins) (hlen : tuple.length = place + 1)
    (h : p.Chained isOuter joins tuple tuple') (h' : p.Chained isOuter joins tuple tuple'') :
    tuple' = tuple'' := by
  induction steps generalizing place joins tuple with
  | nil =>
    cases hjoins
    cases h
    cases h'
    rfl
  | cons step rest ih =>
    obtain ⟨source, target, joins', hjoins', rfl⟩ := chainJoins_cons_eq_ok hjoins
    cases h with
    | join hfirst hrest =>
      cases h' with
      | join hfirst' hrest' =>
        have hone : ∀ s ∈ p.rows step.target.table, ∀ s' ∈ p.rows step.target.table,
            p.Admits (joinAlong source target place step) (tuple ++ [some s]) →
            p.Admits (joinAlong source target place step) (tuple ++ [some s']) → s = s' := by
          intro s hs s' hs' hadmits hadmits'
          obtain ⟨r, hmeets, hmeets'⟩ := exists_meets hlen hs hs' hadmits hadmits'
          exact hsteps step (by simp) r s s' hmeets hmeets'
        -- The joined row is the same in both, so the rest starts from the same rows.
        obtain rfl := hfirst.unique hone hfirst'
        obtain ⟨next, rfl⟩ := hfirst.exists_append
        exact ih (fun s hs => hsteps s (by simp [hs])) hjoins' (by simp [hlen]) hrest hrest'

/-- Along a path whose steps multiply no rows, a row starts at most one row of
the chain. -/
theorem ChainRow.unique {c : Catalog} {path : JoinPath} {chain : Chain} {r : ρ}
    (hsteps : ∀ step ∈ path.steps, p.Functional step)
    (hchain : MarkQuery.chainAlong c path isOuter = .ok chain)
    (h : p.ChainRow chain r tuple) (h' : p.ChainRow chain r tuple') : tuple = tuple' := by
  obtain ⟨joins, hjoins, rfl⟩ := Except.map_eq_ok.mp hchain
  exact h.2.unique hsteps hjoins rfl h'.2

/-- A row of the chain begins with the row that starts it. -/
theorem ChainRow.cell_first {chain : Chain} {r : ρ} (h : p.ChainRow chain r tuple)
    (name : ColumnName) : p.cell tuple ⟨0, name⟩ = some (p.value r name.attribute) := by
  obtain ⟨places, rfl⟩ := h.2.exists_append
  simp [cell]

end Population

end KeyChart
