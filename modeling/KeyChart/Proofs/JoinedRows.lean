import KeyChart.Proofs.Catalog.Calls
import Mathlib.Data.Set.Basic

/-!
# Rows joined along a path

What a join does to rows: a row meets those rows of the next table that hold the
same values under the joined attributes. If the attributes entered are a key of
their table, a row meets at most one row, and so it does along a whole path.
-/

namespace KeyChart

/-- Rows of tables and the values that they hold. `agrees` says which values a
join takes for equal; a null may agree with nothing, not even with itself. -/
structure Population (ρ ν : Type) where
  rows : String → Set ρ
  value : ρ → String → ν
  agrees : ν → ν → Prop
  symm : ∀ {v w : ν}, agrees v w → agrees w v
  trans : ∀ {u v w : ν}, agrees u v → agrees v w → agrees u w

namespace Population

variable {ρ ν : Type} (p : Population ρ ν)

/-- Two rows agree on all of some attributes. -/
def AgreeOn (attrs : List String) (r s : ρ) : Prop :=
  ∀ a ∈ attrs, p.agrees (p.value r a) (p.value s a)

/-- Two rows of a table that agree on one of its candidate keys are the same. -/
def Keyed (c : Catalog) : Prop :=
  ∀ name t, c.table name = .ok t → ∀ key ∈ t.keys, ∀ r ∈ p.rows name, ∀ s ∈ p.rows name,
    p.AgreeOn key.members r s → r = s

/-- A row meets a row of the table that a step enters. -/
def Meets (step : JoinStep) (r s : ρ) : Prop :=
  s ∈ p.rows step.target.table ∧
    ∀ pair ∈ step.source.attrs.zip step.target.attrs, p.agrees (p.value r pair.1) (p.value s pair.2)

/-- Along a step no row meets two rows. -/
def Functional (step : JoinStep) : Prop :=
  ∀ r s s', p.Meets step r s → p.Meets step r s' → s = s'

/-- Along no step of the catalog's graph of joins a row meets two rows. -/
def Respects (c : Catalog) : Prop := ∀ step ∈ c.joinGraph.steps, p.Functional step

/-- Rows joined along steps: each meets the next. -/
inductive Joined : List JoinStep → ρ → ρ → Prop where
  | stay (r : ρ) : Joined [] r r
  | step {s : JoinStep} {rest : List JoinStep} {r r' d : ρ} :
      p.Meets s r r' → Joined rest r' d → Joined (s :: rest) r d

variable {p}

/-- If no step multiplies rows, neither do the steps together. -/
theorem Joined.unique {steps : List JoinStep} (hsteps : ∀ s ∈ steps, p.Functional s) {r d d' : ρ}
    (h : p.Joined steps r d) (h' : p.Joined steps r d') : d = d' := by
  induction h with
  | stay r =>
    cases h'
    rfl
  | step hmeets _ ih =>
    cases h' with
    | step hmeets' hrest' =>
      have heq := hsteps _ (by simp) _ _ _ hmeets hmeets'
      subst heq
      exact ih (fun s hs => hsteps s (by simp [hs])) hrest'

theorem Meets.agreeOn {step : JoinStep} {r s s' : ρ}
    (hlen : step.source.attrs.length = step.target.attrs.length) (h : p.Meets step r s)
    (h' : p.Meets step r s') : p.AgreeOn step.target.attrs s s' := by
  intro a ha
  obtain ⟨i, hi, rfl⟩ := List.getElem_of_mem ha
  -- The lists are of one length, so each attribute entered has a partner.
  have hmem : (step.source.attrs[i], step.target.attrs[i])
      ∈ step.source.attrs.zip step.target.attrs := by
    refine List.mem_iff_getElem.mpr ⟨i, by simp [hlen, hi], ?_⟩
    rw [List.getElem_zip]
  exact p.trans (p.symm (h.2 _ hmem)) (h'.2 _ hmem)

/-- A step that enters a table by one of its keys multiplies no rows. -/
theorem Keyed.functional {c : Catalog} (hp : p.Keyed c) {step : JoinStep} {t : Table}
    (hlen : step.source.attrs.length = step.target.attrs.length)
    (ht : c.table step.target.table = .ok t) (hkey : step.target.key ∈ t.keys) :
    p.Functional step := by
  intro r s s' h h'
  refine hp _ t ht _ hkey s h.1 s' h'.1 ?_
  intro a ha
  exact h.agreeOn hlen h' a (SortedSet.mem_ofList.mp ha)

end Population

end KeyChart
