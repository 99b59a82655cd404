import KeyChart.Proofs.Attempt

/-!
# Two runs side by side

Two computations agree if both have results that belong together, or both fail. Two operations
agree if they do so from any two states that belong together and lead to two such states again,
whether they succeed or fail. Operations made of parts agree if their parts do.
-/

namespace KeyChart

/-! ## Results -/

/-- Two computations both have a result, and these are related, or both fail. -/
inductive Except.Agree {ε α β : Type} (V : α → β → Prop) : Except ε α → Except ε β → Prop where
  | ok {a : α} {b : β} (h : V a b) : Agree V (.ok a) (.ok b)
  | error (e e' : ε) : Agree V (.error e) (.error e')

namespace Except

variable {ε α β γ δ : Type} {V : α → β → Prop} {W : γ → δ → Prop}

theorem Agree.isOk_eq {x : Except ε α} {y : Except ε β} (h : Agree V x y) : x.isOk = y.isOk := by
  cases h <;> rfl

theorem agree_self (x : Except ε α) : Agree Eq x x := by
  cases x with
  | error e => exact .error e e
  | ok a => exact .ok rfl

theorem Agree.map {x : Except ε α} {y : Except ε β} {f : α → γ} {g : β → δ} (h : Agree V x y)
    (hfg : ∀ a b, V a b → W (f a) (g b)) : Agree W (x.map f) (y.map g) := by
  cases h with
  | ok hab => exact .ok (hfg _ _ hab)
  | error e e' => exact .error e e'

theorem Agree.bind {x : Except ε α} {y : Except ε β} {f : α → Except ε γ} {g : β → Except ε δ}
    (h : Agree V x y) (hfg : ∀ a b, V a b → Agree W (f a) (g b)) :
    Agree W (x >>= f) (y >>= g) := by
  cases h with
  | ok hab => exact hfg _ _ hab
  | error e e' => exact .error e e'

end Except

namespace Attempt

variable {σ τ α β γ δ : Type}

/-! ## Operations -/

/-- From states that belong together two operations lead to such states again; either both
succeed, with related results, or both fail. -/
def Agree (R : σ → τ → Prop) (V : α → β → Prop) (op : Attempt σ α) (op' : Attempt τ β) : Prop :=
  ∀ s s', R s s' → Except.Agree V (op.run.run s).1 (op'.run.run s').1 ∧ R (op.after s) (op'.after s')

variable {R : σ → τ → Prop} {V : α → β → Prop} {W : γ → δ → Prop}

theorem agree_pure {a : α} {b : β} (h : V a b) :
    Agree R V (pure a : Attempt σ α) (pure b : Attempt τ β) :=
  fun _ _ hs => ⟨.ok h, hs⟩

theorem agree_ofExcept {x : Except Error α} {y : Except Error β} (h : Except.Agree V x y) :
    Agree R V (ofExcept x : Attempt σ α) (ofExcept y : Attempt τ β) :=
  fun _ _ hs => ⟨h, hs⟩

/-- The states that are looked at belong together. -/
theorem agree_get : Agree R R (get : Attempt σ σ) (get : Attempt τ τ) :=
  fun _ _ hs => ⟨.ok hs, hs⟩

theorem agree_atomic {f : σ → Except Error (α × σ)} {g : τ → Except Error (β × τ)}
    (h : ∀ s s', R s s' → Except.Agree (fun r r' => V r.1 r'.1 ∧ R r.2 r'.2) (f s) (g s')) :
    Agree R V (atomic f) (atomic g) := by
  intro s s' hs
  have hfg := h s s' hs
  rw [after, after, run_atomic, run_atomic]
  cases hf : f s with
  | ok r =>
    cases hg : g s' with
    | ok r' =>
      rw [hf, hg] at hfg
      cases hfg with
      | ok hr => exact ⟨.ok hr.1, hr.2⟩
    | error e =>
      rw [hf, hg] at hfg
      cases hfg
  | error e =>
    cases hg : g s' with
    | ok r' =>
      rw [hf, hg] at hfg
      cases hfg
    | error e' => exact ⟨.error e e', hs⟩

theorem agree_bind {op : Attempt σ α} {op' : Attempt τ β} {f : α → Attempt σ γ}
    {g : β → Attempt τ δ} (hop : Agree R V op op') (hfg : ∀ a b, V a b → Agree R W (f a) (g b)) :
    Agree R W (op >>= f) (op' >>= g) := by
  intro s s' hs
  obtain ⟨hresult, hafter⟩ := hop s s' hs
  rw [after, after] at hafter
  rw [after, after, run_bind, run_bind]
  cases hrun : op.run.run s with
  | mk r t =>
    cases hrun' : op'.run.run s' with
    | mk r' t' =>
      rw [hrun, hrun'] at hresult hafter
      cases hresult with
      | ok hab => exact hfg _ _ hab t t' hafter
      | error e e' => exact ⟨.error e e', hafter⟩

theorem agree_ite {c : Prop} [Decidable c] {op₁ op₂ : Attempt σ α} {op₁' op₂' : Attempt τ β}
    (h : Agree R V op₁ op₁') (h' : Agree R V op₂ op₂') :
    Agree R V (if c then op₁ else op₂) (if c then op₁' else op₂') := by
  by_cases hc : c
  · rw [if_pos hc, if_pos hc]
    exact h
  · rw [if_neg hc, if_neg hc]
    exact h'

theorem agree_forIn {f : γ → PUnit → Attempt σ (ForInStep PUnit)}
    {g : γ → PUnit → Attempt τ (ForInStep PUnit)} (h : ∀ c u, Agree R Eq (f c u) (g c u))
    (cs : List γ) : Agree R Eq (forIn cs PUnit.unit f) (forIn cs PUnit.unit g) := by
  induction cs with
  | nil =>
    rw [List.forIn_nil, List.forIn_nil]
    exact agree_pure rfl
  | cons c rest ih =>
    rw [List.forIn_cons, List.forIn_cons]
    refine agree_bind (h c _) ?_
    rintro step _ rfl
    cases step with
    | done u => exact agree_pure rfl
    | yield u => exact ih

theorem agree_mapM {f : γ → Attempt σ α} {g : γ → Attempt τ α} (h : ∀ c, Agree R Eq (f c) (g c))
    (cs : List γ) : Agree R Eq (cs.mapM f) (cs.mapM g) := by
  induction cs with
  | nil =>
    rw [List.mapM_nil, List.mapM_nil]
    exact agree_pure rfl
  | cons c rest ih =>
    rw [List.mapM_cons, List.mapM_cons]
    refine agree_bind (h c) ?_
    rintro a _ rfl
    refine agree_bind ih ?_
    rintro as _ rfl
    exact agree_pure rfl

end Attempt

end KeyChart
