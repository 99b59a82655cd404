import KeyChart.Attempt
import KeyChart.Proofs.Except

/-!
# What an operation leaves alone

An operation that stops half-way leaves a state behind as one that ends does. A
property is kept if the state has it afterwards in either case, and it is kept
by a sequence of operations if each of them keeps it.
-/

namespace KeyChart.Attempt

variable {σ τ α β : Type}

/-- The state in which an operation ends, whether it succeeds or fails. -/
def after (op : Attempt σ α) (s : σ) : σ := (op.run.run s).2

/-- An operation keeps a property of the state, even if it fails. -/
def Keeps (I : σ → Prop) (op : Attempt σ α) : Prop := ∀ s, I s → I (op.after s)

theorem run_atomic_of_ok {f : σ → Except Error (α × σ)} {s : σ} {r : α × σ}
    (h : f s = .ok r) : (atomic f).run.run s = (.ok r.1, r.2) := by
  simp only [atomic, ExceptT.run, ExceptT.mk, StateT.run, h]

theorem run_atomic_of_error {f : σ → Except Error (α × σ)} {s : σ} {e : Error}
    (h : f s = .error e) : (atomic f).run.run s = (.error e, s) := by
  simp only [atomic, ExceptT.run, ExceptT.mk, StateT.run, h]

theorem after_atomic_of_ok {f : σ → Except Error (α × σ)} {s : σ} {r : α × σ}
    (h : f s = .ok r) : (atomic f).after s = r.2 := by
  rw [after, run_atomic_of_ok h]

theorem after_atomic_of_error {f : σ → Except Error (α × σ)} {s : σ} {e : Error}
    (h : f s = .error e) : (atomic f).after s = s := by
  rw [after, run_atomic_of_error h]

theorem run_bind_of_ok {op : Attempt σ α} {f : α → Attempt σ β} {s s' : σ} {a : α}
    (h : op.run.run s = (.ok a, s')) : (op >>= f).run.run s = (f a).run.run s' := by
  show (ExceptT.bindCont f (op.run.run s).1).run (op.run.run s).2 = _
  rw [h]
  rfl

theorem run_bind_of_error {op : Attempt σ α} {f : α → Attempt σ β} {s s' : σ} {e : Error}
    (h : op.run.run s = (.error e, s')) : (op >>= f).run.run s = (.error e, s') := by
  show (ExceptT.bindCont f (op.run.run s).1).run (op.run.run s).2 = _
  rw [h]
  rfl

theorem run_bind (op : Attempt σ α) (f : α → Attempt σ β) (s : σ) :
    (op >>= f).run.run s = match op.run.run s with
      | (.ok a, s') => (f a).run.run s'
      | (.error e, s') => (.error e, s') := by
  cases hop : op.run.run s with
  | mk r s' =>
    cases r with
    | error e => exact run_bind_of_error hop
    | ok a => exact run_bind_of_ok hop

/-! ### Running single steps -/

theorem ext {op op' : Attempt σ α} (h : ∀ s, op.run.run s = op'.run.run s) : op = op' :=
  funext h

@[simp] theorem run_pure (a : α) (s : σ) : (pure a : Attempt σ α).run.run s = (.ok a, s) := rfl

@[simp] theorem run_throw (e : Error) (s : σ) :
    (throw e : Attempt σ α).run.run s = (.error e, s) := rfl

@[simp] theorem run_get (s : σ) : (get : Attempt σ σ).run.run s = (.ok s, s) := rfl

@[simp] theorem run_set (s s' : σ) :
    (set s' : Attempt σ PUnit).run.run s = (.ok ⟨⟩, s') := rfl

@[simp] theorem run_modify (f : σ → σ) (s : σ) :
    (modify f : Attempt σ PUnit).run.run s = (.ok ⟨⟩, f s) := rfl

@[simp] theorem run_ask (f : σ → Except Error α) (s : σ) : (ask f).run.run s = (f s, s) := rfl

@[simp] theorem run_ofExcept (r : Except Error α) (s : σ) :
    (ofExcept r : Attempt σ α).run.run s = (r, s) := rfl

@[simp] theorem run_within (part : σ → τ) (put : τ → σ → σ) (op : Attempt τ α) (s : σ) :
    (within part put op).run.run s =
      ((op.run.run (part s)).1, put (op.run.run (part s)).2 s) := rfl

theorem run_atomic (f : σ → Except Error (α × σ)) (s : σ) :
    (atomic f).run.run s = match f s with
      | .ok (a, s') => (.ok a, s')
      | .error e => (.error e, s) := rfl

/-- A check before an operation that is done at once, done at once with it. -/
theorem ask_bind_atomic (f : σ → Except Error α) (g : α → σ → Except Error (β × σ)) :
    (ask f >>= fun a => atomic (g a)) = atomic fun s => f s >>= fun a => g a s := by
  apply Attempt.ext
  intro s
  rw [run_bind, run_ask, run_atomic]
  cases f s <;> rfl

/-- Checks one after the other are one check. -/
theorem forM_ask (f : α → σ → Except Error PUnit) (as : List α) :
    as.forM (fun a => ask (f a)) = ask fun s => as.forM fun a => f a s := by
  apply Attempt.ext
  intro s
  induction as with
  | nil => rfl
  | cons a rest ih =>
    rw [List.forM, run_bind, run_ask, run_ask, List.forM]
    cases f a s with
    | error e => rfl
    | ok u => exact ih

/-- What cannot fail after an operation that is done at once, done at once with it. -/
theorem atomic_bind_ok (f : σ → Except Error (α × σ)) (g : α → σ → β × σ) :
    (atomic f >>= fun a => atomic fun s => .ok (g a s)) =
      atomic fun s => (f s).map fun r => g r.1 r.2 := by
  apply Attempt.ext
  intro s
  rw [run_bind, run_atomic, run_atomic]
  cases f s <;> rfl

/-- An operation that changes nothing if it fails. -/
def AllOrNothing (op : Attempt σ α) : Prop :=
  ∀ s e s', op.run.run s = (.error e, s') → s' = s

theorem allOrNothing_atomic (f : σ → Except Error (α × σ)) : (atomic f).AllOrNothing := by
  intro s e s' h
  cases hf : f s with
  | ok r =>
    rw [run_atomic_of_ok hf] at h
    cases h
  | error e' =>
    rw [run_atomic_of_error hf] at h
    cases h
    rfl

theorem run_bind_eq_ok {op : Attempt σ α} {f : α → Attempt σ β} {s s' : σ} {b : β}
    (h : (op >>= f).run.run s = (.ok b, s')) :
    ∃ a s₁, op.run.run s = (.ok a, s₁) ∧ (f a).run.run s₁ = (.ok b, s') := by
  cases hop : op.run.run s with
  | mk r s₁ =>
    cases r with
    | error e =>
      rw [run_bind_of_error hop] at h
      cases h
    | ok a =>
      rw [run_bind_of_ok hop] at h
      exact ⟨a, s₁, rfl, h⟩

theorem run_ask_eq_ok {f : σ → Except Error α} {s s' : σ} {a : α}
    (h : (ask f).run.run s = (.ok a, s')) : f s = .ok a ∧ s' = s :=
  ⟨congrArg Prod.fst h, (congrArg Prod.snd h).symm⟩

theorem run_get_eq_ok {s s' a : σ} (h : (get : Attempt σ σ).run.run s = (.ok a, s')) :
    a = s ∧ s' = s :=
  ⟨(Except.ok.inj (congrArg Prod.fst h)).symm, (congrArg Prod.snd h).symm⟩

theorem run_atomic_eq_ok {f : σ → Except Error (α × σ)} {s s' : σ} {a : α}
    (h : (atomic f).run.run s = (.ok a, s')) : f s = .ok (a, s') := by
  cases hf : f s with
  | error e =>
    rw [run_atomic_of_error hf] at h
    cases h
  | ok r =>
    rw [run_atomic_of_ok hf] at h
    cases h
    rfl

section Keeps

variable {I : σ → Prop}

theorem keeps_pure (a : α) : Keeps I (pure a : Attempt σ α) := fun _ h => h

theorem keeps_throw (e : Error) : Keeps I (throw e : Attempt σ α) := fun _ h => h

theorem keeps_get : Keeps I (get : Attempt σ σ) := fun _ h => h

theorem keeps_ask (f : σ → Except Error α) : Keeps I (ask f) := fun _ h => h

theorem keeps_ofExcept (r : Except Error α) : Keeps I (ofExcept r : Attempt σ α) :=
  keeps_ask _

theorem keeps_atomic {f : σ → Except Error (α × σ)}
    (hf : ∀ s a s', f s = .ok (a, s') → I s → I s') : Keeps I (atomic f) := by
  intro s hs
  cases h : f s with
  | ok r =>
    rw [after_atomic_of_ok h]
    exact hf s r.1 r.2 h hs
  | error e =>
    rw [after_atomic_of_error h]
    exact hs

theorem keeps_atomic_map {f : σ → Except Error β} {g : β → α × σ}
    (hf : ∀ s b, f s = .ok b → I s → I (g b).2) : Keeps I (atomic fun s => (f s).map g) := by
  refine keeps_atomic ?_
  intro s a s' h hs
  obtain ⟨b, hb, heq⟩ := Except.map_eq_ok.mp h
  have hs' := hf s b hb hs
  rw [heq] at hs'
  exact hs'

theorem keeps_within {part : σ → τ} {put : τ → σ → σ} {op : Attempt τ α}
    (h : ∀ s, I s → I (put (op.after (part s)) s)) : Keeps I (within part put op) := h

theorem keeps_bind {op : Attempt σ α} {f : α → Attempt σ β} (hop : Keeps I op)
    (hf : ∀ a, Keeps I (f a)) : Keeps I (op >>= f) := by
  intro s hs
  have hop := hop s hs
  show I ((ExceptT.bindCont f (op.run.run s).1).run (op.run.run s).2).2
  cases h : (op.run.run s).1 with
  | error e => exact hop
  | ok a => exact hf a _ hop

theorem keeps_ite {c : Prop} [Decidable c] {op op' : Attempt σ α} (h : Keeps I op)
    (h' : Keeps I op') : Keeps I (if c then op else op') := by
  split
  · exact h
  · exact h'

theorem keeps_forIn {f : α → PUnit → Attempt σ (ForInStep PUnit)} {as : List α}
    (hf : ∀ a ∈ as, ∀ u, Keeps I (f a u)) : Keeps I (forIn as PUnit.unit f) := by
  induction as with
  | nil =>
    rw [List.forIn_nil]
    exact keeps_pure _
  | cons a rest ih =>
    rw [List.forIn_cons]
    refine keeps_bind (hf a (by simp) _) fun step => ?_
    cases step with
    | done u => exact keeps_pure u
    | yield u => exact ih fun b hb => hf b (by simp [hb])

theorem keeps_mapM {f : α → Attempt σ β} {as : List α} (hf : ∀ a ∈ as, Keeps I (f a)) :
    Keeps I (as.mapM f) := by
  induction as with
  | nil =>
    rw [List.mapM_nil]
    exact keeps_pure _
  | cons a rest ih =>
    rw [List.mapM_cons]
    refine keeps_bind (hf a (by simp)) fun b => ?_
    exact keeps_bind (ih fun c hc => hf c (by simp [hc])) fun _ => keeps_pure _

end Keeps

/-! ## Where an operation leads

An operation that goes through states without a property may still lead from one state
with the property to another. -/

/-- From states with one property an operation leads to states with another one if it
succeeds, and with a third one if it fails. -/
def Takes (I : σ → Prop) (op : Attempt σ α) (J : α → σ → Prop) (E : σ → Prop) : Prop :=
  ∀ s, I s → (∀ a s', op.run.run s = (.ok a, s') → J a s') ∧
    ∀ e s', op.run.run s = (.error e, s') → E s'

section Takes

variable {I I' : σ → Prop} {J J' : α → σ → Prop} {E : σ → Prop}

theorem Takes.after {op : Attempt σ α} {K : σ → Prop} (h : Takes I op J E)
    (hJ : ∀ a s, J a s → K s) (hE : ∀ s, E s → K s) {s : σ} (hs : I s) : K (op.after s) := by
  obtain ⟨hok, herror⟩ := h s hs
  rw [Attempt.after]
  cases hrun : op.run.run s with
  | mk r s' =>
    cases r with
    | ok a => exact hJ a s' (hok a s' hrun)
    | error e => exact hE s' (herror e s' hrun)

theorem Takes.keeps {op : Attempt σ α} (h : Takes I op J E) (hJ : ∀ a s, J a s → I s)
    (hE : ∀ s, E s → I s) : Keeps I op := fun _ hs => h.after hJ hE hs

theorem takes_of_after {op : Attempt σ α} {I' : σ → Prop} (h : ∀ s, I s → I' (op.after s)) :
    Takes I op (fun _ => I') I' := by
  intro s hs
  have hafter := h s hs
  constructor
  · intro a s' hrun
    rwa [after, hrun] at hafter
  · intro e s' hrun
    rwa [after, hrun] at hafter

theorem Keeps.takes {op : Attempt σ α} (h : Keeps I op) : Takes I op (fun _ => I) I :=
  takes_of_after h

theorem Takes.and_keeps {op : Attempt σ α} {K : σ → Prop} (h : Takes I op J E) (hK : Keeps K op) :
    Takes (fun s => I s ∧ K s) op (fun a s => J a s ∧ K s) fun s => E s ∧ K s := by
  rintro s ⟨hs, hKs⟩
  obtain ⟨hok, herror⟩ := h s hs
  obtain ⟨hKok, hKerror⟩ := hK.takes s hKs
  exact ⟨fun a s' hrun => ⟨hok a s' hrun, hKok a s' hrun⟩,
    fun e s' hrun => ⟨herror e s' hrun, hKerror e s' hrun⟩⟩

theorem takes_bind {op : Attempt σ α} {f : α → Attempt σ β} {K : β → σ → Prop}
    (hop : Takes I op J E) (hf : ∀ a, Takes (J a) (f a) K E) : Takes I (op >>= f) K E := by
  intro s hs
  obtain ⟨hok, herror⟩ := hop s hs
  cases hrun : op.run.run s with
  | mk r s₁ =>
    cases r with
    | ok a =>
      rw [run_bind_of_ok hrun]
      exact hf a s₁ (hok a s₁ hrun)
    | error e =>
      rw [run_bind_of_error hrun]
      constructor
      · intro b s' h
        cases h
      · intro e' s' h
        cases h
        exact herror e s₁ hrun

theorem Takes.mono {op : Attempt σ α} {E' : σ → Prop} (h : Takes I op J E)
    (hI : ∀ s, I' s → I s) (hJ : ∀ a s, J a s → J' a s) (hE : ∀ s, E s → E' s) :
    Takes I' op J' E' := by
  intro s hs
  obtain ⟨hok, herror⟩ := h s (hI s hs)
  exact ⟨fun a s' hrun => hJ a s' (hok a s' hrun), fun e s' hrun => hE s' (herror e s' hrun)⟩

theorem takes_ite {c : Prop} [Decidable c] {op op' : Attempt σ α}
    (h : c → Takes I op J E) (h' : ¬ c → Takes I op' J E) :
    Takes I (if c then op else op') J E := by
  split
  case isTrue hc => exact h hc
  case isFalse hc => exact h' hc

theorem takes_get : Takes I (get : Attempt σ σ) (fun a s => a = s ∧ I s) E := by
  intro s hs
  constructor
  · intro a s' hrun
    obtain ⟨rfl, rfl⟩ := run_get_eq_ok hrun
    exact ⟨rfl, hs⟩
  · intro e s' hrun
    cases hrun

theorem takes_ask (f : σ → Except Error α) :
    Takes I (ask f) (fun a s => f s = .ok a ∧ I s) I := by
  intro s hs
  constructor
  · intro a s' hrun
    obtain ⟨hf, rfl⟩ := run_ask_eq_ok hrun
    exact ⟨hf, hs⟩
  · intro e s' hrun
    rwa [← show s = s' from congrArg Prod.snd hrun]

theorem takes_atomic {f : σ → Except Error (α × σ)}
    (hok : ∀ s a s', I s → f s = .ok (a, s') → J a s') (herror : ∀ s, I s → E s) :
    Takes I (atomic f) J E := by
  intro s hs
  constructor
  · intro a s' hrun
    exact hok s a s' hs (run_atomic_eq_ok hrun)
  · intro e s' hrun
    cases hf : f s with
    | ok r =>
      rw [run_atomic_of_ok hf] at hrun
      cases hrun
    | error e' =>
      rw [run_atomic_of_error hf] at hrun
      cases hrun
      exact herror s hs

theorem takes_atomic_map {f : σ → Except Error β} {g : β → α × σ}
    (hok : ∀ s b, I s → f s = .ok b → J (g b).1 (g b).2) (herror : ∀ s, I s → E s) :
    Takes I (atomic fun s => (f s).map g) J E := by
  refine takes_atomic ?_ herror
  intro s a s' hs hmap
  obtain ⟨b, hb, heq⟩ := Except.map_eq_ok.mp hmap
  have hJ := hok s b hs hb
  rwa [heq] at hJ

end Takes

end KeyChart.Attempt
