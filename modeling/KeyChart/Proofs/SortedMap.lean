import KeyChart.SortedMap

/-!
# What maps and sets hold

Every operation on a map is read through the value it leaves under a key, and
every operation on a set through its members. Later proofs use these equations
only and never look at the order of the entries.
-/

namespace KeyChart

theorem not_compare_self_lt {α : Type} [Ord α] [Std.ReflOrd α] (a : α) :
    compare a a ≠ .lt := by
  simp

namespace SortedMap

variable {κ β γ : Type} [Ord κ]

/-! ## Looking up -/

@[simp] theorem find?_empty (k : κ) : (empty : SortedMap κ β).find? k = none := rfl

theorem contains_eq_isSome (m : SortedMap κ β) (k : κ) :
    m.contains k = (m.find? k).isSome := by
  simp only [contains, find?, Option.isSome_map]
  induction m.entries with
  | nil => rfl
  | cons e rest ih =>
    rw [List.any_cons, List.find?_cons, ih]
    cases compare k e.1 == .eq <;> rfl

theorem mapValues_self (m : SortedMap κ β) : m.mapValues (fun _ v => v) = m := by
  obtain ⟨es, hsorted⟩ := m
  simp [mapValues]

theorem keys_mapValues (m : SortedMap κ β) (f : κ → β → γ) : (m.mapValues f).keys = m.keys := by
  simp [keys, mapValues]

theorem values_filter (m : SortedMap κ β) (keep : β → Bool) :
    (m.filter fun _ v => keep v).values = m.values.filter keep := by
  simp [values, filter, List.filter_map, Function.comp_def]

/-- A key behind all others comes last. -/
theorem entries_insert_of_last [Std.TransOrd κ] [Std.LawfulEqOrd κ] {m : SortedMap κ β} {k : κ}
    {v : β} (h : ∀ e ∈ m.entries, compare e.1 k = .lt) :
    (m.insert k v).entries = m.entries ++ [(k, v)] := by
  have hinsert : ∀ es : List (κ × β), (∀ e ∈ es, compare e.1 k = .lt) →
      insertEntry k v es = es ++ [(k, v)] := by
    intro es
    induction es with
    | nil => exact fun _ => rfl
    | cons e rest ih =>
      intro hes
      have hgt : compare k e.1 = .gt := Std.OrientedCmp.gt_iff_lt.mpr (hes e (by simp))
      rw [insertEntry, hgt, List.cons_append, ← ih fun e' he' => hes e' (by simp [he'])]
  exact hinsert m.entries h

section LawfulKeys

variable [Std.LawfulEqOrd κ]

theorem find?_cons_eq {k k' : κ} {v : β} {es : List (κ × β)} (h : k' = k) :
    ((k, v) :: es).find? (fun e => compare k' e.1 == .eq) = some (k, v) := by
  simp [h]

theorem find?_cons_ne {k k' : κ} {v : β} {es : List (κ × β)} (h : k' ≠ k) :
    ((k, v) :: es).find? (fun e => compare k' e.1 == .eq)
      = es.find? (fun e => compare k' e.1 == .eq) := by
  have hne : ¬ compare k' k = .eq := fun hc => h (Std.LawfulEqCmp.eq_of_compare hc)
  simp [hne]

/-- Keys are not repeated, so an entry is found under its key. -/
theorem find?_eq_some_iff_mem {m : SortedMap κ β} {k : κ} {v : β} :
    m.find? k = some v ↔ (k, v) ∈ m.entries := by
  obtain ⟨es, hsorted⟩ := m
  simp only [find?]
  induction es with
  | nil => simp
  | cons e rest ih =>
    obtain ⟨j, w⟩ := e
    have hrest := (List.pairwise_cons.mp hsorted).1
    by_cases h : k = j
    · rw [find?_cons_eq h]
      subst h
      constructor
      · intro hw
        simp only [Option.map_some, Option.some.injEq] at hw
        simp [hw]
      · intro hmem
        rcases List.mem_cons.mp hmem with heq | hmem
        · simp [(Prod.mk.inj heq).2]
        · exact absurd (hrest _ hmem) (not_compare_self_lt k)
    · rw [find?_cons_ne h, ih hsorted.of_cons, List.mem_cons]
      constructor
      · exact Or.inr
      · rintro (heq | hmem)
        · exact absurd (Prod.mk.inj heq).1 h
        · exact hmem

theorem find?_filter (m : SortedMap κ β) (keep : κ → β → Bool) (k : κ) :
    (m.filter keep).find? k = (m.find? k).filter (keep k) := by
  apply Option.ext
  intro v
  rw [find?_eq_some_iff_mem, Option.filter_eq_some_iff, find?_eq_some_iff_mem]
  simp [filter]

@[simp] theorem find?_mapValues (m : SortedMap κ β) (f : κ → β → γ) (k : κ) :
    (m.mapValues f).find? k = (m.find? k).map (f k) := by
  apply Option.ext
  intro v
  rw [find?_eq_some_iff_mem, Option.map_eq_some_iff]
  simp only [mapValues, List.mem_map, Prod.mk.injEq, Prod.exists]
  constructor
  · rintro ⟨j, w, hmem, rfl, rfl⟩
    exact ⟨w, find?_eq_some_iff_mem.mpr hmem, rfl⟩
  · rintro ⟨w, hw, rfl⟩
    exact ⟨k, w, find?_eq_some_iff_mem.mp hw, rfl, rfl⟩

theorem mem_keys {m : SortedMap κ β} {k : κ} : k ∈ m.keys ↔ ∃ v, m.find? k = some v := by
  simp [keys, find?_eq_some_iff_mem]

theorem nodup_entries (m : SortedMap κ β) : m.entries.Nodup := by
  refine m.sorted.imp ?_
  intro a b hlt heq
  exact not_compare_self_lt b.1 (heq ▸ hlt)

theorem mapValues_congr {m : SortedMap κ β} {f g : κ → β → γ}
    (h : ∀ k v, m.find? k = some v → f k v = g k v) : m.mapValues f = m.mapValues g := by
  have hentries : m.entries.map (fun e => (e.1, f e.1 e.2)) =
      m.entries.map fun e => (e.1, g e.1 e.2) := by
    refine List.map_congr_left ?_
    rintro ⟨k, v⟩ he
    rw [h k v (find?_eq_some_iff_mem.mpr he)]
  simp [mapValues, hentries]

/-- Maps that agree on every key are equal. -/
theorem eq_of_find?_eq [Std.TransOrd κ] {m m' : SortedMap κ β} (h : ∀ k, m.find? k = m'.find? k) :
    m = m' := by
  have hperm : m.entries.Perm m'.entries := by
    rw [List.perm_ext_iff_of_nodup m.nodup_entries m'.nodup_entries]
    rintro ⟨k, v⟩
    rw [← find?_eq_some_iff_mem, ← find?_eq_some_iff_mem, h k]
  have heq : m.entries = m'.entries := by
    refine List.Perm.eq_of_pairwise ?_ m.sorted m'.sorted hperm
    intro a b _ _ hab hba
    exact absurd hba (Std.OrientedCmp.not_lt_of_lt hab)
  cases m
  cases m'
  simpa using heq

theorem nodup_keys (m : SortedMap κ β) : m.keys.Nodup := by
  refine List.pairwise_map.mpr (m.sorted.imp ?_)
  intro a b hlt heq
  exact not_compare_self_lt b.1 (heq ▸ hlt)

variable [DecidableEq κ]

theorem find?_insertEntry (k k' : κ) (v : β) (es : List (κ × β)) :
    ((insertEntry k v es).find? fun e => compare k' e.1 == .eq)
      = if k' = k then some (k, v) else es.find? fun e => compare k' e.1 == .eq := by
  induction es with
  | nil =>
    by_cases h : k' = k
    · rw [if_pos h, insertEntry, find?_cons_eq h]
    · rw [if_neg h, insertEntry, find?_cons_ne h]
  | cons e rest ih =>
    obtain ⟨j, w⟩ := e
    by_cases h : k' = k
    · rw [if_pos h]
      rw [if_pos h] at ih
      simp only [insertEntry]
      split
      · rw [find?_cons_eq h]
      · rw [find?_cons_eq h]
      case h_3 hgt =>
        have hj : k' ≠ j := by
          rintro rfl
          simp [h] at hgt
        rw [find?_cons_ne hj, ih]
    · rw [if_neg h]
      rw [if_neg h] at ih
      simp only [insertEntry]
      split
      · rw [find?_cons_ne h]
      case h_2 heq =>
        have hk : k = j := Std.LawfulEqCmp.eq_of_compare heq
        rw [find?_cons_ne h, find?_cons_ne (hk ▸ h)]
      · by_cases hj : k' = j
        · rw [find?_cons_eq hj, find?_cons_eq hj]
        · rw [find?_cons_ne hj, find?_cons_ne hj, ih]

@[simp] theorem find?_erase (m : SortedMap κ β) (k k' : κ) :
    (m.erase k).find? k' = if k' = k then none else m.find? k' := by
  rw [erase, find?_filter]
  by_cases h : k' = k
  · subst h
    rw [if_pos rfl]
    cases m.find? k' <;> simp
  · have hne : ¬ compare k k' = .eq := fun hc => h (Std.LawfulEqCmp.eq_of_compare hc).symm
    rw [if_neg h]
    cases m.find? k' <;> simp [hne]

@[simp] theorem find?_insert [Std.TransOrd κ] (m : SortedMap κ β) (k k' : κ) (v : β) :
    (m.insert k v).find? k' = if k' = k then some v else m.find? k' := by
  simp only [find?, insert, find?_insertEntry]
  split <;> rfl

/-- Keys that are all set to one value. -/
theorem find?_foldl_insert [Std.TransOrd κ] {ks : List κ} {m : SortedMap κ β} {k : κ} {v : β} :
    (ks.foldl (fun m k => m.insert k v) m).find? k = if k ∈ ks then some v else m.find? k := by
  induction ks generalizing m with
  | nil => simp
  | cons k' rest ih =>
    rw [List.foldl_cons, ih, find?_insert]
    by_cases hrest : k ∈ rest
    · simp [hrest]
    · by_cases hk : k = k'
      · simp [hk]
      · simp [hk, hrest]

end LawfulKeys

end SortedMap

namespace SortedSet

variable {α : Type} [Ord α]

theorem mem_def {a : α} {s : SortedSet α} : a ∈ s ↔ a ∈ s.members := Iff.rfl

@[simp] theorem not_mem_empty (a : α) : a ∉ (empty : SortedSet α) := List.not_mem_nil

variable [Std.LawfulEqOrd α]

theorem mem_insertMember_iff {a b : α} {bs : List α} :
    b ∈ insertMember a bs ↔ b = a ∨ b ∈ bs := by
  constructor
  · exact mem_insertMember
  induction bs with
  | nil => simp [insertMember]
  | cons c rest ih =>
    simp only [insertMember]
    split
    · simp
    case h_2 heq =>
      have hc : a = c := Std.LawfulEqCmp.eq_of_compare heq
      simp [hc]
    · simp only [List.mem_cons]
      rintro (h | h | h)
      · exact Or.inr (ih (Or.inl h))
      · exact Or.inl h
      · exact Or.inr (ih (Or.inr h))

theorem nodup_members (s : SortedSet α) : s.members.Nodup := by
  refine s.sorted.imp ?_
  intro a b hlt heq
  exact not_compare_self_lt b (heq ▸ hlt)

variable [Std.TransOrd α]

@[simp] theorem mem_insert {a b : α} {s : SortedSet α} : b ∈ s.insert a ↔ b = a ∨ b ∈ s :=
  mem_insertMember_iff

theorem mem_foldl_insert {a : α} {as : List α} {s : SortedSet α} :
    a ∈ as.foldl insert s ↔ a ∈ as ∨ a ∈ s := by
  induction as generalizing s with
  | nil => simp
  | cons b rest ih =>
    rw [List.foldl_cons, ih, mem_insert, List.mem_cons]
    constructor
    · rintro (h | rfl | h)
      · exact Or.inl (Or.inr h)
      · exact Or.inl (Or.inl rfl)
      · exact Or.inr h
    · rintro ((rfl | h) | h)
      · exact Or.inr (Or.inl rfl)
      · exact Or.inl h
      · exact Or.inr (Or.inr h)

@[simp] theorem mem_ofList {a : α} {as : List α} : a ∈ ofList as ↔ a ∈ as := by
  simp [ofList, mem_foldl_insert]

/-- Lists in increasing order are equal if they have the same members. -/
theorem members_eq_keys {β : Type} {s : SortedSet α} {m : SortedMap α β}
    (h : ∀ a, a ∈ s ↔ ∃ v, m.find? a = some v) : s.members = m.keys := by
  have hperm : s.members.Perm m.keys := by
    rw [List.perm_ext_iff_of_nodup s.nodup_members m.nodup_keys]
    intro a
    rw [SortedMap.mem_keys, ← h a]
    exact Iff.rfl
  refine List.Perm.eq_of_pairwise ?_ s.sorted (List.pairwise_map.mpr m.sorted) hperm
  intro a b _ _ hab hba
  exact absurd hba (Std.OrientedCmp.not_lt_of_lt hab)

end SortedSet

end KeyChart
