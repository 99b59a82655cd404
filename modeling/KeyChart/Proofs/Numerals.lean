import Mathlib.Data.List.Basic
import Mathlib.Data.List.Nodup
import Mathlib.Data.List.Perm.Subperm

/-!
# Numerals

Numbers are told apart by their numerals, which are made of digits. So names with different
numbers are different, and of enough of them one is free.
-/

namespace KeyChart

theorem toString_injective {m n : Nat} (h : toString m = toString n) : m = n := by
  have hdigits : Nat.toDigits 10 m = Nat.toDigits 10 n := by
    rw [← Nat.toList_repr, ← Nat.toList_repr]
    exact congrArg String.toList h
  rw [← Nat.ofDigitChars_ten_toDigits (n := m), hdigits, Nat.ofDigitChars_ten_toDigits]

theorem isDigit_of_mem_toString {n : Nat} {d : Char} (h : d ∈ (toString n).toList) :
    d.isDigit = true := by
  apply Nat.isDigit_of_mem_toDigits (b := 10) (n := n) (by omega) (by omega)
  rw [← Nat.toList_repr]
  exact h

theorem numbered_injective (stem : String) {m n : Nat}
    (h : stem ++ "_" ++ toString m = stem ++ "_" ++ toString n) : m = n :=
  toString_injective ((String.append_right_inj _).mp h)

/-- Of one number more than there are names, one makes a name that is not among them. -/
theorem exists_free_number {name : Nat → String} (hname : ∀ {m n}, name m = name n → m = n)
    (taken : List String) (start : Nat) :
    ∃ n ∈ List.range' start (taken.length + 1), name n ∉ taken := by
  by_contra hnone
  have hsubset : (List.range' start (taken.length + 1)).map name ⊆ taken := by
    intro t ht
    obtain ⟨n, hn, rfl⟩ := List.mem_map.mp ht
    by_contra hfree
    exact hnone ⟨n, hn, hfree⟩
  have hnodup : ((List.range' start (taken.length + 1)).map name).Nodup :=
    List.Nodup.map (fun _ _ h => hname h) List.nodup_range'
  have hle := (hnodup.subperm hsubset).length_le
  simp only [List.length_map, List.length_range'] at hle
  omega

end KeyChart
