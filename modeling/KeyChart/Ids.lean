import KeyChart.SortedMap

/-!
# Identities

Marks and constraints are known by numbers that are handed out once and never
again. Messages show them with a letter in front.
-/

namespace KeyChart

/-- The identity of a mark. -/
structure MarkId where
  index : Nat
  deriving DecidableEq, Repr, Inhabited

/-- The identity of a registered constraint. -/
structure ConstraintId where
  index : Nat
  deriving DecidableEq, Repr, Inhabited

namespace MarkId

instance : Ord MarkId := ⟨compareOn MarkId.index⟩

instance : Std.TransOrd MarkId := inferInstanceAs (Std.TransCmp (compareOn MarkId.index))

instance : Std.LawfulEqOrd MarkId where
  eq_of_compare h := by
    have h := Nat.compare_eq_eq.mp h
    exact congrArg MarkId.mk h

/-- A mark in messages: `m3`. -/
def label (m : MarkId) : String := "m" ++ toString m.index

/-- A mark in a list of marks. -/
def shown (m : MarkId) : String := "MarkId(" ++ toString m.index ++ ")"

end MarkId

namespace ConstraintId

instance : Ord ConstraintId := ⟨compareOn ConstraintId.index⟩

instance : Std.TransOrd ConstraintId :=
  inferInstanceAs (Std.TransCmp (compareOn ConstraintId.index))

instance : Std.LawfulEqOrd ConstraintId where
  eq_of_compare h := by
    have h := Nat.compare_eq_eq.mp h
    exact congrArg ConstraintId.mk h

/-- A constraint in messages: `c3`. -/
def label (c : ConstraintId) : String := "c" ++ toString c.index

end ConstraintId

end KeyChart
