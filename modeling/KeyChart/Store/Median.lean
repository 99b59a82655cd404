import KeyChart.Store.Basic

/-!
# Medians

The middle of the numbers in a column. They are ordered by size, the negative
zero before the positive one.
-/

namespace KeyChart.Store

/-- Whether a number stands before another. -/
def standsBefore (x y : Float) : Bool :=
  x < y || (x == y && Decimal.isNegative x && !Decimal.isNegative y)

/-- Puts a number into its place among sorted ones. -/
def placeNumber (x : Float) : List Float → List Float
  | [] => [x]
  | y :: rest => if standsBefore x y then x :: y :: rest else y :: placeNumber x rest

/-- The middle of some numbers, or the mean of the two in the middle. -/
def middle? (numbers : List Float) : Option Float :=
  let sorted := numbers.foldl (fun sorted x => placeNumber x sorted) []
  let half := sorted.length / 2
  if sorted.isEmpty then none
  else if sorted.length % 2 = 0 then
    some ((sorted.getD (half - 1) 0 + sorted.getD half 0) / 2)
  else some (sorted.getD half 0)

/-- The median of the numbers in a column, as a result of one cell. It is null if
there are none, or if opposite infinities have no mean. -/
def TableStore.median (s : TableStore) (name column : String) : Except Error ResultSet := do
  if !isWritable column then throw .store
  let cells := ((← s.read name).select [column]).rows.flatten
  let numbers := (cells.filter Value.isNumeric).filterMap Value.toFloat?
  let median := (middle? numbers).filter fun x => !x.isNaN
  return ⟨["m"], [[(median.map fun x => Value.float x).getD .null]]⟩

end KeyChart.Store
