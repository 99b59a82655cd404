import KeyChart.Box

/-!
# Arrangements

How the rows of a mark share the box that they are drawn in: each takes all of
it, or they fill a grid row by row, or they stand side by side. Cells are given
in the coordinates of the box.
-/

namespace KeyChart

/-- How rows share a box. -/
inductive Arrangement where
  | fill
  /-- A grid; without a number of columns it is about square. -/
  | grid (columns : Nat) (padding : Float)
  /-- Side by side along an axis, sized by a column of weights if one is named. -/
  | stack (axis : Axis) (weight : Option String) (padding : Float)
  deriving BEq

namespace Arrangement

/-- The column of weights. -/
def weightColumn? : Arrangement → Option String
  | stack _ weight _ => weight
  | _ => none

/-- Cells of one size in a row, each `step` to the right of the one before. -/
def rowCells (size : Float × Float) (y step : Float) : Float → Nat → List Box
  | _, 0 => []
  | x, count + 1 => ⟨x, y, size.1, size.2⟩ :: rowCells size y step (x + step) count

/-- `count` cells of one size in rows of `columns`, each row one step below the
one before. -/
def gridCells (size : Float × Float) (padding : Float) (columns : Nat) :
    Nat → Float → Nat → List Box
  | 0, _, _ => []
  | rows + 1, y, count =>
    rowCells size y (size.1 + padding) padding (min columns count) ++
      gridCells size padding columns rows (y + (size.2 + padding)) (count - columns)

/-- The least whole number that is not below a float; 0 for one that is not positive. -/
def roundedUp (x : Float) : Nat :=
  let whole := x.toUInt64.toNat
  if Float.ofNat whole < x then whole + 1 else whole

/-- The number of columns of a grid that is about square. -/
def squareColumns (count : Nat) : Nat := roundedUp (Float.ofNat count).sqrt

/-- The number of columns of a grid: the given one, or about square if that is 0. -/
def gridColumns (count columns : Nat) : Nat :=
  if columns = 0 then squareColumns count else columns

/-- The number of rows of a grid. -/
def gridRows (count columns : Nat) : Nat := (count + columns - 1) / columns

/-- The cells of a grid. The padding stands around and between the cells. -/
def placeGrid (box : Box) (count columns : Nat) (padding : Float) : List Box :=
  if count = 0 then []
  else
    let columns := gridColumns count columns
    let rows := gridRows count columns
    let share (extent : Float) (n : Nat) : Float :=
      atLeastZero ((extent - padding * Float.ofNat (n + 1)) / Float.ofNat n)
    gridCells (share box.width columns, share box.height rows) padding columns rows padding count

/-- Cells side by side from an offset on, one for each weight. -/
def stackCells (box : Box) (axis : Axis) (padding available total : Float) :
    Float → List Float → List Box
  | _, [] => []
  | offset, weight :: rest =>
    let size := if 0 < total then available * weight / total else 0
    let cell : Box :=
      match axis with
      | .x => ⟨offset, 0, size, box.height⟩
      | .y => ⟨0, offset, box.width, size⟩
    cell :: stackCells box axis padding available total (offset + (size + padding)) rest

/-- Cells side by side, the box without the padding between them shared out in
the ratio of the weights. -/
def placeStack (box : Box) (weights : List Float) (axis : Axis) (padding : Float) : List Box :=
  let total := weights.foldl (· + ·) 0
  let gaps := padding * Float.ofNat (weights.length - 1)
  stackCells box axis padding (atLeastZero (box.extent axis - gaps)) total 0 weights

/-- The cells of `count` rows. Weights count only if a column of weights is
named and every row has one; a negative weight counts as zero. -/
def place (a : Arrangement) (box : Box) (count : Nat) (weights : List Float) : List Box :=
  match a with
  | fill => List.replicate count ⟨0, 0, box.width, box.height⟩
  | grid columns padding => placeGrid box count columns padding
  | stack axis weight padding =>
    let weights :=
      if weight.isSome && weights.length = count then weights.map atLeastZero
      else List.replicate count 1
    placeStack box weights axis padding

/-! ## Too many rows

Counts are unsigned numbers of 64 bits, and a list takes at most 2⁶³ - 1 bytes. -/

/-- The largest count. -/
def largestCount : Nat := 18446744073709551615

/-- The largest number of boxes in a list; a box takes 32 bytes. -/
def largestLength : Nat := 288230376151711743

/-- The cells of a grid, if one more than its columns and one more than its rows are counts up
to `limit` and a list has room for the cells. -/
def placeGrid? (limit room : Nat) (box : Box) (count columns : Nat) (padding : Float) :
    Option (List Box) :=
  if count = 0 then some []
  else
    let columns := gridColumns count columns
    if columns < limit ∧ gridRows count columns < limit ∧ count ≤ room then
      some (placeGrid box count columns padding)
    else none

/-- The cells of any number of rows; `none` if there are too many. -/
def place? (a : Arrangement) (box : Box) (count : Nat) (weights : List Float) :
    Option (List Box) :=
  match a with
  | grid columns padding => placeGrid? largestCount largestLength box count columns padding
  | a => if count ≤ largestLength then some (a.place box count weights) else none

end Arrangement

end KeyChart
