/-!
# Boxes

The rectangle that a drawing, a row or a nested mark takes, by its upper left
corner and its extent.
-/

namespace KeyChart

/-- One of the two directions of a drawing. -/
inductive Axis where
  | x
  | y
  deriving DecidableEq, Repr, Inhabited

/-- The axis along which a channel is drawn, by its name. -/
def Axis.ofChannel (channel : String) : Axis :=
  if channel.toList.head? = some 'y' || channel = "height" then .y else .x

/-- A rectangle. -/
structure Box where
  x : Float
  y : Float
  width : Float
  height : Float
  deriving Inhabited, BEq

namespace Box

/-- The extent of a box along an axis. -/
def extent (b : Box) : Axis → Float
  | .x => b.width
  | .y => b.height

/-- A box given inside this one, in the coordinates that this one is given in. -/
def translate (b inner : Box) : Box := ⟨b.x + inner.x, b.y + inner.y, inner.width, inner.height⟩

end Box

/-- A number that a box has. -/
inductive BoxPart where
  | x
  | y
  | width
  | height
  deriving DecidableEq, Repr, Inhabited

namespace BoxPart

/-- The part that a channel's name stands for, such as `x`, `y2` or `width`. -/
def ofChannel? (channel : String) : Option BoxPart :=
  if channel = "width" || channel = "w" then some width
  else if channel = "height" || channel = "h" then some height
  else
    match channel.toList.head? with
    | some 'x' => some x
    | some 'y' => some y
    | _ => none

/-- A part of a box. -/
def of (b : Box) : BoxPart → Float
  | x => b.x
  | y => b.y
  | width => b.width
  | height => b.height

end BoxPart

/-- A float, or zero if it is negative or not a number. -/
def atLeastZero (x : Float) : Float := if 0 < x then x else 0

/-- The larger of two floats, of equal ones the second; one that is not a number
does not count. -/
def larger (a b : Float) : Float := if b < a || b.isNaN then a else b

/-- The smaller of two floats, of equal ones the second; one that is not a number
does not count. -/
def smaller (a b : Float) : Float := if a < b || b.isNaN then a else b

end KeyChart
