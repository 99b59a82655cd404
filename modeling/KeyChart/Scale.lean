import KeyChart.Box
import KeyChart.Value

/-!
# Scales

A scale turns values into positions. As declared it may leave open which values
it spans and how much room it has; the domain is then read off the data, and
the range off the box in which the values are drawn.
-/

namespace KeyChart

/-- How a scale spaces its values. -/
inductive ScaleKind where
  | linear
  | log
  | sqrt
  | point
  deriving DecidableEq, Repr, Inhabited

/-- The values that a scale spans: an interval, or a list of categories. -/
inductive Domain where
  | continuous (low high : Float)
  | discrete (members : List Value)
  deriving BEq

/-- The positions that a scale covers: fixed ones, those of the box along an
axis, or those along the axis that the channel's name implies. -/
inductive RangeSpec where
  | fixed (first last : Float)
  | along (axis : Axis)
  | auto
  deriving BEq

/-- A scale as declared. -/
structure Scale where
  kind : ScaleKind
  domain : Option Domain := none
  range : RangeSpec := .auto
  deriving BEq

/-- A scale with a definite domain and range. -/
structure FittedScale where
  kind : ScaleKind
  domain : Domain
  range : Float × Float

/-- The resolved scales of a mark, by channel. -/
abbrev ScaleMap := SortedMap String FittedScale

namespace Scale

/-- The distinct values of a list, in the order of their first occurrences. -/
def distinct : List Value → List Value
  | values => values.foldl (fun seen v => if seen.any (· == v) then seen else seen ++ [v]) []

/-- Puts a value behind all values of a reversed sorted list that are not larger. -/
def insertCategory (v : Value) : List Value → List Value
  | [] => [v]
  | last :: before =>
    if Value.categoryLt v last then last :: insertCategory v before else v :: last :: before

/-- Sorts values into the order of categories; equal ones keep their order. -/
def sortCategories (values : List Value) : List Value :=
  (values.foldl (fun sorted v => insertCategory v sorted) []).reverse

/-- The categories in some data: every value that is not null, once. -/
def categories (data : List Value) : List Value :=
  sortCategories (distinct (data.filter fun v => !v.isNull))

/-- The positive infinity. -/
def infinity : Float := 1.0 / 0.0

/-- The interval of the finite numbers in some data, for a logarithmic scale of
the positive ones. Without any such number it is a unit of the scale. -/
def interval (kind : ScaleKind) (data : List Value) : Float × Float :=
  let numbers := (data.filterMap Value.toFloat?).filter fun x =>
    x.isFinite && (kind ≠ .log || 0 < x)
  let low := numbers.foldl smaller infinity
  let high := numbers.foldl larger (-infinity)
  if high < low then
    match kind with
    | .log => (1, 10)
    | _ => (0, 1)
  else (low, high)

/-- The declared domain, or the one that the data span. -/
def domainOf (s : Scale) (data : List Value) : Domain :=
  match s.domain with
  | some domain => domain
  | none =>
    match s.kind with
    | .point => .discrete (categories data)
    | kind => .continuous (interval kind data).1 (interval kind data).2

/-- The positions that a channel's scale covers inside a box. -/
def rangeIn (s : Scale) (channel : String) (box : Box) : Float × Float :=
  match s.range with
  | .fixed first last => (first, last)
  | .along axis => (0, box.extent axis)
  | .auto => (0, box.extent (Axis.ofChannel channel))

/-- The scale with the given domain and range. -/
def fit (s : Scale) (domain : Domain) (range : Float × Float) : FittedScale :=
  ⟨s.kind, domain, range⟩

end Scale

namespace FittedScale

/-- Where a number lies between two others; everything is at the start of an
interval without length. -/
def ratio (x low high : Float) : Float :=
  if high - low == 0 then 0 else (x - low) / (high - low)

/-- One with the sign of a number. -/
def signOf (x : Float) : Float :=
  if x.isNaN then x else if Decimal.isNegative x then -1 else 1

/-- The square root of a magnitude, with the sign of the number. -/
def signedSqrt (x : Float) : Float := signOf x * x.abs.sqrt

/-- The position of one of `count` categories: the middle of its share. -/
def pointAt (range : Float × Float) (index count : Nat) : Float :=
  let step := (range.2 - range.1) / Float.ofNat (max count 1)
  range.1 + step * (Float.ofNat index + 0.5)

/-- The position of a value, null if the scale has no place for it. -/
def position (s : FittedScale) (v : Value) : Value :=
  match s.domain with
  | .discrete members =>
    match members.findIdx? (· == v) with
    | some index => .float (pointAt s.range index members.length)
    | none => .null
  | .continuous low high =>
    match v.toFloat? with
    | none => .null
    | some x =>
      let along (t : Float) : Value := .float (s.range.1 + t * (s.range.2 - s.range.1))
      match s.kind with
      | .log =>
        if x ≤ 0 || low ≤ 0 || high ≤ 0 then .null
        else along (ratio x.log10 low.log10 high.log10)
      | .sqrt => along (ratio (signedSqrt x) (signedSqrt low) (signedSqrt high))
      | .linear | .point => along (ratio x low high)

end FittedScale

end KeyChart
