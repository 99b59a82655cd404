import KeyChart.Attempt
import KeyChart.Box
import KeyChart.Value

/-!
# Shapes and drawings

What a mark's rows are drawn as, and what comes out: a fragment of a document
and, row by row, the attributes of the drawn elements.
-/

namespace KeyChart

/-- What a row is drawn as. -/
inductive Shape where
  | rect
  | circle
  | text
  deriving DecidableEq, Repr, Inhabited

/-- The name of a shape. -/
def Shape.label : Shape → String
  | rect => "rect"
  | circle => "circle"
  | text => "text"

/-- One list of values for each channel, a value for each row. The row identity
is always among the channels. -/
abbrev ChannelArrays := SortedMap String (List Value)

/-- The values of one row, channel by channel. -/
def ChannelArrays.row (arrays : ChannelArrays) (i : Nat) : Record :=
  arrays.mapValues fun _ values => values.getD i .null

/-- A drawn group of rows. -/
structure Drawing where
  fragment : String
  elements : List Record

/-- What draws: one group of rows at a time, and all fragments as a document. -/
structure Renderer (ρ : Type) where
  draw : Shape → ChannelArrays → Box → Attempt ρ Drawing
  compose : Box → List String → Except Error String

end KeyChart
