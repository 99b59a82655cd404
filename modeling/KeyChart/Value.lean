import KeyChart.Decimal.Read
import KeyChart.Decimal.Style
import KeyChart.SortedMap
import KeyChart.Text.Blank

/-!
# Cell values

The values that tables, query results and drawings hold: nothing, a 64-bit
whole number, a float or a text. A value can be read as a number whatever its
form, and it is written in two ways: as a literal of query text and as a label.
-/

namespace KeyChart

/-- A cell of a table or a result. A float that is not a number may carry a sign,
which only the grouping of rows tells apart. -/
inductive Value where
  | null
  | int (n : Int)
  | float (x : Float) (signed : Bool := false)
  | text (s : String)
  deriving Inhabited, BEq

namespace Value

/-- Whether the cell is empty. -/
def isNull : Value → Bool
  | null => true
  | _ => false

/-- Whether the cell holds a number; text that spells one does not count. -/
def isNumeric : Value → Bool
  | int _ | float _ _ => true
  | _ => false

/-- The float that a text spells. -/
def readFloat? (s : String) : Option Value :=
  (Decimal.readFloat? s).map fun x => float x (x.isNaN && s.startsWith "-")

/-- The cell as a float. Text counts if it spells a number, white space around
it aside. -/
def toFloat? : Value → Option Float
  | int n => some (Float.ofInt n)
  | float x _ => some x
  | text s => Decimal.readFloat? (Text.trim s)
  | null => none

/-- Whether a float is finite and has no fraction. -/
def isWhole (x : Float) : Bool :=
  x.isFinite && x == x.floor

/-- The cell as a whole number. A whole float beyond 64 bits is taken to the
nearest 64-bit number. -/
def toInt? : Value → Option Int
  | int n => some n
  | float x _ => if isWhole x then some x.toInt64.toInt else none
  | text s => Decimal.readInt? (Text.trim s)
  | null => none

/-- The cell's text, if it holds text. -/
def toText? : Value → Option String
  | text s => some s
  | _ => none

/-- The form in which numeric columns are stored: numbers, and texts that spell
one, become floats; anything else is kept. -/
def coerceNumeric : Value → Value
  | int n => float (Float.ofInt n)
  | text s => (readFloat? (Text.trim s)).getD (text s)
  | v => v

/-- The cell as a literal of query text. Numbers that are not finite have none
and become `NULL`; a quote inside a text is doubled. -/
def toLiteral : Value → String
  | null => "NULL"
  | int n => toString n
  | float x _ => if x.isFinite then Decimal.literal.render x else "NULL"
  | text s =>
    "'" ++ String.ofList (s.toList.flatMap fun c => if c = '\'' then ['\'', '\''] else [c]) ++ "'"

/-- The cell as a label. -/
def toLabel : Value → String
  | null => ""
  | int n => toString n
  | float x _ => Decimal.plain.render x
  | text s => s

/-- Whether two cells are the same down to their form and, for floats, every
bit: the equality by which rows are grouped. -/
def same : Value → Value → Bool
  | null, null => true
  | int a, int b => a == b
  | float a signA, float b signB => a.toBits == b.toBits && signA == signB
  | text a, text b => a == b
  | _, _ => false

/-- The order of the members of a category: empty cells, numbers by size, texts
by code point. Numbers that cannot be compared count as equal. -/
def categoryLt : Value → Value → Bool
  | null, null => false
  | null, _ => true
  | _, null => false
  | text a, text b => a < b
  | text _, _ => false
  | _, text _ => true
  | a, b => (a.toFloat?.getD 0) < (b.toFloat?.getD 0)

end Value

/-- Named values, such as one row of a result or the attributes of a drawn
element. -/
abbrev Record := SortedMap String Value

end KeyChart
