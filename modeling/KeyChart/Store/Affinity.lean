import KeyChart.Store.Numeral

/-!
# Column affinity

A store's columns do not enforce their declared types, but each prefers one form
of value, and stores a value in that form where nothing is lost by it.
-/

namespace KeyChart.Store

/-- The form that a column prefers. `blob` prefers none. -/
inductive Affinity where
  | blob
  | text
  | numeric
  | integer
  | real
  deriving DecidableEq, Repr, Inhabited

/-- Whether a text contains a word. -/
def containsWord (word : List Char) : List Char → Bool
  | [] => word.isEmpty
  | c :: rest => word.isPrefixOf (c :: rest) || containsWord word rest

/-- The affinity of a declared type, by the words in it. -/
def Affinity.ofType (declared : String) : Affinity :=
  let upper := declared.toList.map Char.toUpper
  let has (word : String) : Bool := containsWord word.toList upper
  if has "INT" then integer
  else if has "CHAR" || has "CLOB" || has "TEXT" then text
  else if has "BLOB" || declared = "" then blob
  else if has "REAL" || has "FLOA" || has "DOUB" then real
  else numeric

/-- The type that a column of this affinity has in a table made from a query. -/
def Affinity.typeName : Affinity → String
  | blob => ""
  | text => "TEXT"
  | numeric => "NUM"
  | integer => "INT"
  | real => "REAL"

/-- A float without fraction as a whole number, within 64 bits. -/
def wholeForm (x : Float) : Value :=
  let n := x.toInt64.toInt
  if Value.isWhole x && Decimal.minInt64 < n && n < Decimal.maxInt64 then .int n else .float x

/-- A value in the form in which a column stores it. A column of floats knows no
negative zero. -/
def Affinity.store (a : Affinity) (v : Value) : Value :=
  let v : Value :=
    match v with
    | .float x _ => if x.isNaN then .null else .float x
    | v => v
  match a, v with
  | .text, .int n => .text (toString n)
  | .text, .float x _ => .text (floatText x)
  | .real, .int n => .float (Float.ofInt n)
  | .real, .float x _ => .float (if x == 0 then 0 else x)
  | .real, .text s =>
    match (numberOf? s).bind Value.toFloat? with
    | some x => .float (if x == 0 then 0 else x)
    | none => .text s
  | .numeric, .float x _ | .integer, .float x _ => wholeForm x
  | .numeric, .text s | .integer, .text s =>
    match numberOf? s with
    | some (.float x _) => wholeForm x
    | some n => n
    | none => .text s
  | _, v => v

/-- Whether columns of this affinity prefer numbers. -/
def Affinity.isNumeric : Affinity → Bool
  | numeric | integer | real => true
  | blob | text => false

/-- The affinity that a key applies to a value that is looked up in it: numbers are
compared by size, whatever their form. -/
def Affinity.ofKey (a : Affinity) : Affinity := if a.isNumeric then numeric else a

/-! ## The order of cells -/

/-- The comparison of a whole number with a float, in exact arithmetic. -/
def compareExact (a : Int) (x : Float) : Ordering :=
  if x.isInf then if Decimal.isNegative x then .gt else .lt
  else
    match Decimal.parts? x with
    | none => compare a 0
    | some p =>
      let whole : Int := p.coefficient * Decimal.pow2 p.exponent.toNat
      compare (a * Decimal.pow2 (-p.exponent).toNat) (if Decimal.isNegative x then -whole else whole)

/-- The order of the cells of a key: null before numbers, numbers by size whatever
their form, and then texts by their characters. -/
def compareCells : Value → Value → Ordering
  | .null, .null => .eq
  | .null, _ => .lt
  | _, .null => .gt
  | .int a, .int b => compare a b
  | .int a, .float y _ => compareExact a y
  | .float x _, .int b => (compareExact b x).swap
  | .float x _, .float y _ => if x < y then .lt else if y < x then .gt else .eq
  | .text a, .text b => compare a b
  | .text _, _ => .gt
  | _, .text _ => .lt

/-- Whether two cells count as one value of a key; null is never a value. -/
def clash (a b : Value) : Bool := !a.isNull && compareCells a b == .eq

/-- Whether cells of two columns count as one value when the columns are compared:
a column of numbers has the other's texts read as numbers. -/
def clashAcross (a b : Affinity) (x y : Value) : Bool :=
  let loosen (v : Value) : Value :=
    match v with
    | .text s => (numberOf? s).getD v
    | v => v
  if a.isNumeric || b.isNumeric then clash (loosen x) (loosen y) else clash x y

end KeyChart.Store
