import KeyChart.Decimal.Binary64

/-!
# Reading numbers

Whole numbers have 64 bits, and a text beyond them is not a number. A
fractional number is a sign, digits with at most one point and at least one
digit, and an optional exponent; it is rounded to the nearest float. Infinity
and NaN go by their names in any letter case.
-/

namespace KeyChart.Decimal

/-- The value of ASCII digits, read in base ten. -/
def ofDigits (ds : List Char) : Nat :=
  ds.foldl (fun n d => 10 * n + (d.toNat - '0'.toNat)) 0

/-- Splits off a leading sign; `true` is minus. -/
def signed : List Char → Bool × List Char
  | '-' :: rest => (true, rest)
  | '+' :: rest => (false, rest)
  | cs => (false, cs)

/-- The least and the greatest 64-bit integer. -/
def minInt64 : Int := -9223372036854775808
def maxInt64 : Int := 9223372036854775807

/-- Reads a whole number of 64 bits: digits after an optional sign. -/
def readInt? (s : String) : Option Int :=
  let (negative, digits) := signed s.toList
  if digits.isEmpty || !digits.all Char.isDigit then none
  else
    let n : Int := if negative then -(ofDigits digits : Int) else ofDigits digits
    if minInt64 ≤ n && n ≤ maxInt64 then some n else none

/-- Reads an exponent: nothing, or `e` with a whole number of any size. -/
def readExponent? : List Char → Option Int
  | [] => some 0
  | e :: rest =>
    if e = 'e' || e = 'E' then
      let (negative, digits) := signed rest
      if digits.isEmpty || !digits.all Char.isDigit then none
      else some (if negative then -(ofDigits digits : Int) else ofDigits digits)
    else none

/-- The float nearest to `digits * 10 ^ exponent`. Exponents that leave the
range of floats whatever the digits are not multiplied out. -/
def ofScaled (digits : Nat) (exponent : Int) : Float :=
  let lead := exponent + (Nat.toDigits 10 digits).length
  if digits = 0 || lead < -400 then 0
  else if 400 < lead then nearest (pow2 2000) 1
  else nearest (digits * pow10 exponent.toNat) (pow10 (-exponent).toNat)

/-- Reads a magnitude in decimal notation. -/
def readMagnitude? (cs : List Char) : Option Float :=
  let whole := cs.takeWhile Char.isDigit
  let rest := cs.dropWhile Char.isDigit
  let (fraction, rest) :=
    match rest with
    | '.' :: tail => (tail.takeWhile Char.isDigit, tail.dropWhile Char.isDigit)
    | _ => ([], rest)
  if whole.isEmpty && fraction.isEmpty then none
  else
    (readExponent? rest).map fun exponent =>
      ofScaled (ofDigits (whole ++ fraction)) (exponent - fraction.length)

/-- Reads a fractional number. -/
def readFloat? (s : String) : Option Float :=
  let (negative, cs) := signed s.toList
  let name := String.ofList (cs.map Char.toLower)
  let magnitude :=
    if name = "inf" || name = "infinity" then some (1.0 / 0.0)
    else if name = "nan" then some (0.0 / 0.0)
    else readMagnitude? cs
  magnitude.map fun x => if negative then -x else x

end KeyChart.Decimal
