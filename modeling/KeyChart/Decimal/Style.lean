import KeyChart.Decimal.Shortest

/-!
# Spelling of numbers

Two ways to write a float with the fewest digits that read back: the *literal*
style of query text, where every number shows that it is fractional and very
large or small ones have an exponent, and the *plain* style of labels and
drawings, which never uses an exponent.
-/

namespace KeyChart.Decimal

/-- How the digits of a number are laid out. -/
structure Style where
  /-- The least power of ten of the leading digit that is written with an exponent. -/
  scientificFrom : Option Int
  /-- Leading digits below this power of ten are written with an exponent. -/
  scientificBelow : Option Int
  /-- Whether a whole number keeps one digit after the point. -/
  pointed : Bool

/-- Numbers in query text: positional from 0.0001 below 10 ^ 16. -/
def literal : Style := ⟨some 16, some (-4), true⟩

/-- Numbers in labels and drawings: always positional, no needless point. -/
def plain : Style := ⟨none, none, false⟩

/-- The decimal digits of a number. -/
def digitsOf (n : Nat) : String := String.ofList (Nat.toDigits 10 n)

/-- `count` zeros. -/
def zeros (count : Nat) : String := String.ofList (List.replicate count '0')

/-- A magnitude without exponent. -/
def Style.positional (style : Style) (s : Scaled) : String :=
  let digits := digitsOf s.digits
  if 0 ≤ s.exponent then
    digits ++ zeros s.exponent.toNat ++ (if style.pointed then ".0" else "")
  else
    let places := (-s.exponent).toNat
    let padded := (zeros (places + 1 - digits.length) ++ digits).toList
    String.ofList (padded.take (padded.length - places)) ++ "." ++
      String.ofList (padded.drop (padded.length - places))

/-- A magnitude with one digit before the point and an exponent. -/
def scientific (s : Scaled) : String :=
  let digits := (digitsOf s.digits).toList
  let exponent := s.exponent + (digits.length - 1 : Nat)
  let fraction := digits.drop 1
  String.ofList (digits.take 1) ++
    (if fraction.isEmpty then "" else "." ++ String.ofList fraction) ++ "e" ++ toString exponent

/-- A magnitude in a style. -/
def Style.magnitude (style : Style) (s : Scaled) : String :=
  let lead := s.exponent + ((digitsOf s.digits).length - 1 : Nat)
  let large : Bool := style.scientificFrom.any (· ≤ lead)
  let small : Bool := style.scientificBelow.any (lead < ·)
  if large || small then scientific s else style.positional s

/-- A float in a style; zero keeps its sign. -/
def Style.render (style : Style) (x : Float) : String :=
  if x.isNaN then "NaN"
  else
    let text :=
      if x.isInf then "inf"
      else
        match parts? x with
        | none => style.positional ⟨0, 0⟩
        | some p => style.magnitude (shortest p)
    if isNegative x then "-" ++ text else text

end KeyChart.Decimal
