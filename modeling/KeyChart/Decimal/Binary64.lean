/-!
# Binary floating point as integers

A finite nonzero 64-bit float is a whole number times a power of two. Reading
and writing decimals works on those two integers, exactly: `parts?` takes a
float apart and `nearest` rounds a quotient of integers to a float.
-/

namespace KeyChart.Decimal

/-- A power of two. -/
def pow2 (n : Nat) : Nat := Nat.pow 2 n

/-- A power of ten. -/
def pow10 (n : Nat) : Nat := Nat.pow 10 n

/-- A magnitude: `coefficient * 2 ^ exponent`. -/
structure Parts where
  coefficient : Nat
  exponent : Int
  deriving DecidableEq, Repr

/-- The magnitude of a finite nonzero float. The coefficient has 53 bits, fewer
at the least exponent only. -/
def parts? (x : Float) : Option Parts :=
  let bits := x.toBits.toNat
  let biased : Nat := bits / pow2 52 % pow2 11
  let fraction : Nat := bits % pow2 52
  if biased = 2047 then none
  else if biased = 0 then
    if fraction = 0 then none else some ⟨fraction, -1074⟩
  else some ⟨fraction + pow2 52, (biased : Int) - 1075⟩

/-- Whether a float carries the negative sign; zeros and NaN have one too. -/
def isNegative (x : Float) : Bool := x.toBits.toNat / pow2 63 % 2 = 1

/-- A quotient rounded to the nearest whole number, a half going to the even
neighbour. -/
def divToEven (num den : Nat) : Nat :=
  let q := num / den
  let r := num % den
  if 2 * r < den then q
  else if den < 2 * r then q + 1
  else q + q % 2

/-- The float nearest to `num / den`, a tie going to the even coefficient; what
is too large becomes infinite. -/
def nearest (num den : Nat) : Float :=
  if num = 0 then 0
  else
    let scaled (q : Int) : Nat × Nat := (num * pow2 (-q).toNat, den * pow2 q.toNat)
    let guess : Int := (num.log2 : Int) - den.log2 - 53
    let top := scaled guess
    let q := max (if pow2 53 ≤ top.1 / top.2 then guess + 1 else guess) (-1074)
    let ratio := scaled q
    let m := divToEven ratio.1 ratio.2
    let bits : Nat := if m < pow2 52 then m else (q + 1075).toNat * pow2 52 + (m - pow2 52)
    Float.ofBits (min bits (2047 * pow2 52)).toUInt64

end KeyChart.Decimal
