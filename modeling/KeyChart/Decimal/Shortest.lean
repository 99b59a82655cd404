import KeyChart.Decimal.Binary64

/-!
# Shortest decimals

The decimal with the fewest digits that reads back as a given float: the
coarsest power of ten of which a multiple lies in the interval of reals that
round to the float. Of two such multiples the nearer one counts, and the upper
one if both are equally near.
-/

namespace KeyChart.Decimal

/-- A decimal magnitude: `digits * 10 ^ exponent`. -/
structure Scaled where
  digits : Nat
  exponent : Int
  deriving DecidableEq, Repr

/-- The multiple of `10 ^ e` that stands for a magnitude, if one reads back as
it. All lengths are in quarters of the distance to the next float; only a
coefficient of exactly 53 bits has its lower neighbour nearer. -/
def multiple? (p : Parts) (e : Int) : Option Nat :=
  let shift := p.exponent - 2
  let unit := pow2 shift.toNat * pow10 (-e).toNat
  let step := pow10 e.toNat * pow2 (-shift).toNat
  let value := 4 * p.coefficient * unit
  let below := if p.coefficient = pow2 52 && p.exponent ≠ -1074 then unit else 2 * unit
  let above := 2 * unit
  let inclusive := p.coefficient % 2 = 0
  let d := value / step
  let down := value - d * step
  let up := (d + 1) * step - value
  let lowFits : Bool := if inclusive then down ≤ below else down < below
  let highFits : Bool := if inclusive then up ≤ above else up < above
  match lowFits, highFits with
  | true, true => if up ≤ down then some (d + 1) else some d
  | true, false => some d
  | false, true => some (d + 1)
  | false, false => none

/-- Moves trailing zeros of the digits into the exponent. -/
def dropZeros (fuel : Nat) (s : Scaled) : Scaled :=
  match fuel with
  | 0 => s
  | fuel + 1 =>
    if s.digits ≠ 0 && s.digits % 10 = 0 then dropZeros fuel ⟨s.digits / 10, s.exponent + 1⟩
    else s

/-- Tries ever finer powers of ten, from `10 ^ e` on. -/
def search (p : Parts) : Nat → Int → Scaled
  | 0, e => ⟨0, e⟩
  | fuel + 1, e =>
    match multiple? p e with
    | some d => dropZeros 20 ⟨d, e⟩
    | none => search p fuel (e - 1)

/-- The shortest decimal that reads back as the magnitude. The first power
tried is at least the magnitude, and eighteen below it are always enough. -/
def shortest (p : Parts) : Scaled :=
  let top : Int := Int.fdiv ((p.coefficient.log2 + p.exponent) * 30103) 100000 + 1
  search p 20 top

end KeyChart.Decimal
