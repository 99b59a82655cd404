import KeyChart.Decimal.Shortest

/-!
# Decimals by steps of 64 bits

A store turns decimals into floats and floats into decimals by powers of ten,
one factor after the other, in numbers of 64 significant bits. Every product is
rounded, so the last place of what comes out may differ from that of the
nearest number; the factors and their order are part of the format.
-/

namespace KeyChart.Decimal

/-- A magnitude rounded to 64 significant bits, a tie going to the even one. -/
def Parts.round64 (p : Parts) : Parts :=
  let excess := p.coefficient.log2 + 1 - 64
  ⟨divToEven p.coefficient (pow2 excess), p.exponent + excess⟩

/-- The product of two magnitudes in 64 significant bits. -/
def Parts.times (a b : Parts) : Parts :=
  Parts.round64 ⟨a.coefficient * b.coefficient, a.exponent + b.exponent⟩

/-- A power of ten in 64 significant bits. -/
def tenTo (k : Int) : Parts :=
  let den := pow10 (-k).toNat
  let shift := den.log2 + 68
  let num := pow10 k.toNat * pow2 shift
  Parts.round64 ⟨2 * (num / den) + (if num % den = 0 then 0 else 1), -(shift : Int) - 1⟩

/-- Whether one magnitude is less than another. -/
def Parts.below (a b : Parts) : Bool :=
  let low := min a.exponent b.exponent
  a.coefficient * pow2 (a.exponent - low).toNat < b.coefficient * pow2 (b.exponent - low).toNat

/-- Multiplies by `10 ^ step` while the magnitude is out of bounds, at most `fuel`
times, and keeps the decimal exponent that makes up for it. -/
def rescale (outside : Parts → Bool) (step : Int) : Nat → Parts × Int → Parts × Int
  | 0, x => x
  | fuel + 1, (p, e) =>
    if outside p then rescale outside step fuel (p.times (tenTo step), e - step) else (p, e)

/-- The leading eighteen or nineteen digits of a magnitude. -/
def leadingDigits (p : Parts) : Scaled :=
  let above (k : Int) (p : Parts) : Bool := !p.below (tenTo k)
  let under (k : Int) (p : Parts) : Bool := p.below (tenTo k)
  let (p, e) :=
    if above 19 p then
      rescale (above 19) (-1) 12 (rescale (above 29) (-10) 12 (rescale (above 119) (-100) 5 (p, 0)))
    else
      rescale (under 17) 1 12 (rescale (under 7) 10 12 (rescale (under (-97)) 100 5 (p, 0)))
  ⟨p.coefficient * pow2 p.exponent.toNat / pow2 (-p.exponent).toNat, e⟩

/-- A magnitude rounded to fifteen significant digits, a half going up. -/
def fifteenDigits (p : Parts) : Scaled :=
  let s := leadingDigits p
  let excess := (toString s.digits).length - 15
  let unit := pow10 excess
  dropZeros 20 ⟨(s.digits + unit / 2) / unit, s.exponent + excess⟩

/-- The float of `digits * 10 ^ exponent`, where the digits fit 64 bits. What is
beyond the largest float is infinite. -/
def floatOf (digits : Nat) (exponent : Int) : Float :=
  let steps (k : Nat) : List Int :=
    List.replicate (k / 100) 100 ++ List.replicate (k % 100 / 10) 10 ++ List.replicate (k % 10) 1
  let sign : Int := if exponent < 0 then -1 else 1
  let p := (steps exponent.natAbs).foldl (fun (p : Parts) k => p.times (tenTo (sign * k))) ⟨digits, 0⟩
  if Parts.below ⟨pow2 53 - 1, 971⟩ p then 1.0 / 0.0
  else nearest (p.coefficient * pow2 p.exponent.toNat) (pow2 (-p.exponent).toNat)

end KeyChart.Decimal
