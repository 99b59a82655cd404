import KeyChart.Decimal.Extended
import KeyChart.Decimal.Style
import KeyChart.Value

/-!
# Numbers in text, as a store reads and writes them

Around a number there may be ASCII white space, and nothing else. A number
without point and exponent is whole if it fits 64 bits; any other is a float,
made of its first nineteen digits or so. Floats are written with fifteen digits.
-/

namespace KeyChart.Store

/-- The white space that may stand around a number. -/
def isSpace (c : Char) : Bool := c = ' ' || (0x09 ≤ c.toNat && c.toNat ≤ 0x0D)

/-- A text without the white space at its two ends. -/
def trimSpaces (cs : List Char) : List Char :=
  ((cs.dropWhile isSpace).reverse.dropWhile isSpace).reverse

/-- The bound up to which further digits are taken in. -/
def roomForDigits : Nat := 1844674407370955160

/-- Takes in the digits before the point, and counts those that find no room. -/
def wholeDigits : Nat → List Char → Nat × Nat
  | n, [] => (n, 0)
  | n, c :: rest =>
    let n := n * 10 + (c.toNat - '0'.toNat)
    if roomForDigits ≤ n then (n, rest.length) else wholeDigits n rest

/-- Takes in the digits after the point, and counts those that find room. -/
def fractionDigits : Nat → List Char → Nat × Nat
  | n, [] => (n, 0)
  | n, c :: rest =>
    if n < roomForDigits then
      let (n, taken) := fractionDigits (n * 10 + (c.toNat - '0'.toNat)) rest
      (n, taken + 1)
    else (n, 0)

/-- Makes an exponent smaller in favour of the digits, as far as these have room or
end in zeros. -/
def balance : Nat → Nat → Int → Nat × Int
  | 0, n, e => (n, e)
  | fuel + 1, n, e =>
    if 0 < e && n < roomForDigits + 1 then balance fuel (n * 10) (e - 1)
    else if e < 0 && n % 10 = 0 then balance fuel (n / 10) (e + 1)
    else (n, e)

/-- The exponent that may end a number, cut off at ten thousand. -/
def readExponent? : List Char → Option Int
  | [] => some 0
  | c :: rest =>
    if c ≠ 'e' && c ≠ 'E' then none
    else
      let (negative, digits) := Decimal.signed rest
      if digits.isEmpty || !digits.all Char.isDigit then none
      else
        let e : Int := digits.foldl
          (fun e d => if e < 10000 then e * 10 + (d.toNat - '0'.toNat) else 10000) (0 : Nat)
        some (if negative then -e else e)

/-- The number that a text spells, if it spells one. -/
def numberOf? (s : String) : Option Value :=
  let (negative, cs) := Decimal.signed (trimSpaces s.toList)
  let whole := cs.takeWhile Char.isDigit
  let rest := cs.dropWhile Char.isDigit
  let (fraction, rest) :=
    match rest with
    | '.' :: tail => (tail.takeWhile Char.isDigit, tail.dropWhile Char.isDigit)
    | _ => ([], rest)
  if whole.isEmpty && fraction.isEmpty then none
  else
    let exact : Int := (if negative then -1 else 1) * Decimal.ofDigits whole
    if cs.length = whole.length && Decimal.minInt64 ≤ exact && exact ≤ Decimal.maxInt64 then
      some (.int exact)
    else
      (readExponent? rest).map fun exponent =>
        let (n, skipped) := wholeDigits 0 whole
        let (n, taken) := fractionDigits n fraction
        let (n, exponent) := balance 20 n (exponent + skipped - taken)
        let magnitude := if n = 0 then 0 else Decimal.floatOf n exponent
        .float (if negative then -magnitude else magnitude)

/-- A float as text: at most fifteen digits, at least one after the point, and an
exponent below 0.0001 and from 10 ^ 15 on. -/
def floatText (x : Float) : String :=
  let minus := if Decimal.isNegative x then "-" else ""
  if x.isInf then minus ++ "Inf"
  else
    match Decimal.parts? x with
    | none => "0.0"
    | some p =>
      let s := Decimal.fifteenDigits p
      let digits := (Decimal.digitsOf s.digits).toList
      let lead := s.exponent + (digits.length - 1 : Nat)
      if lead < -4 || 14 < lead then
        let fraction := String.ofList (digits.drop 1)
        let exponent := toString lead.natAbs
        minus ++ String.ofList (digits.take 1) ++ "." ++ (if fraction = "" then "0" else fraction) ++
          "e" ++ (if lead < 0 then "-" else "+") ++
          (if exponent.length < 2 then "0" ++ exponent else exponent)
      else minus ++ Decimal.literal.positional s

end KeyChart.Store
