import CaseFlow.Decimal.Binary

/-!
# Shortest decimal text

A finite number is written with the fewest decimal digits that lie in the interval of reals
which round to it; of two such decimals the nearer one is taken, and of two equally near ones
the even one. The interval holds its ends exactly when the mantissa is even.
-/

namespace CaseFlow.Decimal

/-- How many decimal digits a number has; zero has one. -/
def digitCount (n : Nat) : Nat := (Nat.toDigits 10 n).length

/-- A decimal number `0.d₁d₂… * 10 ^ point`, its digits given as one number. -/
structure Digits where
  /-- The digits, read as a number. -/
  digits : Nat
  /-- How many digits stand before the decimal point. -/
  point : Int
  deriving DecidableEq, Repr

/-- A positive fraction and the ends of the interval that rounds to it, over one denominator. -/
structure Interval where
  /-- Numerator of the lower end. -/
  low : Nat
  /-- Numerator of the value. -/
  mid : Nat
  /-- Numerator of the upper end. -/
  high : Nat
  /-- The common denominator. -/
  den : Nat
  /-- Whether the ends belong to the interval. -/
  closed : Bool

namespace Interval

/-- The interval of `m * 2 ^ e`: half a step to either side, and a quarter below a power of
two, where the steps get finer. -/
def ofBinary (m : Nat) (e : Int) : Interval :=
  -- All ends are multiplied by four, so that a quarter of a step is a whole number.
  let below := if m = Nat.pow 2 52 ∧ -1074 < e then 1 else 2
  let up := Nat.pow 2 (e - 2).toNat
  { low := (4 * m - below) * up, mid := 4 * m * up, high := (4 * m + 2) * up,
    den := Nat.pow 2 (2 - e).toNat, closed := m % 2 == 0 }

/-- Scales an interval by a power of ten. -/
def scale (i : Interval) (k : Int) : Interval :=
  let up := Nat.pow 10 k.toNat
  { low := i.low * up, mid := i.mid * up, high := i.high * up,
    den := i.den * Nat.pow 10 (-k).toNat, closed := i.closed }

/-- Whether the whole number `d` lies in the interval. -/
def holds (i : Interval) (d : Nat) : Bool :=
  if i.closed then i.low ≤ d * i.den && d * i.den ≤ i.high
  else i.low < d * i.den && d * i.den < i.high

/-- The least `p` with value below `10 ^ p`. -/
def point (i : Interval) : Int :=
  if i.den ≤ i.mid then digitCount (i.mid / i.den)
  else 1 - (digitCount ((i.den - 1) / i.mid) : Int)

/-- The nearest whole number of the interval, if it holds one; an exact tie goes to the even
number. -/
def nearest? (i : Interval) : Option Nat :=
  let d := i.mid / i.den
  let down := 2 * (i.mid % i.den) < i.den || (2 * (i.mid % i.den) == i.den && d % 2 == 0)
  match i.holds d, i.holds (d + 1) with
  | true, true => some (if down then d else d + 1)
  | true, false => some d
  | false, true => some (d + 1)
  | false, false => none

end Interval

/-- The shortest digits of `m * 2 ^ e` for a positive `m`; seventeen always suffice. -/
def shortest (m : Nat) (e : Int) : Digits :=
  let i := Interval.ofBinary m e
  let p := i.point
  -- The coarsest grid of decimals that meets the interval wins.
  let found := (List.range 17).findSome? fun (n : Nat) =>
    let unit : Int := p - (n + 1)
    ((i.scale (-unit)).nearest?).map fun d => Digits.mk d unit
  match found with
  -- Rounding up may have added a digit, so the point is counted anew.
  | some ⟨d, unit⟩ => ⟨d, unit + digitCount d⟩
  | none => ⟨0, 1⟩

/-- How a decimal number is laid out. -/
structure Layout where
  /-- The least point of a number written without an exponent. -/
  leastPoint : Int
  /-- The greatest point of a number written without an exponent. -/
  greatestPoint : Int
  /-- The least number of digits of an exponent. -/
  exponentDigits : Nat

/-- Values are positional from 10⁻⁴ up to 10¹⁶, with a fraction always; exponents have a sign
and at least two digits. -/
def plain : Layout := ⟨-3, 16, 2⟩

/-- A digit sequence without the zeros at its end. -/
def stripZeros (cs : List Char) : List Char := (cs.reverse.dropWhile (· == '0')).reverse

/-- Writes a positive decimal number. -/
def Layout.write (l : Layout) (d : Digits) : List Char :=
  let cs := match stripZeros (Nat.toDigits 10 d.digits) with
    | [] => ['0']
    | cs => cs
  if l.leastPoint ≤ d.point ∧ d.point ≤ l.greatestPoint then
    if d.point ≤ 0 then '0' :: '.' :: (List.replicate (-d.point).toNat '0' ++ cs)
    else
      let whole := d.point.toNat
      let fraction := match cs.drop whole with
        | [] => ['0']
        | rest => rest
      cs.take whole ++ List.replicate (whole - cs.length) '0' ++ '.' :: fraction
  else
    let exponent := d.point - 1
    let digits := Nat.toDigits 10 exponent.natAbs
    let mantissa := match cs with
      | [c] => [c]
      | c :: rest => c :: '.' :: rest
      | [] => []
    mantissa ++ 'e' :: (if exponent < 0 then '-' else '+') ::
      (List.replicate (l.exponentDigits - digits.length) '0' ++ digits)

/-- The shortest text that reads back as the same number. -/
def floatText (x : Float) : String :=
  let sign (negative : Bool) (cs : List Char) := String.ofList (if negative then '-' :: cs else cs)
  match parts x with
  | .nan => "nan"
  | .infinite negative => sign negative ['i', 'n', 'f']
  | .finite negative 0 _ => sign negative ['0', '.', '0']
  | .finite negative m e => sign negative (plain.write (shortest m e))

end CaseFlow.Decimal
