import CaseFlow.Decimal.Fixed
import CaseFlow.Decimal.Shortest

/-!
# Chosen precision

Finite numbers with a chosen count of places or of significant digits, an exact half rounded to
the even digit: in fixed places, with an exponent, or in whichever of the two suits the size of
the number. The sign is written elsewhere.
-/

namespace CaseFlow.Decimal

/-- How a number is written to a precision. -/
inductive Notation where
  /-- With a fixed count of decimal places. -/
  | fixed
  /-- One digit, places, and an exponent of ten. -/
  | exponent
  /-- Significant digits, with an exponent where the number is very small or the digits do not
  reach the point; zeros at the end are dropped. -/
  | general
  deriving DecidableEq, Repr

/-- `m * 2 ^ e` rounded to `n` significant digits. -/
def significant (n m : Nat) (e : Int) : Digits :=
  if m = 0 then ⟨0, 1⟩
  else
    let i := Interval.ofBinary m e
    let point := i.point
    let scaled := i.scale (n - point)
    let d := roundDiv scaled.mid scaled.den
    if d = Nat.pow 10 n then ⟨Nat.pow 10 (n - 1), point + 1⟩ else ⟨d, point⟩

/-- Digits before and after the point; the point itself stays when it is asked for. -/
def pointed (keepPoint : Bool) (whole fraction : List Char) : List Char :=
  whole ++ if fraction.isEmpty && !keepPoint then [] else '.' :: fraction

/-- Digits with an exponent of ten of at least two digits. -/
def withExponent (keepPoint : Bool) (digits : List Char) (exponent : Int) : List Char :=
  pointed keepPoint (digits.take 1) (digits.drop 1) ++ 'e' ::
    (if exponent < 0 then '-' else '+') :: padZeros 2 (Nat.toDigits 10 exponent.natAbs)

/-- Digits around a point, with zeros up to it where they do not reach it. -/
def positional (keepPoint : Bool) (digits : List Char) (point : Int) : List Char :=
  if point ≤ 0 then
    pointed keepPoint ['0'] (List.replicate (-point).toNat '0' ++ digits)
  else
    let whole := point.toNat
    pointed keepPoint (digits.take whole ++ List.replicate (whole - digits.length) '0')
      (digits.drop whole)

/-- A magnitude `m * 2 ^ e` in a notation, with `places` places or significant digits. A point
without digits after it, and zeros at the end of the general notation, are kept on demand. -/
def Notation.write (n : Notation) (places : Nat) (keepPoint : Bool) (m : Nat) (e : Int) :
    List Char :=
  match n with
  | .fixed =>
    let digits := padZeros (places + 1) (Nat.toDigits 10 (fixedUnits places m e))
    pointed keepPoint (digits.take (digits.length - places)) (digits.drop (digits.length - places))
  | .exponent =>
    let d := significant (places + 1) m e
    withExponent keepPoint (padZeros (places + 1) (Nat.toDigits 10 d.digits)) (d.point - 1)
  | .general =>
    let count := max 1 places
    let d := significant count m e
    let all := if m = 0 then List.replicate count '0' else Nat.toDigits 10 d.digits
    let digits := if keepPoint then all
      else match stripZeros all with
        | [] => ['0']
        | ds => ds
    if d.point ≤ -4 ∨ (count : Int) < d.point then withExponent keepPoint digits (d.point - 1)
    else positional keepPoint digits d.point

end CaseFlow.Decimal
