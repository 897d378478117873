import CaseFlow.Decimal.Binary

/-!
# Fixed decimal places

A finite number rounded to a fixed count of decimal places, an exact half to the even digit. A
number that rounds to zero is written without a sign.
-/

namespace CaseFlow.Decimal

/-- The whole number nearest to `num / den`; an exact half goes to the even one. -/
def roundDiv (num den : Nat) : Nat :=
  let d := num / den
  let r := num % den
  if 2 * r < den ∨ (2 * r = den ∧ d % 2 = 0) then d else d + 1

/-- A text with zeros before it up to a width. -/
def padZeros (width : Nat) (cs : List Char) : List Char :=
  List.replicate (width - cs.length) '0' ++ cs

/-- The decimal digits of a number, with zeros before them up to a width. -/
def paddedNat (width n : Nat) : String := String.ofList (padZeros width (Nat.toDigits 10 n))

/-- The number `m * 2 ^ e` in units of the last of `places` decimal places. -/
def fixedUnits (places m : Nat) (e : Int) : Nat :=
  roundDiv (m * Nat.pow 2 e.toNat * Nat.pow 10 places) (Nat.pow 2 (-e).toNat)

/-- A number with exactly `places` decimal places. -/
def fixedText (places : Nat) (x : Float) : String :=
  match parts x with
  | .nan => "nan"
  | .infinite negative => if negative then "-inf" else "inf"
  | .finite negative m e =>
    let units := fixedUnits places m e
    let unit := Nat.pow 10 places
    let text := s!"{units / unit}.{paddedNat places (units % unit)}"
    if negative && units != 0 then "-" ++ text else text

end CaseFlow.Decimal
