/-!
# Binary numbers taken apart

A `Float` is a sign, a mantissa and a power of two, or one of the special values. Order and
decimal text are computed from these parts in exact integer arithmetic.
-/

namespace CaseFlow.Decimal

/-- The parts of a binary number; a finite one is `mantissa * 2 ^ exponent` up to its sign. -/
inductive Parts where
  /-- Not a number. -/
  | nan
  /-- An infinity. -/
  | infinite (negative : Bool)
  /-- A finite number. -/
  | finite (negative : Bool) (mantissa : Nat) (exponent : Int)
  deriving DecidableEq, Repr

/-- Takes a number apart: one sign bit, eleven exponent bits and 52 fraction bits. -/
def parts (x : Float) : Parts :=
  let bits := x.toBits.toNat
  let negative : Bool := Nat.pow 2 63 ≤ bits
  let field : Nat := bits / Nat.pow 2 52 % Nat.pow 2 11
  let fraction : Nat := bits % Nat.pow 2 52
  if field = 2047 then
    if fraction = 0 then .infinite negative else .nan
  else if field = 0 then .finite negative fraction (-1074)
  else .finite negative (Nat.pow 2 52 + fraction) ((field : Int) - 1075)

/-- Whether a number is finite. -/
def isFinite (x : Float) : Bool :=
  match parts x with
  | .finite .. => true
  | _ => false

/-- Whether a value is no number at all. -/
def isNaN (x : Float) : Bool := parts x == .nan

/-- Whether a number is zero, of either sign. -/
def isZero (x : Float) : Bool :=
  match parts x with
  | .finite _ 0 _ => true
  | _ => false

/-- The magnitude bits with their sign: an integer that orders all numbers but the special
value NaN, with both zeros at zero. -/
def orderKey (x : Float) : Int :=
  let bits := x.toBits.toNat
  if Nat.pow 2 63 ≤ bits then -((bits - Nat.pow 2 63 : Nat) : Int) else bits

/-- The whole number that a finite number without a fraction is. -/
def toWhole? (x : Float) : Option Int :=
  match parts x with
  | .finite negative m e =>
    let magnitude :=
      if 0 ≤ e then some (m * Nat.pow 2 e.toNat)
      else if m % Nat.pow 2 (-e).toNat = 0 then some (m / Nat.pow 2 (-e).toNat) else none
    magnitude.map fun n => if negative then -(n : Int) else n
  | _ => none

end CaseFlow.Decimal
