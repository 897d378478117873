import CaseFlow.Decimal.Binary
import Mathlib

/-!
# The order of binary numbers

Numbers are arranged by an integer, the magnitude bits with their sign. For all numbers but NaN this
is their order as numbers:

* `Decimal.orderKey_le_iff`: one key is at most the other exactly if the number is;
* `Decimal.orderKey_eq_iff`: two keys are equal exactly if the numbers are, so that both zeros have
  one key.

The reason is that exponent and mantissa stand in the magnitude bits as the digits of one numeral,
so that the order of pairs is the order of the bits (`Decimal.compare_exponent_then_mantissa`). A
number is taken apart by `Decimal.Unpacks`, into its sign and either a zero, a finite number or an
infinity.
-/

namespace CaseFlow.Decimal

open Float.Model Float.Model.UnpackedFloat

variable {x y : Float}

/-! ## The fields of a number -/

/-- The exponent of a float is in the eleven bits above the mantissa. -/
private theorem toNat_unpackExponent (b : BitVec 64) :
    (@unpackExponent Format.binary64 b).toNat = b.toNat / 2 ^ 52 % 2 ^ 11 := by
  simp [unpackExponent, BitVec.extractLsb, Nat.shiftRight_eq_div_pow]

/-- The mantissa of a float is in its lower 52 bits. -/
private theorem toNat_unpackMantissa (b : BitVec 64) :
    (@unpackMantissa Format.binary64 b).toNat = b.toNat % 2 ^ 52 := by
  simp [unpackMantissa, BitVec.extractLsb]

/-- The sign of a float is its highest bit. -/
private theorem toNat_unpackSign (b : BitVec 64) :
    (@unpackSign Format.binary64 b).toNat = b.toNat / 2 ^ 63 := by
  have hb : b.toNat < 2 ^ 64 := b.isLt
  simp [unpackSign, BitVec.extractLsb, Nat.shiftRight_eq_div_pow]
  omega

/-- What a number with the given sign and magnitude bits is unpacked to, if it is not NaN. -/
inductive Unpacks (s : Sign) : Nat → UnpackedFloat → Prop
  /-- No bit is set. -/
  | zero {bits : Nat} (hbits : bits = 0) : Unpacks s bits (.zero s)
  /-- The exponent is the upper part of the bits, the smallest one standing for its successor, and
  the mantissa the lower part, with a bit before it unless the upper part is zero. -/
  | finite {bits mantissa : Nat} {exponent : Int} (hpos : 0 < mantissa)
      (hexponent : exponent = max (bits / 2 ^ 52 : Nat) 1 - 1075)
      (hmantissa : mantissa = if bits < 2 ^ 52 then bits else 2 ^ 52 + bits % 2 ^ 52)
      (hbits : bits < 2047 * 2 ^ 52) : Unpacks s bits (.finite s mantissa exponent hpos)
  /-- The upper part is as large as it can be, and the lower part is empty. -/
  | infinity {bits : Nat} (hbits : bits = 2047 * 2 ^ 52) : Unpacks s bits (.infinity s)

/-- The sign of a number. -/
def signOf (x : Float) : Sign := if x.toBits.toNat < 2 ^ 63 then .positive else .negative

/-- A float is no number exactly if its exponent is full and its mantissa is not zero. -/
private theorem isNaN_iff :
    isNaN x = true ↔ x.toBits.toNat / 2 ^ 52 % 2 ^ 11 = 2047 ∧ x.toBits.toNat % 2 ^ 52 ≠ 0 := by
  unfold isNaN parts
  simp only [Nat.pow_eq, Nat.reducePow]
  split_ifs with hfield hfraction hzero <;> simp_all

/-- The sign that is unpacked is the one by which keys are signed. -/
private theorem ofBitVec_unpackSign :
    Sign.ofBitVec (@unpackSign Format.binary64 x.toBits.toBitVec) = signOf x := by
  have hbits : x.toBits.toNat < 2 ^ 64 := x.toBits.toNat_lt
  have hsign := toNat_unpackSign x.toBits.toBitVec
  rw [UInt64.toNat_toBitVec] at hsign
  have hzero : @unpackSign Format.binary64 x.toBits.toBitVec = 0#1 ↔ x.toBits.toNat < 2 ^ 63 := by
    rw [BitVec.toNat_eq, hsign, BitVec.toNat_ofNat]
    omega
  simp only [Sign.ofBitVec, signOf, hzero]

/-- A number is unpacked to what its sign and its magnitude bits say, unless it is NaN. -/
theorem unpacks_or_isNaN (x : Float) :
    (isNaN x = false ∧ Unpacks (signOf x) (x.toBits.toNat % 2 ^ 63) x.toModel.unpack) ∨
      (isNaN x = true ∧ x.toModel.unpack = .notANumber) := by
  have hexponent := toNat_unpackExponent x.toBits.toBitVec
  have hmantissa := toNat_unpackMantissa x.toBits.toBitVec
  have hsign := @ofBitVec_unpackSign x
  rw [UInt64.toNat_toBitVec] at hexponent hmantissa
  -- A normal number has a one before its mantissa, which the bits do not hold.
  have happend : (1#1 ++ @unpackMantissa Format.binary64 x.toBits.toBitVec).toNat =
      2 ^ 52 + x.toBits.toNat % 2 ^ 52 := by
    rw [BitVec.toNat_append, hmantissa, Nat.or_comm, BitVec.toNat_ofNat, Nat.shiftLeft_eq]
    exact (Nat.or_two_pow_eq_add_of_lt (Nat.mod_lt _ (by decide))).trans (Nat.add_comm _ _)
  have hunpack : x.toModel.unpack =
      UnpackedFloat.unpack Format.binary64 x.toBits.toBitVec := rfl
  rw [hunpack, UnpackedFloat.unpack, ← Bool.not_eq_true, isNaN_iff]
  simp only [BitVec.toNat_eq, hexponent, hmantissa, hsign, happend, BitVec.toNat_neg,
    BitVec.toNat_ofNat]
  have hbias : ((Format.binary64.exponentBias : Nat) : Int) = 1023 := rfl
  rw [hbias]
  have hbits : x.toBits.toNat < 2 ^ 64 := x.toBits.toNat_lt
  -- The cases are the exponents of all ones and of all zeros, with a mantissa or without, and the
  -- others.
  split_ifs with hmax hempty hmin hempty
  · exact .inl ⟨by omega, .infinity (by omega)⟩
  · exact .inr ⟨by omega, rfl⟩
  · exact .inl ⟨by omega, .zero (by omega)⟩
  · refine .inl ⟨by omega, .finite _ ?_ ?_ ?_⟩
    · omega
    · rw [if_pos (by omega)]
      omega
    · omega
  · refine .inl ⟨by omega, .finite _ ?_ ?_ ?_⟩
    · omega
    · rw [if_neg (by omega)]
      omega
    · omega

/-- Numbers are arranged by their magnitude bits with their signs. -/
theorem orderKey_eq : orderKey x = (signOf x).apply (x.toBits.toNat % 2 ^ 63 : Nat) := by
  have hbits : x.toBits.toNat < 2 ^ 64 := x.toBits.toNat_lt
  unfold orderKey signOf
  simp only [Nat.pow_eq]
  by_cases hpos : x.toBits.toNat < 2 ^ 63
  · rw [if_neg (by omega), if_pos hpos, Sign.apply]
    omega
  · rw [if_pos (by omega), if_neg hpos, Sign.apply]
    omega

/-! ## Comparing -/

/-- Where exponents are compared first and then mantissas, the bits are compared. -/
theorem compare_exponent_then_mantissa {s t : Sign} {b c m n : Nat} {e f : Int} {hm : 0 < m}
    {hn : 0 < n} (hb : Unpacks s b (.finite s m e hm)) (hc : Unpacks t c (.finite t n f hn)) :
    (compare e f).then (compare m n) = compare (b : Int) c := by
  obtain - | ⟨-, he, hmantissa, -⟩ := hb
  obtain - | ⟨-, hf, hmantissa', -⟩ := hc
  -- A larger exponent means more bits, and with one exponent a larger mantissa does.
  have hlex {b c m n : Nat} {e f : Int} (he : e = max (b / 2 ^ 52 : Nat) 1 - 1075)
      (hf : f = max (c / 2 ^ 52 : Nat) 1 - 1075)
      (hm : m = if b < 2 ^ 52 then b else 2 ^ 52 + b % 2 ^ 52)
      (hn : n = if c < 2 ^ 52 then c else 2 ^ 52 + c % 2 ^ 52) (h : b < c) :
      e < f ∨ (e = f ∧ m < n) := by
    split_ifs at hm hn <;> omega
  -- Both orders are total, so that it is enough to follow the bits.
  rcases lt_trichotomy b c with h | rfl | h
  · rw [compare_lt_iff_lt.mpr (Int.ofNat_lt.mpr h)]
    rcases hlex he hf hmantissa hmantissa' h with hlt | ⟨rfl, hlt⟩
    · simp [compare_lt_iff_lt.mpr hlt]
    · simp [compare_lt_iff_lt.mpr hlt]
  · obtain rfl := he.trans hf.symm
    obtain rfl := hmantissa.trans hmantissa'.symm
    simp
  · rw [compare_gt_iff_gt.mpr (Int.ofNat_lt.mpr h)]
    rcases hlex hf he hmantissa' hmantissa h with hlt | ⟨rfl, hlt⟩
    · simp [compare_gt_iff_gt.mpr hlt]
    · simp [compare_gt_iff_gt.mpr hlt]

/-- Changing both signs turns a comparison round. -/
theorem compare_neg (a b : Int) : compare (-a) (-b) = (compare a b).swap := by
  rcases lt_trichotomy a b with h | rfl | h
  · simp [compare_lt_iff_lt.mpr h, compare_gt_iff_gt.mpr (neg_lt_neg h)]
  · simp
  · simp [compare_gt_iff_gt.mpr h, compare_lt_iff_lt.mpr (neg_lt_neg h)]

/-- The bits of zero, of a finite number and of infinity follow each other. -/
theorem Unpacks.bits_cases {s : Sign} {b : Nat} {u : UnpackedFloat} (h : Unpacks s b u) :
    (b = 0 ∧ u = .zero s) ∨ (0 < b ∧ b < 2047 * 2 ^ 52 ∧ ∃ m e hm, u = .finite s m e hm) ∨
      (b = 2047 * 2 ^ 52 ∧ u = .infinity s) := by
  cases h with
  | zero hb => exact .inl ⟨hb, rfl⟩
  | finite hm _ hmantissa hb =>
    refine .inr (.inl ⟨?_, hb, _, _, hm, rfl⟩)
    split_ifs at hmantissa <;> omega
  | infinity hb => exact .inr (.inr ⟨hb, rfl⟩)

/-- Numbers are compared as their magnitude bits with their signs. -/
private theorem Unpacks.compare_eq {s t : Sign} {b c : Nat} {u v : UnpackedFloat}
    (hu : Unpacks s b u)
    (hv : Unpacks t c v) :
    u.compare v = some (compare (s.apply (b : Int)) (t.apply (c : Int))) := by
  rcases hu.bits_cases with ⟨hb, rfl⟩ | ⟨hb, hb', m, e, hm, rfl⟩ | ⟨hb, rfl⟩ <;>
    rcases hv.bits_cases with ⟨hc, rfl⟩ | ⟨hc, hc', n, f, hn, rfl⟩ | ⟨hc, rfl⟩
  case inr.inl.inr.inl =>
    -- Two finite numbers of one sign are compared by their bits, and others by their signs.
    have hbits := compare_exponent_then_mantissa hu hv
    cases s <;> cases t <;> simp only [UnpackedFloat.compare, Sign.apply]
    · rw [hbits, compare_neg]
    · rw [compare_lt_iff_lt.mpr (by omega)]
    · rw [compare_gt_iff_gt.mpr (by omega)]
    · rw [hbits]
  case inr.inr.inr.inr =>
    -- Infinities of one sign are equal, and others are compared by their signs.
    have hsame : compare (b : Int) c = .eq := compare_eq_iff_eq.mpr (by omega)
    cases s <;> cases t <;> simp only [UnpackedFloat.compare, Sign.apply]
    · rw [compare_neg, hsame]
      rfl
    · rw [compare_lt_iff_lt.mpr (by omega)]
      rfl
    · rw [compare_gt_iff_gt.mpr (by omega)]
      rfl
    · rw [hsame]
      rfl
  all_goals
    -- Two zeros are equal, and a pair of different kinds is compared by the kinds and the signs.
    cases s <;> cases t <;> simp only [UnpackedFloat.compare, Sign.apply,
      LinearOrder.compare_eq_compareOfLessAndEq, compareOfLessAndEq] <;> grind

/-! ## The order of numbers -/

/-- What has a value is a number. -/
private theorem Unpacks.isNaN_eq_false {s : Sign} {b : Nat} {u : UnpackedFloat}
    (h : Unpacks s b u) :
    u.isNaN = false := by
  cases h <;> rfl

/-- The two tests for no number agree. -/
theorem isNaN_eq : isNaN x = x.isNaN := by
  show _ = UnpackedFloat.isNaN x.toModel.unpack
  rcases unpacks_or_isNaN x with ⟨hx, hunpacks⟩ | ⟨hx, hunpack⟩
  · rw [hx, hunpacks.isNaN_eq_false]
  · rw [hx, hunpack, UnpackedFloat.isNaN]

/-- NaN equals nothing. -/
theorem isNaN_eq_false_of_beq (h : (x == y) = true) : y.isNaN = false := by
  rw [Float.isNaN_eq_decide_eq_nan, decide_eq_false_iff_not]
  rintro rfl
  rw [Float.beq_nan_eq_false] at h
  cases h

variable (hx : x.isNaN = false) (hy : y.isNaN = false)

include hx hy

/-- Numbers are compared by what they are arranged by. -/
theorem compare_unpack :
    x.toModel.unpack.compare y.toModel.unpack = some (compare (orderKey x) (orderKey y)) := by
  obtain ⟨-, hu⟩ | ⟨hnan, -⟩ := unpacks_or_isNaN x
  · obtain ⟨-, hv⟩ | ⟨hnan, -⟩ := unpacks_or_isNaN y
    · rw [hu.compare_eq hv, orderKey_eq, orderKey_eq]
    · rw [isNaN_eq, hy] at hnan
      cases hnan
  · rw [isNaN_eq, hx] at hnan
    cases hnan

/-- Keys are ordered as floats are, where these are numbers. -/
theorem orderKey_le_iff : orderKey x ≤ orderKey y ↔ x ≤ y := by
  have hle : x ≤ y ↔ x.toModel.unpack.le y.toModel.unpack = true := decide_eq_true_iff
  rw [hle, UnpackedFloat.le, compare_unpack hx hy]
  simp [Int.isLE_compare]

/-- Keys are equal where floats are, so zero has one key with either sign. -/
theorem orderKey_eq_iff : orderKey x = orderKey y ↔ (x == y) = true := by
  have hbeq : (x == y) = x.toModel.unpack.beq y.toModel.unpack := rfl
  rw [hbeq, UnpackedFloat.beq, compare_unpack hx hy]
  simp

end CaseFlow.Decimal
