import Livecast.PlaybackTime
import Mathlib

/-!
# Doubles as exact numbers

A finite double stands for a rational number: its sign, its mantissa and its exponent say which one.
The whole seconds that are shown of an offset are found from the bits of the double, and they are
the floor of that number.  In the other direction every whole number up to `2 ^ 53` is a double,
since its digits can be moved up until they fill the mantissa.

## Main Definitions

* `PlaybackTime.value?` - the number that a double stands for
* `PlaybackTime.exponentField`, `PlaybackTime.fractionField`, `PlaybackTime.signOfBits` - the fields
  of its bits

## Main Statements

* `PlaybackTime.number?_unpack` - the number that bits stand for, by their fields
* `PlaybackTime.floorOfBits_eq` - the whole seconds of a finite double are its floor
* `PlaybackTime.isFinite_and_pos_iff` - the finite doubles above zero stand for numbers above zero
* `PlaybackTime.value?_toFloat` - a whole number up to `2 ^ 53` is a double

## Design Notes

The operations on doubles have a definition in exact arithmetic, and what is claimed of them here is
proved of this definition.
-/

namespace Livecast.PlaybackTime

open Float.Model Float.Model.UnpackedFloat

/-! ## Doubles as numbers -/

/-- The number `m * 2 ^ e`. -/
def scaled (m e : ℤ) : ℚ := m * 2 ^ e

/-- The number that a sign, a mantissa and an exponent stand for; infinities and what is no number
stand for none. -/
def number? : UnpackedFloat → Option ℚ
  | .finite sign mantissa exponent _ => some (scaled (sign.apply mantissa) exponent)
  | .zero _ => some 0
  | _ => none

/-- The number that a double stands for, if it is finite. -/
def value? (x : Float) : Option ℚ := number? x.toModel.unpack

/-! ## The fields of a double -/

/-- The exponent field of a double. -/
def exponentField (bits : ℕ) : ℕ := bits / 2 ^ 52 % 2 ^ 11

/-- The fraction field of a double. -/
def fractionField (bits : ℕ) : ℕ := bits % 2 ^ 52

/-- The sign of a double. -/
def signOfBits (bits : ℕ) : ℤ := if bits / 2 ^ 63 = 0 then 1 else -1

section

variable (b : BitVec Format.binary64.numBits)

theorem toNat_unpackMantissa : (unpackMantissa b).toNat = fractionField b.toNat := by
  simp [unpackMantissa, fractionField]

theorem toNat_unpackExponent : (unpackExponent b).toNat = exponentField b.toNat := by
  simp [unpackExponent, exponentField, Nat.shiftRight_eq_div_pow]

theorem apply_unpackSign (m : ℕ) :
    (Sign.ofBitVec (unpackSign b)).apply m = signOfBits b.toNat * m := by
  have field : (unpackSign b).toNat = b.toNat / 2 ^ 63 := by
    have bound : b.toNat < 2 ^ 64 := b.isLt
    simp [unpackSign, Nat.shiftRight_eq_div_pow]
    omega
  have positive : unpackSign b = 0#1 ↔ b.toNat / 2 ^ 63 = 0 := by
    rw [← BitVec.toNat_inj, field]
    rfl
  simp only [Sign.ofBitVec, signOfBits, positive]
  split
  · simp [Sign.apply]
  · simp [Sign.apply]

theorem toNat_implicit : (1#1 ++ unpackMantissa b).toNat = 2 ^ 52 + fractionField b.toNat := by
  rw [BitVec.toNat_append, ← Nat.shiftLeft_add_eq_or_of_lt (unpackMantissa b).isLt,
    toNat_unpackMantissa]
  rfl

/-- **The number that bits stand for, by their fields.** -/
theorem number?_unpack : number? (UnpackedFloat.unpack Format.binary64 b) =
    if exponentField b.toNat = 2047 then none
    else if exponentField b.toNat = 0 then
      some (scaled (signOfBits b.toNat * fractionField b.toNat) (-1074))
    else
      some (scaled (signOfBits b.toNat * (2 ^ 52 + fractionField b.toNat : ℕ))
        (exponentField b.toNat - 1075)) := by
  have full : unpackExponent b = -1#_ ↔ exponentField b.toNat = 2047 := by
    rw [← BitVec.toNat_inj, toNat_unpackExponent]
    rfl
  have least : unpackExponent b = 0#_ ↔ exponentField b.toNat = 0 := by
    rw [← BitVec.toNat_inj, toNat_unpackExponent]
    rfl
  have empty : unpackMantissa b = 0#_ ↔ fractionField b.toNat = 0 := by
    rw [← BitVec.toNat_inj, toNat_unpackMantissa]
    rfl
  have bias : ((Format.binary64.exponentBias : ℤ) + Format.binary64.mantissaBitsWithoutImplicit) =
      1075 := rfl
  simp only [UnpackedFloat.unpack, full, least, empty, bias, toNat_unpackExponent]
  split
  · split <;> rfl
  · split
    · next zero =>
        split
        · next nothing => simp [number?, scaled, nothing]
        · simp [number?, apply_unpackSign, toNat_unpackMantissa, zero]
    · simp only [number?, apply_unpackSign]
      rw [toNat_implicit]

end

/-! ## Whole seconds -/

theorem scaled_nonpos {m e : ℤ} (h : m ≤ 0) : scaled m e ≤ 0 :=
  mul_nonpos_of_nonpos_of_nonneg (by exact_mod_cast h) (zpow_nonneg (by norm_num) e)

theorem floor_scaled (m : ℕ) (e : ℤ) :
    ⌊scaled m e⌋₊ = if e < 0 then m >>> e.natAbs else m <<< e.natAbs := by
  split
  · next negative =>
      obtain ⟨k, rfl⟩ : ∃ k : ℕ, e = -k := ⟨e.natAbs, by omega⟩
      have same : scaled m (-k) = (m : ℚ) / (2 ^ k : ℕ) := by simp [scaled, div_eq_mul_inv]
      rw [same, Nat.floor_div_eq_div, Int.natAbs_neg, Int.natAbs_natCast, Nat.shiftRight_eq_div_pow]
  · next natural =>
      obtain ⟨k, rfl⟩ : ∃ k : ℕ, e = k := ⟨e.natAbs, by omega⟩
      have same : scaled m k = (m * 2 ^ k : ℕ) := by simp [scaled]
      rw [same, Nat.floor_natCast, Int.natAbs_natCast, Nat.shiftLeft_eq]

/-- The floor of a double, by its fields. -/
theorem floorOfBits_fields {bits : ℕ} (h : bits < 2 ^ 64) : floorOfBits bits =
    if signOfBits bits = -1 ∨ exponentField bits = 0 ∨ exponentField bits = 2047 then 0
    else if exponentField bits < 1075 then
      (2 ^ 52 + fractionField bits) >>> (1075 - exponentField bits)
    else (2 ^ 52 + fractionField bits) <<< (exponentField bits - 1075) := by
  have negative : bits / 4503599627370496 / 2048 = 1 ↔ signOfBits bits = -1 := by
    unfold signOfBits
    split <;> omega
  simp only [floorOfBits, Bool.or_eq_true, decide_eq_true_eq, negative, or_assoc]
  rfl

/-- **What is shown of a finite double is its floor**, if it can be shown at all. -/
theorem floorOfBits_eq {x : Float} {v : ℚ} (h : value? x = some v) :
    floorOfBits x.toBits.toNat = ⌊v⌋₊ := by
  have fields := (number?_unpack x.toBits.toBitVec).symm.trans h
  rw [UInt64.toNat_toBitVec] at fields
  rw [floorOfBits_fields x.toBits.toNat_lt]
  generalize x.toBits.toNat = bits at fields ⊢
  have small : fractionField bits < 2 ^ 52 := Nat.mod_lt _ (by norm_num)
  by_cases infinite : exponentField bits = 2047
  · rw [if_pos infinite] at fields
    cases fields
  rw [if_neg infinite] at fields
  by_cases negative : signOfBits bits = -1
  -- a number below zero has the floor zero here
  · have below : v ≤ 0 := by
      rw [negative] at fields
      split at fields
      · obtain rfl := Option.some.inj fields
        exact scaled_nonpos (by omega)
      · obtain rfl := Option.some.inj fields
        exact scaled_nonpos (by omega)
    rw [if_pos (.inl negative), Nat.floor_of_nonpos below]
  · have positive : signOfBits bits = 1 := by
      unfold signOfBits at negative ⊢
      split <;> simp_all
    simp only [positive, one_mul] at fields
    by_cases least : exponentField bits = 0
    · rw [if_pos least] at fields
      obtain rfl := Option.some.inj fields
      rw [if_pos (.inr (.inl least)), floor_scaled, if_pos (by norm_num), Nat.shiftRight_eq_div_pow,
        Nat.div_eq_of_lt]
      exact small.trans (Nat.pow_lt_pow_right (by norm_num) (by norm_num))
    · rw [if_neg least] at fields
      obtain rfl := Option.some.inj fields
      rw [if_neg (by simp [negative, least, infinite]), floor_scaled]
      by_cases fraction : exponentField bits < 1075
      · have shift : ((exponentField bits : ℤ) - 1075).natAbs = 1075 - exponentField bits := by
          omega
        rw [if_pos fraction, if_pos (by omega), shift]
      · have shift : ((exponentField bits : ℤ) - 1075).natAbs = exponentField bits - 1075 := by
          omega
        rw [if_neg fraction, if_neg (by omega), shift]

/-! ## Positive doubles -/

theorem scaled_pos {m e : ℤ} (h : 0 < m) : 0 < scaled m e :=
  mul_pos (by exact_mod_cast h) (zpow_pos (by norm_num) e)

theorem lt_iff_compare (x y : Float) :
    x < y ↔ x.toModel.unpack.compare y.toModel.unpack = some .lt := by
  have compared : x < y ↔ decide (x.toModel < y.toModel) = true := Iff.rfl
  rw [compared, decide_eq_true_iff]
  exact beq_iff_eq

/-- **The finite doubles above zero** are those that stand for a number above zero. -/
theorem isFinite_and_pos_iff (x : Float) :
    x.isFinite = true ∧ 0 < x ↔ ∃ v, value? x = some v ∧ 0 < v := by
  have finite : x.isFinite = x.toModel.unpack.isFinite := rfl
  have zero : (0 : Float).toModel.unpack = .zero .positive := rfl
  rw [finite, lt_iff_compare, zero, value?]
  cases x.toModel.unpack with
  | infinity sign => simp [UnpackedFloat.isFinite, number?]
  | notANumber => simp [UnpackedFloat.isFinite, number?]
  | zero sign => simp [UnpackedFloat.isFinite, UnpackedFloat.compare, number?]
  | finite sign m e positive =>
      cases sign with
      | negative =>
          have below := not_lt.mpr (scaled_nonpos (m := -m) (e := e) (by omega))
          simpa [UnpackedFloat.isFinite, UnpackedFloat.compare, number?, Sign.apply] using below
      | positive =>
          have above := scaled_pos (m := m) (e := e) (by omega)
          simpa [UnpackedFloat.isFinite, UnpackedFloat.compare, number?, Sign.apply] using above

/-! ## The fields of what is packed -/

section

variable (exponent : BitVec 11) (mantissa : BitVec 52)

theorem exponentField_packComponents :
    exponentField (packComponents Format.binary64 .positive exponent mantissa).toNat =
      exponent.toNat := by
  rw [← toNat_unpackExponent, unpackExponent_packComponents]

theorem fractionField_packComponents :
    fractionField (packComponents Format.binary64 .positive exponent mantissa).toNat =
      mantissa.toNat := by
  rw [← toNat_unpackMantissa, unpackMantissa_packComponents]

theorem signOfBits_packComponents :
    signOfBits (packComponents Format.binary64 .positive exponent mantissa).toNat = 1 := by
  have one := apply_unpackSign (packComponents Format.binary64 .positive exponent mantissa) 1
  rw [unpackSign_packComponents, Sign.ofBitVec_toBitVec] at one
  simpa [Sign.apply] using one.symm

end

/-! ## Whole numbers as doubles -/

section

variable {m : ℕ} {e : ℤ}

theorem log2_of_normal (low : 2 ^ 52 ≤ m) (high : m < 2 ^ 53) : m.log2 = 52 :=
  (Nat.log2_eq_iff (by omega)).mpr ⟨low, high⟩

/-- A mantissa that fills its field is not rounded. -/
theorem shiftToTargetExponent_of_normal (low : 2 ^ 52 ≤ m) (high : m < 2 ^ 53) (least : -1074 ≤ e) :
    shiftToTargetExponent Format.binary64 m e .exact = (⟨m, false, false⟩, e) := by
  have target : Format.binary64.targetExponent (totalExponent m e) = e := by
    simp only [Format.targetExponent, totalExponent, log2_of_normal low high, Format.mantissaBits,
      Format.minExponent]
    omega
  have still (mantissa : ExtendedMantissa) : mantissa >>> (0 : ℕ) = mantissa := rfl
  simp [shiftToTargetExponent, target, shiftToExponent, still,
    ExtendedMantissa.ofMantissaAndAccuracy]

theorem roundWithAccuracy_of_normal (low : 2 ^ 52 ≤ m) (high : m < 2 ^ 53) (least : -1074 ≤ e) :
    roundWithAccuracy Format.binary64 .positive m e .exact =
      .finite .positive m e (by omega) := by
  have filled : m ≠ 0 := by omega
  simp [roundWithAccuracy, shiftToTargetExponent_of_normal low high least, filled,
    ExtendedMantissa.roundedMantissa, ExtendedMantissa.accuracy, Accuracy.roundToNearestEven]

/-- Such a mantissa is packed behind its exponent, without its first digit. -/
theorem pack_of_normal (low : 2 ^ 52 ≤ m) (high : m < 2 ^ 53) (least : -1074 ≤ e)
    (greatest : e ≤ 971) :
    UnpackedFloat.pack Format.binary64 (.finite .positive m e (by omega)) =
      packComponents Format.binary64 .positive (BitVec.ofNat 11 (e + 1075).toNat)
        (BitVec.ofNat 52 m) := by
  have biased : (e + Format.binary64.exponentBias + Format.binary64.mantissaBitsWithoutImplicit) =
      e + 1075 := by
    simp [Format.exponentBias]
    ring
  have room : ¬2 ^ Format.binary64.exponentBits ≤ (e + 1075).toNat + 1 := by
    have capacity : 2 ^ Format.binary64.exponentBits = 2048 := rfl
    omega
  have filled : m.log2 + 1 = Format.binary64.mantissaBits := by
    rw [log2_of_normal low high]
    rfl
  simp only [UnpackedFloat.pack, biased, if_neg room, if_pos filled]

/-- It is found again in the fields of the double. -/
theorem number?_unpack_pack (low : 2 ^ 52 ≤ m) (high : m < 2 ^ 53) (least : -1074 ≤ e)
    (greatest : e ≤ 971) :
    number? (UnpackedFloat.unpack Format.binary64
      (UnpackedFloat.pack Format.binary64 (.finite .positive m e (by omega)))) =
        some (scaled m e) := by
  have exponent : (BitVec.ofNat 11 (e + 1075).toNat).toNat = (e + 1075).toNat :=
    Nat.mod_eq_of_lt (by omega)
  have fraction : 2 ^ 52 + (BitVec.ofNat 52 m).toNat = m := by
    rw [BitVec.toNat_ofNat]
    omega
  rw [pack_of_normal low high least greatest, number?_unpack, exponentField_packComponents,
    fractionField_packComponents, signOfBits_packComponents, exponent, fraction,
    if_neg (by omega), if_neg (by omega), one_mul, Int.toNat_of_nonneg (by omega)]
  congr 2
  ring

end

/-- A whole number is filled up with zeros until its first digit is in place. -/
theorem ofNat_eq {n : ℕ} (positive : 0 < n) (small : n.log2 ≤ 52) :
    UnpackedFloat.ofNat Format.binary64 n = roundWithAccuracy Format.binary64 .positive
      (n <<< (52 - n.log2)) ((n.log2 : ℤ) - 52) .exact := by
  have above : compare (n : ℤ) 0 = .gt := compare_gt_iff_gt.mpr (by omega)
  have target : Format.binary64.targetExponent (totalExponent n 0) = (n.log2 : ℤ) - 52 := by
    simp only [Format.targetExponent, totalExponent, Format.mantissaBits, Format.minExponent]
    omega
  have shift : (0 - ((n.log2 : ℤ) - 52)).toNat = 52 - n.log2 := by omega
  have exponent : (0 : ℤ) - (52 - n.log2 : ℕ) = (n.log2 : ℤ) - 52 := by omega
  simp only [UnpackedFloat.ofNat, UnpackedFloat.ofInt, UnpackedFloat.normalize,
    UnpackedFloat.round, above, target, decreaseExponent, shift, exponent, Int.toNat_natCast]

section

variable {n : ℕ} (positive : 0 < n) (small : n < 2 ^ 53)
include positive small

theorem log2_le : n.log2 ≤ 52 := Nat.lt_succ_iff.mp ((Nat.log2_lt positive.ne').mpr small)

/-- Then its digits fill the mantissa. -/
theorem filled_bounds : 2 ^ 52 ≤ n <<< (52 - n.log2) ∧ n <<< (52 - n.log2) < 2 ^ 53 := by
  have digits : 2 ^ n.log2 * 2 ^ (52 - n.log2) = 2 ^ 52 := by
    rw [← Nat.pow_add, Nat.add_sub_cancel' (log2_le positive small)]
  rw [Nat.shiftLeft_eq]
  constructor
  · rw [← digits]
    exact Nat.mul_le_mul_right _ (Nat.log2_self_le positive.ne')
  · calc n * 2 ^ (52 - n.log2) < 2 ^ (n.log2 + 1) * 2 ^ (52 - n.log2) :=
          Nat.mul_lt_mul_of_pos_right Nat.lt_log2_self (Nat.two_pow_pos _)
      _ = 2 ^ n.log2 * 2 ^ (52 - n.log2) * 2 := by ring
      _ = 2 ^ 53 := by rw [digits]; norm_num

/-- The zeros are taken back by the exponent. -/
theorem scaled_filled : scaled (n <<< (52 - n.log2) : ℕ) ((n.log2 : ℤ) - 52) = n := by
  have first := log2_le positive small
  have whole : ((n <<< (52 - n.log2) : ℕ) : ℚ) = n * 2 ^ (52 - n.log2) := by
    rw [Nat.shiftLeft_eq]
    push_cast
    rfl
  have back : ((n.log2 : ℤ) - 52) = -((52 - n.log2 : ℕ) : ℤ) := by omega
  rw [scaled, Int.cast_natCast, whole, back, zpow_neg, zpow_natCast, mul_assoc,
    mul_inv_cancel₀ (by positivity), mul_one]

end

/-- **A whole number up to `2 ^ 53` is a double.** -/
theorem value?_toFloat {n : ℕ} (h : n ≤ 2 ^ 53) :
    value? (UInt64.ofNat n).toFloat = some (n : ℚ) := by
  have word : (UInt64.ofNat n).toNat = n := UInt64.toNat_ofNat_of_lt' (by
    have size : UInt64.size = 2 ^ 64 := rfl
    omega)
  have converted : (UInt64.ofNat n).toFloat.toModel.unpack = UnpackedFloat.unpack Format.binary64
      (UnpackedFloat.pack Format.binary64
        (UnpackedFloat.ofNat Format.binary64 (UInt64.ofNat n).toNat)) := rfl
  rcases Nat.eq_zero_or_pos n with rfl | positive
  · rfl
  rcases Nat.eq_or_lt_of_le h with rfl | small
  -- the largest one has a digit more than the mantissa, but that digit is zero
  · have last : (UInt64.ofNat (2 ^ 53)).toFloat.toModel.unpack =
        .finite .positive (2 ^ 52) 1 (by decide) := rfl
    rw [value?, last, number?, scaled]
    norm_num [Sign.apply]
  · obtain ⟨low, high⟩ := filled_bounds positive small
    have first := log2_le positive small
    rw [value?, converted, word, ofNat_eq positive first,
      roundWithAccuracy_of_normal low high (by omega),
      number?_unpack_pack low high (by omega) (by omega), scaled_filled positive small]

end Livecast.PlaybackTime
