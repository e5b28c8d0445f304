import Mathlib.Tactic.Ring
import Switchboard.Decimal.Interval

/-!
# Whole numbers as binary64 values

A whole number below `2 ^ 53` is a binary64 value itself: its conversion is not
rounded, and its bits show the number.
-/

namespace Switchboard.Decimal

open Float.Model Float.Model.UnpackedFloat

theorem targetExponent_eq (significand : Nat) (exponent : Int) :
    Format.binary64.targetExponent (totalExponent significand exponent) =
      max (((significand.log2 : Int) + 1 + exponent) - 53) (-1074) := rfl

private theorem shiftToTargetExponent_of_full
    {significand : Nat} {exponent : Int}
    (full : significand.log2 = 52) (least : -1074 ≤ exponent) :
    shiftToTargetExponent Format.binary64 significand exponent .exact =
      (⟨significand, false, false⟩, exponent) := by
  have target :
      Format.binary64.targetExponent (totalExponent significand exponent) =
        exponent := by
    rw [targetExponent_eq, full]
    omega
  unfold shiftToTargetExponent
  rw [target]
  simp [shiftToExponent, HShiftRight.hShiftRight, Nat.repeat,
    ExtendedMantissa.ofMantissaAndAccuracy]

/-- A significand of 53 bits is not rounded. -/
theorem roundWithAccuracy_of_full {significand : Nat} {exponent : Int}
    (full : significand.log2 = 52) (least : -1074 ≤ exponent)
    (positive : 0 < significand) :
    roundWithAccuracy Format.binary64 .positive significand exponent .exact =
      .finite .positive significand exponent positive := by
  have again : shiftToTargetExponent Format.binary64
      (ExtendedMantissa.roundedMantissa ⟨significand, false, false⟩) exponent
        .exact = (⟨significand, false, false⟩, exponent) :=
    shiftToTargetExponent_of_full full least
  unfold roundWithAccuracy
  rw [shiftToTargetExponent_of_full full least]
  dsimp only
  rw [again]
  exact dif_neg (Nat.ne_of_gt positive)

/-- The significand of a number: the number shifted until it has 53 bits. -/
def fullSignificand (number : Nat) : Nat :=
  number * Nat.pow 2 (52 - number.log2)

section

variable {number : Nat}

theorem log2_le_of_small (positive : 0 < number)
    (small : number < 9007199254740992) : number.log2 ≤ 52 := by
  have below : number.log2 < 53 :=
    (Nat.log2_lt (Nat.ne_of_gt positive)).mpr small
  omega

theorem fullSignificand_bounds (positive : 0 < number)
    (small : number < 9007199254740992) :
    4503599627370496 ≤ fullSignificand number ∧
      fullSignificand number < 9007199254740992 := by
  have bounded := log2_le_of_small positive small
  have low := Nat.log2_self_le (Nat.ne_of_gt positive)
  have high := Nat.lt_log2_self (n := number)
  have shift : 0 < 2 ^ (52 - number.log2) := Nat.pow_pos (by decide)
  constructor
  · calc
      4503599627370496 = 2 ^ number.log2 * 2 ^ (52 - number.log2) := by
        rw [← Nat.pow_add, Nat.add_sub_of_le bounded]
      _ ≤ number * 2 ^ (52 - number.log2) :=
        Nat.mul_le_mul_right _ low
  · calc
      number * 2 ^ (52 - number.log2) <
          2 ^ (number.log2 + 1) * 2 ^ (52 - number.log2) :=
        Nat.mul_lt_mul_of_pos_right high shift
      _ = 9007199254740992 := by
        rw [← Nat.pow_add]
        have sum : number.log2 + 1 + (52 - number.log2) = 53 := by omega
        rw [sum]

theorem log2_fullSignificand (positive : 0 < number)
    (small : number < 9007199254740992) :
    (fullSignificand number).log2 = 52 := by
  obtain ⟨low, high⟩ := fullSignificand_bounds positive small
  have apart : fullSignificand number ≠ 0 := by omega
  exact (Nat.log2_eq_iff apart).mpr ⟨low, high⟩

theorem ofNat_of_small (positive : 0 < number)
    (small : number < 9007199254740992)
    (nonzero : 0 < fullSignificand number) :
    UnpackedFloat.ofNat Format.binary64 number =
      .finite .positive (fullSignificand number)
        ((number.log2 : Int) - 52) nonzero := by
  have bounded := log2_le_of_small positive small
  have greater : compare (number : Int) 0 = .gt :=
    Int.compare_eq_gt.mpr (Int.natCast_pos.mpr positive)
  have target :
      Format.binary64.targetExponent (totalExponent number 0) =
        (number.log2 : Int) - 52 := by
    rw [targetExponent_eq]
    omega
  have distance :
      (0 - ((number.log2 : Int) - 52)).toNat = 52 - number.log2 := by
    omega
  have exponent : (0 : Int) - ((52 - number.log2 : Nat) : Int) =
      (number.log2 : Int) - 52 := by
    omega
  have shifted : UnpackedFloat.round Format.binary64 .positive number 0 =
      roundWithAccuracy Format.binary64 .positive (fullSignificand number)
        ((number.log2 : Int) - 52) .exact := by
    simp only [UnpackedFloat.round, target, decreaseExponent, distance,
      exponent, Nat.shiftLeft_eq]
    rfl
  unfold UnpackedFloat.ofNat UnpackedFloat.ofInt UnpackedFloat.normalize
  rw [greater]
  exact shifted.trans (roundWithAccuracy_of_full
    (log2_fullSignificand positive small) (by omega) nonzero)

end

/-- The number that the parts of a positive value are packed into. -/
theorem toNat_packComponents (exponent : BitVec 11) (fraction : BitVec 52) :
    (packComponents Format.binary64 .positive exponent fraction).toNat =
      exponent.toNat * 4503599627370496 + fraction.toNat := by
  have below : fraction.toNat < 2 ^ 52 := fraction.isLt
  have sign : (0#1 ++ exponent).toNat = exponent.toNat := by
    rw [BitVec.toNat_append]
    simp
  have parts :
      (packComponents Format.binary64 .positive exponent fraction).toNat =
        exponent.toNat <<< 52 ||| fraction.toNat := by
    rw [← sign]
    exact BitVec.toNat_append _ fraction
  rw [parts, ← Nat.shiftLeft_add_eq_or_of_lt below, Nat.shiftLeft_eq]

private theorem pack_of_full {significand : Nat} {exponent : Int}
    (full : significand.log2 = 52) (positive : 0 < significand)
    (low : -1074 ≤ exponent) (high : exponent ≤ 971) :
    UnpackedFloat.pack Format.binary64
        (.finite .positive significand exponent positive) =
      packComponents Format.binary64 .positive
        (BitVec.ofNat 11 (exponent + 1075).toNat)
        (BitVec.ofNat 52 significand) := by
  have biased : (exponent + 1023 + 52).toNat = (exponent + 1075).toNat := by
    omega
  have cases : UnpackedFloat.pack Format.binary64
      (.finite .positive significand exponent positive) =
        if 2048 ≤ (exponent + 1023 + 52).toNat + 1 then
          packedInfinity Format.binary64 .positive
        else if significand.log2 + 1 = 53 then
          packComponents Format.binary64 .positive
            (BitVec.ofNat 11 (exponent + 1023 + 52).toNat)
            (BitVec.ofNat 52 significand)
        else
          packComponents Format.binary64 .positive 0
            (BitVec.ofNat 52 significand) := rfl
  rw [cases, biased, if_neg (by omega), if_pos (by omega)]

/-- The bits of a small count: its magnitude in the exponent, and its
significand without the leading bit. -/
theorem toNat_toBits_toFloat {count : UInt64} (positive : 0 < count.toNat)
    (small : count.toNat < 9007199254740992) :
    count.toFloat.toBits.toNat =
      (count.toNat.log2 + 1022) * 4503599627370496 +
        fullSignificand count.toNat := by
  obtain ⟨low, high⟩ := fullSignificand_bounds positive small
  have bounded := log2_le_of_small positive small
  have nonzero : 0 < fullSignificand count.toNat := by omega
  have bits : count.toFloat.toBits.toNat =
      (UnpackedFloat.pack Format.binary64
        (UnpackedFloat.ofNat Format.binary64 count.toNat)).toNat := rfl
  rw [bits, ofNat_of_small positive small nonzero,
    pack_of_full (log2_fullSignificand positive small) nonzero (by omega)
      (by omega),
    toNat_packComponents, BitVec.toNat_ofNat, BitVec.toNat_ofNat]
  omega

end Switchboard.Decimal
