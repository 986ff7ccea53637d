import LatticeDiff.Proofs.Binary64.HalfEven

/-!
# Rounding to normal doubles

The logical model of `Float` rounds a number by shifting its mantissa to 53 bits,
rounding what was shifted out, and shifting once more if that has carried into another
bit. This module follows the shifts for numbers in the normal range: what comes out is
normal, and the number that `halfEven` says.
-/

namespace LatticeDiff

namespace Binary64

open Float.Model (Format UnpackedFloat totalExponent)
open Float.Model.UnpackedFloat

theorem shiftRight_succ (extended : ExtendedMantissa) (bits : Nat) :
    extended >>> (bits + 1) = (extended >>> bits).shiftRightOne := rfl

theorem mantissa_shiftRight (extended : ExtendedMantissa) (bits : Nat) :
    (extended >>> bits).mantissa = extended.mantissa / 2 ^ bits := by
  induction bits with
  | zero => exact (Nat.div_one _).symm
  | succ bits ih =>
      rw [shiftRight_succ, ExtendedMantissa.shiftRightOne, ih, Nat.div_div_eq_div_mul,
        Nat.pow_succ]

/-- The two bits that are kept of what is shifted out tell where it stands relative to a
half and whether it is more than that or nothing. -/
theorem residue_shiftRight (mantissa bits : Nat) :
    let shifted := ExtendedMantissa.mk mantissa false false >>> bits
    let residue := 2 * (mantissa % 2 ^ bits)
    (shifted.roundBit = true ↔ 2 ^ bits ≤ residue) ∧
      (shifted.stickyBit = true ↔ residue ≠ 0 ∧ residue ≠ 2 ^ bits) := by
  induction bits with
  | zero =>
      have same : ExtendedMantissa.mk mantissa false false >>> 0 = ⟨mantissa, false, false⟩ := rfl
      simp [same, Nat.mod_one]
  | succ bits ih =>
      obtain ⟨roundBit, stickyBit⟩ := ih
      have digit : mantissa % 2 ^ (bits + 1) =
          mantissa % 2 ^ bits + 2 ^ bits * (mantissa / 2 ^ bits % 2) := by
        rw [Nat.pow_succ, Nat.mod_mul]
      have positive := Nat.two_pow_pos bits
      have below := Nat.mod_lt mantissa positive
      have parity := Nat.mod_two_eq_zero_or_one (mantissa / 2 ^ bits)
      simp only [shiftRight_succ, ExtendedMantissa.shiftRightOne, mantissa_shiftRight,
        Bool.or_eq_true, roundBit, stickyBit, bne_iff_ne, digit]
      rw [Nat.pow_succ]
      rcases parity with even | odd
      · rw [even]
        omega
      · rw [odd]
        omega

/-- Shifting and rounding is rounding to the nearest, ties going to the even one. -/
theorem roundedMantissa_shiftRight (mantissa bits : Nat) :
    (ExtendedMantissa.mk mantissa false false >>> bits).roundedMantissa =
      halfEven mantissa bits := by
  obtain ⟨roundBit, stickyBit⟩ := residue_shiftRight mantissa bits
  have quotient := mantissa_shiftRight ⟨mantissa, false, false⟩ bits
  generalize ExtendedMantissa.mk mantissa false false >>> bits = shifted at *
  obtain ⟨kept, half, more⟩ := shifted
  simp only at roundBit stickyBit quotient
  rw [halfEven, ← quotient]
  split
  · next less =>
      rw [Nat.compare_eq_lt] at less
      have noHalf : half = false := by
        rw [← Bool.not_eq_true, roundBit]
        omega
      rw [noHalf]
      cases more <;> rfl
  · next tie =>
      rw [Nat.compare_eq_eq] at tie
      have isHalf : half = true := roundBit.2 (by omega)
      have noMore : more = false := by
        rw [← Bool.not_eq_true, stickyBit]
        omega
      rw [isHalf, noMore]
      rfl
  · next greater =>
      rw [Nat.compare_eq_gt] at greater
      have isHalf : half = true := roundBit.2 (by omega)
      have isMore : more = true := stickyBit.2 (by omega)
      rw [isHalf, isMore]
      rfl

theorem targetExponent_of_log2 {mantissa bits : Nat} {exponent : Int}
    (size : mantissa.log2 = 52 + bits) (above : -1074 ≤ exponent + bits) :
    Format.binary64.targetExponent (totalExponent mantissa exponent) = exponent + bits := by
  have width : Format.binary64.mantissaBits = 53 := rfl
  have least : Format.binary64.minExponent = -1074 := rfl
  rw [Format.targetExponent, totalExponent, size, width, least]
  omega

theorem shiftToTargetExponent_of_log2 {mantissa bits : Nat} {exponent : Int}
    (size : mantissa.log2 = 52 + bits) (above : -1074 ≤ exponent + bits) :
    shiftToTargetExponent Format.binary64 mantissa exponent .exact =
      (ExtendedMantissa.mk mantissa false false >>> bits, exponent + bits) := by
  have amount : (exponent + bits - exponent).toNat = bits := by omega
  unfold shiftToTargetExponent shiftToExponent
  simp only [targetExponent_of_log2 size above, amount]
  rfl

/-- The second shift of a rounded mantissa, which is needed only after a carry. -/
theorem shift_rounded {rounded : Nat} {exponent : Int} (lower : 2 ^ 52 ≤ rounded)
    (upper : rounded ≤ 2 ^ 53) (above : -1074 ≤ exponent) :
    ∃ final last, Normal final ∧
      shiftToTargetExponent Format.binary64 rounded exponent .exact =
        (⟨final, false, false⟩, last) ∧
      (last = exponent ∧ final = rounded ∨ last = exponent + 1 ∧ final * 2 = rounded) := by
  rcases Nat.lt_or_eq_of_le upper with below | rfl
  · have normal : Normal rounded := ⟨lower, below⟩
    have above' : -1074 ≤ exponent + (0 : Nat) := by omega
    have shifted := shiftToTargetExponent_of_log2 normal.log2 above'
    rw [Int.natCast_zero, Int.add_zero] at shifted
    exact ⟨rounded, exponent, normal, shifted, .inl ⟨rfl, rfl⟩⟩
  · have size : Nat.log2 (2 ^ 53) = 52 + 1 := by decide
    have above' : -1074 ≤ exponent + (1 : Nat) := by omega
    have shifted := shiftToTargetExponent_of_log2 size above'
    exact ⟨2 ^ 52, exponent + 1, ⟨by decide, by decide⟩, shifted, .inr ⟨rfl, rfl⟩⟩

/-- A number in the normal range is rounded to a normal mantissa, at the exponent that
its size asks for or, after a carry, at the next one. -/
theorem roundWithAccuracy_normal (sign : Sign) {mantissa bits : Nat} {exponent : Int}
    (size : mantissa.log2 = 52 + bits) (above : -1074 ≤ exponent + bits) :
    ∃ final last, ∃ positive : 0 < final, Normal final ∧
      roundWithAccuracy Format.binary64 sign mantissa exponent .exact =
        .finite sign final last positive ∧
      (last = exponent + bits ∧ final = halfEven mantissa bits ∨
        last = exponent + bits + 1 ∧ final * 2 = halfEven mantissa bits) := by
  have first := shiftToTargetExponent_of_log2 size above
  obtain ⟨lower, upper⟩ := halfEven_of_log2 size
  obtain ⟨final, last, normal, second, value⟩ := shift_rounded lower upper above
  have positive : 0 < final := Nat.lt_of_lt_of_le (Nat.two_pow_pos 52) normal.1
  refine ⟨final, last, positive, normal, ?_, value⟩
  simp only [roundWithAccuracy, first, roundedMantissa_shiftRight, second,
    Nat.ne_of_gt positive, dite_false]

theorem roundWithAccuracy_mul_two_pow (sign : Sign) {mantissa : Nat} (positive : 0 < mantissa)
    (normal : Normal mantissa) {bits : Nat} {exponent : Int}
    (above : -1074 ≤ exponent + bits) :
    roundWithAccuracy Format.binary64 sign (mantissa * 2 ^ bits) exponent .exact =
      .finite sign mantissa (exponent + bits) positive := by
  have size : (mantissa * 2 ^ bits).log2 = 52 + bits := by
    rw [log2_mul_two_pow (Nat.ne_of_gt positive), normal.log2]
  obtain ⟨final, last, _, finalNormal, rounded, value⟩ :=
    roundWithAccuracy_normal sign size above
  rw [halfEven_mul_two_pow] at value
  rcases value with ⟨rfl, rfl⟩ | ⟨_, doubled⟩
  · exact rounded
  · have least := finalNormal.1
    have greatest := normal.2
    omega

end Binary64

end LatticeDiff
