import LatticeDiff.Proofs.Binary64.Integer
import Mathlib.Algebra.Order.Field.Power
import Mathlib.Data.Rat.Floor

/-!
# Doubles as rational numbers

A finite double is a rational number. Comparing it with an integer compares that number, it is
equal to an integer exactly if that number is, and unless it is negative, its integer part is
the floor of that number. Integers of at most 53 bits are doubles themselves.
-/

namespace LatticeDiff

namespace Binary64

/-- The rational number that a finite double is. -/
def rational? : Binary64 → Option ℚ
  | .finite negative mantissa exponent => some (signed negative mantissa * 2 ^ exponent)
  | _ => none

theorem signed_mul (negative : Bool) (magnitude factor : Nat) :
    signed negative (magnitude * factor) = signed negative magnitude * factor := by
  cases negative <;> simp [signed]

theorem zpow_two_eq_div (exponent : Int) :
    (2 : ℚ) ^ exponent =
      (Nat.pow 2 exponent.toNat : Nat) / (Nat.pow 2 (-exponent).toNat : Nat) := by
  simp only [Nat.pow_eq, Nat.cast_pow, Nat.cast_ofNat]
  obtain ⟨bits, rfl | rfl⟩ := exponent.eq_nat_or_neg
  · simp
  · simp

theorem rational_eq_div (negative : Bool) (mantissa : Nat) (exponent : Int) :
    (signed negative mantissa : ℚ) * 2 ^ exponent =
      (signed negative (mantissa * Nat.pow 2 exponent.toNat) : ℚ) /
        (Nat.pow 2 (-exponent).toNat : Nat) := by
  rw [zpow_two_eq_div, signed_mul, Int.cast_mul, Int.cast_natCast, mul_div_assoc]

theorem exists_compare?_eq {value : Binary64} {number : ℚ}
    (same : value.rational? = some number) (bound : Int) :
    ∃ ordering, value.compare? bound = some ordering ∧ (ordering = .lt ↔ number < bound) := by
  cases value with
  | nan | infinite => cases same
  | finite negative mantissa exponent =>
      have positive : (0 : ℚ) < (Nat.pow 2 (-exponent).toNat : Nat) :=
        Nat.cast_pos.2 (Nat.two_pow_pos _)
      cases same
      refine ⟨_, rfl, ?_⟩
      rw [Int.compare_eq_lt, rational_eq_div, div_lt_iff₀ positive]
      exact_mod_cast Iff.rfl

/-- An exponent is negative or it is not, so a mantissa is divided by a power of two or
multiplied by one. -/
theorem mod_two_pow_eq_zero_iff {mantissa : Nat} {exponent : Int} :
    mantissa % Nat.pow 2 (-exponent).toNat = 0 ↔
      Nat.pow 2 (-exponent).toNat ∣ mantissa * Nat.pow 2 exponent.toNat := by
  rw [← Nat.dvd_iff_mod_eq_zero]
  rcases Int.le_total 0 exponent with up | down
  · have noFraction : (-exponent).toNat = 0 := by omega
    simp [noFraction]
  · have noZeros : exponent.toNat = 0 := by omega
    simp [noZeros]

theorem integer?_eq_some_iff {value : Binary64} {whole : Int} :
    value.integer? = some whole ↔ value.rational? = some (whole : ℚ) := by
  cases value with
  | nan | infinite => simp [integer?, rational?]
  | finite negative mantissa exponent =>
      have positive : 0 < Nat.pow 2 (-exponent).toNat := Nat.two_pow_pos _
      have nonzero : ((Nat.pow 2 (-exponent).toNat : Nat) : ℚ) ≠ 0 :=
        Nat.cast_ne_zero.2 (Nat.ne_of_gt positive)
      rw [integer?, Option.ite_none_right_eq_some, Option.some.injEq, rational?,
        Option.some.injEq, rational_eq_div, div_eq_iff nonzero, mod_two_pow_eq_zero_iff, wholePart]
      generalize Nat.pow 2 (-exponent).toNat = unit at *
      generalize mantissa * Nat.pow 2 exponent.toNat = magnitude at *
      have scaled : (signed negative magnitude : ℚ) = whole * unit ↔
          signed negative magnitude = whole * unit := by exact_mod_cast Iff.rfl
      rw [scaled]
      constructor
      · rintro ⟨⟨quotient, rfl⟩, rfl⟩
        rw [Nat.mul_div_cancel_left _ positive, Nat.mul_comm, signed_mul]
      · intro product
        have divides : unit ∣ magnitude := by
          rw [← natAbs_signed negative magnitude, product, Int.natAbs_mul, Int.natAbs_natCast]
          exact Nat.dvd_mul_left unit _
        obtain ⟨quotient, rfl⟩ := divides
        rw [Nat.mul_comm, signed_mul] at product
        refine ⟨Nat.dvd_mul_right unit quotient, ?_⟩
        rw [Nat.mul_div_cancel_left _ positive]
        exact Int.eq_of_mul_eq_mul_right (Int.natCast_ne_zero.2 (Nat.ne_of_gt positive)) product

/-- Rounding toward zero is rounding down, unless a number is negative. -/
theorem wholePart_eq_floor {negative : Bool} {mantissa : Nat} {exponent : Int}
    (nonneg : 0 ≤ (signed negative mantissa : ℚ) * 2 ^ exponent) :
    wholePart negative mantissa exponent = ⌊(signed negative mantissa : ℚ) * 2 ^ exponent⌋ := by
  have positive : 0 < Nat.pow 2 (-exponent).toNat := Nat.two_pow_pos _
  rw [rational_eq_div] at nonneg ⊢
  rw [wholePart]
  generalize Nat.pow 2 (-exponent).toNat = unit at *
  generalize mantissa * Nat.pow 2 exponent.toNat = magnitude at *
  rw [Rat.floor_intCast_div_natCast]
  cases negative with
  | false => rfl
  | true =>
      have divisor : (0 : ℚ) < unit := Nat.cast_pos.2 positive
      rw [le_div_iff₀ divisor, zero_mul] at nonneg
      have nonpositive : 0 ≤ signed true magnitude := by exact_mod_cast nonneg
      obtain rfl : magnitude = 0 := by
        simp only [signed, if_true] at nonpositive
        omega
      simp [signed]

theorem rational?_ofInt {whole : Int} (small : whole.natAbs < 2 ^ 53) :
    (ofFloat (Float.ofInt whole)).rational? = some (whole : ℚ) := by
  have fits : Word.fits whole = true := by
    have signedLimit : Word.signedLimit = 2 ^ 63 := rfl
    have unsignedLimit : Word.unsignedLimit = 2 ^ 64 := rfl
    simp only [Word.fits, Bool.and_eq_true, decide_eq_true_eq, signedLimit, unsignedLimit]
    omega
  have precise : Precise whole.natAbs := by
    rw [← Nat.mul_one whole.natAbs]
    exact precise_mul_two_pow small 0
  rw [← integer?_eq_some_iff, integer?_ofInt fits, rounded_eq_self_iff.2 precise]

end Binary64

end LatticeDiff
