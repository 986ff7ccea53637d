import LatticeDiff.Stencil.Accuracy
import Mathlib

/-!
# Moments and polynomials

In exact arithmetic a formula is a linear functional of the values at its offsets. On
the values of a polynomial around a point, Taylor's expansion turns it into a
combination of the moments, which belong to monomials at the origin. So the moments
below a degree decide about all polynomials below that degree, at all points, and the
first wrong moment makes the formula wrong for every polynomial of its degree.
-/

namespace LatticeDiff

namespace Stencil

open Polynomial

/-- The sum of exact values at the offsets, each times the coefficient of its offset. -/
def combine (stencil : Stencil) (values : Int → ℚ) : ℚ :=
  (stencil.offsets.zipWith (fun offset coefficient => coefficient * values offset)
    stencil.coefficients).sum

variable {stencil : Stencil}

theorem combine_eq_sum (stencil : Stencil) (values : Int → ℚ) :
    stencil.combine values =
      (stencil.terms.map fun term => stencil.coefficient term * values term.offset).sum := by
  rw [combine, offsets, coefficients, List.zipWith_map, List.zipWith_self]

theorem combine_mul_left (stencil : Stencil) (factor : ℚ) (values : Int → ℚ) :
    (stencil.combine fun offset => factor * values offset) = factor * stencil.combine values := by
  rw [combine_eq_sum, combine_eq_sum, ← List.sum_map_mul_left]
  congr 2
  funext term
  ring

theorem combine_add (stencil : Stencil) (first second : Int → ℚ) :
    (stencil.combine fun offset => first offset + second offset) =
      stencil.combine first + stencil.combine second := by
  rw [combine_eq_sum, combine_eq_sum, combine_eq_sum, ← List.sum_map_add]
  congr 2
  funext term
  ring

theorem combine_zero (stencil : Stencil) : (stencil.combine fun _ => 0) = 0 := by
  simp [combine_eq_sum]

theorem combine_sum (stencil : Stencil) (indices : Finset Nat) (values : Nat → Int → ℚ) :
    (stencil.combine fun offset => ∑ index ∈ indices, values index offset) =
      ∑ index ∈ indices, stencil.combine (values index) := by
  induction indices using Finset.induction_on with
  | empty => simp [combine_zero]
  | insert index indices fresh ih =>
      simp only [Finset.sum_insert fresh]
      rw [combine_add, ih]

/-- A moment is what the formula gives for a monomial at the origin. -/
theorem moment_eq_combine (stencil : Stencil) (degree : Nat) :
    stencil.moment degree = stencil.combine fun offset => (offset : ℚ) ^ degree := by
  rw [combine_eq_sum, moment, List.sum_eq_foldr, List.foldr_map]
  congr 1
  funext term total
  rw [← Int.cast_pow]
  rfl

theorem factorial_eq (number : Nat) : factorial number = number.factorial := by
  induction number with
  | zero => rfl
  | succ number ih => rw [factorial, ih, Nat.factorial_succ]

theorem expectedMoment_eq (stencil : Stencil) {derivative : Nat}
    (same : stencil.derivative = derivative) (degree : Nat) :
    stencil.expectedMoment degree =
      if degree = derivative then (derivative.factorial : ℚ) else 0 := by
  rw [expectedMoment, same, factorial_eq]
  simp only [Int.natCast_inj]
  split
  · next reached => rw [reached]
  · rfl

/-- The moments below a degree are those of an exact formula. -/
def HasMoments (stencil : Stencil) (bound : Nat) : Prop :=
  ∀ degree < bound, stencil.moment degree = stencil.expectedMoment degree

instance (stencil : Stencil) (bound : Nat) : Decidable (stencil.HasMoments bound) :=
  inferInstanceAs (Decidable (∀ degree < bound, _ = _))

/-- The formula gives the derivative of a polynomial at a point. -/
def ExactFor (stencil : Stencil) (polynomial : ℚ[X]) (point : ℚ) : Prop :=
  (stencil.combine fun offset => polynomial.eval (point + offset)) =
    (Polynomial.derivative^[stencil.derivative.toNat] polynomial).eval point

/-- Values around a point are combined from the Taylor coefficients there. -/
theorem combine_eval (stencil : Stencil) (polynomial : ℚ[X]) (point : ℚ) :
    (stencil.combine fun offset => polynomial.eval (point + offset)) =
      ∑ degree ∈ Finset.range (polynomial.natDegree + 1),
        (taylor point polynomial).coeff degree * stencil.moment degree := by
  have expanded : ∀ offset : Int, polynomial.eval (point + offset) =
      ∑ degree ∈ Finset.range (polynomial.natDegree + 1),
        (taylor point polynomial).coeff degree * (offset : ℚ) ^ degree := by
    intro offset
    rw [add_comm, ← taylor_eval, eval_eq_sum_range, natDegree_taylor]
  simp only [expanded, combine_sum, combine_mul_left, moment_eq_combine]

/-- The derivative at a point is combined from the Taylor coefficients by the moments of
an exact formula. -/
theorem eval_iterate_derivative {derivative : Nat} (same : stencil.derivative = derivative)
    (polynomial : ℚ[X]) (point : ℚ) :
    (Polynomial.derivative^[derivative] polynomial).eval point =
      ∑ degree ∈ Finset.range (polynomial.natDegree + 1),
        (taylor point polynomial).coeff degree * stencil.expectedMoment degree := by
  have atPoint : (Polynomial.derivative^[derivative] polynomial).eval point =
      (taylor point polynomial).coeff derivative * derivative.factorial := by
    rw [← factorial_smul_hasseDeriv, taylor_coeff, mul_comm]
    simp
  have beyond : derivative ∉ Finset.range (polynomial.natDegree + 1) →
      (taylor point polynomial).coeff derivative * (derivative.factorial : ℚ) = 0 := by
    intro outside
    have large : (taylor point polynomial).natDegree < derivative := by
      rw [natDegree_taylor]
      simpa using outside
    rw [coeff_eq_zero_of_natDegree_lt large, zero_mul]
  simp only [atPoint, expectedMoment_eq stencil same, mul_ite, mul_zero]
  rw [Finset.sum_ite_eq']
  split
  · rfl
  · next outside => exact beyond outside

/-- The error of a formula, from the errors of its moments. -/
theorem exactFor_iff_sum (nonneg : 0 ≤ stencil.derivative) (polynomial : ℚ[X]) (point : ℚ) :
    stencil.ExactFor polynomial point ↔
      ∑ degree ∈ Finset.range (polynomial.natDegree + 1),
        (taylor point polynomial).coeff degree *
          (stencil.moment degree - stencil.expectedMoment degree) = 0 := by
  have same : stencil.derivative = stencil.derivative.toNat := (Int.toNat_of_nonneg nonneg).symm
  simp only [ExactFor, combine_eval, eval_iterate_derivative same, mul_sub,
    Finset.sum_sub_distrib, sub_eq_zero]

/-- Where the moments below its degree are right, the moment of its degree decides about a
polynomial, at whatever point. -/
theorem exactFor_iff_moment (nonneg : 0 ≤ stencil.derivative) {polynomial : ℚ[X]}
    (nonzero : polynomial ≠ 0) (below : stencil.HasMoments polynomial.natDegree) (point : ℚ) :
    stencil.ExactFor polynomial point ↔
      stencil.moment polynomial.natDegree = stencil.expectedMoment polynomial.natDegree := by
  have vanishing : ∑ degree ∈ Finset.range polynomial.natDegree,
      (taylor point polynomial).coeff degree *
        (stencil.moment degree - stencil.expectedMoment degree) = 0 := by
    apply Finset.sum_eq_zero
    intro degree member
    rw [below degree (Finset.mem_range.1 member), sub_self, mul_zero]
  have leading : (taylor point polynomial).coeff polynomial.natDegree ≠ 0 := by
    rw [coeff_taylor_natDegree]
    exact leadingCoeff_ne_zero.2 nonzero
  rw [exactFor_iff_sum nonneg, Finset.sum_range_succ, vanishing, zero_add, mul_eq_zero,
    or_iff_right leading, sub_eq_zero]

/-- A formula is exact for all polynomials below a degree exactly if its moments are right
below it. -/
theorem hasMoments_iff_exactFor (nonneg : 0 ≤ stencil.derivative) {bound : Nat} :
    stencil.HasMoments bound ↔
      ∀ polynomial : ℚ[X], polynomial.natDegree < bound → ∀ point,
        stencil.ExactFor polynomial point := by
  constructor
  · intro right polynomial small point
    rw [exactFor_iff_sum nonneg]
    apply Finset.sum_eq_zero
    intro degree member
    have reached := Finset.mem_range.1 member
    rw [right degree (by omega), sub_self, mul_zero]
  · intro exact degree
    induction degree using Nat.strongRecOn with
    | ind degree ih =>
        intro small
        have below : stencil.HasMoments (X ^ degree : ℚ[X]).natDegree := by
          rw [natDegree_X_pow]
          intro lower lowerSmall
          exact ih lower lowerSmall (Nat.lt_trans lowerSmall small)
        have atOrigin := exact (X ^ degree) (by rwa [natDegree_X_pow]) 0
        rw [exactFor_iff_moment nonneg (pow_ne_zero degree X_ne_zero) below] at atOrigin
        rwa [natDegree_X_pow] at atOrigin

end Stencil

end LatticeDiff
