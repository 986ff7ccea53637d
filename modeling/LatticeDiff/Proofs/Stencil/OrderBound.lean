import LatticeDiff.Proofs.Stencil.AccuracyOrder
import LatticeDiff.Proofs.Stencil.PolynomialFields

/-!
# The highest accuracy order

A formula cannot be exact for all polynomials: one that vanishes wherever the formula
samples, and whose derivative does not vanish at the point, shows an error. The least
degree of such a polynomial is the derivative plus the number of distinct offsets other
than zero. So the search for the accuracy order ends there at the latest, and the tabulated
formulas have the highest order that their offsets allow.
-/

namespace LatticeDiff

namespace Stencil

open Polynomial

variable {stencil : Stencil}

/-- The distinct offsets at which a formula samples away from its point. -/
def nodes (stencil : Stencil) : Finset Int :=
  stencil.offsets.toFinset.erase 0

theorem mem_nodes {offset : Int} :
    offset ∈ stencil.nodes ↔ offset ≠ 0 ∧ offset ∈ stencil.offsets := by
  rw [nodes, Finset.mem_erase, List.mem_toFinset]

theorem combine_eq_zero {values : Int → ℚ}
    (vanishing : ∀ offset ∈ stencil.offsets, values offset = 0) :
    stencil.combine values = 0 := by
  rw [combine_eq_sum]
  apply List.sum_eq_zero
  intro product member
  obtain ⟨term, inTerms, rfl⟩ := List.mem_map.1 member
  rw [vanishing term.offset (List.mem_map_of_mem inTerms), mul_zero]

/-- At the origin, a derivative is the coefficient of its degree, times a factorial. -/
theorem eval_zero_iterate_derivative (polynomial : ℚ[X]) (derivative : Nat) :
    (Polynomial.derivative^[derivative] polynomial).eval 0 =
      derivative.factorial * polynomial.coeff derivative := by
  rw [← coeff_zero_eq_eval_zero, coeff_iterate_derivative, zero_add, Nat.descFactorial_self,
    nsmul_eq_mul]

/-- The polynomial of least degree that has zeros at all nodes, and one at the origin with
the derivative as its multiplicity. -/
noncomputable def nodal (stencil : Stencil) (derivative : Nat) : ℚ[X] :=
  X ^ derivative * Lagrange.nodal stencil.nodes fun node => (node : ℚ)

theorem natDegree_nodal (stencil : Stencil) (derivative : Nat) :
    (stencil.nodal derivative).natDegree = derivative + stencil.nodes.card := by
  rw [nodal, natDegree_mul (pow_ne_zero derivative X_ne_zero) Lagrange.nodal_ne_zero,
    natDegree_X_pow, Lagrange.natDegree_nodal]

theorem eval_nodal_of_mem_offsets {derivative : Nat} (positive : 0 < derivative) {offset : Int}
    (member : offset ∈ stencil.offsets) : (stencil.nodal derivative).eval (offset : ℚ) = 0 := by
  rw [nodal, eval_mul, eval_pow, eval_X]
  by_cases atPoint : offset = 0
  · rw [atPoint, Int.cast_zero, zero_pow (Nat.ne_of_gt positive), zero_mul]
  · have isNode : offset ∈ stencil.nodes := mem_nodes.2 ⟨atPoint, member⟩
    rw [Lagrange.eval_nodal_at_node isNode, mul_zero]

theorem coeff_nodal_ne_zero (stencil : Stencil) (derivative : Nat) :
    (stencil.nodal derivative).coeff derivative ≠ 0 := by
  have lowest := coeff_X_pow_mul (Lagrange.nodal stencil.nodes fun node => (node : ℚ))
    derivative 0
  rw [Nat.zero_add] at lowest
  rw [nodal, lowest, coeff_zero_eq_eval_zero]
  apply Lagrange.eval_nodal_not_at_node
  intro node member
  exact (Int.cast_ne_zero.2 (mem_nodes.1 member).1).symm

/-- Not all moments are right up to the derivative plus the number of nodes. -/
theorem not_hasMoments_of_nodes {derivative : Nat} (same : stencil.derivative = derivative)
    (positive : 0 < derivative) :
    ¬stencil.HasMoments (derivative + stencil.nodes.card + 1) := by
  intro right
  have nonneg : 0 ≤ stencil.derivative := by omega
  have small : (stencil.nodal derivative).natDegree < derivative + stencil.nodes.card + 1 := by
    rw [natDegree_nodal]
    exact Nat.lt_succ_self _
  -- The formula sees only zeros of this polynomial, so it would give the derivative zero.
  have exact := (hasMoments_iff_exactFor nonneg).1 right _ small 0
  rw [ExactFor, same, Int.toNat_natCast, eval_zero_iterate_derivative, combine_eq_zero] at exact
  · have nonzero : (derivative.factorial : ℚ) ≠ 0 :=
      Nat.cast_ne_zero.2 (Nat.factorial_ne_zero derivative)
    exact mul_ne_zero nonzero (stencil.coeff_nodal_ne_zero derivative) exact.symm
  · intro offset member
    rw [zero_add]
    exact eval_nodal_of_mem_offsets positive member

theorem exists_firstWrong {bound : Nat} (wrong : ¬stencil.HasMoments bound) :
    ∃ degree < bound, stencil.FirstWrong degree := by
  have some : ∃ degree, stencil.moment degree ≠ stencil.expectedMoment degree := by
    by_contra none
    push Not at none
    exact wrong fun degree _ => none degree
  have first : stencil.FirstWrong (Nat.find some) :=
    ⟨fun lower small => not_not.1 (Nat.find_min some small), Nat.find_spec some⟩
  refine ⟨Nat.find some, ?_, first⟩
  rw [first.hasMoments_iff] at wrong
  exact Nat.lt_of_not_le wrong

/-- The first wrong degree of a formula for a proper derivative is at most the derivative
plus the number of nodes. -/
theorem exists_firstWrong_le {derivative : Nat} (same : stencil.derivative = derivative)
    (positive : 0 < derivative) :
    ∃ degree ≤ derivative + stencil.nodes.card, stencil.FirstWrong degree := by
  obtain ⟨degree, small, first⟩ := exists_firstWrong (not_hasMoments_of_nodes same positive)
  exact ⟨degree, Nat.le_of_lt_succ small, first⟩

theorem le_card_nodes_of_accuracyOrder (positive : 1 ≤ stencil.derivative)
    {maxDegree order : Int} (found : stencil.accuracyOrder maxDegree = .ok order) :
    order ≤ stencil.nodes.card := by
  obtain ⟨derivative, same⟩ := Int.eq_ofNat_of_zero_le (Int.le_trans (by decide) positive)
  obtain ⟨bound, within, first⟩ := exists_firstWrong_le same (by omega)
  obtain ⟨degree, _, _, other, rfl⟩ := (accuracyOrder_eq_ok_iff same).1 found
  rw [first.unique other] at within
  omega

theorem card_nodes_of_mem_all : ∀ stencil ∈ all,
    1 ≤ stencil.derivative ∧ 1 ≤ stencil.order ∧
      (stencil.nodes.card : Int) = stencil.order := by
  decide

theorem accuracyOrder_of_mem_all (tabulated : stencil ∈ all) {maxDegree : Int}
    (inspected : stencil.derivative + stencil.order ≤ maxDegree) :
    stencil.accuracyOrder maxDegree = .ok stencil.order := by
  obtain ⟨positive, orderPositive, count⟩ := card_nodes_of_mem_all stencil tabulated
  obtain ⟨derivative, same⟩ := Int.eq_ofNat_of_zero_le (Int.le_trans (by decide) positive)
  obtain ⟨degree, within, first⟩ := exists_firstWrong_le same (by omega)
  have reached := first.hasMoments_iff.1 (hasMoments_of_mem_all stencil tabulated)
  exact (accuracyOrder_eq_ok_iff same).2 ⟨degree, by omega, by omega, first, by omega⟩

/-- A formula that approximates a proper derivative samples away from its point, and has an
accuracy order that is found as soon as the inspected degrees go as far beyond the derivative
as there are distinct offsets other than zero. The order is no larger than their number, and
inspecting more degrees does not change it. The tabulated formulas have just as many of these
offsets as their order says, and that is the order found: no formula with as few of them has
a higher one. -/
theorem accuracyOrder_le_card_nodes :
    (∀ stencil : Stencil, 1 ≤ stencil.derivative → stencil.mismatch? = none →
      1 ≤ stencil.nodes.card ∧
      ∃ order : Int, 1 ≤ order ∧ order ≤ stencil.nodes.card ∧
        ∀ maxDegree, stencil.derivative + stencil.nodes.card ≤ maxDegree →
          stencil.accuracyOrder maxDegree = .ok order) ∧
    ∀ stencil ∈ all, (stencil.nodes.card : Int) = stencil.order ∧
      (∀ maxDegree, stencil.derivative + stencil.order ≤ maxDegree →
        stencil.accuracyOrder maxDegree = .ok stencil.order) ∧
      ∀ (rival : Stencil) (maxDegree order : Int), 1 ≤ rival.derivative →
        rival.nodes.card ≤ stencil.nodes.card → rival.accuracyOrder maxDegree = .ok order →
          order ≤ stencil.order := by
  constructor
  · intro stencil positive passed
    obtain ⟨derivative, same⟩ := Int.eq_ofNat_of_zero_le (Int.le_trans (by decide) positive)
    obtain ⟨degree, within, first⟩ := exists_firstWrong_le same (by omega)
    have beyond : derivative < degree := by
      rcases mismatch?_cases same with ⟨_, right⟩ | ⟨_, _, found, _⟩
      · exact first.hasMoments_iff.1 right
      · rw [passed] at found
        cases found
    refine ⟨by omega, degree - derivative, by omega, by omega, ?_⟩
    intro maxDegree inspected
    exact (accuracyOrder_eq_ok_iff same).2 ⟨degree, beyond, by omega, first, rfl⟩
  · intro stencil tabulated
    obtain ⟨_, _, count⟩ := card_nodes_of_mem_all stencil tabulated
    refine ⟨count, fun maxDegree => accuracyOrder_of_mem_all tabulated, ?_⟩
    intro rival maxDegree order positive few found
    have bounded := le_card_nodes_of_accuracyOrder positive found
    omega

/-- A central difference with two more samples at one place, whose weights cancel. It has
three nodes, but only order two. -/
theorem accuracyOrder_cancelled_offset :
    let stencil : Stencil :=
      ⟨.central, 2, 1, [⟨-1, -1⟩, ⟨1, 1⟩, ⟨2, 5⟩, ⟨2, -5⟩], 2, by decide⟩
    1 ≤ stencil.derivative ∧ stencil.mismatch? = none ∧ stencil.nodes.card = 3 ∧
      ∀ maxDegree, 4 ≤ maxDegree → stencil.accuracyOrder maxDegree = .ok 2 := by
  intro stencil
  have positive : 1 ≤ stencil.derivative := by decide
  have passed : stencil.mismatch? = none := by decide +kernel
  have count : stencil.nodes.card = 3 := by decide
  obtain ⟨_, order, _, _, found⟩ := accuracyOrder_le_card_nodes.1 stencil positive passed
  have sum : stencil.derivative + stencil.nodes.card = 4 := by
    rw [count]
    rfl
  rw [sum] at found
  have least : stencil.accuracyOrder 4 = .ok 2 := by
    have same : stencil.derivative = (1 : Nat) := rfl
    have first : stencil.FirstWrong 3 := ⟨by decide +kernel, by decide +kernel⟩
    exact (accuracyOrder_eq_ok_iff same).2 ⟨3, by decide, by decide, first, rfl⟩
  obtain rfl : order = 2 := Except.ok.inj ((found 4 (Int.le_refl 4)).symm.trans least)
  exact ⟨positive, passed, count, found⟩

end Stencil

end LatticeDiff
