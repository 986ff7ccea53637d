import LatticeDiff.Proofs.Stencil.OrderBound

/-!
# Formulas are determined by their offsets

A polynomial that vanishes at all offsets but one picks out the coefficient of that one.
If the offsets are distinct and the formula is exact for polynomials of that degree, the
coefficient is known: it is what the derivative of the polynomial demands. So a formula
whose accuracy order is high enough for the number of its samples has no choice, however
its weights and its divisor are written.
-/

namespace LatticeDiff

namespace Stencil

open Polynomial

variable {stencil first second : Stencil}

/-- Samples that are zero everywhere but at one of distinct offsets combine to that one,
times its coefficient. -/
theorem combine_eq_single (distinct : stencil.offsets.Nodup) {term : Term}
    (member : term ∈ stencil.terms) {values : Int → ℚ}
    (vanishing : ∀ offset ∈ stencil.offsets, offset ≠ term.offset → values offset = 0) :
    stencil.combine values = stencil.coefficient term * values term.offset := by
  have others : ∀ other, other ≠ term → other ∈ stencil.terms →
      stencil.coefficient other * values other.offset = 0 := by
    intro other different inTerms
    have apart : other.offset ≠ term.offset := fun same =>
      different (List.inj_on_of_nodup_map distinct inTerms member same)
    rw [vanishing other.offset (List.mem_map_of_mem inTerms) apart, mul_zero]
  rw [combine_eq_sum, List.sum_map_eq_nsmul_single term _ others,
    List.count_eq_one_of_mem distinct.of_map member, one_nsmul]

/-- The polynomial of least degree that vanishes at all offsets but one. -/
noncomputable def selector (stencil : Stencil) (offset : Int) : ℚ[X] :=
  Lagrange.nodal (stencil.offsets.toFinset.erase offset) fun other => (other : ℚ)

theorem natDegree_selector_lt {offset : Int} (member : offset ∈ stencil.offsets) :
    (stencil.selector offset).natDegree < stencil.offsets.length := by
  rw [selector, Lagrange.natDegree_nodal]
  calc (stencil.offsets.toFinset.erase offset).card
      < stencil.offsets.toFinset.card := Finset.card_erase_lt_of_mem (List.mem_toFinset.2 member)
    _ ≤ stencil.offsets.length := List.toFinset_card_le _

theorem eval_selector_of_ne {offset other : Int} (member : other ∈ stencil.offsets)
    (different : other ≠ offset) : (stencil.selector offset).eval (other : ℚ) = 0 :=
  Lagrange.eval_nodal_at_node (Finset.mem_erase.2 ⟨different, List.mem_toFinset.2 member⟩)

theorem eval_selector_self_ne_zero (stencil : Stencil) (offset : Int) :
    (stencil.selector offset).eval (offset : ℚ) ≠ 0 := by
  apply Lagrange.eval_nodal_not_at_node
  intro other member
  exact Int.cast_injective.ne (Finset.mem_erase.1 member).1.symm

/-- The coefficient of an offset is what the derivative of its selector demands. -/
theorem coefficient_mul_eval_selector (nonneg : 0 ≤ stencil.derivative)
    (distinct : stencil.offsets.Nodup) (right : stencil.HasMoments stencil.offsets.length)
    {term : Term} (member : term ∈ stencil.terms) :
    stencil.coefficient term * (stencil.selector term.offset).eval (term.offset : ℚ) =
      (Polynomial.derivative^[stencil.derivative.toNat] (stencil.selector term.offset)).eval 0 := by
  have inOffsets : term.offset ∈ stencil.offsets := List.mem_map_of_mem member
  have exact := (hasMoments_iff_exactFor nonneg).1 right _ (natDegree_selector_lt inOffsets) 0
  simp only [ExactFor, zero_add] at exact
  rw [← exact, combine_eq_single distinct member]
  intro other inOthers different
  exact eval_selector_of_ne inOthers different

/-- Formulas for one derivative with the same distinct offsets have the same coefficients, if
both have as many right moments as samples. -/
theorem coefficients_eq_of_hasMoments (nonneg : 0 ≤ first.derivative)
    (sameDerivative : second.derivative = first.derivative)
    (sameOffsets : second.offsets = first.offsets) (distinct : first.offsets.Nodup)
    (firstRight : first.HasMoments first.offsets.length)
    (secondRight : second.HasMoments second.offsets.length) :
    second.coefficients = first.coefficients := by
  have sameLength : second.terms.length = first.terms.length := by
    simpa only [offsets, List.length_map] using congrArg List.length sameOffsets
  have sameSelector : second.selector = first.selector := by
    funext offset
    rw [selector, selector, sameOffsets]
  apply List.ext_getElem
  · rw [coefficients, coefficients, List.length_map, List.length_map, sameLength]
  · intro place inSecond inFirst
    simp only [coefficients, List.length_map] at inSecond inFirst
    have sameOffset : second.terms[place].offset = first.terms[place].offset := by
      have places : second.offsets[place]? = first.offsets[place]? := by rw [sameOffsets]
      simpa only [offsets, List.getElem?_map, List.getElem?_eq_getElem inSecond,
        List.getElem?_eq_getElem inFirst, Option.map_some, Option.some.injEq] using places
    have ofFirst := coefficient_mul_eval_selector nonneg distinct firstRight
      (List.getElem_mem inFirst)
    have ofSecond := coefficient_mul_eval_selector (sameDerivative ▸ nonneg)
      (sameOffsets ▸ distinct) secondRight (List.getElem_mem inSecond)
    -- Both coefficients, times the same value that is not zero, are the same derivative.
    rw [sameSelector, sameOffset, sameDerivative, ← ofFirst] at ofSecond
    simp only [coefficients, List.getElem_map]
    exact mul_right_cancel₀ (first.eval_selector_self_ne_zero _) ofSecond

/-- The first wrong degree depends on offsets and coefficients only, apart from the
derivative. -/
theorem FirstWrong.of_coefficients_eq (sameDerivative : second.derivative = first.derivative)
    (sameOffsets : second.offsets = first.offsets)
    (sameCoefficients : second.coefficients = first.coefficients) {degree : Nat}
    (wrong : first.FirstWrong degree) : second.FirstWrong degree := by
  have sameMoments : ∀ other, second.moment other = first.moment other := by
    intro other
    rw [moment_eq_combine, moment_eq_combine, combine, combine, sameOffsets, sameCoefficients]
  have sameExpected : ∀ other, second.expectedMoment other = first.expectedMoment other := by
    intro other
    rw [expectedMoment, expectedMoment, sameDerivative]
  constructor
  · intro lower small
    rw [sameMoments, sameExpected]
    exact wrong.below lower small
  · rw [sameMoments, sameExpected]
    exact wrong.wrong

/-- An accuracy order is found for a formula that, together with the derivative, reaches the
number of its samples. -/
structure Saturated (stencil : Stencil) (order : Int) : Prop where
  found : ∃ maxDegree, stencil.accuracyOrder maxDegree = .ok order
  reached : (stencil.offsets.length : Int) ≤ stencil.derivative + order

theorem Saturated.exists_firstWrong {order : Int} (saturated : stencil.Saturated order)
    {derivative : Nat} (same : stencil.derivative = derivative) :
    ∃ degree, stencil.FirstWrong degree ∧ stencil.offsets.length ≤ degree ∧
      order = degree - derivative := by
  obtain ⟨⟨maxDegree, found⟩, reached⟩ := saturated
  obtain ⟨degree, _, _, first, rfl⟩ := (accuracyOrder_eq_ok_iff same).1 found
  exact ⟨degree, first, by omega, rfl⟩

/-- Saturated formulas for one derivative with the same distinct offsets have the same
coefficients, and so the same order. -/
theorem Saturated.unique {firstOrder secondOrder : Int} (nonneg : 0 ≤ first.derivative)
    (sameDerivative : second.derivative = first.derivative)
    (sameOffsets : second.offsets = first.offsets) (distinct : first.offsets.Nodup)
    (firstSaturated : first.Saturated firstOrder)
    (secondSaturated : second.Saturated secondOrder) :
    second.coefficients = first.coefficients ∧ secondOrder = firstOrder := by
  obtain ⟨derivative, same⟩ := Int.eq_ofNat_of_zero_le nonneg
  obtain ⟨degree, firstWrong, enough, rfl⟩ := firstSaturated.exists_firstWrong same
  obtain ⟨other, secondWrong, otherEnough, rfl⟩ :=
    secondSaturated.exists_firstWrong (sameDerivative.trans same)
  have sameCoefficients := coefficients_eq_of_hasMoments nonneg sameDerivative sameOffsets
    distinct (firstWrong.hasMoments_iff.2 enough) (secondWrong.hasMoments_iff.2 otherEnough)
  have agreed := firstWrong.of_coefficients_eq sameDerivative sameOffsets sameCoefficients
  exact ⟨sameCoefficients, by rw [secondWrong.unique agreed]⟩

theorem distinct_of_mem_all : ∀ stencil ∈ all, stencil.offsets.Nodup ∧
    (stencil.offsets.length : Int) ≤ stencil.derivative + stencil.order := by
  decide

theorem saturated_of_mem_all (tabulated : stencil ∈ all) : stencil.Saturated stencil.order where
  found := ⟨_, accuracyOrder_of_mem_all tabulated (Int.le_refl _)⟩
  reached := (distinct_of_mem_all stencil tabulated).2

/-- Two formulas for one derivative that sample at the same distinct offsets, and whose
accuracy orders together with the derivative reach the number of samples, have the same
coefficients and the same order. The tabulated formulas are such: whatever weights and
divisor at their offsets have their order are the same formula. -/
theorem coefficients_eq_of_saturated :
    (∀ (first second : Stencil) (firstOrder secondOrder : Int), 0 ≤ first.derivative →
      second.derivative = first.derivative → second.offsets = first.offsets →
      first.offsets.Nodup → first.Saturated firstOrder → second.Saturated secondOrder →
        second.coefficients = first.coefficients ∧ secondOrder = firstOrder) ∧
    ∀ tabulated ∈ all, tabulated.Saturated tabulated.order ∧
      ∀ (formula : Stencil) (maxDegree : Int), formula.derivative = tabulated.derivative →
        formula.offsets = tabulated.offsets →
        formula.accuracyOrder maxDegree = .ok tabulated.order →
          formula.coefficients = tabulated.coefficients := by
  constructor
  · intro first second firstOrder secondOrder nonneg sameDerivative sameOffsets distinct
      firstSaturated secondSaturated
    exact Saturated.unique nonneg sameDerivative sameOffsets distinct firstSaturated
      secondSaturated
  · intro tabulated member
    have saturated := saturated_of_mem_all member
    refine ⟨saturated, ?_⟩
    intro formula maxDegree sameDerivative sameOffsets found
    have nonneg : 0 ≤ tabulated.derivative :=
      Int.le_trans (by decide) (card_nodes_of_mem_all tabulated member).1
    have distinct := (distinct_of_mem_all tabulated member).1
    have reached : (formula.offsets.length : Int) ≤ formula.derivative + tabulated.order := by
      rw [sameOffsets, sameDerivative]
      exact saturated.reached
    exact (Saturated.unique nonneg sameDerivative sameOffsets distinct saturated
      ⟨⟨maxDegree, found⟩, reached⟩).1

/-- The central second difference, written with other weights and another divisor. -/
theorem coefficients_second_difference :
    let plain : Stencil := ⟨.central, 2, 2, [⟨-1, 1⟩, ⟨0, -2⟩, ⟨1, 1⟩], 1, by decide⟩
    let scaled : Stencil := ⟨.forward, 1, 2, [⟨-1, -3⟩, ⟨0, 6⟩, ⟨1, -3⟩], -3, by decide⟩
    plain.offsets.Nodup ∧ plain.Saturated 2 ∧ scaled.Saturated 2 ∧
      scaled.coefficients = plain.coefficients := by
  intro plain scaled
  have distinct : plain.offsets.Nodup := by decide
  have plainDerivative : plain.derivative = (2 : Nat) := rfl
  have scaledDerivative : scaled.derivative = (2 : Nat) := rfl
  have plainFirst : plain.FirstWrong 4 := ⟨by decide +kernel, by decide +kernel⟩
  have scaledFirst : scaled.FirstWrong 4 := ⟨by decide +kernel, by decide +kernel⟩
  have plainFound : plain.accuracyOrder 4 = .ok 2 :=
    (accuracyOrder_eq_ok_iff plainDerivative).2 ⟨4, by decide, by decide, plainFirst, rfl⟩
  have scaledFound : scaled.accuracyOrder 4 = .ok 2 :=
    (accuracyOrder_eq_ok_iff scaledDerivative).2 ⟨4, by decide, by decide, scaledFirst, rfl⟩
  have plainSaturated : plain.Saturated 2 := ⟨⟨4, plainFound⟩, by decide⟩
  have scaledSaturated : scaled.Saturated 2 := ⟨⟨4, scaledFound⟩, by decide⟩
  obtain ⟨same, _⟩ := coefficients_eq_of_saturated.1 plain scaled 2 2 (by decide) rfl rfl
    distinct plainSaturated scaledSaturated
  exact ⟨distinct, plainSaturated, scaledSaturated, same⟩

end Stencil

end LatticeDiff
