import LatticeDiff.Proofs.Stencil.Moments

/-!
# What the accuracy order says

The accuracy order is found from moments up to a given degree. This module says what it
means for polynomials: the first degree with a wrong moment is the least degree of a
polynomial for which the formula is not exact, and beyond the derivative the order counts
from there. The three outcomes of the search are told apart by where that degree lies.
-/

namespace LatticeDiff

namespace Stencil

open Polynomial

variable {stencil : Stencil}

/-- The least degree in which a formula has a wrong moment. -/
structure FirstWrong (stencil : Stencil) (degree : Nat) : Prop where
  below : stencil.HasMoments degree
  wrong : stencil.moment degree ≠ stencil.expectedMoment degree

/-- Right moments end where the first wrong one is. -/
theorem FirstWrong.hasMoments_iff {degree : Nat} (first : stencil.FirstWrong degree)
    {bound : Nat} : stencil.HasMoments bound ↔ bound ≤ degree := by
  constructor
  · intro right
    apply Nat.le_of_not_lt
    intro beyond
    exact first.wrong (right degree beyond)
  · intro within lower small
    exact first.below lower (Nat.lt_of_lt_of_le small within)

theorem FirstWrong.unique {degree other : Nat} (first : stencil.FirstWrong degree)
    (second : stencil.FirstWrong other) : degree = other := by
  apply Nat.le_antisymm
  · exact second.hasMoments_iff.1 first.below
  · exact first.hasMoments_iff.1 second.below

/-- Up to the first wrong degree the formula is exact for all polynomials, and for those
of that degree it is exact nowhere. -/
theorem firstWrong_iff_exactFor (nonneg : 0 ≤ stencil.derivative) {degree : Nat}
    (positive : 0 < degree) :
    stencil.FirstWrong degree ↔
      (∀ polynomial : ℚ[X], polynomial.natDegree < degree → ∀ point,
        stencil.ExactFor polynomial point) ∧
      ∀ polynomial : ℚ[X], polynomial.natDegree = degree → ∀ point,
        ¬stencil.ExactFor polynomial point := by
  constructor
  · rintro ⟨below, wrong⟩
    refine ⟨(hasMoments_iff_exactFor nonneg).1 below, ?_⟩
    rintro polynomial rfl point exact
    have nonzero : polynomial ≠ 0 := ne_zero_of_natDegree_gt positive
    exact wrong ((exactFor_iff_moment nonneg nonzero below point).1 exact)
  · rintro ⟨exact, inexact⟩
    have below := (hasMoments_iff_exactFor nonneg).2 exact
    refine ⟨below, ?_⟩
    intro right
    have sameDegree : (X ^ degree : ℚ[X]).natDegree = degree := natDegree_X_pow degree
    apply inexact (X ^ degree) sameDegree 0
    rw [exactFor_iff_moment nonneg (pow_ne_zero degree X_ne_zero) (by rwa [sameDegree]),
      sameDegree]
    exact right

/-- A mismatch is found exactly if a moment up to the derivative is wrong, and it is the
first one. -/
theorem mismatch?_cases {derivative : Nat} (same : stencil.derivative = derivative) :
    (stencil.mismatch? = none ∧ stencil.HasMoments (derivative + 1)) ∨
      ∃ degree ≤ derivative, stencil.mismatch? = some degree ∧ stencil.FirstWrong degree := by
  have count : (stencil.derivative + 1).toNat = derivative + 1 := by omega
  rw [mismatch?, count]
  cases found : (List.range (derivative + 1)).find? fun degree =>
      stencil.moment degree ≠ stencil.expectedMoment degree with
  | none =>
      left
      refine ⟨rfl, ?_⟩
      intro degree small
      have passed := List.find?_eq_none.1 found degree (List.mem_range.2 small)
      simpa using passed
  | some degree =>
      right
      obtain ⟨wrong, place, bound, reached, passed⟩ := List.find?_eq_some_iff_getElem.1 found
      rw [List.length_range] at bound
      rw [List.getElem_range] at reached
      subst reached
      refine ⟨place, Nat.le_of_lt_succ bound, rfl, ?_, by simpa using wrong⟩
      intro lower small
      have right := passed lower small
      rw [List.getElem_range] at right
      simpa using right

/-- The search for a moment that does not vanish stops at the first one, or comes to its
end. -/
theorem leadingDegree_cases (stencil : Stencil) (start count : Nat) :
    (∃ degree, start ≤ degree ∧ degree < start + count ∧ stencil.moment degree ≠ 0 ∧
      (∀ lower, start ≤ lower → lower < degree → stencil.moment lower = 0) ∧
      stencil.leadingDegree start count = .ok degree) ∨
    (∀ degree, start ≤ degree → degree < start + count → stencil.moment degree = 0) ∧
      stencil.leadingDegree start count = .error .orderUndetected := by
  induction count generalizing start with
  | zero =>
      right
      refine ⟨?_, rfl⟩
      intro degree lower upper
      omega
  | succ count ih =>
      have inspected : stencil.leadingDegree start (count + 1) =
          if stencil.moment start ≠ 0 then .ok (start : Int)
          else stencil.leadingDegree (start + 1 : Nat) count := by
        rw [leadingDegree, momentOf, if_pos (Int.natCast_nonneg start)]
        rfl
      rw [inspected]
      by_cases vanishes : stencil.moment start = 0
      · have atStart : ∀ degree, degree = start → stencil.moment degree = 0 := by
          rintro degree rfl
          exact vanishes
        rw [if_neg (not_not_intro vanishes)]
        rcases ih (start + 1) with
          ⟨degree, lower, upper, nonzero, passed, found⟩ | ⟨passed, missed⟩
        · left
          refine ⟨degree, by omega, by omega, nonzero, ?_, found⟩
          intro other lower below
          rcases Nat.eq_or_lt_of_le lower with same | later
          · exact atStart other same.symm
          · exact passed other later below
        · right
          refine ⟨?_, missed⟩
          intro degree lower upper
          rcases Nat.eq_or_lt_of_le lower with same | later
          · exact atStart degree same.symm
          · exact passed degree later (by omega)
      · left
        refine ⟨start, Nat.le_refl start, by omega, vanishes, ?_, if_pos vanishes⟩
        intro lower above below
        omega

/-- The outcome of the search for the accuracy order, by the first wrong degree: it lies
up to the derivative, beyond it but within the inspected degrees, or further away. -/
theorem accuracyOrder_cases {derivative : Nat} (same : stencil.derivative = derivative)
    (maxDegree : Int) :
    (∃ degree ≤ derivative, stencil.FirstWrong degree ∧ stencil.accuracyOrder maxDegree =
      .error (.momentMismatch derivative degree (stencil.moment degree))) ∨
    (∃ degree, derivative < degree ∧ (degree : Int) ≤ maxDegree ∧ stencil.FirstWrong degree ∧
      stencil.accuracyOrder maxDegree = .ok (degree - derivative)) ∨
    (stencil.HasMoments (max (derivative : Int) maxDegree + 1).toNat ∧
      stencil.accuracyOrder maxDegree = .error .orderUndetected) := by
  have beyond : ∀ degree, derivative < degree → stencil.expectedMoment degree = 0 := by
    intro degree larger
    rw [expectedMoment_eq stencil same, if_neg (Nat.ne_of_gt larger)]
  rcases mismatch?_cases same with ⟨none, right⟩ | ⟨degree, within, found, first⟩
  · have searched : stencil.accuracyOrder maxDegree = (do
        let leading ← stencil.leadingDegree (derivative + 1 : Nat)
          (maxDegree - derivative).toNat
        return leading - derivative) := by
      rw [accuracyOrder, none, same]
      rfl
    rw [searched]
    rcases leadingDegree_cases stencil (derivative + 1) (maxDegree - derivative).toNat with
      ⟨degree, lower, upper, nonzero, passed, found⟩ | ⟨passed, missed⟩
    · right
      left
      refine ⟨degree, lower, by omega, ⟨?_, ?_⟩, by rw [found]; rfl⟩
      · intro other below
        rcases Nat.lt_or_ge other (derivative + 1) with small | large
        · exact right other small
        · rw [beyond other large]
          exact passed other large below
      · rwa [beyond degree lower]
    · right
      right
      refine ⟨?_, by rw [missed]; rfl⟩
      intro other below
      rcases Nat.lt_or_ge other (derivative + 1) with small | large
      · exact right other small
      · rw [beyond other large]
        exact passed other large (by omega)
  · left
    refine ⟨degree, within, first, ?_⟩
    rw [accuracyOrder, found, same]

theorem accuracyOrder_eq_ok_iff {derivative : Nat} (same : stencil.derivative = derivative)
    {maxDegree order : Int} :
    stencil.accuracyOrder maxDegree = .ok order ↔
      ∃ degree, derivative < degree ∧ (degree : Int) ≤ maxDegree ∧
        stencil.FirstWrong degree ∧ order = degree - derivative := by
  rcases accuracyOrder_cases same maxDegree with ⟨wrong, within, first, outcome⟩ |
    ⟨wrong, beyond, inspected, first, outcome⟩ | ⟨right, outcome⟩
  · rw [outcome]
    constructor
    · intro found
      cases found
    · rintro ⟨degree, larger, _, other, _⟩
      have reached := first.unique other
      omega
  · rw [outcome, Except.ok.injEq]
    constructor
    · intro found
      exact ⟨wrong, beyond, inspected, first, found.symm⟩
    · rintro ⟨degree, _, _, other, rfl⟩
      rw [first.unique other]
  · rw [outcome]
    constructor
    · intro found
      cases found
    · rintro ⟨degree, _, small, other, _⟩
      have reached := other.hasMoments_iff.1 right
      omega

theorem accuracyOrder_eq_mismatch_iff {derivative : Nat}
    (same : stencil.derivative = derivative) {maxDegree : Int} :
    (∃ degree moment, stencil.accuracyOrder maxDegree =
        .error (.momentMismatch derivative degree moment)) ↔
      ¬stencil.HasMoments (derivative + 1) := by
  rcases accuracyOrder_cases same maxDegree with ⟨wrong, within, first, outcome⟩ |
    ⟨wrong, beyond, _, first, outcome⟩ | ⟨right, outcome⟩
  · rw [first.hasMoments_iff]
    constructor
    · intro _
      omega
    · intro _
      exact ⟨wrong, stencil.moment wrong, outcome⟩
  · rw [first.hasMoments_iff, outcome]
    constructor
    · rintro ⟨_, _, found⟩
      cases found
    · intro _
      omega
  · rw [outcome]
    constructor
    · rintro ⟨_, _, found⟩
      cases found
    · intro wrong
      refine absurd (fun degree small => right degree ?_) wrong
      omega

theorem accuracyOrder_eq_undetected_iff {derivative : Nat}
    (same : stencil.derivative = derivative) {maxDegree : Int} :
    stencil.accuracyOrder maxDegree = .error .orderUndetected ↔
      stencil.HasMoments (max (derivative : Int) maxDegree + 1).toNat := by
  rcases accuracyOrder_cases same maxDegree with ⟨wrong, within, first, outcome⟩ |
    ⟨wrong, beyond, inspected, first, outcome⟩ | ⟨right, outcome⟩
  · rw [first.hasMoments_iff, outcome]
    constructor
    · intro found
      cases found
    · intro _
      omega
  · rw [first.hasMoments_iff, outcome]
    constructor
    · intro found
      cases found
    · intro _
      omega
  · exact ⟨fun _ => right, fun _ => outcome⟩

/-- The accuracy order is the number of degrees, beyond the derivative, up to which the
formula is exact for all polynomials at all points; for those of the next degree it is
exact nowhere. The search fails with a mismatch exactly if the formula does not give the
derivative of all polynomials up to its degree, and comes to its end exactly if the formula
is exact for all polynomials of the inspected degrees. It fails in no other way. -/
theorem accuracyOrder_iff_exactFor {derivative : Nat} (same : stencil.derivative = derivative)
    (maxDegree : Int) :
    (∀ order : Int, stencil.accuracyOrder maxDegree = .ok order ↔
      1 ≤ order ∧ derivative + order ≤ maxDegree ∧
      (∀ polynomial : ℚ[X], (polynomial.natDegree : Int) < derivative + order →
        ∀ point, stencil.ExactFor polynomial point) ∧
      ∀ polynomial : ℚ[X], (polynomial.natDegree : Int) = derivative + order →
        ∀ point, ¬stencil.ExactFor polynomial point) ∧
    ((∃ degree moment, stencil.accuracyOrder maxDegree =
        .error (.momentMismatch derivative degree moment)) ↔
      ∃ polynomial : ℚ[X], polynomial.natDegree ≤ derivative ∧
        ∃ point, ¬stencil.ExactFor polynomial point) ∧
    (stencil.accuracyOrder maxDegree = .error .orderUndetected ↔
      ∀ polynomial : ℚ[X], (polynomial.natDegree : Int) ≤ max (derivative : Int) maxDegree →
        ∀ point, stencil.ExactFor polynomial point) ∧
    ∀ fault, stencil.accuracyOrder maxDegree = .error fault → fault = .orderUndetected ∨
      ∃ degree moment, fault = .momentMismatch derivative degree moment := by
  have nonneg : 0 ≤ stencil.derivative := by omega
  refine ⟨?_, ?_, ?_, ?_⟩
  · intro order
    rw [accuracyOrder_eq_ok_iff same]
    constructor
    · rintro ⟨degree, beyond, inspected, first, rfl⟩
      obtain ⟨exact, inexact⟩ := (firstWrong_iff_exactFor nonneg (by omega)).1 first
      refine ⟨by omega, by omega, ?_, ?_⟩
      · intro polynomial small
        exact exact polynomial (by omega)
      · intro polynomial reached
        exact inexact polynomial (by omega)
    · rintro ⟨positive, inspected, exact, inexact⟩
      obtain ⟨degree, total⟩ := Int.eq_ofNat_of_zero_le (a := derivative + order) (by omega)
      refine ⟨degree, by omega, by omega, ?_, by omega⟩
      apply (firstWrong_iff_exactFor nonneg (by omega)).2
      constructor
      · intro polynomial small
        exact exact polynomial (by omega)
      · intro polynomial reached
        exact inexact polynomial (by omega)
  · rw [accuracyOrder_eq_mismatch_iff same, hasMoments_iff_exactFor nonneg]
    push Not
    simp only [Nat.lt_succ_iff]
  · rw [accuracyOrder_eq_undetected_iff same, hasMoments_iff_exactFor nonneg]
    apply forall_congr'
    intro polynomial
    apply imp_congr_left
    omega
  · intro fault failed
    rcases accuracyOrder_cases same maxDegree with ⟨_, _, _, outcome⟩ |
      ⟨_, _, _, _, outcome⟩ | ⟨_, outcome⟩
    · rw [outcome] at failed
      cases failed
      exact .inr ⟨_, _, rfl⟩
    · rw [outcome] at failed
      cases failed
    · rw [outcome] at failed
      cases failed
      exact .inl rfl

/-- A forward difference that takes one of its samples twice has order one: it is exact for
all polynomials of degree one and for none of degree two. -/
theorem accuracyOrder_repeated_offset :
    let stencil : Stencil := ⟨.forward, 7, 1, [⟨1, 1⟩, ⟨0, -2⟩, ⟨1, 1⟩], 2, by decide⟩
    stencil.derivative = (1 : Nat) ∧ stencil.accuracyOrder 40 = .ok 1 ∧
      (∀ polynomial : ℚ[X], (polynomial.natDegree : Int) < 2 →
        ∀ point, stencil.ExactFor polynomial point) ∧
      ∀ polynomial : ℚ[X], (polynomial.natDegree : Int) = 2 →
        ∀ point, ¬stencil.ExactFor polynomial point := by
  intro stencil
  have same : stencil.derivative = (1 : Nat) := rfl
  have first : stencil.FirstWrong 2 := ⟨by decide +kernel, by decide +kernel⟩
  have found : stencil.accuracyOrder 40 = .ok 1 :=
    (accuracyOrder_eq_ok_iff same).2 ⟨2, by decide, by decide, first, rfl⟩
  exact ⟨same, found, (((accuracyOrder_iff_exactFor same 40).1 1).1 found).2.2⟩

end Stencil

end LatticeDiff
