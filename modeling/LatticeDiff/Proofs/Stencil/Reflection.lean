import LatticeDiff.Proofs.Stencil.AccuracyOrder
import LatticeDiff.Proofs.Stencil.Lookup

/-!
# Mirror images of formulas

The mirror image of a formula samples at the opposite offsets, and for odd derivatives its
weights have the other sign. On any values it gives what the formula gives on the values in
reverse, up to the sign of the derivative. Its moments have the sign of the derivative and of
the degree taken together, so they vanish where those of the formula do, and both have the same
accuracy order. The backward formulas of the table are the images of the forward ones.
-/

namespace LatticeDiff

/-- A fault of the search for an accuracy order, as it shows in the mirror image: the wrong
moment has the other sign if the derivative and the degree are not both even or both odd. -/
def Fault.mirrored : Fault → Fault
  | .momentMismatch derivative degree moment =>
      .momentMismatch derivative degree ((-1) ^ (derivative + degree).toNat * moment)
  | fault => fault

namespace Stencil

/-- A formula is the mirror image of another one, whatever kind and order they are listed
under. -/
structure Mirrors (image stencil : Stencil) : Prop where
  derivative : image.derivative = stencil.derivative
  divisor : image.divisor = stencil.divisor
  terms : image.terms = stencil.terms.map fun term =>
    ⟨-term.offset, (-1) ^ stencil.derivative.toNat * term.weight⟩

variable {image stencil : Stencil}

theorem mirrors_reflect (nonneg : 0 ≤ stencil.derivative) : stencil.reflect.Mirrors stencil where
  derivative := rfl
  divisor := rfl
  terms := by
    obtain ⟨derivative, same⟩ := Int.eq_ofNat_of_zero_le nonneg
    have sign : ∀ weight : Int, (if stencil.derivative % 2 = 0 then weight else -weight) =
        (-1) ^ stencil.derivative.toNat * weight := by
      intro weight
      rw [same, Int.toNat_natCast]
      split
      · next even =>
          rw [Even.neg_one_pow (Nat.even_iff.2 (by omega)), one_mul]
      · next odd =>
          rw [Odd.neg_one_pow (Nat.odd_iff.2 (by omega)), neg_one_mul]
    simp only [reflect, sign]

namespace Mirrors

variable (mirrors : image.Mirrors stencil)
include mirrors

/-- On any values the image gives what the formula gives on the values in reverse, with the
sign of the derivative. -/
theorem combine (values : Int → ℚ) :
    image.combine values =
      (-1) ^ stencil.derivative.toNat * stencil.combine fun offset => values (-offset) := by
  rw [combine_eq_sum, combine_eq_sum, mirrors.terms, List.map_map, ← List.sum_map_mul_left]
  congr 2
  funext term
  simp only [Function.comp_apply, coefficient, mirrors.divisor]
  push_cast
  ring

theorem moment (degree : Nat) :
    image.moment degree =
      (-1) ^ (stencil.derivative.toNat + degree) * stencil.moment degree := by
  have opposite : ∀ offset : Int,
      ((-offset : Int) : ℚ) ^ degree = (-1) ^ degree * (offset : ℚ) ^ degree := by
    intro offset
    rw [Int.cast_neg, neg_pow]
  rw [moment_eq_combine, mirrors.combine, moment_eq_combine]
  simp only [opposite]
  rw [combine_mul_left, pow_add, mul_assoc]

/-- A moment of the image is right exactly if that of the formula is. Up to the derivative the
two have the same sign there, and all other right moments vanish. -/
theorem moment_eq_expectedMoment_iff (nonneg : 0 ≤ stencil.derivative) (degree : Nat) :
    image.moment degree = image.expectedMoment degree ↔
      stencil.moment degree = stencil.expectedMoment degree := by
  obtain ⟨derivative, same⟩ := Int.eq_ofNat_of_zero_le nonneg
  rw [mirrors.moment, expectedMoment_eq image (mirrors.derivative.trans same),
    expectedMoment_eq stencil same, same, Int.toNat_natCast]
  -- In the degree of the derivative the two signs cancel; in the others zero has none.
  by_cases atDerivative : degree = derivative
  · rw [atDerivative, Even.neg_one_pow ⟨derivative, rfl⟩, one_mul]
  · rw [if_neg atDerivative, mul_eq_zero, or_iff_right (pow_ne_zero _ (by norm_num))]

theorem firstWrong_iff (nonneg : 0 ≤ stencil.derivative) {degree : Nat} :
    image.FirstWrong degree ↔ stencil.FirstWrong degree := by
  have same := mirrors.moment_eq_expectedMoment_iff nonneg
  constructor
  · rintro ⟨below, wrong⟩
    exact ⟨fun lower small => (same lower).1 (below lower small), mt (same degree).2 wrong⟩
  · rintro ⟨below, wrong⟩
    exact ⟨fun lower small => (same lower).2 (below lower small), mt (same degree).1 wrong⟩

theorem lowReach : image.lowReach = stencil.highReach := by
  rw [Stencil.lowReach, highReach, offsets, offsets, mirrors.terms, List.map_map,
    List.foldl_map, List.foldl_map]
  simp only [Function.comp_apply, neg_neg]

theorem highReach : image.highReach = stencil.lowReach := by
  rw [Stencil.highReach, Stencil.lowReach, offsets, offsets, mirrors.terms, List.map_map,
    List.foldl_map, List.foldl_map]
  rfl

theorem reach : image.reach = stencil.reach.map Prod.swap := by
  rw [Stencil.reach, Stencil.reach, mirrors.lowReach, mirrors.highReach, mirrors.terms,
    List.isEmpty_map]
  split
  · rfl
  · rfl

end Mirrors

/-- The search for the accuracy order depends on where the first wrong moment is. -/
theorem accuracyOrder_of_firstWrong {derivative : Nat} (same : stencil.derivative = derivative)
    {degree : Nat} (first : stencil.FirstWrong degree) (maxDegree : Int) :
    stencil.accuracyOrder maxDegree =
      if degree ≤ derivative then
        .error (.momentMismatch derivative degree (stencil.moment degree))
      else if (degree : Int) ≤ maxDegree then .ok (degree - derivative)
      else .error .orderUndetected := by
  rcases accuracyOrder_cases same maxDegree with ⟨other, within, otherFirst, outcome⟩ |
    ⟨other, beyond, inspected, otherFirst, outcome⟩ | ⟨right, outcome⟩
  · obtain rfl := first.unique otherFirst
    rw [outcome, if_pos within]
  · obtain rfl := first.unique otherFirst
    rw [outcome, if_neg (Nat.not_le.2 beyond), if_pos inspected]
  · have reached := first.hasMoments_iff.1 right
    rw [outcome, if_neg (by omega), if_neg (by omega)]

theorem accuracyOrder_of_no_firstWrong {derivative : Nat}
    (same : stencil.derivative = derivative)
    (none : ¬∃ degree, stencil.FirstWrong degree) (maxDegree : Int) :
    stencil.accuracyOrder maxDegree = .error .orderUndetected := by
  rcases accuracyOrder_cases same maxDegree with ⟨degree, _, first, _⟩ |
    ⟨degree, _, _, first, _⟩ | ⟨_, outcome⟩
  · exact absurd ⟨degree, first⟩ none
  · exact absurd ⟨degree, first⟩ none
  · exact outcome

theorem Mirrors.accuracyOrder (mirrors : image.Mirrors stencil) (nonneg : 0 ≤ stencil.derivative)
    (maxDegree : Int) :
    image.accuracyOrder maxDegree =
      (stencil.accuracyOrder maxDegree).mapError Fault.mirrored := by
  obtain ⟨derivative, same⟩ := Int.eq_ofNat_of_zero_le nonneg
  have imageSame : image.derivative = derivative := mirrors.derivative.trans same
  by_cases wrong : ∃ degree, stencil.FirstWrong degree
  · obtain ⟨degree, first⟩ := wrong
    rw [accuracyOrder_of_firstWrong same first,
      accuracyOrder_of_firstWrong imageSame ((mirrors.firstWrong_iff nonneg).2 first),
      mirrors.moment, same, Int.toNat_natCast]
    split
    · rfl
    · split
      · rfl
      · rfl
  · have imageRight : ¬∃ degree, image.FirstWrong degree := by
      simpa only [mirrors.firstWrong_iff nonneg] using wrong
    rw [accuracyOrder_of_no_firstWrong same wrong,
      accuracyOrder_of_no_firstWrong imageSame imageRight]
    rfl

theorem find?_backward (order : Int) (derivative : Arg) :
    find? .backward order derivative = (find? .forward order derivative).map reflect := by
  have reflected : table .backward = (table .forward).map reflect := rfl
  rw [find?, find?, reflected, List.find?_map]
  rfl

/-- The backward formulas that can be looked up are the forward ones, reflected. -/
theorem lookup_backward_eq_ok_iff {order derivative : Arg} :
    lookup (.kind .backward) order derivative = .ok image ↔
      ∃ stencil, lookup (.kind .forward) order derivative = .ok stencil ∧
        image = stencil.reflect := by
  constructor
  · intro success
    obtain ⟨known, wanted, named, proper, found⟩ := lookup_eq_ok_iff.1 success
    cases named
    rw [find?_backward] at found
    obtain ⟨stencil, foundForward, rfl⟩ := Option.map_eq_some_iff.1 found
    exact ⟨stencil, lookup_eq_ok_iff.2 ⟨.forward, wanted, rfl, proper, foundForward⟩, rfl⟩
  · rintro ⟨stencil, success, rfl⟩
    obtain ⟨known, wanted, named, proper, found⟩ := lookup_eq_ok_iff.1 success
    cases named
    refine lookup_eq_ok_iff.2 ⟨.backward, wanted, rfl, proper, ?_⟩
    rw [find?_backward, found]
    rfl

/-- What the mirror image of a formula shares with it: the outcome of every search for the
accuracy order, the reach with its two sides exchanged, and what it gives on values in reverse,
up to the sign of the derivative. -/
structure SharedByMirror (image stencil : Stencil) : Prop where
  accuracy : ∀ maxDegree, image.accuracyOrder maxDegree =
    (stencil.accuracyOrder maxDegree).mapError Fault.mirrored
  reach : image.reach = stencil.reach.map Prod.swap
  values : ∀ (values : Int → ℚ) (point : Int),
    (image.combine fun offset => values (point + offset)) =
      (-1) ^ stencil.derivative.toNat *
        stencil.combine fun offset => values (-(-point + offset))

theorem Mirrors.shared (mirrors : image.Mirrors stencil) (nonneg : 0 ≤ stencil.derivative) :
    image.SharedByMirror stencil where
  accuracy := mirrors.accuracyOrder nonneg
  reach := mirrors.reach
  values := by
    intro values point
    rw [mirrors.combine]
    congr 2
    funext offset
    congr 1
    omega

/-- Mirroring keeps the accuracy. Every formula for a derivative that is not negative has a
mirror image; however that is listed, the search for its accuracy order ends as it does for the
formula, its reach is exchanged, and on all values around a point it gives what the formula
gives around the opposite point on the values in reverse, with the sign of the derivative. The
backward formulas of the table are the images of the forward ones of their order. -/
theorem mirrored :
    (∀ stencil : Stencil, 0 ≤ stencil.derivative → stencil.reflect.Mirrors stencil ∧
      ∀ image : Stencil, image.Mirrors stencil → image.SharedByMirror stencil) ∧
    ∀ (order derivative : Arg) (image : Stencil),
      lookup (.kind .backward) order derivative = .ok image ↔
        ∃ stencil, lookup (.kind .forward) order derivative = .ok stencil ∧
          image = stencil.reflect := by
  constructor
  · intro stencil nonneg
    exact ⟨mirrors_reflect nonneg, fun _ mirrors => mirrors.shared nonneg⟩
  · intro order derivative image
    exact lookup_backward_eq_ok_iff

/-- A lopsided formula that does not even vanish on constants: its mirror image is off by as
much to the other side. -/
theorem mirrored_lopsided :
    let stencil : Stencil := ⟨.central, 2, 1, [⟨-1, -1⟩, ⟨2, 2⟩], 3, by decide⟩
    0 ≤ stencil.derivative ∧ stencil.reflect.Mirrors stencil ∧
      stencil.accuracyOrder 40 = .error (.momentMismatch 1 0 (1 / 3)) ∧
      stencil.reflect.accuracyOrder 40 = .error (.momentMismatch 1 0 (-1 / 3)) ∧
      stencil.reach = .ok (1, 2) ∧ stencil.reflect.reach = .ok (2, 1) := by
  intro stencil
  have nonneg : 0 ≤ stencil.derivative := by decide
  have first : stencil.FirstWrong 0 := ⟨by decide, by decide +kernel⟩
  have constant : stencil.moment 0 = 1 / 3 := by decide +kernel
  have one : stencil.derivative = (1 : Nat) := rfl
  have outcome : stencil.accuracyOrder 40 = .error (.momentMismatch 1 0 (1 / 3)) := by
    rw [accuracyOrder_of_firstWrong one first, if_pos (Nat.zero_le 1), constant]
    rfl
  obtain ⟨mirrors, shared⟩ := mirrored.1 stencil nonneg
  have reflected := shared stencil.reflect mirrors
  refine ⟨nonneg, mirrors, outcome, ?_, rfl, reflected.reach⟩
  rw [reflected.accuracy, outcome]
  norm_num [Except.mapError, Fault.mirrored]

end Stencil

end LatticeDiff
