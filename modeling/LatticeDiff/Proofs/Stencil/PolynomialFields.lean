import LatticeDiff.Proofs.Stencil.Moments
import LatticeDiff.Proofs.Stencil.Table

/-!
# Formulas on polynomial fields

A polynomial in the coordinates is a field whose derivatives are known. Along a line
through a position it is a polynomial in one variable, of no higher degree than the field
has in that coordinate, so a formula that is exact in one variable is exact along every
axis. Nesting a formula in itself along a second axis gives mixed derivatives.
-/

namespace LatticeDiff

open MvPolynomial

variable {ndim bound : Nat}

namespace Position

/-- The coordinates of a position as rational numbers. -/
def point (position : Position) : Fin ndim → ℚ :=
  fun axis => (position.getD axis 0 : Int)

theorem point_shift {position : Position} (placed : position.length = ndim) (axis : Fin ndim)
    (distance : Int) :
    (position.shift axis distance).point =
      Function.update position.point axis (position.point axis + distance) := by
  funext other
  have bound : (other : Nat) < position.length := placed ▸ other.isLt
  by_cases same : other = axis
  · subst same
    simp [point, shift, bound]
  · have different : (axis : Nat) ≠ other := fun equal => same (Fin.ext equal.symm)
    simp [point, shift, same, different, bound]

end Position

/-- A polynomial field along the line through a point in the direction of an axis. -/
noncomputable def line (point : Fin ndim → ℚ) (axis : Fin ndim) :
    MvPolynomial (Fin ndim) ℚ →ₐ[ℚ] Polynomial ℚ :=
  aeval (Function.update (fun other => Polynomial.C (point other)) axis
    (Polynomial.C (point axis) + Polynomial.X))

theorem eval_line (point : Fin ndim → ℚ) (axis : Fin ndim) (field : MvPolynomial (Fin ndim) ℚ)
    (distance : ℚ) :
    (line point axis field).eval distance =
      eval (Function.update point axis (point axis + distance)) field := by
  induction field using MvPolynomial.induction_on with
  | C value => simp [line]
  | add left right leftIH rightIH => simp [leftIH, rightIH]
  | mul_X field other ih =>
      rw [map_mul, Polynomial.eval_mul, ih, map_mul, eval_X]
      congr 1
      by_cases same : other = axis
      · subst same
        simp [line]
      · simp [line, same]

theorem derivative_line (point : Fin ndim → ℚ) (axis : Fin ndim)
    (field : MvPolynomial (Fin ndim) ℚ) :
    (line point axis field).derivative = line point axis (pderiv axis field) := by
  induction field using MvPolynomial.induction_on with
  | C value => simp [line]
  | add left right leftIH rightIH => simp [leftIH, rightIH]
  | mul_X field other ih =>
      rw [map_mul, Polynomial.derivative_mul, ih, pderiv_mul, map_add, map_mul, map_mul]
      congr 2
      by_cases same : other = axis
      · subst same
        simp [line]
      · simp [line, same, pderiv_X_of_ne same]

theorem natDegree_line_le (point : Fin ndim → ℚ) (axis : Fin ndim)
    (field : MvPolynomial (Fin ndim) ℚ) :
    (line point axis field).natDegree ≤ field.degreeOf axis := by
  rw [line, aeval_def, eval₂_eq']
  apply Polynomial.natDegree_sum_le_of_forall_le
  intro exponents member
  refine (Polynomial.natDegree_C_mul_le _ _).trans ((Polynomial.natDegree_prod_le _ _).trans ?_)
  -- Along all other axes the line stands still, so only one factor has a degree.
  rw [Finset.sum_eq_single axis]
  · refine Polynomial.natDegree_pow_le.trans ?_
    rw [Function.update_self, add_comm, Polynomial.natDegree_X_add_C, mul_one]
    exact monomial_le_degreeOf axis member
  · intro other _ different
    rw [Function.update_of_ne different, ← Polynomial.C_pow, Polynomial.natDegree_C]
  · intro absent
    exact absurd (Finset.mem_univ axis) absent

theorem degreeOf_pderiv_le (axis other : Fin ndim) (field : MvPolynomial (Fin ndim) ℚ) :
    (pderiv axis field).degreeOf other ≤ field.degreeOf other := by
  rw [degreeOf_le_iff]
  intro exponents member
  rw [mem_support_iff, coeff_pderiv] at member
  have raised : exponents + Finsupp.single axis 1 ∈ field.support :=
    mem_support_iff.2 (left_ne_zero_of_mul member)
  have bound := monomial_le_degreeOf other raised
  rw [Finsupp.add_apply] at bound
  exact (Nat.le_add_right _ _).trans bound

namespace Stencil

variable {stencil : Stencil}

/-- A formula with enough right moments gives the derivatives of a polynomial field along
an axis from the samples that it takes along that axis. -/
theorem combine_shift (moments : stencil.HasMoments bound) {derivative : Nat}
    (same : stencil.derivative = derivative) {field : MvPolynomial (Fin ndim) ℚ}
    {axis : Fin ndim} (small : field.degreeOf axis < bound) {position : Position}
    (placed : position.length = ndim) :
    (stencil.combine fun offset => eval (position.shift axis offset).point field) =
      eval position.point ((pderiv axis)^[derivative] field) := by
  have nonneg : 0 ≤ stencil.derivative := by omega
  have exact := (hasMoments_iff_exactFor nonneg).1 moments
    (line position.point axis field) ((natDegree_line_le _ _ _).trans_lt small) 0
  have iterated := (Function.Semiconj.iterate_right
    (fun field => (derivative_line position.point axis field).symm) derivative).eq field
  have stays : Function.update position.point axis (position.point axis + 0) =
      (position.point : Fin ndim → ℚ) := by
    rw [add_zero, Function.update_eq_self]
  rw [ExactFor, same, Int.toNat_natCast, ← iterated, eval_line, stays] at exact
  rw [← exact]
  congr 1
  funext offset
  rw [zero_add, eval_line, Position.point_shift placed]

/-- Nesting a first-derivative formula along two axes gives mixed derivatives. -/
theorem combine_shift_shift (moments : stencil.HasMoments bound)
    (same : stencil.derivative = (1 : Nat)) {field : MvPolynomial (Fin ndim) ℚ}
    {outer inner : Fin ndim} (outerSmall : field.degreeOf outer < bound)
    (innerSmall : field.degreeOf inner < bound) {position : Position}
    (placed : position.length = ndim) :
    (stencil.combine fun far => stencil.combine fun near =>
        eval ((position.shift outer far).shift inner near).point field) =
      eval position.point (pderiv outer (pderiv inner field)) := by
  have along : ∀ far, (stencil.combine fun near =>
      eval ((position.shift outer far).shift inner near).point field) =
        eval (position.shift outer far).point (pderiv inner field) := by
    intro far
    have placedFar : (position.shift outer far).length = ndim := by
      rw [Position.length_shift, placed]
    exact combine_shift moments same innerSmall placedFar
  simp only [along]
  exact combine_shift moments same ((degreeOf_pderiv_le _ _ _).trans_lt outerSmall) placed

/-- The moments of every tabulated formula are right below the degree where its derivative
and its order add up. -/
theorem hasMoments_of_mem_all : ∀ stencil ∈ all,
    stencil.HasMoments (stencil.derivative + stencil.order).toNat := by
  decide +kernel

theorem lookup_of_find? {kind : Kind} {order derivative : Int}
    (found : (find? kind order (.int derivative)).isSome) :
    ∃ stencil, lookup (.kind kind) (.int order) (.int derivative) = .ok stencil := by
  obtain ⟨stencil, found⟩ := Option.isSome_iff_exists.1 found
  refine ⟨stencil, ?_⟩
  rw [lookup, Arg.asKind_kind, Outcome.ok_bind]
  simp only [found]
  rfl

theorem hasMoments_of_lookup {kind : Kind} {order derivative : Nat}
    (found : lookup (.kind kind) (.int order) (.int derivative) = .ok stencil) :
    stencil.derivative = derivative ∧ stencil.HasMoments (derivative + order) := by
  obtain ⟨_, _, _, sameOrder, sameDerivative⟩ := lookup_eq_ok found
  have moments := hasMoments_of_mem_all stencil (mem_all_of_lookup found)
  rw [← Arg.int.inj sameOrder, ← Option.some.inj sameDerivative, ← Int.natCast_add,
    Int.toNat_natCast] at moments
  exact ⟨(Option.some.inj sameDerivative).symm, moments⟩

/-- The accuracy orders for which there is a formula of the first derivative. -/
def firstOrders : Kind → List Nat
  | .central => [2, 4, 6, 8]
  | .forward | .backward => [1, 2, 3, 4, 5, 6]

/-- The accuracy orders for which there is a Hessian. -/
def secondOrders : List Nat := [2, 4]

theorem exists_lookup_first (kind : Kind) : ∀ order ∈ firstOrders kind, ∃ stencil,
    lookup (.kind kind) (.int (order : Nat)) (.int (1 : Nat)) = .ok stencil := by
  intro order listed
  apply lookup_of_find?
  revert order
  cases kind <;> decide

theorem exists_lookup_second : ∀ order ∈ secondOrders, ∃ stencil,
    lookup (.kind .central) (.int (order : Nat)) (.int (2 : Nat)) = .ok stencil := by
  intro order listed
  apply lookup_of_find?
  revert order
  decide

theorem mem_firstOrders_of_mem_secondOrders : ∀ order ∈ secondOrders,
    order ∈ firstOrders .central := by
  decide

/-- On a polynomial field of no higher degree in any coordinate than their order, all
tabulated formulas are exact at every position. Those of the first derivative give the
derivative along every axis. The central ones of a Hessian give the second derivative along
every axis, and nested in themselves the mixed derivative along any two. -/
theorem tabulated_exact_on_polynomials {order : Nat} {field : MvPolynomial (Fin ndim) ℚ}
    (bounded : ∀ axis, field.degreeOf axis ≤ order) {position : Position}
    (placed : position.length = ndim) :
    (∀ kind, order ∈ firstOrders kind → ∃ stencil,
      lookup (.kind kind) (.int order) (.int 1) = .ok stencil ∧
      ∀ axis : Fin ndim,
        (stencil.combine fun offset => eval (position.shift axis offset).point field) =
        eval position.point (pderiv axis field)) ∧
    (order ∈ secondOrders → ∃ second first,
      Scheme.hessianFormulas (.int order) = .ok (second, first) ∧
      (∀ axis : Fin ndim,
        (second.combine fun offset => eval (position.shift axis offset).point field) =
        eval position.point (pderiv axis (pderiv axis field))) ∧
      ∀ outer inner : Fin ndim, outer ≠ inner →
        (first.combine fun far => first.combine fun near =>
          eval ((position.shift outer far).shift inner near).point field) =
        eval position.point (pderiv outer (pderiv inner field))) := by
  constructor
  · intro kind listed
    obtain ⟨stencil, found⟩ := exists_lookup_first kind order listed
    obtain ⟨same, moments⟩ := hasMoments_of_lookup found
    refine ⟨stencil, found, ?_⟩
    intro axis
    have small : field.degreeOf axis < 1 + order := by
      have := bounded axis
      omega
    exact combine_shift moments same small placed
  · intro listed
    obtain ⟨second, foundSecond⟩ := exists_lookup_second order listed
    obtain ⟨first, foundFirst⟩ := exists_lookup_first .central order
      (mem_firstOrders_of_mem_secondOrders order listed)
    obtain ⟨sameSecond, secondMoments⟩ := hasMoments_of_lookup foundSecond
    obtain ⟨sameFirst, firstMoments⟩ := hasMoments_of_lookup foundFirst
    have small : ∀ derivative axis, 0 < derivative →
        field.degreeOf axis < derivative + order := by
      intro derivative axis positive
      have := bounded axis
      omega
    refine ⟨second, first, ?_, ?_, ?_⟩
    · have secondKnown : lookup (.kind .central) (.int order) (.int 2) = .ok second := foundSecond
      have firstKnown : lookup (.kind .central) (.int order) (.int 1) = .ok first := foundFirst
      rw [Scheme.hessianFormulas, secondKnown, firstKnown]
      rfl
    · intro axis
      exact combine_shift secondMoments sameSecond (small 2 axis (by decide)) placed
    · intro outer inner _
      exact combine_shift_shift firstMoments sameFirst (small 1 outer (by decide))
        (small 1 inner (by decide)) placed

/-- The field `x ^ 2 * y ^ 2` at the position `(3, -1)`. -/
theorem exact_on_biquadratic :
    let field : MvPolynomial (Fin 2) ℚ := X 0 ^ 2 * X 1 ^ 2
    (∀ axis, field.degreeOf axis ≤ 2) ∧
    (∃ stencil, lookup (.kind .backward) (.int 2) (.int 1) = .ok stencil ∧
      (stencil.combine fun offset => eval (Position.shift [3, -1] 0 offset).point field) = 6) ∧
    ∃ second first, Scheme.hessianFormulas (.int 2) = .ok (second, first) ∧
      (first.combine fun far => first.combine fun near =>
        eval ((Position.shift [3, -1] 0 far).shift 1 near).point field) = -12 := by
  intro field
  have bounded : ∀ axis, field.degreeOf axis ≤ 2 := by
    intro axis
    refine (degreeOf_mul_le axis _ _).trans ?_
    fin_cases axis <;> simp [degreeOf_X_pow_of_ne]
  have atPosition : (Position.point [3, -1] : Fin 2 → ℚ) = ![3, -1] := by
    funext axis
    fin_cases axis <;> rfl
  obtain ⟨firsts, hessians⟩ :=
    tabulated_exact_on_polynomials bounded (show [3, -1].length = 2 from rfl)
  obtain ⟨stencil, found, along⟩ := firsts .backward (by decide)
  obtain ⟨second, first, foundBoth, _, across⟩ := hessians (by decide)
  refine ⟨bounded, ⟨stencil, found, (along 0).trans ?_⟩,
    second, first, foundBoth, (across 0 1 (by decide)).trans ?_⟩
  · rw [atPosition]
    norm_num [field, pderiv_mul, pderiv_pow]
  · have constant : pderiv 0 (2 : MvPolynomial (Fin 2) ℚ) = 0 := pderiv_C
    rw [atPosition]
    norm_num [field, pderiv_mul, pderiv_pow, constant]

end Stencil

end LatticeDiff
