import LatticeDiff.Arg.Number
import LatticeDiff.Proofs.Binary64.Value
import LatticeDiff.Proofs.Outcome

/-!
# Accepted axes

A finite number, or a boolean, is equal to a rational number, which decides whether it is an
axis: the range is checked on the number itself, and what lies inside is rounded down. So an
accepted axis is in range also after it has been rounded.
-/

namespace LatticeDiff

namespace Arg

/-- The rational number that an argument is equal to. Booleans count as zero and one. -/
def rational? : Arg → Option ℚ
  | .bool value => some (ofBit value)
  | .int value => some value
  | .real value => (Binary64.ofFloat value).rational?
  | _ => none

/-- Whether an argument is of a numeric type. -/
def isNumeric : Arg → Bool
  | .bool _ | .int _ | .real _ => true
  | _ => false

variable {argument : Arg} {number : ℚ} {ndim : Int}

theorem equalInt?_eq_some_iff {whole : Int} :
    argument.equalInt? = some whole ↔ argument.rational? = some (whole : ℚ) := by
  cases argument with
  | bool value => simp [equalInt?, rational?]
  | int value => simp [equalInt?, rational?]
  | real value => exact Binary64.integer?_eq_some_iff
  | nothing | text | kind | list => simp [equalInt?, rational?]

theorem exists_compare?_eq (same : argument.rational? = some number) (bound : Int) :
    ∃ ordering, argument.compare? bound = .ok (some ordering) ∧
      (ordering = .lt ↔ number < bound) := by
  cases argument with
  | bool value =>
      cases same
      exact ⟨_, rfl, by rw [Int.compare_eq_lt, Int.cast_lt]⟩
  | int value =>
      cases same
      exact ⟨_, rfl, by rw [Int.compare_eq_lt, Int.cast_lt]⟩
  | real value =>
      obtain ⟨ordering, compared, less⟩ := Binary64.exists_compare?_eq same bound
      exact ⟨ordering, congrArg Except.ok compared, less⟩
  | nothing | text | kind | list => cases same

theorem ltInt_of_rational (same : argument.rational? = some number) (high : Int) :
    argument.ltInt high = .ok (decide (number < high)) := by
  obtain ⟨ordering, compared, less⟩ := exists_compare?_eq same high
  rw [ltInt, compared, Outcome.ok_bind, decide_eq_decide.2 less.symm]
  cases ordering <;> rfl

theorem geInt_of_rational (same : argument.rational? = some number) (low : Int) :
    argument.geInt low = .ok (decide (low ≤ number)) := by
  obtain ⟨ordering, compared, less⟩ := exists_compare?_eq same low
  have least : ¬ordering = .lt ↔ low ≤ number := by rw [less, not_lt]
  rw [geInt, compared, Outcome.ok_bind, decide_eq_decide.2 least.symm]
  cases ordering <;> rfl

/-- Rounding toward zero is rounding down, unless a number is negative. -/
theorem wholeNumber_of_rational (same : argument.rational? = some number) (nonneg : 0 ≤ number) :
    argument.wholeNumber = .ok ⌊number⌋ := by
  cases argument with
  | bool value | int value =>
      cases same
      rw [wholeNumber, Int.floor_intCast]
  | real value =>
      rw [wholeNumber, truncateReal]
      cases denoted : Binary64.ofFloat value with
      | nan | infinite =>
          rw [rational?, denoted] at same
          cases same
      | finite negative mantissa exponent =>
          rw [rational?, denoted] at same
          cases same
          exact congrArg Except.ok (Binary64.wholePart_eq_floor nonneg)
  | nothing | text | kind | list => cases same

/-- A number is an axis if it is in range, and then its integer part counts. -/
theorem axis_of_rational (same : argument.rational? = some number) :
    argument.axis ndim =
      if 0 ≤ number ∧ number < ndim then .ok ⌊number⌋.toNat
      else .error (.axisOutOfBounds argument ndim) := by
  rw [Arg.axis, geInt_of_rational same, ltInt_of_rational same, Outcome.ok_bind, Int.cast_zero]
  by_cases nonneg : 0 ≤ number
  · by_cases below : number < ndim
    · simp only [nonneg, below, decide_true, if_true, Outcome.ok_bind, and_self,
        wholeNumber_of_rational same nonneg]
      rfl
    · simp only [nonneg, below, decide_true, decide_false, if_true, Outcome.ok_bind, and_false]
      rfl
  · simp only [nonneg, decide_false, false_and, Bool.false_eq_true, if_false]
    rfl

theorem axis_of_not_rational (apart : argument.rational? = none) :
    argument.axis ndim =
      .error (if argument.isNumeric then .axisOutOfBounds argument ndim else .wrongType) := by
  cases argument with
  | bool value | int value => cases apart
  | real value =>
      cases denoted : Binary64.ofFloat value with
      | nan =>
          simp only [Arg.axis, geInt, compare?, denoted, Binary64.compare?]
          rfl
      | infinite negative =>
          simp only [Arg.axis, geInt, ltInt, compare?, denoted, Binary64.compare?]
          cases negative <;> rfl
      | finite negative mantissa exponent =>
          rw [rational?, denoted] at apart
          cases apart
  | nothing | text | kind | list => rfl

theorem axis_eq_ok_iff {axis : Nat} :
    argument.axis ndim = .ok axis ↔
      ∃ number, argument.rational? = some number ∧ 0 ≤ number ∧ number < ndim ∧
        ⌊number⌋ = axis := by
  cases same : argument.rational? with
  | none => simp [axis_of_not_rational same]
  | some number =>
      rw [axis_of_rational same]
      constructor
      · intro accepted
        split at accepted
        · next inRange =>
            cases accepted
            have nonneg : 0 ≤ ⌊number⌋ := Int.floor_nonneg.2 inRange.1
            exact ⟨number, rfl, inRange.1, inRange.2, (Int.toNat_of_nonneg nonneg).symm⟩
        · cases accepted
      · rintro ⟨_, found, nonneg, below, part⟩
        cases found
        rw [if_pos ⟨nonneg, below⟩, part, Int.toNat_natCast]

theorem axis_lt {ndim axis : Nat} (accepted : argument.axis ndim = .ok axis) : axis < ndim := by
  obtain ⟨number, _, _, below, part⟩ := axis_eq_ok_iff.1 accepted
  have partBelow : ⌊number⌋ < (ndim : Int) := Int.floor_lt.2 below
  omega

theorem index_ofNat {length axis : Nat} (bound : axis < length) :
    (Arg.int axis).index length = .ok axis := by
  have nonneg : ¬((axis : Int) < 0) := by omega
  have inRange : 0 ≤ (axis : Int) ∧ (axis : Int) < length := by omega
  simp only [index, if_neg nonneg, if_pos inRange, Int.toNat_natCast]

end Arg

end LatticeDiff
