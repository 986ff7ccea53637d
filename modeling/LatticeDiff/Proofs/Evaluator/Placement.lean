import LatticeDiff.Proofs.Evaluator.Reach
import LatticeDiff.Proofs.Evaluator.Repositioning

/-!
# Evaluations at given positions

What an evaluator gives when it is placed at a position of integers and asked. It does
not matter where the evaluator has been before. It gives a matrix exactly if all samples
around the position can be read, also for positions that are rounded on the way: those
are off every array before and after.
-/

namespace LatticeDiff

namespace Evaluator

/-- Placing an evaluator at a position of integers does not fail, and where it leads
depends on the position alone. -/
theorem exists_setPosition (position : Position) :
    ∃ taken : Position, taken.length = position.length ∧
      (taken = position ∨ position.Far ∧ taken.Far) ∧
      ∀ evaluator : Evaluator, position.length = evaluator.ndim →
        evaluator.setPosition (.ofPosition position) =
          .ok { evaluator with position := taken } := by
  refine ⟨position.stored, position.length_stored, position.stored_eq_or_far, ?_⟩
  intro evaluator same
  exact setPosition_ofPosition same

/-- The matrix that an evaluator gives at a position. -/
def matrixAt (evaluator : Evaluator) (field : Field) (position : Position) :
    Except Fault Grid := do
  let placed ← evaluator.setPosition (.ofPosition position)
  let evaluation := placed.evaluate field
  evaluation.result
  return evaluation.evaluator.matrix

theorem matrixAt_of_setPosition {evaluator placed : Evaluator} {position : Position}
    (success : evaluator.setPosition (.ofPosition position) = .ok placed) (field : Field) :
    evaluator.matrixAt field position =
      (placed.evaluate field).result.map fun _ => (placed.evaluate field).evaluator.matrix := by
  rw [matrixAt, success, Outcome.ok_bind]
  change ((placed.evaluate field).result >>= fun _ =>
    .ok (placed.evaluate field).evaluator.matrix) = _
  cases (placed.evaluate field).result with
  | error fault => rfl
  | ok done => rfl

theorem matrixAt_eq_ok_iff {evaluator placed : Evaluator} {position : Position}
    (success : evaluator.setPosition (.ofPosition position) = .ok placed) {field : Field}
    {matrix : Grid} :
    evaluator.matrixAt field position = .ok matrix ↔
      (placed.evaluate field).result = .ok () ∧
        (placed.evaluate field).evaluator.matrix = matrix := by
  rw [matrixAt_of_setPosition success]
  cases (placed.evaluate field).result with
  | error fault => simp [Except.map]
  | ok done => simp [Except.map]

theorem matrixAt_eq_error_iff {evaluator placed : Evaluator} {position : Position}
    (success : evaluator.setPosition (.ofPosition position) = .ok placed) {field : Field}
    {fault : Fault} :
    evaluator.matrixAt field position = .error fault ↔
      (placed.evaluate field).result = .error fault := by
  rw [matrixAt_of_setPosition success]
  cases (placed.evaluate field).result with
  | error other => simp [Except.map]
  | ok done => simp [Except.map]

theorem shape_of_matrixAt {evaluator : Evaluator} {field : Field} {position : Position}
    (same : position.length = evaluator.ndim) {matrix : Grid}
    (given : evaluator.matrixAt field position = .ok matrix) :
    matrix.shape = evaluator.matrix.shape := by
  obtain ⟨taken, _, _, placed⟩ := exists_setPosition position
  obtain ⟨_, rfl⟩ := (matrixAt_eq_ok_iff (placed evaluator same)).1 given
  exact shape_evaluate _ field

/-- Evaluators that differ in their positions and cells alone give the same matrices. -/
theorem matrixAt_of_alike {original evaluator : Evaluator} (alike : Alike original evaluator)
    (formed : original.WellFormed) (derives : original.scheme ≠ .blank) (field : Field)
    {position : Position} (same : position.length = original.ndim) :
    evaluator.matrixAt field position = original.matrixAt field position := by
  obtain ⟨taken, length, _, placed⟩ := exists_setPosition position
  have sameNdim : taken.length = original.ndim := length.trans same
  rw [matrixAt_of_setPosition (placed original same),
    matrixAt_of_setPosition (placed evaluator (same.trans alike.ndim.symm))]
  let moved : Evaluator := { original with position := taken }
  let otherMoved : Evaluator := { evaluator with position := taken }
  have movedDerives : moved.scheme ≠ .blank := derives
  have shaped : moved.matrix.shape = moved.scheme.matrixShape moved.ndim :=
    formed.shape.trans (congrArg (fun ndim => moved.scheme.matrixShape ndim) sameNdim.symm)
  have sameScheme : otherMoved.scheme = moved.scheme := alike.scheme
  obtain ⟨sameResult, sameMatrix⟩ := evaluate_eq_of_position_eq movedDerives shaped sameScheme
    alike.padded alike.shape rfl field
  rw [sameResult]
  cases result : (moved.evaluate field).result with
  | error fault => rfl
  | ok done => rw [Except.map, Except.map, sameMatrix result]

section Reaching

variable {evaluator : Evaluator} {low high : Nat}

theorem exists_matrixAt_iff (reaches : evaluator.scheme.Reaches low high)
    (derives : evaluator.scheme ≠ .blank) (convertible : evaluator.scheme.Convertible)
    {field : Field} (small : ∀ length ∈ field.shape, length < Word.signedLimit)
    {position : Position} (same : position.length = evaluator.ndim) :
    (∃ matrix, evaluator.matrixAt field position = .ok matrix) ↔
      ∀ place ∈ evaluator.scheme.samplesAt evaluator.ndim position,
        field.Readable evaluator.padded place := by
  obtain ⟨taken, length, kept, placed⟩ := exists_setPosition position
  have sameNdim : taken.length = evaluator.ndim := length.trans same
  have decided : (∃ matrix, evaluator.matrixAt field position = .ok matrix) ↔
      ∀ place ∈ evaluator.scheme.samplesAt evaluator.ndim taken,
        field.Readable evaluator.padded place := by
    let moved : Evaluator := { evaluator with position := taken }
    have movedDerives : moved.scheme ≠ .blank := derives
    have succeeds : (moved.evaluate field).result = .ok () ↔
        ∀ place ∈ evaluator.scheme.samplesAt taken.length taken,
          field.Readable evaluator.padded place :=
      result_evaluate_eq_ok_iff movedDerives convertible field
    rw [← sameNdim, ← succeeds]
    simp only [matrixAt_eq_ok_iff (placed evaluator same), exists_and_left, exists_eq', and_true]
    exact Iff.rfl
  rcases kept with rfl | ⟨far, takenFar⟩
  · exact decided
  · have unreadable := reaches.exists_unreadable_of_far small same far evaluator.padded
    have takenUnreadable :=
      reaches.exists_unreadable_of_far small sameNdim takenFar evaluator.padded
    rw [decided]
    constructor
    · intro readable
      obtain ⟨place, member, not⟩ := takenUnreadable
      exact absurd (readable place member) not
    · intro readable
      obtain ⟨place, member, not⟩ := unreadable
      exact absurd (readable place member) not

theorem refuses_of_matrixAt (derives : evaluator.scheme ≠ .blank)
    (convertible : evaluator.scheme.Convertible) {field : Field} {position : Position}
    (same : position.length = evaluator.ndim) {fault : Fault}
    (failed : evaluator.matrixAt field position = .error fault) :
    ∃ place, field.Refuses evaluator.padded place fault := by
  obtain ⟨taken, _, _, placed⟩ := exists_setPosition position
  let moved : Evaluator := { evaluator with position := taken }
  have movedDerives : moved.scheme ≠ .blank := derives
  have movedConvertible : moved.scheme.Convertible := convertible
  have result : (moved.evaluate field).result = .error fault :=
    (matrixAt_eq_error_iff (placed evaluator same)).1 failed
  obtain ⟨_, place, _, _, _, _, failure, _⟩ :=
    exists_of_result_evaluate_eq_error movedDerives movedConvertible result
  exact ⟨place, Field.refuses_of_read failure⟩

end Reaching

end Evaluator

end LatticeDiff
