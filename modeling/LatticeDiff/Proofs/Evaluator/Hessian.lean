import LatticeDiff.Proofs.Evaluator.Run

/-!
# Hessians

An evaluation of a Hessian stores second derivatives on the diagonal, and in both cells
of every pair of axes the nested sum of products for their mixed derivative. It depends
on the samples and the position alone.
-/

namespace LatticeDiff

namespace Evaluator

/-- How an evaluation of a Hessian at a position ends. -/
structure HessianAt (second first : Stencil) (ndim : Nat) (field : Field) (region : Region)
    (position : Position) (evaluation : Evaluation) : Prop where
  shape : evaluation.evaluator.matrix.shape = [ndim, ndim]
  /-- It succeeds exactly if every sample along one axis and along two can be read. -/
  success : evaluation.result = .ok () ↔
    (∀ axis < ndim, ∀ offset ∈ second.offsets,
      field.Readable region (position.shift axis offset)) ∧
    ∀ outer inner, outer < inner → inner < ndim →
      ∀ far ∈ first.offsets, ∀ near ∈ first.offsets,
        field.Readable region ((position.shift outer far).shift inner near)
  diagonal : evaluation.result = .ok () → ∀ axis < ndim, ∃ value,
    second.apply (second.offsets.map fun offset =>
      .real (field.sampleAt (position.shift axis offset))) = .ok value ∧
    evaluation.evaluator.matrix.cell? [axis, axis] = some value
  mixed : evaluation.result = .ok () → ∀ outer inner, outer < inner → inner < ndim →
    let value := first.crossQuotient fun far near =>
      field.sampleAt ((position.shift outer far).shift inner near)
    evaluation.evaluator.matrix.cell? [outer, inner] = some value ∧
      evaluation.evaluator.matrix.cell? [inner, outer] = some value

/-- A completed evaluation has stored the nested sum of a pair of axes in a cell that is
for its mixed derivative. -/
theorem cell?_evaluate_mixed {evaluator : Evaluator} {field : Field} {second first : Stencil}
    {cell : List Nat} {outer inner : Nat}
    (scheme : evaluator.scheme = .hessian second first)
    (convertible : evaluator.scheme.Convertible)
    (shaped : evaluator.matrix.shape = evaluator.scheme.matrixShape evaluator.ndim)
    (success : (evaluator.evaluate field).result = .ok ())
    (inside : (evaluator.scheme.matrixShape evaluator.ndim).contains cell = true)
    (named : evaluator.scheme.derivativeAt? cell = some (.mixed first outer inner))
    (readable : ∀ far ∈ first.offsets, ∀ near ∈ first.offsets,
      field.Readable evaluator.padded
        ((evaluator.position.shift outer far).shift inner near)) :
    (evaluator.evaluate field).evaluator.matrix.cell? cell =
      some (first.crossQuotient fun far near =>
        field.sampleAt ((evaluator.position.shift outer far).shift inner near)) := by
  have derives : evaluator.scheme ≠ .blank := by simp [scheme]
  obtain ⟨value, estimated, stored⟩ :=
    cell?_evaluate_of_named derives rfl rfl shaped success inside named
  have small : (Derivative.mixed first outer inner).Convertible := by
    rw [scheme] at convertible
    exact convertible.2
  have found : ∀ place ∈ (Derivative.mixed first outer inner).samplesAt evaluator.position,
      field.read evaluator.padded place = .ok (field.sampleAt place) := by
    intro place member
    obtain ⟨far, farMember, member⟩ := List.mem_flatMap.1 member
    obtain ⟨near, nearMember, rfl⟩ := List.mem_map.1 member
    exact Field.read_of_readable (readable far farMember near nearMember)
  rw [Derivative.estimateAt_mixed small found, Except.ok.injEq] at estimated
  rw [stored, estimated]

theorem hessianAt_evaluate {evaluator : Evaluator} {second first : Stencil}
    (scheme : evaluator.scheme = .hessian second first)
    (convertible : evaluator.scheme.Convertible)
    (shaped : evaluator.matrix.shape = evaluator.scheme.matrixShape evaluator.ndim)
    (field : Field) :
    HessianAt second first evaluator.ndim field evaluator.padded evaluator.position
      (evaluator.evaluate field) := by
  have derives : evaluator.scheme ≠ .blank := by simp [scheme]
  have readable := result_evaluate_eq_ok_iff derives convertible field
  rw [scheme, Scheme.forall_mem_hessian_samplesAt] at readable
  have inside : ∀ row column, row < evaluator.ndim → column < evaluator.ndim →
      (evaluator.scheme.matrixShape evaluator.ndim).contains [row, column] = true := by
    intro row column rowBound columnBound
    simp [scheme, Scheme.matrixShape, Shape.contains, rowBound, columnBound]
  constructor
  · rw [shape_evaluate, shaped, scheme]
    rfl
  · exact readable
  · intro success axis bound
    have named : evaluator.scheme.derivativeAt? [axis, axis] = some (.along second axis) := by
      simp [scheme, Scheme.derivativeAt?]
    apply cell?_evaluate_along derives shaped success (inside axis axis bound bound) named
    exact (readable.1 success).1 axis bound
  · intro success outer inner ordered bound
    have outerBound := Nat.lt_trans ordered bound
    have every := (readable.1 success).2 outer inner ordered bound
    constructor
    · apply cell?_evaluate_mixed scheme convertible shaped success
        (inside outer inner outerBound bound) _ every
      simp [scheme, Scheme.derivativeAt?, Nat.ne_of_lt ordered, Nat.le_of_lt ordered]
    · apply cell?_evaluate_mixed scheme convertible shaped success
        (inside inner outer bound outerBound) _ every
      simp [scheme, Scheme.derivativeAt?, Nat.ne_of_gt ordered, Nat.le_of_lt ordered]

namespace Session

/-- Whatever has happened to a Hessian evaluator before, an evaluation gives the second
derivatives and the mixed derivatives of the tabulated formulas at the current position.
What has happened before, and what the matrix holds, does not matter. -/
theorem hessianAt_run {source : Source} {order : Arg} {region? : Option Region}
    {built : Evaluator} (success : hessian source order region? = .ok built)
    (commands : List Command) :
    let session := (start source built).run commands
    let evaluation := session.current.evaluate session.source.field
    (∃ second first, Scheme.hessianFormulas order = .ok (second, first) ∧
      HessianAt second first source.ndim session.source.field built.padded
        session.current.position evaluation) ∧
    ∀ others : List Command,
      let other := ((start source built).run others).current
      other.position = session.current.position →
        (other.evaluate session.source.field).result = evaluation.result ∧
        (evaluation.result = .ok () →
          (other.evaluate session.source.field).evaluator.matrix =
            evaluation.evaluator.matrix) := by
  obtain ⟨second, first, found, success⟩ := hessian_eq_ok_iff.1 success
  obtain ⟨sameScheme, samePadded, sameNdim, shaped⟩ := current_run success commands
  intro session evaluation
  constructor
  · have convertible : session.current.scheme.Convertible := by
      rw [sameScheme]
      exact Scheme.convertible_hessian found
    have evaluated := hessianAt_evaluate sameScheme convertible shaped session.source.field
    rw [sameNdim, samePadded] at evaluated
    exact ⟨second, first, found, evaluated⟩
  · intro others other samePosition
    obtain ⟨otherScheme, otherPadded, otherNdim, otherShaped⟩ := current_run success others
    have named : session.current.scheme = .hessian second first := sameScheme
    have derives : session.current.scheme ≠ .blank := by simp [named]
    apply evaluate_eq_of_position_eq derives shaped (otherScheme.trans sameScheme.symm)
      (otherPadded.trans samePadded.symm) _ samePosition
    rw [otherShaped, shaped, otherScheme, sameScheme, otherNdim, sameNdim]

/-- The Hessian of order two at the centre of a square, where all samples can be read. -/
theorem hessianAt_square :
    let motion : Motion := .setPosition (.ofPosition [1, 1])
    ∃ built, hessian (Source.square 3) (.int 2) none = .ok built ∧
      ∃ second first, Scheme.hessianFormulas (.int 2) = .ok (second, first) ∧
        HessianAt second first 2 (Source.square 3).field built.padded [1, 1]
          (((start (Source.square 3) built).run [.reposition motion]).current.evaluate
            (Source.square 3).field) := by
  intro motion
  let second : Stencil := ⟨.central, 2, 2, [⟨-1, 1⟩, ⟨0, -2⟩, ⟨1, 1⟩], 1, by decide⟩
  let first : Stencil := ⟨.central, 2, 1, [⟨-1, -1⟩, ⟨1, 1⟩], 2, by decide⟩
  let region : Region := ⟨[⟨0, 2, by decide⟩, ⟨0, 2, by decide⟩], by decide⟩
  have success : hessian (Source.square 3) (.int 2) none =
      .ok (fresh (Source.square 3) (.hessian second first) region 1 1) := rfl
  exact ⟨_, success, (hessianAt_run success [.reposition motion]).1⟩

end Session

end Evaluator

end LatticeDiff
