import LatticeDiff.Proofs.Evaluator.Run

/-!
# Gradients

An evaluation of a gradient does along every axis what applying the formula to a list
of samples does, for any formula whose integers become doubles.
-/

namespace LatticeDiff

namespace Scheme

theorem samplesAt_gradient (stencil : Stencil) (ndim : Nat) (position : Position) :
    (gradient stencil).samplesAt ndim position =
      (List.range ndim).flatMap fun axis =>
        stencil.offsets.map fun offset => position.shift axis offset := by
  rw [samplesAt, Entry.samplesOfAll, entries, gradientEntries, List.flatMap_map]
  rfl

theorem contains_matrixShape_gradient {stencil : Stencil} {ndim axis : Nat}
    (bound : axis < ndim) :
    ((gradient stencil).matrixShape ndim).contains [axis, 0] = true := by
  simp [matrixShape, Shape.contains, bound]

end Scheme

namespace Evaluator

/-- How an evaluation of a gradient at a position ends. -/
structure GradientAt (stencil : Stencil) (ndim : Nat) (field : Field) (region : Region)
    (position : Position) (evaluation : Evaluation) : Prop where
  shape : evaluation.evaluator.matrix.shape = [ndim, 1]
  /-- It succeeds exactly if every sample can be read. -/
  success : evaluation.result = .ok () ↔ ∀ axis < ndim, ∀ offset ∈ stencil.offsets,
    field.Readable region (position.shift axis offset)
  /-- Then each row has what the formula gives for the samples along its axis. -/
  row : evaluation.result = .ok () → ∀ axis < ndim, ∃ value,
    stencil.apply (stencil.offsets.map fun offset =>
      .real (field.sampleAt (position.shift axis offset))) = .ok value ∧
    evaluation.evaluator.matrix.cell? [axis, 0] = some value
  /-- Otherwise it reports the first sample, axis by axis, that cannot be read. -/
  failure : ∀ fault, evaluation.result = .error fault → ∃ before place after,
    ((List.range ndim).flatMap fun axis =>
      stencil.offsets.map fun offset => position.shift axis offset) =
        before ++ place :: after ∧
    (∀ earlier ∈ before, field.Readable region earlier) ∧
    field.read region place = .error fault ∧ field.Refuses region place fault

theorem gradientAt_evaluate {evaluator : Evaluator} {stencil : Stencil}
    (scheme : evaluator.scheme = .gradient stencil) (convertible : stencil.Convertible)
    (shaped : evaluator.matrix.shape = evaluator.scheme.matrixShape evaluator.ndim)
    (field : Field) :
    GradientAt stencil evaluator.ndim field evaluator.padded evaluator.position
      (evaluator.evaluate field) := by
  have derives : evaluator.scheme ≠ .blank := by simp [scheme]
  have small : evaluator.scheme.Convertible := by rwa [scheme]
  have succeeds : (evaluator.evaluate field).result = .ok () ↔
      ∀ axis < evaluator.ndim, ∀ offset ∈ stencil.offsets,
        field.Readable evaluator.padded (evaluator.position.shift axis offset) := by
    rw [result_evaluate_eq_ok_iff derives small, scheme]
    exact Scheme.forall_mem_gradient_samplesAt
  constructor
  · rw [shape_evaluate, shaped, scheme]
    rfl
  · exact succeeds
  · intro success axis bound
    have inside : (evaluator.scheme.matrixShape evaluator.ndim).contains [axis, 0] = true := by
      rw [scheme]
      exact Scheme.contains_matrixShape_gradient bound
    have named : evaluator.scheme.derivativeAt? [axis, 0] = some (.along stencil axis) := by
      rw [scheme]
      rfl
    apply cell?_evaluate_along derives shaped success inside named
    exact succeeds.1 success axis bound
  · intro fault failed
    obtain ⟨before, place, after, split, readable, _, refusal, _⟩ :=
      exists_of_result_evaluate_eq_error derives small failed
    rw [scheme, Scheme.samplesAt_gradient] at split
    exact ⟨before, place, after, split, readable, refusal, Field.refuses_of_read refusal⟩

namespace Session

/-- Whatever has happened to a gradient evaluator before, an evaluation agrees with
applying its formula along every axis through the current position. -/
theorem gradientAt_run {source : Source} {stencil : Stencil} {region? : Option Region}
    {built : Evaluator} (success : gradient source stencil region? = .ok built)
    (weights : ∀ term ∈ stencil.terms, term.weight.natAbs < Binary64.overflowThreshold)
    (divisor : stencil.divisor.natAbs < Binary64.overflowThreshold)
    (commands : List Command) :
    let session := (start source built).run commands
    GradientAt stencil source.ndim session.source.field built.padded
      session.current.position (session.current.evaluate session.source.field) := by
  obtain ⟨_, success⟩ := gradient_eq_ok_iff.1 success
  obtain ⟨sameScheme, samePadded, sameNdim, shaped⟩ := current_run success commands
  intro session
  have evaluated :=
    gradientAt_evaluate sameScheme ⟨weights, divisor⟩ shaped session.source.field
  rw [sameNdim, samePadded] at evaluated
  exact evaluated

/-- A formula that is not tabulated and repeats an offset, over a square. -/
theorem gradientAt_square :
    let stencil : Stencil := ⟨.forward, 1, 1, [⟨2, 1⟩, ⟨0, -2⟩, ⟨2, 1⟩], 4, by decide⟩
    let motion : Motion := .setPosition (.ofPosition [0, 1])
    ∃ built, gradient (Source.square 3) stencil none = .ok built ∧
      (∀ term ∈ stencil.terms, term.weight.natAbs < Binary64.overflowThreshold) ∧
      stencil.divisor.natAbs < Binary64.overflowThreshold ∧
      GradientAt stencil 2 (Source.square 3).field built.padded [0, 1]
        (((start (Source.square 3) built).run [.reposition motion]).current.evaluate
          (Source.square 3).field) := by
  intro stencil motion
  have weights : ∀ term ∈ stencil.terms, term.weight.natAbs < Binary64.overflowThreshold := by
    decide +kernel
  have divisor : stencil.divisor.natAbs < Binary64.overflowThreshold := by
    decide +kernel
  let region : Region := ⟨[⟨0, 2, by decide⟩, ⟨0, 2, by decide⟩], by decide⟩
  have success : gradient (Source.square 3) stencil none =
      .ok (fresh (Source.square 3) (.gradient stencil) region 0 2) := rfl
  refine ⟨_, success, weights, divisor, ?_⟩
  exact gradientAt_run success weights divisor [.reposition motion]

end Session

end Evaluator

end LatticeDiff
