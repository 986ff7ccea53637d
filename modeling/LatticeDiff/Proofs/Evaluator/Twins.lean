import LatticeDiff.Proofs.Evaluator.Repositioning

/-!
# Evaluators at one position

Two evaluators of one scheme and region that stand at one position have the same future,
whatever their matrices hold: each motion ends in the same way, each evaluation reads the
same samples and gives the same matrix, and their copies are the same. A copy and its
original are such evaluators, if the coordinates are signed words.
-/

namespace LatticeDiff

namespace Evaluator

section Motions

variable {first second : Evaluator}

theorem place_of_ndim_eq (same : second.ndim = first.ndim) (position : Position) :
    second.place position = (first.place position).map fun moved =>
      { second with position := moved.position } := by
  rw [place, place, same]
  cases (Arg.ofPosition position).coordinates first.ndim with
  | error fault => rfl
  | ok coordinates => rfl

theorem move_of_position_eq (same : second.position = first.position) (distance axis : Arg) :
    second.move distance axis = (first.move distance axis).map fun moved =>
      { second with position := moved.position } := by
  have sameNdim : second.ndim = first.ndim := congrArg List.length same
  rw [move, move, same, sameNdim]
  cases distance.integral "distance" with
  | error fault => rfl
  | ok steps =>
      rw [Outcome.ok_bind, Outcome.ok_bind]
      cases axis.axis first.ndim with
      | error fault => rfl
      | ok along => rfl

theorem perform_of_position_eq (same : second.position = first.position) (motion : Motion) :
    second.perform motion = (first.perform motion).map fun moved =>
      { second with position := moved.position } := by
  have sameNdim : second.ndim = first.ndim := congrArg List.length same
  cases motion with
  | setPosition position =>
      rw [perform, perform, setPosition, setPosition, sameNdim]
      cases position.coordinates first.ndim with
      | error fault => rfl
      | ok coordinates => exact place_of_ndim_eq sameNdim coordinates
  | setAxisPosition position axis =>
      rw [perform, perform, setAxisPosition, setAxisPosition, same, sameNdim]
      cases axis.axis first.ndim with
      | error fault => rfl
      | ok along =>
          rw [Outcome.ok_bind, Outcome.ok_bind]
          cases position.integral "coordinate" with
          | error fault => rfl
          | ok coordinate => exact place_of_ndim_eq sameNdim _
  | move distance axis => exact move_of_position_eq same distance axis
  | moveBy distances =>
      rw [perform, perform, moveBy, moveBy, same, sameNdim]
      cases distances.coordinates first.ndim with
      | error fault => rfl
      | ok steps => rfl
  | forward axis => exact move_of_position_eq same (.int 1) axis
  | back axis => exact move_of_position_eq same (.int (-1)) axis

end Motions

/-- Two evaluators that differ in the cells of their matrices alone. -/
structure Twins (first second : Evaluator) : Prop where
  alike : Alike first second
  position : second.position = first.position

namespace Twins

variable {first second : Evaluator}

theorem copy (twins : Twins first second) (source : Source) :
    second.copy source = first.copy source := by
  unfold Evaluator.copy rebuild
  rw [twins.alike.scheme, twins.alike.region, twins.position]

theorem evaluate (twins : Twins first second) (derives : first.scheme ≠ .blank)
    (formed : first.WellFormed) (field : Field) :
    (second.evaluate field).result = (first.evaluate field).result ∧
    (second.evaluate field).reads = (first.evaluate field).reads ∧
    ((first.evaluate field).result = .ok () →
      (second.evaluate field).evaluator.matrix = (first.evaluate field).evaluator.matrix) := by
  obtain ⟨sameResult, sameMatrix⟩ := evaluate_eq_of_position_eq derives formed.shape
    twins.alike.scheme twins.alike.padded twins.alike.shape twins.position field
  have otherDerives : second.scheme ≠ .blank := by rwa [twins.alike.scheme]
  refine ⟨sameResult, ?_, sameMatrix⟩
  rw [evaluate_eq derives, evaluate_eq otherDerives, twins.alike.scheme, twins.alike.padded,
    twins.alike.ndim, twins.position]

end Twins

/-- A copy is a twin of its original if the coordinates are signed words. -/
theorem twins_copy {source : Source} {region? : Option Region} {original : Evaluator}
    (built : Builds source region? original) {evaluator : Evaluator}
    (alike : Alike original evaluator) {current : Source} (same : current.ndim = original.ndim)
    (fits : ∀ coordinate ∈ evaluator.position, Word.fitsSigned coordinate = true) :
    ∃ duplicate, evaluator.copy current = .ok duplicate ∧ Twins evaluator duplicate := by
  obtain ⟨_, _, success⟩ := built.exists_scheme
  have formed := alike.wellFormed (wellFormed_of_ofScheme success).1
  obtain ⟨low, high, copied⟩ := exists_copy_eq built alike same
  have axes : evaluator.position.length =
      (fresh current evaluator.scheme evaluator.region low high).ndim := by
    rw [ndim_fresh]
    exact formed.ndim
  rw [setPosition_ofPosition axes] at copied
  refine ⟨_, copied, alike_copy formed copied, ?_⟩
  apply Position.stored_of_not_mixed
  rintro ⟨_, ⟨coordinate, member, unsigned⟩, _⟩
  rw [fits coordinate member] at unsigned
  cases unsigned

end Evaluator

end LatticeDiff
