import LatticeDiff.Proofs.Evaluator.InPlace
import LatticeDiff.Proofs.Evaluator.Run

/-!
# Position safety

The position of an evaluator is only ever changed by motions that succeed. Evaluations
put it back after every displacement, and what fails in a motion fails before the cursor
moves.
-/

namespace LatticeDiff

namespace Evaluator

namespace Session

/-- How a session treats the positions of an evaluator built over a source, and of the
copies of it. -/
structure KeepsPositions (source : Source) (original : Evaluator) (session : Session) :
    Prop where
  /-- Every evaluator has one coordinate per axis and the regions of construction. -/
  members : ∀ member ∈ session.pool.members, member.position.length = source.ndim ∧
    member.region = original.region ∧ member.padded = original.padded
  /-- An evaluation leaves the position alone, whether it succeeds or fails. -/
  evaluate : (session.step .evaluate).session.current.position = session.current.position
  /-- A motion that fails changes nothing. -/
  failed : ∀ motion fault, (session.step (.reposition motion)).result = .error fault →
    (session.step (.reposition motion)).session = session
  /-- The actions of a motion on the cursor lead to the outcome and the position of the
  step, so that no failing action comes after one that has moved the cursor. -/
  actions : ∀ (motion : Motion) (notes : Unit),
    (motion.walk session.current.padded).outcome ⟨session.current.position, notes⟩ =
      ((session.step (.reposition motion)).result.map fun _ => (),
        ⟨(session.step (.reposition motion)).session.current.position, notes⟩)

/-- After any sequence of commands, failed ones included, positions are kept by
everything but successful motions. -/
theorem keepsPositions_run {source : Source} {region? : Option Region}
    {evaluator : Evaluator} (built : Builds source region? evaluator)
    (commands : List Command) :
    KeepsPositions source evaluator ((start source evaluator).run commands) := by
  obtain ⟨scheme, _, success⟩ := built.exists_scheme
  obtain ⟨_, _, sameNdim⟩ := wellFormed_of_ofScheme success
  have sound := sound_run success commands
  generalize (start source evaluator).run commands = session at *
  constructor
  · intro member found
    have alike := sound.members member found
    exact ⟨alike.ndim.trans sameNdim, alike.region, alike.padded⟩
  · simp only [step, current, Pool.get_put]
    exact position_evaluate _ _
  · intro motion fault failed
    cases performed : session.current.perform motion with
    | error other => rw [step_reposition_of_error performed]
    | ok moved =>
        rw [step_reposition_of_ok performed] at failed
        cases failed
  · intro motion notes
    rw [outcome_walk]
    cases performed : session.current.perform motion with
    | error fault =>
        rw [step_reposition_of_error performed]
        rfl
    | ok moved =>
        rw [step_reposition_of_ok performed]
        simp [walked, current, Except.map]

/-- Over a square, the positions of a Hessian evaluator are kept also after a motion and
an evaluation that fails. -/
theorem keepsPositions_square :
    ∃ evaluator, hessian (Source.square 3) (.int 2) none = .ok evaluator ∧
      KeepsPositions (Source.square 3) evaluator ((start (Source.square 3) evaluator).run
        [.reposition (.setPosition (.ofPosition [0, 1])), .evaluate]) := by
  obtain ⟨evaluator, success⟩ :
      ∃ evaluator, hessian (Source.square 3) (.int 2) none = .ok evaluator := ⟨_, rfl⟩
  exact ⟨evaluator, success, keepsPositions_run (.hessian success) _⟩

end Session

end Evaluator

end LatticeDiff
