import LatticeDiff.Evaluator.Motion
import LatticeDiff.Proofs.Arg.Axis
import LatticeDiff.Proofs.Arg.Coordinates

/-!
# Motions of one cursor

An evaluator does not replace its position at one stroke. It acts on its cursor by the
cursor's own operations, a motion along all axes by one move after the other, and each of
these may fail for itself. `Evaluator.outcome_walk` shows that no motion is broken off
halfway: what may fail fails before the cursor has moved. So `Evaluator.perform` says what
comes of it.
-/

namespace LatticeDiff

namespace Walk

variable {Notes : Type}

theorem outcome_act_setPosition (region : Region) (target : Position)
    (start : Walker Notes) :
    (act region fun cursor => cursor.setPosition (.ofPosition target)).outcome start =
      match (Arg.ofPosition target).coordinates start.position.length with
      | .ok accepted => (.ok (), { start with position := accepted })
      | .error fault => (.error fault, start) := by
  rw [outcome, act, Cursor.setPosition, Cursor.ndim]
  cases (Arg.ofPosition target).coordinates start.position.length with
  | error fault => rfl
  | ok accepted => rfl

theorem outcome_act_move {region : Region} {distance : Int} {axis : Nat}
    {start : Walker Notes} (bound : axis < start.position.length) :
    (act region fun cursor => cursor.move (.int distance) (.int axis)).outcome start =
      (.ok (), { start with position := start.position.shift axis distance }) := by
  have found := Arg.index_ofNat bound
  rw [outcome, act, Cursor.move, Cursor.ndim, found]
  rfl

theorem outcome_moveOne {region : Region} {axis : Nat} {start : Walker Notes}
    (bound : axis < start.position.length) (distance : Int) :
    (moveOne region axis distance).outcome start =
      (.ok (), { start with position := start.position.shift axis distance }) := by
  unfold moveOne
  split
  · next zero => simp [zero]
  · exact outcome_act_move bound

/-- The moves along the axes that are left add the distances that are left. -/
theorem outcome_moveAll (region : Region) (done rest : Position) (distances : List Int)
    (fits : rest.length = distances.length) (notes : Notes) :
    (moveAll region done.length distances).outcome ⟨done ++ rest, notes⟩ =
      (.ok (), ⟨done ++ rest.zipWith (· + ·) distances, notes⟩) := by
  induction distances generalizing done rest with
  | nil =>
      obtain rfl := List.length_eq_zero_iff.1 fits
      simp [moveAll]
  | cons distance distances ih =>
      cases rest with
      | nil => cases fits
      | cons coordinate rest =>
          have moved : (done ++ coordinate :: rest).shift done.length distance =
              (done ++ [coordinate + distance]) ++ rest := by
            simp [Position.shift, List.modify_eq_take_drop]
          have here : done.length < (done ++ coordinate :: rest).length := by simp
          have later := ih (done ++ [coordinate + distance]) rest (Nat.succ.inj fits)
          rw [List.length_append, List.length_singleton] at later
          rw [moveAll, outcome_bind, outcome_moveOne here]
          simp only [moved, later]
          simp

end Walk

namespace Evaluator

variable {Notes : Type}

/-- The outcome of a walk of an evaluator's cursor that succeeds or fails as a whole. -/
def walked (before : Evaluator) (notes : Notes) (result : Except Fault Evaluator) :
    Except Fault Unit × Walker Notes :=
  match result with
  | .ok after => (.ok (), ⟨after.position, notes⟩)
  | .error fault => (.error fault, ⟨before.position, notes⟩)

theorem outcome_place (evaluator : Evaluator) (target : Position) (notes : Notes) :
    (Walk.act evaluator.padded fun cursor =>
      cursor.setPosition (.ofPosition target)).outcome ⟨evaluator.position, notes⟩ =
      evaluator.walked notes (evaluator.place target) := by
  rw [Walk.outcome_act_setPosition, place, ndim]
  cases (Arg.ofPosition target).coordinates evaluator.position.length with
  | error fault => rfl
  | ok accepted => rfl

theorem outcome_moveAlong (evaluator : Evaluator) (distance axis : Arg) (notes : Notes) :
    (Walk.moveAlong evaluator.padded distance axis).outcome ⟨evaluator.position, notes⟩ =
      evaluator.walked notes (evaluator.move distance axis) := by
  rw [Walk.moveAlong, move, ndim, Walk.outcome_bind, Walk.outcome_ofResult]
  cases distance.integral "distance" with
  | error fault => rfl
  | ok steps =>
      simp only [Walk.outcome_bind, Walk.outcome_position, Walk.outcome_ofResult,
        Outcome.ok_bind]
      cases accepted : axis.axis evaluator.position.length with
      | error fault => rfl
      | ok along =>
          have bound : along < (Walker.mk evaluator.position notes).position.length :=
            Arg.axis_lt accepted
          exact Walk.outcome_act_move bound

/-- A motion has the same outcome action by action as it has at one stroke. In
particular a motion that fails has not moved the cursor. -/
theorem outcome_walk (evaluator : Evaluator) (motion : Motion) (notes : Notes) :
    (motion.walk evaluator.padded).outcome ⟨evaluator.position, notes⟩ =
      evaluator.walked notes (evaluator.perform motion) := by
  cases motion with
  | setPosition target =>
      simp only [Motion.walk, perform, setPosition, ndim, Walk.outcome_bind,
        Walk.outcome_position, Walk.outcome_ofResult]
      cases target.coordinates evaluator.position.length with
      | error fault => rfl
      | ok coordinates => exact evaluator.outcome_place coordinates notes
  | setAxisPosition target axis =>
      simp only [Motion.walk, perform, setAxisPosition, ndim, Walk.outcome_bind,
        Walk.outcome_position, Walk.outcome_ofResult]
      cases axis.axis evaluator.position.length with
      | error fault => rfl
      | ok along =>
          cases target.integral "coordinate" with
          | error fault => rfl
          | ok coordinate =>
              exact evaluator.outcome_place (evaluator.position.set along coordinate) notes
  | move distance axis => exact evaluator.outcome_moveAlong distance axis notes
  | moveBy distances =>
      simp only [Motion.walk, perform, moveBy, ndim, Walk.outcome_bind,
        Walk.outcome_position, Walk.outcome_ofResult]
      cases accepted : distances.coordinates evaluator.position.length with
      | error fault => rfl
      | ok steps =>
          have sameLength := (Arg.length_of_coordinates accepted).symm
          have moved := Walk.outcome_moveAll evaluator.padded [] evaluator.position steps
            sameLength notes
          exact moved
  | forward axis => exact evaluator.outcome_moveAlong (.int 1) axis notes
  | back axis => exact evaluator.outcome_moveAlong (.int (-1)) axis notes

end Evaluator

end LatticeDiff
