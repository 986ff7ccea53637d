import LatticeDiff.Evaluator.Basic

/-!
# Moving evaluators

Evaluators are positioned like cursors, except that axes have to be in range: none
is counted from the end. A motion is a walk of the evaluator's cursor. What comes of it
can also be said at one stroke: a motion that fails leaves no trace.
-/

namespace LatticeDiff

/-- A way to reposition an evaluator. -/
inductive Motion where
  | setPosition (position : Arg)
  | setAxisPosition (position axis : Arg)
  | move (distance axis : Arg)
  | moveBy (distances : Arg)
  | forward (axis : Arg)
  | back (axis : Arg)

namespace Walk

variable {Notes : Type}

/-- Move along an axis that is in range. -/
def moveAlong (region : Region) (distance axis : Arg) : Walk Notes Unit := do
  let distance ← ofResult (distance.integral "distance")
  let axis ← ofResult (axis.axis (← position).length)
  act region fun cursor => cursor.move (.int distance) (.int axis)

/-- Move along an axis, unless by nothing. -/
def moveOne (region : Region) (axis : Nat) (distance : Int) : Walk Notes Unit :=
  if distance = 0 then pure ()
  else act region fun cursor => cursor.move (.int distance) (.int axis)

/-- Move along consecutive axes, one after the other. -/
def moveAll (region : Region) : Nat → List Int → Walk Notes Unit
  | _, [] => pure ()
  | axis, distance :: distances => do
      moveOne region axis distance
      moveAll region (axis + 1) distances

end Walk

/-- A motion as the actions on the cursor of an evaluator. -/
def Motion.walk {Notes : Type} (region : Region) : Motion → Walk Notes Unit
  | .setPosition position => do
      let coordinates ← Walk.ofResult (position.coordinates (← Walk.position).length)
      Walk.act region fun cursor => cursor.setPosition (.ofPosition coordinates)
  | .setAxisPosition position axis => do
      let here ← Walk.position
      let axis ← Walk.ofResult (axis.axis here.length)
      let coordinate ← Walk.ofResult (position.integral "coordinate")
      Walk.act region fun cursor => cursor.setPosition (.ofPosition (here.set axis coordinate))
  | .move distance axis => Walk.moveAlong region distance axis
  | .moveBy distances => do
      let distances ← Walk.ofResult (distances.coordinates (← Walk.position).length)
      Walk.moveAll region 0 distances
  | .forward axis => Walk.moveAlong region (.int 1) axis
  | .back axis => Walk.moveAlong region (.int (-1)) axis

namespace Evaluator

/-- Let the cursor of the evaluator carry out a motion. -/
def reposition (evaluator : Evaluator) (motion : Motion) : Evaluation :=
  let walk : Walk Progress Unit := motion.walk evaluator.padded
  let (result, after) := walk.outcome ⟨evaluator.position, ⟨[], evaluator.matrix⟩⟩
  { result
    reads := after.notes.reads
    evaluator := { evaluator with position := after.position, matrix := after.notes.matrix } }

/-- Place the evaluator at a position of integers, as its cursor would be. -/
def place (evaluator : Evaluator) (position : Position) : Except Fault Evaluator := do
  return { evaluator with
    position := ← (Arg.ofPosition position).coordinates evaluator.ndim }

/-- Place the evaluator at a position. -/
def setPosition (evaluator : Evaluator) (position : Arg) : Except Fault Evaluator := do
  evaluator.place (← position.coordinates evaluator.ndim)

/-- Change the coordinate along one axis. -/
def setAxisPosition (evaluator : Evaluator) (position axis : Arg) :
    Except Fault Evaluator := do
  let axis ← axis.axis evaluator.ndim
  let coordinate ← position.integral "coordinate"
  evaluator.place (evaluator.position.set axis coordinate)

/-- Move along one axis. The distance is looked at before the axis is. -/
def move (evaluator : Evaluator) (distance axis : Arg) : Except Fault Evaluator := do
  let distance ← distance.integral "distance"
  let axis ← axis.axis evaluator.ndim
  return { evaluator with position := evaluator.position.shift axis distance }

/-- Move along all axes at once. -/
def moveBy (evaluator : Evaluator) (distances : Arg) : Except Fault Evaluator := do
  let distances ← distances.coordinates evaluator.ndim
  return { evaluator with position := evaluator.position.zipWith (· + ·) distances }

/-- Reposition the evaluator at one stroke. -/
def perform (evaluator : Evaluator) : Motion → Except Fault Evaluator
  | .setPosition position => evaluator.setPosition position
  | .setAxisPosition position axis => evaluator.setAxisPosition position axis
  | .move distance axis => evaluator.move distance axis
  | .moveBy distances => evaluator.moveBy distances
  | .forward axis => evaluator.move (.int 1) axis
  | .back axis => evaluator.move (.int (-1)) axis

/-- A new evaluator of the same scheme over the same region, at its low corner. -/
def rebuild (evaluator : Evaluator) (source : Source) : Except Fault Evaluator :=
  match evaluator.scheme with
  | .blank => .error .notImplemented
  | .gradient stencil => gradient source stencil (some evaluator.region)
  | scheme => ofScheme source scheme (some evaluator.region)

/-- An independent evaluator of the same scheme at the same position, with a matrix
of zeros. -/
def copy (evaluator : Evaluator) (source : Source) : Except Fault Evaluator := do
  (← evaluator.rebuild source).setPosition (.ofPosition evaluator.position)

end Evaluator

end LatticeDiff
