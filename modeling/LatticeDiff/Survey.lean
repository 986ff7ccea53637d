import LatticeDiff.Evaluator.Build
import LatticeDiff.Evaluator.Motion
import LatticeDiff.Region.Positions

/-!
# Surveys

A survey belongs to a source and a region of it. It hands out evaluators over the
region, and sweeps them over all its positions to obtain whole derivative fields.
-/

namespace LatticeDiff

/-- A source and the region of it that is of interest. -/
structure Survey where
  source : Source
  region : Region

namespace Survey

/-- The survey over a region, which is the bounds of the source if none is given. -/
def ofSource (source : Source) (region? : Option Region) : Except Fault Survey := do
  return ⟨source, ← source.regionOfInterest region?⟩

/-- A gradient evaluator over the region. -/
def gradient (survey : Survey) (kind order : Arg) : Except Fault (Evaluator × Record) := do
  Evaluator.buildGradient survey.source (some survey.region) (.kind (← kind.asKind)) order

/-- A Hessian evaluator over the region. -/
def hessian (survey : Survey) (order : Arg) : Except Fault (Evaluator × Record) :=
  Evaluator.buildHessian survey.source (some survey.region) order

/-- Evaluate at `count` positions of a region, from the one with the given number on, and
store each matrix in an array, as an entry of the given shape at the index of the
position. -/
def sweepFrom (field : Field) (region : Region) (entryShape : Shape) (evaluator : Evaluator)
    (number : Nat) (grid : Grid) : Nat → Except Fault Grid
  | 0 => .ok grid
  | count + 1 => do
      let position := region.positionAt number
      let placed ← evaluator.setPosition (.ofPosition position)
      let evaluation := placed.evaluate field
      evaluation.result
      let entry := evaluation.evaluator.matrix.reshape entryShape
      sweepFrom field region entryShape evaluation.evaluator (number + 1)
        (grid.store (region.indexOf position) entry) count

/-- The matrices at all positions of the region, as one grid: the axes of the
region come first, then those of an entry. The grid is allocated before the positions are
listed. -/
def sweep (machine : Machine) (survey : Survey) (evaluator : Evaluator)
    (entryShape : Shape) : Except Fault Grid :=
  let shape := survey.region.shape ++ entryShape
  if !shape.canLayOut then .error .badShape
  else if !shape.fitsMemory machine then .error .outOfMemory
  else
    match Region.listingFault? machine 0 survey.region.shape with
    | some fault => .error fault
    | none =>
        sweepFrom survey.source.field survey.region entryShape evaluator 0
          (Grid.allocate machine shape) survey.region.size

/-- A sweep, and all that is put on record from building the evaluator on. -/
def recordedSweep (machine : Machine) (survey : Survey)
    (built : Except Fault (Evaluator × Record)) (entryShape : Shape) :
    Except Fault Grid × List Record :=
  match built with
  | .error fault => (.error fault, [])
  | .ok (evaluator, entry) =>
      match survey.sweep machine evaluator entryShape with
      | .error fault => (.error fault, [entry])
      | .ok grid => (.ok grid, [entry, .swept evaluator.scheme survey.region.size])

/-- The gradients at all positions of the region. -/
def gradientField (machine : Machine) (survey : Survey) (kind order : Arg) :
    Except Fault Grid × List Record :=
  survey.recordedSweep machine (survey.gradient kind order) [survey.source.ndim]

/-- The Hessians at all positions of the region. -/
def hessianField (machine : Machine) (survey : Survey) (order : Arg) :
    Except Fault Grid × List Record :=
  survey.recordedSweep machine (survey.hessian order) [survey.source.ndim, survey.source.ndim]

end Survey

end LatticeDiff
