import LatticeDiff.Evaluator.Estimate

/-!
# Evaluators

An evaluator stands at a position of a source and, when asked, fills its matrix
with the derivatives there. It belongs to a region of interest; its cursor may read
in that region padded by the reach of the scheme. The matrix is kept between
evaluations and only ever overwritten cell by cell.
-/

namespace LatticeDiff

/-- A positioned derivative matrix. -/
structure Evaluator where
  scheme : Scheme
  region : Region
  padded : Region
  position : Position
  matrix : Grid

/-- What an evaluation or a motion leaves behind. -/
structure Evaluation where
  result : Except Fault Unit
  /-- The positions read, in order. -/
  reads : List Position
  evaluator : Evaluator

namespace Evaluator

/-- The number of axes. -/
def ndim (evaluator : Evaluator) : Nat :=
  evaluator.position.length

/-- A new evaluator whose cursor may read in the given region. -/
def withPadding (source : Source) (scheme : Scheme) (region padded : Region) :
    Except Fault Evaluator := do
  let cursor ← source.field.cursor (some padded)
  return {
    scheme, region, padded
    position := cursor.position
    matrix := Grid.zeros (scheme.matrixShape source.ndim) }

/-- A new evaluator over a region of interest, which is the bounds of the source if
none is given. -/
def ofScheme (source : Source) (scheme : Scheme) (region? : Option Region) :
    Except Fault Evaluator := do
  let region ← source.regionOfInterest region?
  let (low, high) ← scheme.reach
  withPadding source scheme region (region.pad low high)

/-- A new evaluator without derivatives for a region of interest, whose cursor may
read in another one. -/
def positioned (source : Source) (region padded : Region) : Except Fault Evaluator :=
  withPadding source .blank region padded

/-- A new gradient evaluator, for a formula of the first derivative. -/
def gradient (source : Source) (stencil : Stencil) (region? : Option Region) :
    Except Fault Evaluator :=
  if stencil.derivative = 1 then ofScheme source (.gradient stencil) region?
  else .error (.notFirstDerivative stencil.derivative)

/-- A new Hessian evaluator, for the central formulas of an accuracy order. -/
def hessian (source : Source) (order : Arg) (region? : Option Region) :
    Except Fault Evaluator := do
  let (second, first) ← Scheme.hessianFormulas order
  ofScheme source (.hessian second first) region?

/-- Estimate all entries of the matrix at the current position. -/
def evaluate (evaluator : Evaluator) (field : Field) : Evaluation :=
  match evaluator.scheme with
  | .blank => ⟨.error .notImplemented, [], evaluator⟩
  | scheme =>
      let walk := Entry.fillAll field evaluator.padded (scheme.entries evaluator.ndim)
      let (result, after) := walk.outcome ⟨evaluator.position, ⟨[], evaluator.matrix⟩⟩
      { result
        reads := after.notes.reads
        evaluator :=
          { evaluator with position := after.position, matrix := after.notes.matrix } }

end Evaluator

end LatticeDiff
