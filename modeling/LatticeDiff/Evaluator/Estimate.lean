import LatticeDiff.Cursor.Walk
import LatticeDiff.Evaluator.Scheme

/-!
# Estimating derivatives

A derivative is estimated by a walk of the evaluator's cursor: each sample is taken
under a displacement along an axis, weighted, and added to the sum in the order of
the formula. The walk notes where it reads, also where a read fails, and keeps the
estimates in the matrix as they come.
-/

namespace LatticeDiff

/-- What an evaluation has read and stored so far. -/
structure Progress where
  reads : List Position
  matrix : Grid

namespace Derivative

/-- Read the sample where the walker stands. -/
def sample (field : Field) (region : Region) : Walk Progress Float := do
  let position ← Walk.position
  Walk.note fun progress => { progress with reads := progress.reads ++ [position] }
  Walk.ofResult (field.read region position)

/-- The weighted sum of the samples of a formula along an axis. -/
def accumulate (field : Field) (region : Region) (stencil : Stencil) (axis : Nat) :
    Walk Progress Float :=
  stencil.terms.foldlM (fun total term =>
    Walk.displacedBy axis term.offset do
      let value ← sample field region
      return total + (← Walk.ofResult (Stencil.weighted term.weight value))) 0.0

/-- The weighted sum, along an outer axis, of the weighted sums along an inner
one. -/
def accumulateMixed (field : Field) (region : Region) (stencil : Stencil)
    (outer inner : Nat) : Walk Progress Float :=
  stencil.terms.foldlM (fun total term =>
    Walk.displacedBy outer term.offset do
      let value ← accumulate field region stencil inner
      return total + (← Walk.ofResult (Stencil.weighted term.weight value))) 0.0

/-- The estimate of a derivative where the walker stands. -/
def estimate (field : Field) (region : Region) : Derivative → Walk Progress Float
  | .along stencil axis => do
      let total ← accumulate field region stencil axis
      Walk.ofResult (Stencil.quotient total stencil.divisor)
  | .mixed stencil outer inner => do
      let total ← accumulateMixed field region stencil outer inner
      Walk.ofResult (Stencil.quotient total (stencil.divisor * stencil.divisor))

end Derivative

namespace Entry

/-- A value stored in every cell of an entry. -/
def store (entry : Entry) (value : Float) (matrix : Grid) : Grid :=
  entry.cells.foldl (fun matrix cell => matrix.set cell value) matrix

/-- Estimate an entry and store it. -/
def fill (field : Field) (region : Region) (entry : Entry) : Walk Progress Unit := do
  let value ← entry.derivative.estimate field region
  Walk.note fun progress => { progress with matrix := entry.store value progress.matrix }

/-- Estimate and store entries one after the other. -/
def fillAll (field : Field) (region : Region) : List Entry → Walk Progress Unit
  | [] => pure ()
  | entry :: entries => do
      entry.fill field region
      fillAll field region entries

end Entry

end LatticeDiff
