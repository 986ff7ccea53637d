import LatticeDiff.Shape
import LatticeDiff.Stencil.Lookup

/-!
# Derivative schemes

A scheme says which derivatives make up a matrix, in which order they are
estimated, and in which cells each of them is kept. Gradients apply one formula
along every axis. Hessians have second derivatives on the diagonal; a mixed
derivative is estimated once, by nesting a first-derivative formula in itself, and
kept in both of its cells.
-/

namespace LatticeDiff

/-- A derivative estimated by formulas along lattice axes. -/
inductive Derivative where
  /-- One formula along one axis. -/
  | along (stencil : Stencil) (axis : Nat)
  /-- A formula along an inner axis, at every sample of the same formula along an
  outer axis. -/
  | mixed (stencil : Stencil) (outer inner : Nat)

/-- One derivative of a matrix, and the cells that hold it. -/
structure Entry where
  derivative : Derivative
  cells : List (List Nat)

/-- The make-up of a derivative matrix. -/
inductive Scheme where
  | gradient (stencil : Stencil)
  | hessian (second first : Stencil)
  /-- No derivatives at all: a position and an empty matrix. -/
  | blank

namespace Scheme

/-- The name of evaluators of a scheme. -/
def name : Scheme → String
  | .gradient _ => "GradientEvaluator"
  | .hessian _ _ => "HessianEvaluator"
  | .blank => "PositionedEvaluator"

/-- The shape of the matrix. -/
def matrixShape (ndim : Nat) : Scheme → Shape
  | .hessian _ _ => [ndim, ndim]
  | .gradient _ | .blank => [ndim, 1]

/-- The central formulas of an accuracy order, for second and for first
derivatives. -/
def hessianFormulas (order : Arg) : Except Fault (Stencil × Stencil) := do
  let second ← Stencil.lookup (.kind .central) order (.int 2)
  let first ← Stencil.lookup (.kind .central) order (.int 1)
  return (second, first)

/-- The entries of a gradient. -/
def gradientEntries (stencil : Stencil) (ndim : Nat) : List Entry :=
  (List.range ndim).map fun axis => ⟨.along stencil axis, [[axis, 0]]⟩

/-- The entries of a Hessian in the row of an axis, from the diagonal on. -/
def hessianRow (second first : Stencil) (ndim axis : Nat) : List Entry :=
  ⟨.along second axis, [[axis, axis]]⟩ ::
    (List.range' (axis + 1) (ndim - (axis + 1))).map fun inner =>
      ⟨.mixed first axis inner, [[axis, inner], [inner, axis]]⟩

/-- The entries of a matrix, in the order in which they are estimated. -/
def entries (ndim : Nat) : Scheme → List Entry
  | .gradient stencil => gradientEntries stencil ndim
  | .hessian second first => (List.range ndim).flatMap (hessianRow second first ndim)
  | .blank => []

/-- How far the samples of a matrix reach below and above a position. -/
def reach : Scheme → Except Fault (Nat × Nat)
  | .gradient stencil => stencil.reach
  | .hessian second first => do
      let (secondLow, secondHigh) ← second.reach
      let (firstLow, firstHigh) ← first.reach
      return (max secondLow firstLow, max secondHigh firstHigh)
  | .blank => .ok (0, 0)

end Scheme

end LatticeDiff
