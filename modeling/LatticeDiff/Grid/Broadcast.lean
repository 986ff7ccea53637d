import LatticeDiff.Grid.Basic

/-!
# Stretching grids

A grid stretches to a larger shape by repetition: axes are aligned from the last
one on, and axes of length one, as well as missing axes, are repeated.
-/

namespace LatticeDiff

namespace Grid

/-- Whether every axis has length one or the length that is asked for. -/
def stretches : Shape → Shape → Bool
  | [], [] => true
  | length :: shape, wanted :: target =>
      (length = 1 || length = wanted) && stretches shape target
  | _, _ => false

/-- The index that an index of a larger shape stands for, on axes of which those of
length one are repeated. -/
def pinned (shape : Shape) (index : List Nat) : List Nat :=
  shape.zipWith (fun length coordinate => if length = 1 then 0 else coordinate) index

/-- The grid repeated to fill a shape. -/
def broadcast? (grid : Grid) (target : Shape) : Option Grid :=
  let missing := target.length - grid.shape.length
  if grid.shape.length ≤ target.length && stretches grid.shape (target.drop missing) then
    some (tabulate target fun index => grid.entry (pinned grid.shape (index.drop missing)))
  else none

end Grid

end LatticeDiff
