import LatticeDiff.Grid.Args
import LatticeDiff.Grid.Broadcast

/-!
# Grids sampled from functions

A function on the lattice is sampled over a shape by a single call. It takes one array
per axis, with the coordinate of every index as a double, and returns an array of values,
which is stretched to the shape. Any function will do. Those that are built here combine
the arrays entry by entry, such as polynomials and their quotients, pick one of them, or
return the same array whatever they get.
-/

namespace LatticeDiff

/-- A function on the lattice: from one array of coordinates per axis to an array. -/
abbrev LatticeFunction := List Grid → Except Fault Grid

/-- A term of a polynomial: a coefficient and one exponent per axis. -/
structure Monomial (Coefficient : Type) where
  coefficient : Coefficient
  exponents : List Nat

namespace Monomial

/-- A value multiplied by a coordinate as often as the exponent says. -/
def times (value coordinate : Float) : Nat → Float
  | 0 => value
  | exponent + 1 => times (value * coordinate) coordinate exponent

/-- The value at a point: the coefficient times one power per axis, multiplied out
from the first axis on. -/
def eval (term : Monomial Float) (point : List Float) : Float :=
  (point.zip term.exponents).foldl
    (fun value (coordinate, exponent) => times value coordinate exponent)
    term.coefficient

/-- A term whose coefficient is converted to a double. -/
def resolve (term : Monomial Arg) : Except Fault (Monomial Float) := do
  return ⟨← term.coefficient.asReal, term.exponents⟩

end Monomial

/-- The value of a polynomial at a point, summed from the first term on. -/
def evalTerms (terms : List (Monomial Float)) (point : List Float) : Float :=
  terms.foldl (fun total term => total + term.eval point) 0.0

namespace Grid

/-- Arrays of one shape combined entry by entry. -/
def combine (value : List Float → Float) (grids : List Grid) : Grid :=
  let shape : Shape := (grids.head?.map Grid.shape).getD []
  tabulate shape fun index => value (grids.map (·.entry index))

end Grid

namespace LatticeFunction

/-- A polynomial in the coordinates. -/
def polynomial (terms : List (Monomial Arg)) : LatticeFunction := fun grids => do
  return Grid.combine (evalTerms (← terms.mapM Monomial.resolve)) grids

/-- A quotient of polynomials in the coordinates. -/
def quotient (numerator denominator : List (Monomial Arg)) : LatticeFunction := fun grids => do
  let numerator ← numerator.mapM Monomial.resolve
  let denominator ← denominator.mapM Monomial.resolve
  return Grid.combine (fun point => evalTerms numerator point / evalTerms denominator point)
    grids

/-- The coordinate along an axis, which may count from the end. -/
def coordinate (axis : Int) : LatticeFunction := fun grids => do
  let place ← (Arg.int axis).index grids.length
  match grids[place]? with
  | some grid => return grid
  | none => throw .indexOutOfRange

/-- The same array whatever the coordinates are. -/
def constant (values : Arg) : LatticeFunction := fun _ => Grid.ofArg values

end LatticeFunction

namespace Grid

/-- Lengths as a shape to sample over. All coordinates of all indices, which have
one axis more, are kept in one array, and those of each axis in another one. -/
def sampledShape (machine : Machine) (lengths : List Int) : Except Fault Shape :=
  let shape : Shape := lengths.map Int.toNat
  let indices : Shape := shape.length :: shape
  if lengths.any (· < 0) || !indices.canLayOut then .error .badShape
  else if indices.fitsMemory machine && shape.all (Shape.fitsMemory machine [·]) then .ok shape
  else .error .outOfMemory

/-- The coordinates of all indices of a shape as doubles, one array for each axis. -/
def coordinateGrids (shape : Shape) : List Grid :=
  (List.range shape.length).map fun axis =>
    tabulate shape fun index => Float.ofNat (index.getD axis 0)

/-- The values of a function at all indices of a shape. -/
def sample (function : LatticeFunction) (shape : Shape) : Except Fault Grid := do
  let values ← function (coordinateGrids shape)
  match values.broadcast? shape with
  | some stretched => return stretched
  | none => throw .notBroadcastable

end Grid

end LatticeDiff
