import LatticeDiff.Arg.Nesting
import LatticeDiff.Arg.Number
import LatticeDiff.Grid.Basic

/-!
# Grids from arguments

A nested list is a grid of the doubles that its scalars convert to. Missing values
become NaN.
-/

namespace LatticeDiff

namespace Arg

/-- An argument as an entry of a grid. A list would be several. -/
def asCell : Arg → Except Fault Float
  | .nothing => .ok (0.0 / 0.0)
  | .list _ => .error .ragged
  | given => given.asReal

/-- A coordinate of an index into an array, which has to be a signed word. Unsigned
words are recognised as integers that are too large; what is beyond is none. -/
def asCoordinate : Arg → Except Fault Int
  | .bool value => .ok (ofBit value)
  | .int value =>
      if Word.fitsSigned value then .ok value
      else .error (if Word.fits value then .tooLarge else .indexOutOfRange)
  | _ => .error .indexOutOfRange

end Arg

namespace Grid

/-- Indices have at most this many coordinates, whatever the array. -/
def indexLimit : Nat := 2 * Shape.axisLimit

/-- The grid that a nested list stands for. Its shape is found before any entry is
converted. -/
def ofArg (values : Arg) : Except Fault Grid := do
  match values.arrayShape? with
  | none => throw .ragged
  | some shape => return ofRow shape (← values.scalars.mapM Arg.asCell).toArray

/-- Overwrite the entry at an index that may count from the end of each axis. An
index for the first axes only stands for all entries below it. Every coordinate is
looked at before the shape is. -/
def overwrite (grid : Grid) (index : List Arg) (value : Arg) : Except Fault Grid := do
  if indexLimit < index.length then throw .indexOutOfRange
  let coordinates ← index.mapM Arg.asCoordinate
  if grid.shape.length < coordinates.length then throw .indexOutOfRange
  let start ← (grid.shape.zip coordinates).mapM fun (length, coordinate) =>
    (Arg.int coordinate).index length
  return grid.fill start (← value.asCell)

end Grid

end LatticeDiff
