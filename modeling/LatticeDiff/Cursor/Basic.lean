import LatticeDiff.Arg.Coordinates
import LatticeDiff.Field

/-!
# Cursors

A cursor stands at a position of a field and reads there. It may be moved
anywhere; only reading checks that the position lies in the cursor's region and in
the field.
-/

namespace LatticeDiff

/-- A position together with the region in which reading is allowed. -/
structure Cursor where
  region : Region
  position : Position

namespace Cursor

/-- The number of axes. -/
def ndim (cursor : Cursor) : Nat :=
  cursor.position.length

/-- Place the cursor at a position. -/
def setPosition (cursor : Cursor) (position : Arg) : Except Fault Cursor := do
  return { cursor with position := ← position.coordinates cursor.ndim }

/-- Move along an axis, which may count from the last one. The axis is looked up
before the distance is. -/
def move (cursor : Cursor) (distance axis : Arg) : Except Fault Cursor := do
  let axis ← axis.index cursor.ndim
  let distance ← distance.integral "distance"
  return { cursor with position := cursor.position.shift axis distance }

/-- Move one step up along an axis. -/
def forward (cursor : Cursor) (axis : Arg) : Except Fault Cursor :=
  cursor.move (.int 1) axis

/-- Move one step down along an axis. -/
def back (cursor : Cursor) (axis : Arg) : Except Fault Cursor :=
  cursor.move (.int (-1)) axis

/-- The sample where the cursor stands. -/
def read (cursor : Cursor) (field : Field) : Except Fault Float :=
  field.read cursor.region cursor.position

end Cursor

/-- A new cursor at the low corner of a region, which is the bounds of the field
if none is given. -/
def Field.cursor (field : Field) (region? : Option Region) : Except Fault Cursor := do
  let region ← match region? with
    | some region => pure region
    | none => field.bounds
  if region.ndim = field.ndim then return ⟨region, region.low⟩
  else throw (.cursorDimensions region.ndim field.ndim)

end LatticeDiff
