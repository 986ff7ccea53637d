import LatticeDiff.Arg.Number
import LatticeDiff.Region.Basic
import LatticeDiff.Stencil.Lookup

/-!
# Regions from arguments

Corners, shapes and margins given as loosely typed arguments, and the padding that
a formula asks for by name.
-/

namespace LatticeDiff

namespace Region

/-- The region between two corners. Both have to be sequences before any coordinate
is converted. -/
def ofCornerArgs (machine : Machine) (low high : Arg) : Except Fault Region := do
  let lowItems ← low.items
  let highItems ← high.items
  ofCorners (← lowItems.mapM (Arg.truncated machine))
    (← highItems.mapM (Arg.truncated machine))

/-- The region between two corners, the first of which is converted before the
second is looked at. -/
def ofCornerArgsInTurn (machine : Machine) (low high : Arg) : Except Fault Region := do
  ofCorners (← low.truncatedItems machine) (← high.truncatedItems machine)

/-- The region that an array of the given shape covers. -/
def ofShapeArg (machine : Machine) (shape : Arg) : Except Fault Region := do
  ofShape (← shape.truncatedItems machine)

/-- Margins, one per axis. An integer or a boolean holds for every axis. -/
def margins (machine : Machine) (ndim : Nat) (argument : Arg) : Except Fault (List Int) :=
  match argument with
  | .int margin => .ok (List.replicate ndim margin)
  | .bool margin => .ok (List.replicate ndim (Arg.ofBit margin))
  | sequence => do
      let values ← sequence.truncatedItems machine
      if values.length = ndim then return values
      else throw (.marginCount ndim values.length)

/-- Expand a region by margins below and above. Without margins above, the ones
below hold on both sides. -/
def expandArgs (machine : Machine) (region : Region) (low high : Arg) :
    Except Fault Region := do
  let above := match high with
    | .nothing => low
    | given => given
  let lowMargins ← margins machine region.ndim low
  let highMargins ← margins machine region.ndim above
  region.expand lowMargins highMargins

/-- The region that the samples of a tabulated formula stay in. -/
def paddedFor (region : Region) (kind order derivative : Arg) : Except Fault Region := do
  let (low, high) ← Stencil.padding kind order derivative
  return region.pad low high

/-- Whether the coordinates are within the spans, one after the other. -/
def withinSpans : List Span → List Arg → Except Fault Bool
  | span :: spans, coordinate :: coordinates => do
      if ← coordinate.geInt span.low then
        if ← coordinate.leInt span.high then withinSpans spans coordinates
        else return false
      else return false
  | _, _ => return true

/-- Whether an argument is a position inside the region. Coordinates are compared
as the numbers they are; the first one outside decides. -/
def containsArg (region : Region) (position : Arg) : Except Fault Bool := do
  let coordinates ← position.items
  if coordinates.length = region.ndim then withinSpans region.spans coordinates
  else return false

end Region

end LatticeDiff
