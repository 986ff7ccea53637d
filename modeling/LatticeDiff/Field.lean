import LatticeDiff.Grid.Sampling
import LatticeDiff.Region.Args

/-!
# Fields

A field is a grid of samples with at least one axis. It is read one position at a
time, and only inside a region that the reader has agreed to stay in.
-/

namespace LatticeDiff

/-- A grid of samples of a scalar function on the lattice. -/
structure Field where
  grid : Grid
  shape_ne_nil : grid.shape ≠ []

namespace Field

/-- The field with the given samples. -/
def ofGrid (grid : Grid) : Except Fault Field :=
  if nonempty : grid.shape ≠ [] then .ok ⟨grid, nonempty⟩
  else .error .fieldWithoutAxes

/-- The field with the samples that an argument stands for. -/
def ofArg (values : Arg) : Except Fault Field := do
  ofGrid (← Grid.ofArg values)

/-- The field that a function has over a shape. -/
def ofFunction (machine : Machine) (function : LatticeFunction) (shape : Arg) :
    Except Fault Field := do
  let shape ← Grid.sampledShape machine (← shape.truncatedItems machine)
  ofGrid (← Grid.sample function shape)

/-- The number of samples on each axis. -/
def shape (field : Field) : Shape :=
  field.grid.shape

/-- The number of axes. -/
def ndim (field : Field) : Nat :=
  field.shape.length

/-- The region that the samples cover. -/
def bounds (field : Field) : Except Fault Region :=
  Region.ofShape (field.shape.map Int.ofNat)

/-- The sample at a position, for a reader that has to stay in a region. The region
is checked first. What a machine raises for a refusal is up to `Fault.raisedOn`. -/
def read (field : Field) (region : Region) (position : Position) : Except Fault Float :=
  if region.contains position then
    match field.grid.at? position with
    | some value => .ok value
    | none => .error (.outsideArray position field.shape)
  else .error (.outsideRegion position region.low region.high)

/-- Overwrite one sample. -/
def overwrite (field : Field) (index : List Arg) (value : Arg) : Except Fault Field := do
  ofGrid (← field.grid.overwrite index value)

end Field

/-- What derivatives are taken of: a field that may or may not tell its bounds. -/
structure Source where
  field : Field
  tellsBounds : Bool

namespace Source

/-- The number of axes. -/
def ndim (source : Source) : Nat :=
  source.field.ndim

/-- The region of interest, which is the bounds of the source if none is given. -/
def regionOfInterest (source : Source) (region? : Option Region) : Except Fault Region := do
  let region ← match region? with
    | some region => pure region
    | none => if source.tellsBounds then source.field.bounds else throw .regionMissing
  if region.ndim = source.ndim then return region
  else throw (.sourceDimensions region.ndim source.ndim)

end Source

end LatticeDiff
