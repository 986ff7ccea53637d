import LatticeDiff.Fault
import LatticeDiff.Shape

/-!
# Regions

A region is a box on the integer lattice that includes both of its corners. It has
at least one axis and at least one position.
-/

namespace LatticeDiff

/-- The coordinates from `low` to `high`, both included. -/
structure Span where
  low : Int
  high : Int
  low_le_high : low ≤ high
  deriving DecidableEq, Repr

namespace Span

/-- The number of coordinates. -/
def length (span : Span) : Nat :=
  (span.high - span.low + 1).toNat

/-- Whether a coordinate lies between the ends. -/
def contains (span : Span) (coordinate : Int) : Bool :=
  span.low ≤ coordinate && coordinate ≤ span.high

/-- The span that reaches further by the given margins. -/
def pad (low high : Nat) (span : Span) : Span where
  low := span.low - low
  high := span.high + high
  low_le_high := by
    have ordered := span.low_le_high
    omega

@[simp] theorem contains_iff {span : Span} {coordinate : Int} :
    span.contains coordinate = true ↔ span.low ≤ coordinate ∧ coordinate ≤ span.high := by
  simp [contains]

/-- The span with the given ends, if they are in order. -/
def ofEnds? (low high : Int) : Option Span :=
  if ordered : low ≤ high then some ⟨low, high, ordered⟩ else none

end Span

/-- A box on the lattice: one span per axis. -/
structure Region where
  spans : List Span
  spans_ne_nil : spans ≠ []
  deriving DecidableEq, Repr

namespace Region

/-- The number of axes. -/
def ndim (region : Region) : Nat :=
  region.spans.length

/-- The corner with the lowest coordinates. -/
def low (region : Region) : Position :=
  region.spans.map Span.low

/-- The corner with the highest coordinates. -/
def high (region : Region) : Position :=
  region.spans.map Span.high

/-- The number of coordinates on each axis. -/
def shape (region : Region) : Shape :=
  region.spans.map Span.length

/-- The number of positions. -/
def size (region : Region) : Nat :=
  region.shape.volume

@[simp] theorem length_low (region : Region) : region.low.length = region.ndim := by
  simp [low, ndim]

@[simp] theorem length_high (region : Region) : region.high.length = region.ndim := by
  simp [high, ndim]

@[simp] theorem length_shape (region : Region) : region.shape.length = region.ndim := by
  simp [shape, ndim]

theorem ndim_pos (region : Region) : 0 < region.ndim :=
  List.length_pos_iff.2 region.spans_ne_nil

/-- The spans between two corners, axis by axis, if none of them is empty. -/
def spans? (low high : Position) : Option (List Span) :=
  (low.zipWith Span.ofEnds? high).mapM id

/-- The region between two corners. -/
def ofCorners (low high : Position) : Except Fault Region :=
  if low.length ≠ high.length then .error (.cornersDiffer low.length high.length)
  else if low.isEmpty then .error .regionWithoutAxes
  else
    match spans? low high with
    | none | some [] => .error (.regionEmpty low high)
    | some (span :: spans) => .ok ⟨span :: spans, by simp⟩

/-- The region that an array covers: it starts at the origin. -/
def ofShape (lengths : List Int) : Except Fault Region :=
  ofCorners (lengths.map fun _ => 0) (lengths.map (· - 1))

/-- Whether a position has one coordinate per axis, each within its span. -/
def contains (region : Region) (position : Position) : Bool :=
  position.length = region.ndim &&
    (region.spans.zip position).all fun (span, coordinate) => span.contains coordinate

/-- The region that reaches further by one margin per axis on either side.
Negative margins shrink it, possibly to nothing. -/
def expand (region : Region) (low high : List Int) : Except Fault Region :=
  ofCorners (region.low.zipWith (· - ·) low) (region.high.zipWith (· + ·) high)

/-- The region that reaches further by the same margins on every axis. -/
def pad (region : Region) (low high : Nat) : Region where
  spans := region.spans.map (Span.pad low high)
  spans_ne_nil := by simp [region.spans_ne_nil]

@[simp] theorem ndim_pad (region : Region) (below above : Nat) :
    (region.pad below above).ndim = region.ndim := by
  simp [pad, ndim]

@[simp] theorem low_pad (region : Region) (below above : Nat) :
    (region.pad below above).low = region.low.map (· - (below : Int)) := by
  simp [pad, low, Span.pad]

@[simp] theorem high_pad (region : Region) (below above : Nat) :
    (region.pad below above).high = region.high.map (· + (above : Int)) := by
  simp [pad, high, Span.pad]

end Region

end LatticeDiff
