import LatticeDiff.Proofs.Region.Axes
import LatticeDiff.Proofs.Region.Padding

/-!
# Transposed fields

A field whose axes are put into another order has the same samples, at the positions whose
coordinates are put into that order. What a reader that stays in a region finds in it is what
is found in the field itself, if the region is transposed as well.
-/

namespace LatticeDiff

namespace Region

variable {ndim : Nat}

/-- The region with its axes in another order. -/
def transpose (region : Region) (axes : Axes ndim) : Region where
  spans := axes.arrange region.spans
  spans_ne_nil := axes.arrange_ne_nil region.spans_ne_nil

@[simp] theorem ndim_transpose (region : Region) (axes : Axes ndim) :
    (region.transpose axes).ndim = region.ndim :=
  axes.length_arrange region.spans

theorem pad_transpose (region : Region) (axes : Axes ndim) (low high : Nat) :
    (region.transpose axes).pad low high = (region.pad low high).transpose axes :=
  Region.mk.injEq .. ▸ axes.map_arrange (Span.pad low high) region.spans

theorem holds_transpose_iff {region : Region} {axes : Axes ndim} {position : Position}
    (sameNdim : region.ndim = ndim) (sameLength : position.length = ndim) :
    (region.transpose axes).Holds (axes.arrange position) ↔ region.Holds position :=
  axes.forall₂_arrange_iff sameNdim sameLength

end Region

namespace Grid

variable {ndim : Nat}

/-- The grid with its axes in another order. -/
def transpose (grid : Grid) (axes : Axes ndim) : Grid :=
  tabulate (axes.arrange grid.shape) fun index =>
    (grid.cell? (Axes.arrange axes.symm index)).getD 0.0

theorem at?_transpose {grid : Grid} (axes : Axes ndim) {position : Position}
    (sameNdim : grid.shape.length = ndim) (sameLength : position.length = ndim) :
    (grid.transpose axes).at? (axes.arrange position) = grid.at? position := by
  have arranged : Shape.Holds (axes.arrange grid.shape) (axes.arrange position) ↔
      grid.shape.Holds position := axes.forall₂_arrange_iff sameNdim sameLength
  by_cases holds : grid.shape.Holds position
  · have found := Shape.index?_of_holds (arranged.2 holds)
    have inside := Shape.contains_of_index? found
    have back : Axes.arrange axes.symm ((axes.arrange position).map Int.toNat) =
        position.map Int.toNat := by
      rw [Axes.map_arrange]
      exact axes.arrange_symm_arrange (by rwa [List.length_map])
    have original : grid.at? position = grid.cell? (position.map Int.toNat) := by
      rw [at?, Shape.index?_of_holds holds, Option.bind_some]
    obtain ⟨value, stored⟩ := Option.isSome_iff_exists.1 (at?_isSome_iff.2 holds)
    rw [stored]
    rw [original] at stored
    rw [at?, transpose, shape_tabulate, found, Option.bind_some, cell?_tabulate inside, back,
      stored, Option.getD_some]
  · have missing : grid.at? position = none := by
      rwa [← Option.not_isSome_iff_eq_none, at?_isSome_iff]
    rw [missing, ← Option.not_isSome_iff_eq_none, at?_isSome_iff]
    exact fun held => holds (arranged.1 held)

end Grid

namespace Field

variable {ndim : Nat}

/-- The field with its axes in another order. -/
def transpose (field : Field) (axes : Axes ndim) : Field where
  grid := field.grid.transpose axes
  shape_ne_nil := axes.arrange_ne_nil field.shape_ne_nil

theorem read_transpose_iff {field : Field} {region : Region} {axes : Axes ndim}
    {position : Position} {value : Float} (fieldNdim : field.ndim = ndim)
    (regionNdim : region.ndim = ndim) (sameLength : position.length = ndim) :
    (field.transpose axes).read (region.transpose axes) (axes.arrange position) = .ok value ↔
      field.read region position = .ok value := by
  have found : (field.transpose axes).grid.at? (axes.arrange position) =
      field.grid.at? position := Grid.at?_transpose axes fieldNdim sameLength
  have onGrid : (field.transpose axes).shape.Holds (axes.arrange position) ↔
      field.shape.Holds position := by
    rw [shape, shape, ← Grid.at?_isSome_iff, ← Grid.at?_isSome_iff, found]
  rw [read_eq_ok_iff, read_eq_ok_iff, Readable, Readable, onGrid,
    Region.holds_transpose_iff regionNdim sameLength, sampleAt, sampleAt, found]

end Field

namespace Source

variable {ndim : Nat}

/-- The source with its axes in another order. -/
def transpose (source : Source) (axes : Axes ndim) : Source where
  field := source.field.transpose axes
  tellsBounds := source.tellsBounds

@[simp] theorem ndim_transpose (source : Source) (axes : Axes ndim) :
    (source.transpose axes).ndim = source.ndim :=
  axes.length_arrange source.field.shape

end Source

end LatticeDiff
