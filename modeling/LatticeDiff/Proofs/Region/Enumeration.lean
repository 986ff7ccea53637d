import LatticeDiff.Proofs.Region.Membership
import LatticeDiff.Region.Positions

/-!
# Positions and indices

The positions of a region correspond to the indices of an array of its shape: the index
of a position is how far it lies above the low corner. This module states the
correspondence, and how the indices of an array split where one shape is appended to
another.
-/

namespace LatticeDiff

namespace Shape

theorem contains_append_iff {shape entry : Shape} {whole : List Nat} :
    (shape ++ entry).contains whole = true ↔
      ∃ index rest, whole = index ++ rest ∧ shape.contains index = true ∧
        entry.contains rest = true := by
  induction shape generalizing whole with
  | nil =>
      constructor
      · intro inside
        exact ⟨[], whole, rfl, rfl, inside⟩
      · rintro ⟨index, rest, rfl, empty, inside⟩
        obtain rfl := contains_nil_iff.1 empty
        exact inside
  | cons length shape ih =>
      constructor
      · intro inside
        obtain ⟨coordinate, whole, rfl, bound, others⟩ := contains_cons_iff.1 inside
        obtain ⟨index, rest, rfl, first, second⟩ := ih.1 others
        have extended := contains_cons_iff.2 ⟨coordinate, index, rfl, bound, first⟩
        exact ⟨coordinate :: index, rest, rfl, extended, second⟩
      · rintro ⟨_, rest, rfl, first, second⟩
        obtain ⟨coordinate, index, rfl, bound, others⟩ := contains_cons_iff.1 first
        have joined := ih.2 ⟨index, rest, rfl, others, second⟩
        exact contains_cons_iff.2 ⟨coordinate, index ++ rest, rfl, bound, joined⟩

end Shape

namespace Region

/-- The position that lies above the low corner by an index. -/
def positionOf (region : Region) (index : List Nat) : Position :=
  region.spans.zipWith (fun span (offset : Nat) => span.low + offset) index

theorem positionAt_eq_positionOf (region : Region) (number : Nat) :
    region.positionAt number = region.positionOf (region.shape.unrank number) := rfl

theorem length_positionAt (region : Region) (number : Nat) :
    (region.positionAt number).length = region.ndim := by
  rw [positionAt, List.length_zipWith, Shape.length_unrank, length_shape, ndim, Nat.min_self]

theorem contains_indexOf {region : Region} {position : Position}
    (holds : region.Holds position) :
    region.shape.contains (region.indexOf position) = true := by
  unfold indexOf shape
  unfold Holds at holds
  generalize region.spans = spans at *
  induction holds with
  | nil => rfl
  | @cons span coordinate spans position within _ ih =>
      rw [List.map_cons, List.zipWith_cons_cons, Shape.contains, ih, Bool.and_true,
        decide_eq_true_eq, Span.length]
      omega

theorem positionOf_indexOf {region : Region} {position : Position}
    (holds : region.Holds position) :
    region.positionOf (region.indexOf position) = position := by
  unfold indexOf positionOf
  unfold Holds at holds
  generalize region.spans = spans at *
  induction holds with
  | nil => rfl
  | @cons span coordinate spans position within _ ih =>
      rw [List.zipWith_cons_cons, List.zipWith_cons_cons, ih]
      congr 1
      omega

theorem holds_positionOf {region : Region} {index : List Nat}
    (inside : region.shape.contains index = true) :
    region.Holds (region.positionOf index) ∧
      region.indexOf (region.positionOf index) = index := by
  unfold shape at inside
  unfold Holds indexOf positionOf
  generalize region.spans = spans at *
  induction spans generalizing index with
  | nil =>
      obtain rfl := Shape.contains_nil_iff.1 inside
      exact ⟨.nil, rfl⟩
  | cons span spans ih =>
      obtain ⟨offset, index, rfl, bound, others⟩ := Shape.contains_cons_iff.1 inside
      obtain ⟨holds, same⟩ := ih others
      rw [Span.length] at bound
      rw [List.zipWith_cons_cons, List.zipWith_cons_cons, same]
      constructor
      · refine .cons ?_ holds
        omega
      · congr 1
        omega

/-- An index of an array with entries at every position of a region is the index of a
position, followed by that of an entry. -/
theorem exists_indexOf_append {region : Region} {entry : Shape} {whole : List Nat}
    (inside : (region.shape ++ entry).contains whole = true) :
    ∃ position rest, region.Holds position ∧ entry.contains rest = true ∧
      whole = region.indexOf position ++ rest := by
  obtain ⟨index, rest, rfl, inRegion, inEntry⟩ := Shape.contains_append_iff.1 inside
  obtain ⟨holds, same⟩ := holds_positionOf inRegion
  exact ⟨region.positionOf index, rest, holds, inEntry, by rw [same]⟩

theorem holds_positionAt {region : Region} {number : Nat} (bound : number < region.size) :
    region.Holds (region.positionAt number) :=
  (holds_positionOf (Shape.contains_unrank bound)).1

theorem positionAt_rank {region : Region} {position : Position}
    (holds : region.Holds position) :
    region.positionAt (region.shape.rank (region.indexOf position)) = position := by
  rw [positionAt_eq_positionOf, Shape.unrank_rank (contains_indexOf holds),
    positionOf_indexOf holds]

theorem rank_indexOf_lt {region : Region} {position : Position}
    (holds : region.Holds position) :
    region.shape.rank (region.indexOf position) < region.size :=
  Shape.rank_lt (contains_indexOf holds)

theorem holds_low (region : Region) : region.Holds region.low := by
  unfold Holds low
  induction region.spans with
  | nil => exact .nil
  | cons span spans ih => exact .cons ⟨Int.le_refl _, span.low_le_high⟩ ih

theorem holds_high (region : Region) : region.Holds region.high := by
  unfold Holds high
  induction region.spans with
  | nil => exact .nil
  | cons span spans ih => exact .cons ⟨span.low_le_high, Int.le_refl _⟩ ih

end Region

end LatticeDiff
