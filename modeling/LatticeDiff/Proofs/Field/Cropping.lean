import LatticeDiff.Proofs.Cursor.Displacement
import LatticeDiff.Proofs.Region.Padding

/-!
# Cropped fields

The part of a field that lies in a box is a field of its own, whose coordinates start at the
low corner of the box. What is read in it can be read in the whole field as well, where both
the position and the region of the reader are translated by that corner.
-/

namespace LatticeDiff

namespace Position

/-- Steps along every axis and a shift along one of them can change places. -/
theorem plus_shift (position : Position) (axis : Nat) (distance : Int) (steps : List Int) :
    (position.shift axis distance).plus steps = (position.plus steps).shift axis distance := by
  unfold shift plus
  induction position generalizing axis steps with
  | nil => simp
  | cons coordinate position ih =>
      cases steps with
      | nil => simp
      | cons step steps =>
          cases axis with
          | zero =>
              rw [List.modify_zero_cons, List.zipWith_cons_cons, List.zipWith_cons_cons,
                List.modify_zero_cons, Int.add_right_comm]
          | succ axis =>
              rw [List.modify_succ_cons, List.zipWith_cons_cons, List.zipWith_cons_cons,
                List.modify_succ_cons, ih]

end Position

/-- The span that lies some steps further. -/
def Span.translate (span : Span) (steps : Int) : Span where
  low := span.low + steps
  high := span.high + steps
  low_le_high := Int.add_le_add_right span.low_le_high steps

namespace Region

/-- Spans that are translated one by one. Those without steps of their own stay. -/
def translateSpans : List Span → List Int → List Span
  | span :: spans, along :: steps => span.translate along :: translateSpans spans steps
  | spans, _ => spans

@[simp] theorem length_translateSpans (spans : List Span) (steps : List Int) :
    (translateSpans spans steps).length = spans.length := by
  induction spans generalizing steps with
  | nil => rfl
  | cons span spans ih =>
      cases steps with
      | nil => rfl
      | cons along steps => rw [translateSpans, List.length_cons, List.length_cons, ih]

/-- The region that lies some steps further along every axis. -/
def translate (region : Region) (steps : List Int) : Region where
  spans := translateSpans region.spans steps
  spans_ne_nil := by
    apply List.ne_nil_of_length_pos
    rw [length_translateSpans]
    exact region.ndim_pos

@[simp] theorem ndim_translate (region : Region) (steps : List Int) :
    (region.translate steps).ndim = region.ndim :=
  length_translateSpans region.spans steps

theorem pad_translate (region : Region) (steps : List Int) (low high : Nat) :
    (region.translate steps).pad low high = (region.pad low high).translate steps := by
  have spans : (translateSpans region.spans steps).map (Span.pad low high) =
      translateSpans (region.spans.map (Span.pad low high)) steps := by
    induction region.spans generalizing steps with
    | nil => rfl
    | cons span spans ih =>
        cases steps with
        | nil => rfl
        | cons along steps =>
            rw [translateSpans, List.map_cons, List.map_cons, translateSpans, ih]
            congr 1
            simp only [Span.pad, Span.translate, Span.mk.injEq]
            omega
  exact Region.mk.injEq .. ▸ spans

theorem holds_translate {region : Region} {position : Position} {steps : List Int}
    (same : steps.length = region.ndim) (holds : region.Holds position) :
    (region.translate steps).Holds (position.plus steps) := by
  change List.Forall₂ _ (translateSpans region.spans steps) (position.plus steps)
  unfold Holds at holds
  unfold ndim at same
  generalize region.spans = spans at *
  induction holds generalizing steps with
  | nil => exact .nil
  | @cons span coordinate spans position within _ ih =>
      obtain ⟨along, steps, rfl⟩ := List.exists_cons_of_length_eq_add_one same
      refine .cons ?_ (ih (Nat.succ.inj same))
      simp only [Span.translate]
      omega

/-- A position on an array of the shape of a region lies above the low corner by itself. -/
theorem positionOf_map_toNat {region : Region} {position : Position}
    (holds : region.shape.Holds position) :
    region.positionOf (position.map Int.toNat) = position.plus region.low := by
  unfold shape Shape.Holds at holds
  unfold positionOf low Position.plus
  generalize region.spans = spans at *
  induction spans generalizing position with
  | nil =>
      cases holds
      rfl
  | cons span spans ih =>
      rw [List.map_cons] at holds
      obtain ⟨coordinate, position, within, others, rfl⟩ := List.forall₂_cons_left_iff.1 holds
      rw [List.map_cons, List.map_cons, List.zipWith_cons_cons, List.zipWith_cons_cons,
        ih others, Int.toNat_of_nonneg within.1, Int.add_comm]

end Region

namespace Grid

/-- The part of a grid that lies in a box. -/
def crop (grid : Grid) (box : Region) : Grid :=
  tabulate box.shape fun index => (grid.at? (box.positionOf index)).getD 0.0

theorem at?_crop {grid : Grid} {box : Region} {position : Position}
    (fits : box.Fits grid.shape) (holds : box.shape.Holds position) :
    (grid.crop box).at? position = grid.at? (position.plus box.low) := by
  have found := Shape.index?_of_holds holds
  have inside := Shape.contains_of_index? found
  have same := Region.positionOf_map_toNat holds
  have onGrid : grid.shape.Holds (position.plus box.low) := by
    rw [← same]
    exact fits.holds (Region.holds_positionOf inside).1
  obtain ⟨value, stored⟩ := Option.isSome_iff_exists.1 (at?_isSome_iff.2 onGrid)
  rw [at?, crop, shape_tabulate, found, Option.bind_some, cell?_tabulate inside, same, stored,
    Option.getD_some]

end Grid

namespace Field

/-- The part of a field that lies in a box. -/
def crop (field : Field) (box : Region) : Field where
  grid := field.grid.crop box
  shape_ne_nil := by
    apply List.ne_nil_of_length_pos
    rw [Grid.crop, Grid.shape_tabulate, Region.length_shape]
    exact box.ndim_pos

/-- What is read in a part of a field is read in the whole at the translated position. -/
theorem read_of_read_crop {field : Field} {box region : Region} {position : Position}
    {value : Float} (fits : box.Fits field.shape)
    (success : (field.crop box).read region position = .ok value) :
    field.read (region.translate box.low) (position.plus box.low) = .ok value := by
  obtain ⟨⟨held, onPart⟩, rfl⟩ := read_eq_ok_iff.1 success
  have sameNdim : box.low.length = region.ndim := by
    rw [Region.length_low, ← held.length_eq, ← onPart.length_eq]
    exact box.length_shape.symm
  have found : (field.crop box).grid.at? position = field.grid.at? (position.plus box.low) :=
    Grid.at?_crop fits onPart
  have onWhole : (field.grid.at? (position.plus box.low)).isSome := by
    rw [← found]
    exact Grid.at?_isSome_iff.2 onPart
  rw [read_eq_ok_iff]
  refine ⟨⟨Region.holds_translate sameNdim held, Grid.at?_isSome_iff.1 onWhole⟩, ?_⟩
  rw [sampleAt, sampleAt, found]

end Field

namespace Source

/-- The part of a source that lies in a box. -/
def crop (source : Source) (box : Region) : Source where
  field := source.field.crop box
  tellsBounds := source.tellsBounds

theorem ndim_crop (source : Source) (box : Region) : (source.crop box).ndim = box.ndim :=
  box.length_shape

end Source

end LatticeDiff
