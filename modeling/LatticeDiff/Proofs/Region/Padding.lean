import LatticeDiff.Proofs.Region.Enumeration

/-!
# Margins around a region

A padded region holds every position within the margins of a position of the region,
and lies on an array exactly if its two corners do. Its extremes are attained along
every axis at the corners of the region.
-/

namespace LatticeDiff

namespace Position

/-- Along every axis, a place is at most the margins away from a position. -/
def Near (low high : Nat) (position place : Position) : Prop :=
  List.Forall₂ (fun coordinate other : Int =>
    coordinate - low ≤ other ∧ other ≤ coordinate + high) position place

theorem near_refl (low high : Nat) (position : Position) : Near low high position position := by
  apply List.forall₂_same.2
  intro coordinate _
  omega

theorem near_shift {low high : Nat} {distance : Int} (below : -(low : Int) ≤ distance)
    (above : distance ≤ high) (position : Position) (axis : Nat) :
    Near low high position (position.shift axis distance) := by
  unfold shift
  induction position generalizing axis with
  | nil =>
      rw [List.modify_nil]
      exact near_refl low high []
  | cons coordinate position ih =>
      cases axis with
      | zero =>
          rw [List.modify_zero_cons]
          exact .cons (by omega) (near_refl low high position)
      | succ axis =>
          rw [List.modify_succ_cons]
          exact .cons (by omega) (ih axis)

/-- Shifts within the margins along two different axes do not add up along either. -/
theorem near_shift_shift {low high : Nat} {far near : Int} {outer inner : Nat}
    (farBelow : -(low : Int) ≤ far) (farAbove : far ≤ high)
    (nearBelow : -(low : Int) ≤ near) (nearAbove : near ≤ high) (ordered : outer < inner)
    (position : Position) :
    Near low high position ((position.shift outer far).shift inner near) := by
  induction position generalizing outer inner with
  | nil =>
      rw [shift, shift, List.modify_nil, List.modify_nil]
      exact near_refl low high []
  | cons coordinate position ih =>
      cases inner with
      | zero => omega
      | succ inner =>
          cases outer with
          | zero =>
              refine .cons ?_ (near_shift nearBelow nearAbove position inner)
              simp only
              omega
          | succ outer => exact .cons (by omega) (ih (Nat.lt_of_succ_lt_succ ordered))

theorem getElem_shift {position : Position} {axis : Nat} {distance : Int}
    (inPosition : axis < position.length)
    (inShifted : axis < (position.shift axis distance).length) :
    (position.shift axis distance)[axis] = position[axis] + distance := by
  simp [shift]

end Position

namespace Region

theorem holds_pad {region : Region} {low high : Nat} {position place : Position}
    (holds : region.Holds position) (near : Position.Near low high position place) :
    (region.pad low high).Holds place := by
  change List.Forall₂ _ (region.spans.map (Span.pad low high)) place
  unfold Holds at holds
  unfold Position.Near at near
  generalize region.spans = spans at *
  induction holds generalizing place with
  | nil =>
      cases near
      exact .nil
  | @cons span coordinate spans position within _ ih =>
      cases near with
      | @cons _ other _ rest close others =>
          rw [List.map_cons]
          refine .cons ?_ (ih others)
          simp only [Span.pad]
          omega

/-- Both corners of a region lie on an array of a shape. -/
def Fits (region : Region) (shape : Shape) : Prop :=
  List.Forall₂ (fun (span : Span) (length : Nat) => 0 ≤ span.low ∧ span.high < length)
    region.spans shape

theorem Fits.holds {region : Region} {shape : Shape} {position : Position}
    (fits : region.Fits shape) (holds : region.Holds position) : shape.Holds position := by
  unfold Shape.Holds
  unfold Holds at holds
  unfold Fits at fits
  generalize region.spans = spans at *
  induction fits generalizing position with
  | nil =>
      cases holds
      exact .nil
  | @cons span length spans shape inside _ ih =>
      cases holds with
      | @cons _ coordinate _ rest within others =>
          refine .cons ?_ (ih others)
          omega

/-- A padded region lies on an array if the extremes along every axis do that are found
from the corners of the region. -/
theorem fits_pad {region : Region} {shape : Shape} {low high : Nat}
    (same : shape.length = region.ndim)
    (lowest : ∀ axis < region.ndim, shape.Holds (region.low.shift axis (-low)))
    (highest : ∀ axis < region.ndim, shape.Holds (region.high.shift axis high)) :
    (region.pad low high).Fits shape := by
  apply List.forall₂_iff_get.2
  refine ⟨?_, ?_⟩
  · rw [same]
    exact ndim_pad region low high
  · intro axis inPadded inShape
    have bound : axis < region.ndim := by rwa [← same]
    have inLow : axis < region.low.length := by rwa [length_low]
    have inHigh : axis < region.high.length := by rwa [length_high]
    have lowBound : axis < (region.low.shift axis (-low)).length := by
      rwa [Position.length_shift]
    have highBound : axis < (region.high.shift axis high).length := by
      rwa [Position.length_shift]
    have lowInside := ((lowest axis bound).bounds inShape lowBound).1
    have highInside := ((highest axis bound).bounds inShape highBound).2
    rw [Position.getElem_shift inLow] at lowInside
    rw [Position.getElem_shift inHigh] at highInside
    simp only [Region.low, Region.high, List.getElem_map] at lowInside highInside
    simp only [pad, List.get_eq_getElem, List.getElem_map, Span.pad]
    exact ⟨by omega, highInside⟩

end Region

end LatticeDiff
