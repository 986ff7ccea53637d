import LatticeDiff.Proofs.Region.Listing
import LatticeDiff.Proofs.Region.Padding

/-!
# Regions inside regions

A region that has no position outside another one is inside of it along every axis. It
stays inside when both are padded, lies on every array that the other one lies on, and can be
listed, and an array over it allocated, if this can be done for the other one.
-/

namespace LatticeDiff

namespace Shape

variable {small large : Shape}

theorem volume_le (shorter : List.Forall₂ (· ≤ ·) small large) :
    volume small ≤ volume large := by
  induction shorter with
  | nil => exact Nat.le_refl _
  | cons shorter _ ih => exact Nat.mul_le_mul shorter ih

/-- The volumes compare as well without axes of length zero, which may be left out of the
smaller one alone. -/
theorem volume_filter_le (shorter : List.Forall₂ (· ≤ ·) small large) :
    volume (small.filter (· ≠ 0)) ≤ volume (large.filter (· ≠ 0)) := by
  induction shorter with
  | nil => exact Nat.le_refl _
  | @cons length other small large shorter _ ih =>
      by_cases empty : length = 0
      · have left : (length :: small).filter (· ≠ 0) = small.filter (· ≠ 0) := by
          simp [empty]
        by_cases otherEmpty : other = 0
        · have right : (other :: large).filter (· ≠ 0) = large.filter (· ≠ 0) := by
            simp [otherEmpty]
          rwa [left, right]
        · have right : (other :: large).filter (· ≠ 0) = other :: large.filter (· ≠ 0) := by
            simp [otherEmpty]
          rw [left, right, volume_cons]
          exact Nat.le_trans ih (Nat.le_mul_of_pos_left _ (Nat.pos_of_ne_zero otherEmpty))
      · have left : (length :: small).filter (· ≠ 0) = length :: small.filter (· ≠ 0) := by
          simp [empty]
        have right : (other :: large).filter (· ≠ 0) = other :: large.filter (· ≠ 0) := by
          have positive : other ≠ 0 := by omega
          simp [positive]
        rw [left, right, volume_cons, volume_cons]
        exact Nat.mul_le_mul shorter ih

theorem canLayOut_of_le (shorter : List.Forall₂ (· ≤ ·) small large)
    (layout : large.canLayOut = true) : small.canLayOut = true := by
  simp only [canLayOut, Bool.and_eq_true, decide_eq_true_eq, List.all_eq_true] at layout ⊢
  obtain ⟨⟨axes, lengths⟩, bytes⟩ := layout
  refine ⟨⟨?_, ?_⟩, ?_⟩
  · rwa [shorter.length_eq]
  · intro length member
    obtain ⟨axis, bound, rfl⟩ := List.mem_iff_getElem.1 member
    have otherBound : axis < large.length := by rwa [← shorter.length_eq]
    exact Nat.lt_of_le_of_lt (shorter.get bound otherBound)
      (lengths _ (List.getElem_mem otherBound))
  · exact Nat.lt_of_le_of_lt (Nat.mul_le_mul_left _ (volume_filter_le shorter)) bytes

theorem fitsMemory_of_le {machine : Machine} (shorter : List.Forall₂ (· ≤ ·) small large)
    (memory : large.fitsMemory machine = true) : small.fitsMemory machine = true :=
  Machine.fits_of_le (Nat.mul_le_mul_left _ (volume_le shorter)) memory

theorem sum_le (shorter : List.Forall₂ (· ≤ ·) small large) : small.sum ≤ large.sum := by
  induction shorter with
  | nil => exact Nat.le_refl _
  | cons shorter _ ih => exact Nat.add_le_add shorter ih

end Shape

namespace Region

variable {inner outer : Region}

/-- Along every axis, the span of one region lies within that of another. -/
def Inside (inner outer : Region) : Prop :=
  List.Forall₂ (fun part whole : Span => whole.low ≤ part.low ∧ part.high ≤ whole.high)
    inner.spans outer.spans

/-- A region is inside another one that holds all of its positions, since that one holds
both of its corners. -/
theorem inside_of_holds (every : ∀ position, inner.Holds position → outer.Holds position) :
    inner.Inside outer := by
  have lowHeld := every inner.low inner.holds_low
  have highHeld := every inner.high inner.holds_high
  apply List.forall₂_iff_get.2
  refine ⟨?_, ?_⟩
  · have length := lowHeld.length_eq
    rwa [length_low] at length
  · intro axis inInner inOuter
    have lowBound := (lowHeld.bounds inOuter (by rwa [length_low])).1
    have highBound := (highHeld.bounds inOuter (by rwa [length_high])).2
    simp only [low, high, List.getElem_map] at lowBound highBound
    exact ⟨lowBound, highBound⟩

namespace Inside

theorem ndim_eq (inside : inner.Inside outer) : inner.ndim = outer.ndim :=
  List.Forall₂.length_eq inside

theorem holds (inside : inner.Inside outer) {position : Position}
    (held : inner.Holds position) : outer.Holds position := by
  unfold Inside at inside
  unfold Holds at held ⊢
  generalize inner.spans = parts at *
  generalize outer.spans = wholes at *
  induction inside generalizing position with
  | nil =>
      cases held
      exact .nil
  | @cons part whole parts wholes within _ ih =>
      cases held with
      | @cons _ coordinate _ rest here others =>
          refine .cons ?_ (ih others)
          omega

theorem pad (inside : inner.Inside outer) (low high : Nat) :
    (inner.pad low high).Inside (outer.pad low high) := by
  apply List.forall₂_map_left_iff.2
  apply List.forall₂_map_right_iff.2
  apply inside.imp
  intro part whole within
  simp only [Span.pad]
  omega

theorem fits (inside : inner.Inside outer) {shape : Shape} (fits : outer.Fits shape) :
    inner.Fits shape := by
  unfold Inside at inside
  unfold Fits at fits ⊢
  generalize inner.spans = parts at *
  generalize outer.spans = wholes at *
  induction inside generalizing shape with
  | nil =>
      cases fits
      exact .nil
  | @cons part whole parts wholes within _ ih =>
      cases fits with
      | @cons _ length _ shape on others =>
          refine .cons ?_ (ih others)
          omega

theorem shape_le (inside : inner.Inside outer) :
    List.Forall₂ (· ≤ ·) inner.shape outer.shape := by
  apply List.forall₂_map_left_iff.2
  apply List.forall₂_map_right_iff.2
  apply inside.imp
  intro part whole within
  simp only [Span.length]
  omega

theorem listable (inside : inner.Inside outer) {machine : Machine}
    (listable : outer.Listable machine) : inner.Listable machine where
  countable := by
    intro length member
    obtain ⟨axis, bound, rfl⟩ := List.mem_iff_getElem.1 member
    have otherBound : axis < outer.shape.length := by rwa [← inside.shape_le.length_eq]
    exact Nat.le_trans (inside.shape_le.get bound otherBound)
      (listable.countable _ (List.getElem_mem otherBound))
  memory := Machine.fits_of_le (Machine.listBytes_le (Shape.sum_le inside.shape_le))
    listable.memory

end Inside

end Region

end LatticeDiff
