import LatticeDiff.Proofs.Region.Membership
import Mathlib.Data.List.GetD
import Mathlib.Logic.Equiv.Defs

/-!
# Axes in another order

What there is for each axis is kept in lists: the lengths of an array, the coordinates of a
position, the spans of a region. When the axes are put into another order, all these lists are
arranged in the same way, and every relation that holds axis by axis between two of them holds
as before.
-/

namespace LatticeDiff

/-- An order of `ndim` axes, by the axis that comes to each place. -/
abbrev Axes (ndim : Nat) := Equiv.Perm (Fin ndim)

namespace Axes

variable {ndim : Nat} (axes : Axes ndim)

/-- The axis that comes to a place. Places that no axis has are left alone. -/
def axisAt (place : Nat) : Nat :=
  if bound : place < ndim then axes ⟨place, bound⟩ else place

/-- What a list has for each axis, with the axes in their new order. -/
def arrange {α : Type} (entries : List α) : List α :=
  entries.mapIdx fun place entry => entries.getD (axes.axisAt place) entry

theorem axisAt_lt_iff {place : Nat} : axes.axisAt place < ndim ↔ place < ndim := by
  unfold axisAt
  split
  · next bound => exact iff_of_true (axes ⟨place, bound⟩).isLt bound
  · rfl

@[simp] theorem axisAt_symm_axisAt (place : Nat) :
    axisAt axes.symm (axes.axisAt place) = place := by
  by_cases bound : place < ndim
  · simp [axisAt, bound]
  · simp [axisAt, bound]

@[simp] theorem axisAt_axisAt_symm (axis : Nat) :
    axes.axisAt (axisAt axes.symm axis) = axis :=
  axisAt_symm_axisAt axes.symm axis

theorem axisAt_inj {first second : Nat} :
    axes.axisAt first = axes.axisAt second ↔ first = second := by
  constructor
  · intro same
    have back := congrArg (axisAt axes.symm) same
    rwa [axisAt_symm_axisAt, axisAt_symm_axisAt] at back
  · rintro rfl
    rfl

theorem forall_axisAt_iff (property : Nat → Prop) :
    (∀ place < ndim, property (axes.axisAt place)) ↔ ∀ axis < ndim, property axis := by
  constructor
  · intro every axis bound
    have inPlace := every (axisAt axes.symm axis) ((axisAt_lt_iff axes.symm).2 bound)
    rwa [axisAt_axisAt_symm] at inPlace
  · intro every place bound
    exact every _ (axes.axisAt_lt_iff.2 bound)

/-- Every pair of axes comes to a pair of places. -/
theorem forall_ne_axisAt_iff (property : Nat → Nat → Prop) :
    (∀ first < ndim, ∀ second < ndim, first ≠ second →
        property (axes.axisAt first) (axes.axisAt second)) ↔
      ∀ first < ndim, ∀ second < ndim, first ≠ second → property first second := by
  constructor
  · intro every first firstBound second secondBound different
    have inPlace := every _ ((axisAt_lt_iff axes.symm).2 firstBound) _
      ((axisAt_lt_iff axes.symm).2 secondBound) ((axisAt_inj axes.symm).not.2 different)
    rwa [axisAt_axisAt_symm, axisAt_axisAt_symm] at inPlace
  · intro every first firstBound second secondBound different
    exact every _ (axes.axisAt_lt_iff.2 firstBound) _ (axes.axisAt_lt_iff.2 secondBound)
      (axes.axisAt_inj.not.2 different)

section Lists

variable {α β : Type} {entries : List α}

@[simp] theorem length_arrange (entries : List α) :
    (axes.arrange entries).length = entries.length :=
  List.length_mapIdx

theorem arrange_ne_nil (nonempty : entries ≠ []) : axes.arrange entries ≠ [] := by
  apply List.ne_nil_of_length_pos
  rw [length_arrange]
  exact List.length_pos_iff.2 nonempty

theorem getElem?_arrange (same : entries.length = ndim) (place : Nat) :
    (axes.arrange entries)[place]? = entries[axes.axisAt place]? := by
  rw [arrange, List.getElem?_mapIdx]
  by_cases bound : place < ndim
  · have inEntries : place < entries.length := by rwa [same]
    have elsewhere : axes.axisAt place < entries.length := by
      rw [same]
      exact axes.axisAt_lt_iff.2 bound
    rw [List.getElem?_eq_getElem inEntries, List.getElem?_eq_getElem elsewhere, Option.map_some,
      List.getD_eq_getElem _ _ elsewhere]
  · have beyond : entries.length ≤ place := by omega
    rw [axisAt, dif_neg bound, List.getElem?_eq_none beyond]
    rfl

theorem map_arrange (image : α → β) (entries : List α) :
    (axes.arrange entries).map image = axes.arrange (entries.map image) := by
  apply List.ext_getElem?
  intro place
  simp only [arrange, List.getElem?_map, List.getElem?_mapIdx, Option.map_map]
  congr 1
  funext entry
  exact (List.getD_map entries entry image).symm

theorem arrange_symm_arrange (same : entries.length = ndim) :
    arrange axes.symm (axes.arrange entries) = entries := by
  apply List.ext_getElem?
  intro axis
  rw [getElem?_arrange _ (by rwa [length_arrange]), getElem?_arrange _ same, axisAt_axisAt_symm]

/-- What holds between two lists axis by axis does so in any order of the axes. -/
theorem forall₂_arrange_iff {relation : α → β → Prop} {entries : List α} {others : List β}
    (same : entries.length = ndim) (otherSame : others.length = ndim) :
    List.Forall₂ relation (axes.arrange entries) (axes.arrange others) ↔
      List.Forall₂ relation entries others := by
  simp only [forall₂_iff_getElem?, length_arrange, getElem?_arrange axes same,
    getElem?_arrange axes otherSame]
  refine and_congr_right fun _ => ?_
  constructor
  · intro every axis entry other found otherFound
    apply every (axisAt axes.symm axis)
    · rwa [axisAt_axisAt_symm]
    · rwa [axisAt_axisAt_symm]
  · intro every place
    exact every (axes.axisAt place)

end Lists

theorem shift_arrange {position : Position} (same : position.length = ndim) (place : Nat)
    (distance : Int) :
    Position.shift (axes.arrange position) place distance =
      axes.arrange (position.shift (axes.axisAt place) distance) := by
  apply List.ext_getElem?
  intro other
  rw [getElem?_arrange _ (by rwa [Position.length_shift]), Position.shift, Position.shift,
    List.getElem?_modify, List.getElem?_modify, getElem?_arrange _ same]
  simp only [axisAt_inj]

end Axes

theorem Position.shift_comm (position : Position) (first second : Nat) (far near : Int) :
    (position.shift first far).shift second near =
      (position.shift second near).shift first far := by
  apply List.ext_getElem?
  intro axis
  simp only [shift, List.getElem?_modify, Option.map_eq_map, Option.map_map]
  congr 1
  funext coordinate
  simp only [Function.comp_apply]
  split <;> split <;> omega

end LatticeDiff
