import LatticeDiff.Grid.Broadcast
import LatticeDiff.Proofs.Region.Membership

/-!
# What stretched grids hold

Axes are aligned from the last one on. A grid stretches to a shape exactly if each of its axes
has length one or the length of its counterpart, and the stretched grid has, at every position,
the entry at the coordinates that count from the last axis, with zero along the axes of length
one.
-/

namespace LatticeDiff

/-- What it takes for an array of one shape to stretch to another one: there are no more axes,
and counted from the last one, every axis has length one or the length of its counterpart. -/
structure Shape.StretchesTo (shape target : Shape) : Prop where
  axes : shape.length ≤ target.length
  each : ∀ back length : Nat, shape.reverse[back]? = some length →
    length = 1 ∨ target.reverse[back]? = some length

namespace Position

/-- A coordinate along an axis that may have been repeated. -/
def pin (length : Nat) (coordinate : Int) : Int :=
  if length = 1 then 0 else coordinate

/-- The coordinates that a position has on the axes of a shape, counted from the last axis. Along
an axis of length one the coordinate is zero. -/
def pinnedTo (shape : Shape) (position : Position) : Position :=
  (shape.reverse.zipWith pin position.reverse).reverse

end Position

theorem reverse_drop_sub {α : Type} {count : Nat} {entries : List α}
    (enough : count ≤ entries.length) :
    (entries.drop (entries.length - count)).reverse = entries.reverse.take count := by
  rw [List.reverse_drop, Nat.sub_sub_self enough]

namespace Shape

variable {shape target : Shape} {position : Position}

/-- Counting the axes from the last one is dropping the first ones that have no counterpart. -/
theorem stretchesTo_iff :
    shape.StretchesTo target ↔ shape.length ≤ target.length ∧
      List.Forall₂ (fun length wanted => length = 1 ∨ length = wanted) shape
        (target.drop (target.length - shape.length)) := by
  have inReverse : ∀ {back length : Nat}, shape.reverse[back]? = some length →
      back < shape.length := by
    intro back length found
    simpa using (List.getElem?_eq_some_iff.1 found).1
  -- Both lists are reversed, so that a place from the end is a place of both.
  constructor
  · rintro ⟨axes, each⟩
    refine ⟨axes, List.forall₂_reverse_iff.1 ?_⟩
    rw [reverse_drop_sub axes, forall₂_iff_getElem?]
    refine ⟨by simp [axes], fun back length wanted found foundWanted => ?_⟩
    rw [List.getElem?_take_of_lt (inReverse found)] at foundWanted
    rcases each back length found with one | same
    · exact .inl one
    · exact .inr (Option.some.inj (same.symm.trans foundWanted))
  · rintro ⟨axes, aligned⟩
    refine ⟨axes, fun back length found => ?_⟩
    have reversed := List.forall₂_reverse_iff.2 aligned
    rw [reverse_drop_sub axes, forall₂_iff_getElem?] at reversed
    have inTarget : back < target.reverse.length := by
      rw [List.length_reverse]
      exact Nat.lt_of_lt_of_le (inReverse found) axes
    have foundWanted := List.getElem?_eq_getElem inTarget
    rw [← List.getElem?_take_of_lt (inReverse found)] at foundWanted
    rcases reversed.2 back length _ found foundWanted with one | same
    · exact .inl one
    · exact .inr (same ▸ List.getElem?_eq_getElem inTarget)

end Shape

namespace Position

theorem pinnedTo_eq {shape : Shape} {position : Position}
    (enough : shape.length ≤ position.length) :
    position.pinnedTo shape =
      shape.zipWith pin (position.drop (position.length - shape.length)) := by
  have same : shape.length = (position.drop (position.length - shape.length)).length := by
    rw [List.length_drop, Nat.sub_sub_self enough]
  have shorter : min shape.reverse.length position.reverse.length = shape.length := by
    rw [List.length_reverse, List.length_reverse, Nat.min_eq_left enough]
  rw [pinnedTo, List.zipWith_eq_zipWith_take_min, shorter, ← reverse_drop_sub enough,
    List.take_of_length_le (Nat.le_of_eq List.length_reverse), ← List.reverse_zipWith same,
    List.reverse_reverse]

theorem holds_pin {shape target : Shape} {coordinates : Position}
    (aligned : List.Forall₂ (fun length wanted => length = 1 ∨ length = wanted) shape target)
    (holds : target.Holds coordinates) : shape.Holds (shape.zipWith pin coordinates) := by
  unfold Shape.Holds at holds ⊢
  induction aligned generalizing coordinates with
  | nil =>
      cases holds
      exact .nil
  | @cons length wanted shape target here _ ih =>
      obtain ⟨coordinate, rest, within, others, rfl⟩ := List.forall₂_cons_left_iff.1 holds
      refine .cons ?_ (ih others)
      unfold pin
      split
      · omega
      · omega

theorem holds_pinnedTo {shape target : Shape} {position : Position}
    (stretches : shape.StretchesTo target) (holds : target.Holds position) :
    shape.Holds (position.pinnedTo shape) := by
  obtain ⟨axes, aligned⟩ := Shape.stretchesTo_iff.1 stretches
  have same : target.length = position.length := holds.length_eq
  have trailing : Shape.Holds (target.drop (target.length - shape.length))
      (position.drop (target.length - shape.length)) :=
    List.forall₂_drop _ holds
  have pinned := holds_pin aligned trailing
  rwa [same, ← pinnedTo_eq (same ▸ axes)] at pinned

end Position

namespace Grid

variable {grid stretched : Grid} {shape target : Shape} {position : Position}

theorem stretches_iff :
    stretches shape target = true ↔
      List.Forall₂ (fun length wanted => length = 1 ∨ length = wanted) shape target := by
  induction shape generalizing target with
  | nil => cases target <;> simp [stretches]
  | cons length shape ih => cases target <;> simp [stretches, ih]

theorem map_toNat_pinned (shape : Shape) (coordinates : Position) :
    (shape.zipWith Position.pin coordinates).map Int.toNat =
      pinned shape (coordinates.map Int.toNat) := by
  rw [pinned, List.map_zipWith, List.zipWith_map_right]
  congr 1
  funext length coordinate
  unfold Position.pin
  split <;> rfl

theorem exists_broadcast_iff :
    (∃ stretched, grid.broadcast? target = some stretched) ↔ grid.shape.StretchesTo target := by
  rw [Shape.stretchesTo_iff, ← stretches_iff]
  simp [broadcast?]

theorem shape_broadcast (success : grid.broadcast? target = some stretched) :
    stretched.shape = target := by
  obtain ⟨_, made⟩ := Option.ite_none_right_eq_some.1 success
  cases made
  rfl

theorem at?_broadcast (success : grid.broadcast? target = some stretched)
    (holds : target.Holds position) :
    stretched.at? position = grid.at? (position.pinnedTo grid.shape) := by
  have stretches : grid.shape.StretchesTo target := exists_broadcast_iff.1 ⟨_, success⟩
  have pinned := Position.holds_pinnedTo stretches holds
  have pinnedIs := Position.pinnedTo_eq (holds.length_eq ▸ stretches.axes)
  rw [← holds.length_eq] at pinnedIs
  have found := Shape.index?_of_holds holds
  have foundPinned := Shape.index?_of_holds pinned
  obtain ⟨entry, stored⟩ := Option.isSome_iff_exists.1 (at?_isSome_iff.2 pinned)
  have cell := stored
  rw [at?, foundPinned, Option.bind_some, pinnedIs, map_toNat_pinned, List.map_drop] at cell
  obtain ⟨_, made⟩ := Option.ite_none_right_eq_some.1 success
  cases made
  rw [stored, at?, shape_tabulate, found, Option.bind_some,
    cell?_tabulate (Shape.contains_of_index? found), entry_of_cell? cell]

end Grid

end LatticeDiff
