/-!
# Positions

A position on an integer lattice has one coordinate per axis. Coordinates are
unbounded.
-/

namespace LatticeDiff

/-- A lattice position, by its coordinates. -/
abbrev Position := List Int

namespace Position

/-- The position `distance` steps away along an axis. -/
def shift (position : Position) (axis : Nat) (distance : Int) : Position :=
  position.modify axis (· + distance)

@[simp] theorem length_shift (position : Position) (axis : Nat) (distance : Int) :
    (position.shift axis distance).length = position.length := by
  simp [shift]

@[simp] theorem shift_zero (position : Position) (axis : Nat) :
    position.shift axis 0 = position := by
  unfold shift
  induction position generalizing axis with
  | nil => simp
  | cons coordinate rest ih =>
      cases axis with
      | zero => simp
      | succ axis => simpa using ih axis

/-- Shifts along one axis add up. -/
theorem shift_shift (position : Position) (axis : Nat) (first second : Int) :
    (position.shift axis first).shift axis second =
      position.shift axis (first + second) := by
  unfold shift
  induction position generalizing axis with
  | nil => simp
  | cons coordinate rest ih => cases axis <;> simp [ih, Int.add_assoc]

/-- A shift and its inverse cancel. -/
@[simp] theorem shift_shift_neg (position : Position) (axis : Nat) (distance : Int) :
    (position.shift axis distance).shift axis (-distance) = position := by
  rw [shift_shift, Int.add_right_neg, shift_zero]

end Position

end LatticeDiff
