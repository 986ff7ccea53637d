import LatticeDiff.Arg.Number

/-!
# Distances

How far a cursor is displaced may be said by any argument, or by an integer of a fixed
width. Both are converted to an integer proper by whatever moves the cursor, but the sign is
changed before that, and the opposite of an integer of fixed width wraps around.
-/

namespace LatticeDiff

/-- An argument with the opposite sign, if it is a number. -/
def Arg.opposite : Arg → Except Fault Arg
  | .bool value => .ok (.int (-ofBit value))
  | .int value => .ok (.int (-value))
  | .real value => .ok (.real (-value))
  | .nothing | .text _ | .kind _ | .list _ => .error .wrongType

/-- An integer of a fixed width. -/
structure FixedInt where
  width : Nat
  signed : Bool
  bits : BitVec width

namespace FixedInt

/-- The integer that the bits stand for. -/
def value (number : FixedInt) : Int :=
  if number.signed then number.bits.toInt else number.bits.toNat

/-- The integer with the opposite sign, as far as there is one of the same width. -/
def opposite (number : FixedInt) : FixedInt :=
  { number with bits := -number.bits }

/-- How many integers there are of a width. -/
def count (number : FixedInt) : Nat :=
  Nat.pow 2 number.width

end FixedInt

/-- A distance as it is given. -/
inductive Distance where
  | plain (argument : Arg)
  | fixed (number : FixedInt)

namespace Distance

/-- What a distance is to whatever converts it. -/
def argument : Distance → Arg
  | .plain argument => argument
  | .fixed number => .int number.value

/-- The distance with the opposite sign, of the same type. -/
def opposite : Distance → Except Fault Distance
  | .plain argument => .plain <$> argument.opposite
  | .fixed number => .ok (.fixed number.opposite)

end Distance

end LatticeDiff
