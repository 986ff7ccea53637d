/-!
# Exact values of double-precision numbers

Floating-point numbers meet unbounded integers at several places: coordinates
may be given as floats, weights are integers that multiply floats, and axes are
compared with integers. This module reads a `Float` as an exact dyadic value, so
that each meeting is decided in integer arithmetic.
-/

namespace LatticeDiff

/-- What a double-precision number denotes. A finite one is
`± mantissa * 2 ^ exponent`; zero keeps its sign. -/
inductive Binary64 where
  | nan
  | infinite (negative : Bool)
  | finite (negative : Bool) (mantissa : Nat) (exponent : Int)
  deriving DecidableEq, Repr

namespace Binary64

/-- Read the value off the interchange format: a sign bit, eleven bits of biased
exponent and fifty-two bits of fraction. -/
def ofFloat (value : Float) : Binary64 :=
  let bits := value.toBits.toNat
  let negative := decide (Nat.pow 2 63 ≤ bits)
  let biased : Nat := bits / Nat.pow 2 52 % Nat.pow 2 11
  let fraction := bits % Nat.pow 2 52
  if biased = 2047 then
    if fraction = 0 then .infinite negative else .nan
  else if biased = 0 then .finite negative fraction (-1074)
  else .finite negative (Nat.pow 2 52 + fraction) ((biased : Int) - 1075)

/-- A magnitude with its sign. -/
def signed (negative : Bool) (magnitude : Nat) : Int :=
  if negative then -(magnitude : Int) else magnitude

/-- The integer part of a finite value, which is rounded toward zero. -/
def wholePart (negative : Bool) (mantissa : Nat) (exponent : Int) : Int :=
  signed negative (mantissa * Nat.pow 2 exponent.toNat / Nat.pow 2 (-exponent).toNat)

/-- The integer that a value is equal to, if there is one. -/
def integer? : Binary64 → Option Int
  | .finite negative mantissa exponent =>
      if mantissa % Nat.pow 2 (-exponent).toNat = 0 then
        some (wholePart negative mantissa exponent)
      else none
  | _ => none

/-- Where a value stands relative to an integer; NaN is not comparable. -/
def compare? (value : Binary64) (bound : Int) : Option Ordering :=
  match value with
  | .nan => none
  | .infinite negative => some (if negative then .lt else .gt)
  | .finite negative mantissa exponent =>
      some (compare (signed negative (mantissa * Nat.pow 2 exponent.toNat))
        (bound * Nat.pow 2 (-exponent).toNat))

/-- The least magnitude that no longer rounds to a finite number: half a unit
beyond the greatest one. -/
def overflowThreshold : Nat := Nat.pow 2 1024 - Nat.pow 2 970

/-- The double nearest to an integer, ties going to the even one, unless the
integer lies beyond the range of finite numbers. -/
def nearest? (whole : Int) : Option Float :=
  if overflowThreshold ≤ whole.natAbs then none else some (Float.ofInt whole)

/-- Integers below the threshold have a nearest double. -/
theorem nearest?_of_lt {whole : Int} (small : whole.natAbs < overflowThreshold) :
    nearest? whole = some (Float.ofInt whole) := by
  simp [nearest?, Nat.not_le.2 small]

end Binary64

end LatticeDiff
