import LatticeDiff.Fault
import LatticeDiff.Text.Numeral

/-!
# Arguments as numbers

The ways in which an argument becomes an integer or a double. They differ in what
they accept: a distance has to be an integer, a corner of a region is rounded
toward zero, an axis is compared with the number of axes before anything else.
-/

namespace LatticeDiff

namespace Arg

/-- Whether an argument is a zero of any numeric type. -/
def isZero (argument : Arg) : Bool :=
  argument.equalInt? = some 0

/-- An argument that has to be an integer already: integral floats are accepted,
booleans are not. The name says what the argument is for. -/
def integral (name : String) : Arg → Except Fault Int
  | .int value => .ok value
  | .real value =>
      match (Binary64.ofFloat value).integer? with
      | some whole => .ok whole
      | none => .error (.notIntegral name (.real value))
  | other => .error (.notIntegral name other)

@[simp] theorem integral_int (name : String) (value : Int) :
    integral name (.int value) = .ok value := rfl

/-- A float as an integer, rounded toward zero. -/
def truncateReal (value : Float) : Except Fault Int :=
  match Binary64.ofFloat value with
  | .nan => .error .notANumber
  | .infinite _ => .error .tooLarge
  | .finite negative mantissa exponent =>
      .ok (Binary64.wholePart negative mantissa exponent)

/-- A number as an integer, rounded toward zero. -/
def wholeNumber : Arg → Except Fault Int
  | .bool value => .ok (ofBit value)
  | .int value => .ok value
  | .real value => truncateReal value
  | _ => .error .wrongType

/-- An argument converted to an integer: numbers are rounded toward zero and text is
read as a numeral. -/
def truncated (machine : Machine) : Arg → Except Fault Int
  | .text value =>
      match readInteger? machine value with
      | some whole => .ok whole
      | none => .error .notANumber
  | .kind _ => .error .notANumber
  | other => other.wholeNumber

@[simp] theorem truncated_int (machine : Machine) (value : Int) :
    truncated machine (.int value) = .ok value := rfl

/-- An integer as a double. -/
def realOfInt (value : Int) : Except Fault Float :=
  match Binary64.nearest? value with
  | some nearest => .ok nearest
  | none => .error .tooLarge

/-- An argument converted to a double: integers are rounded and text is read as a
numeral. -/
def asReal : Arg → Except Fault Float
  | .bool value => realOfInt (ofBit value)
  | .int value => realOfInt value
  | .real value => .ok value
  | .text value =>
      match readDouble? value with
      | some number => .ok number
      | none => .error .notANumber
  | .kind _ => .error .notANumber
  | .nothing | .list _ => .error .wrongType

/-- Where an argument stands relative to an integer; NaN stands nowhere. -/
def compare? (argument : Arg) (bound : Int) : Except Fault (Option Ordering) :=
  match argument with
  | .bool value => .ok (some (compare (ofBit value) bound))
  | .int value => .ok (some (compare value bound))
  | .real value => .ok ((Binary64.ofFloat value).compare? bound)
  | _ => .error .wrongType

/-- Whether an argument is at least `low`. -/
def geInt (argument : Arg) (low : Int) : Except Fault Bool := do
  let ordering ← argument.compare? low
  return ordering = some .gt || ordering = some .eq

/-- Whether an argument is at most `high`. -/
def leInt (argument : Arg) (high : Int) : Except Fault Bool := do
  let ordering ← argument.compare? high
  return ordering = some .lt || ordering = some .eq

/-- Whether an argument is less than `high`. -/
def ltInt (argument : Arg) (high : Int) : Except Fault Bool := do
  let ordering ← argument.compare? high
  return ordering = some .lt

/-- An argument as one of `ndim` axes. The range is checked on the argument as it
is; what lies inside is rounded toward zero. -/
def axis (ndim : Int) (argument : Arg) : Except Fault Nat := do
  let inRange ← if ← argument.geInt 0 then argument.ltInt ndim else pure false
  if inRange then
    return (← argument.wholeNumber).toNat
  else throw (.axisOutOfBounds argument ndim)

/-- An argument as an index into a row of `length` entries: negative indices count
from the end. -/
def index (length : Nat) (argument : Arg) : Except Fault Nat :=
  let resolve (offset : Int) : Except Fault Nat :=
    let fromStart := if offset < 0 then offset + length else offset
    if 0 ≤ fromStart ∧ fromStart < length then .ok fromStart.toNat
    else .error .indexOutOfRange
  match argument with
  | .bool value => resolve (ofBit value)
  | .int value => resolve value
  | _ => .error .wrongType

/-- The items of an argument that stands for a sequence. The items of a text are
its characters. -/
def items : Arg → Except Fault (List Arg)
  | .list items => .ok items
  | .text value => .ok (value.toList.map fun character => .text (String.singleton character))
  | .kind value =>
      .ok (value.name.toList.map fun character => .text (String.singleton character))
  | _ => .error .wrongType

@[simp] theorem items_list (entries : List Arg) : items (.list entries) = .ok entries :=
  rfl

/-- A sequence of integers, each converted as by `truncated`; the first failure
decides. -/
def truncatedItems (machine : Machine) (argument : Arg) : Except Fault (List Int) := do
  (← argument.items).mapM (truncated machine)

/-- A position given by integers. -/
def ofPosition (position : List Int) : Arg :=
  .list (position.map .int)

end Arg

end LatticeDiff
