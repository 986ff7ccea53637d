import LatticeDiff.Binary64
import LatticeDiff.Kind

/-!
# Loosely typed arguments

Callers pass positions, axes, orders and field values without static types. An
argument is what they may pass; the modules beside this one say how an argument is
shown and how it becomes an integer, a number, a position or an array.
-/

namespace LatticeDiff

/-- A loosely typed argument. -/
inductive Arg where
  | nothing
  | bool (value : Bool)
  | int (value : Int)
  | real (value : Float)
  | text (value : String)
  | kind (value : Kind)
  | list (items : List Arg)
  deriving Inhabited

namespace Arg

/-- The name of an argument's type. A kind counts as text. -/
def typeName : Arg → String
  | .nothing => "NoneType"
  | .bool _ => "bool"
  | .int _ => "int"
  | .real _ => "float"
  | .text _ | .kind _ => "str"
  | .list _ => "list"

/-- Whether an argument is a boolean. -/
def isBool : Arg → Bool
  | .bool _ => true
  | _ => false

/-- The truth value as a number. -/
def ofBit (value : Bool) : Int :=
  if value then 1 else 0

/-- The number that an argument is equal to, if it is an integer. Booleans count
as zero and one. -/
def equalInt? : Arg → Option Int
  | .bool value => some (ofBit value)
  | .int value => some value
  | .real value => (Binary64.ofFloat value).integer?
  | _ => none

end Arg

end LatticeDiff
