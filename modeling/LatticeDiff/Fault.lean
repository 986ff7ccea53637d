import LatticeDiff.Arg.Text
import LatticeDiff.Machine

/-!
# Faults

Everything that can go wrong, by its cause. The faults that break a rule of this
library carry a message for the caller; the others say of a single value that it
cannot be used where it stands, and carry none. What the caller gets to see also depends
on the machine: a message is written before the fault is raised, and if an integer in it
cannot be written, this is raised instead.
-/

namespace LatticeDiff

/-- A request for a formula that is not tabulated. -/
structure UnsupportedOrder where
  kind : Arg
  order : Arg
  supported : List Arg
  derivative : Arg

/-- The cause of a failure. -/
inductive Fault where
  /-- A difference kind is given as something other than text. -/
  | kindNotText (given : Arg)
  | unknownKind (name : String)
  /-- A name differs from the canonical name of every kind. -/
  | kindNotNamed
  | unsupportedOrder (request : UnsupportedOrder)
  /-- A formula lists more offsets than weights, or fewer. -/
  | weightsUnpaired
  | divisorZero
  | sampleCount (expected given : Nat)
  /-- A moment of a formula keeps it from approximating its derivative. -/
  | momentMismatch (derivative degree : Int) (moment : Rat)
  | orderUndetected
  /-- The two corners of a region have different numbers of coordinates. -/
  | cornersDiffer (low high : Nat)
  | regionWithoutAxes
  | regionEmpty (low high : List Int)
  | marginCount (expected given : Nat)
  | fieldWithoutAxes
  /-- A cursor's region does not match the dimensions of its field. -/
  | cursorDimensions (region field : Nat)
  | regionMissing
  /-- A region of interest does not match the dimensions of its source. -/
  | sourceDimensions (region source : Nat)
  | outsideRegion (position low high : List Int)
  | outsideArray (position : List Int) (shape : List Nat)
  | notIntegral (name : String) (given : Arg)
  | coordinateCount (expected : Int) (shape : List Nat)
  | axisOutOfBounds (axis : Arg) (ndim : Int)
  | notFirstDerivative (derivative : Int)
  /-- The operation needs a derivative scheme, and the evaluator has none. -/
  | notImplemented
  /-- An argument is of a type that the operation does not take. -/
  | wrongType
  /-- A text, or NaN, does not stand for a number of the required type. -/
  | notANumber
  /-- A number is too large for the type it is converted to. -/
  | tooLarge
  /-- What is asked for does not fit into memory. -/
  | outOfMemory
  /-- A value is of a type that cannot be added up, but has been repeated before, to so
  many bytes. -/
  | repeated (bytes : Nat)
  /-- An integer has more digits than the machine writes. -/
  | unwritable
  /-- Lists of different shapes stand side by side. -/
  | ragged
  /-- An array cannot have the requested shape. -/
  | badShape
  /-- An array does not stretch to the requested shape. -/
  | notBroadcastable
  /-- A formula without samples has no extent. -/
  | noOffsets
  | indexOutOfRange
  /-- A limit is negative or cannot be counted to. -/
  | badLimit
  | divisionByZero
  /-- The work was broken off from outside. -/
  | interrupted

/-- The ordinal that an unsupported request names: only the first derivative is
told apart. -/
def Arg.ordinal (derivative : Arg) : String :=
  if derivative.equalInt? = some 1 then "first" else "second"

/-- The message of a request for a formula that is not tabulated. -/
def UnsupportedOrder.message (request : UnsupportedOrder) : String :=
  "[Stencil] Unsupported accuracy order for " ++ request.kind.plain ++ " "
    ++ request.derivative.ordinal ++ "-derivative differences: "
    ++ request.order.written ++ ". Must be one of "
    ++ (Arg.list request.supported).written ++ "."

/-- A region as text, by its corners. -/
def cornersText (low high : List Int) : String :=
  "[" ++ tupleText low ++ ", " ++ tupleText high ++ "]"

/-- A rational in lowest terms; an integer has no denominator. -/
def fractionText (value : Rat) : String :=
  if value.den = 1 then toString value.num
  else toString value.num ++ "/" ++ toString value.den

namespace Fault

/-- What a fault tells the caller, if it breaks a rule of this library. -/
def message? : Fault → Option String
  | .kindNotText given =>
      some ("Difference kind must be a string; got " ++ given.typeName ++ ".")
  | .unknownKind name =>
      some ("Unknown difference kind " ++ quoted name ++ ". Choose one of "
        ++ bracketed (Kind.all.map (quoted ·.name)) ++ ".")
  | .unsupportedOrder request => some request.message
  | .weightsUnpaired => some "offsets and weights must have the same length."
  | .divisorZero => some "divisor must be non-zero."
  | .sampleCount expected given =>
      some s!"Expected {expected} samples for this stencil, got {given}."
  | .momentMismatch derivative degree moment =>
      some (s!"Stencil does not approximate derivative {derivative}: moment {degree} is "
        ++ fractionText moment ++ ".")
  | .orderUndetected => some "Could not detect truncation order."
  | .cornersDiffer low high =>
      some s!"min and max must have the same length; got {low} and {high}."
  | .regionWithoutAxes => some "A region needs at least one dimension."
  | .regionEmpty low high =>
      some ("Empty region: min=" ++ tupleText low ++ " is not <= max="
        ++ tupleText high ++ ".")
  | .marginCount expected given =>
      some s!"Expected {expected} margins, got {given}."
  | .fieldWithoutAxes =>
      some "ArrayField needs an array with at least one dimension."
  | .cursorDimensions region field =>
      some s!"Region has {region} dimensions but the field has {field}."
  | .regionMissing =>
      some "A region is required for sources that do not expose their bounds."
  | .sourceDimensions region source =>
      some s!"Region has {region} dimensions but the source has {source}."
  | .outsideRegion position low high =>
      some ("Read at " ++ tupleText position ++ " is outside the region "
        ++ cornersText low high ++ ".")
  | .outsideArray position shape =>
      some ("Read at " ++ tupleText position ++ " is outside the array of shape "
        ++ tupleText shape ++ ".")
  | .notIntegral name given =>
      some ("Expected an integer " ++ name ++ "; got " ++ given.written ++ ".")
  | .coordinateCount expected shape =>
      some (s!"Expected a position with {expected} coordinates; got shape "
        ++ tupleText shape ++ ".")
  | .axisOutOfBounds axis ndim =>
      some ("axis " ++ axis.plain ++ s!" out of bounds for ndim={ndim}.")
  | .notFirstDerivative derivative =>
      some ("[GradientEvaluator] Needs a first-derivative stencil; got derivative="
        ++ toString derivative ++ ".")
  | .notImplemented => some ""
  | _ => none

/-- The integers that are written out in the message of a fault. -/
def printed : Fault → List Int
  | .unsupportedOrder request =>
      request.kind.integers ++ request.order.integers
        ++ (Arg.list request.supported).integers
  | .sampleCount expected given | .cornersDiffer expected given
  | .marginCount expected given | .cursorDimensions expected given
  | .sourceDimensions expected given => [expected, given]
  | .momentMismatch derivative degree moment =>
      [derivative, degree, moment.num] ++ if moment.den = 1 then [] else [(moment.den : Int)]
  | .regionEmpty low high => low ++ high
  | .outsideRegion position low high => position ++ (low ++ high)
  | .outsideArray position shape => position ++ shape.map Int.ofNat
  | .notIntegral _ given => given.integers
  | .coordinateCount expected shape => expected :: shape.map Int.ofNat
  | .axisOutOfBounds axis ndim => axis.integers ++ [ndim]
  | .notFirstDerivative derivative => [derivative]
  | _ => []

/-- What is raised on a machine for the cause of a failure. -/
def raisedOn (machine : Machine) : Fault → Fault
  | .repeated bytes => if machine.fits bytes then .wrongType else .outOfMemory
  | fault =>
      if ∀ value ∈ fault.printed, machine.writes value = true then fault else .unwritable

/-- A fault without a message prints nothing. -/
theorem printed_of_message?_eq_none {fault : Fault} (silent : fault.message? = none) :
    fault.printed = [] := by
  cases fault <;> first | rfl | cases silent

theorem raisedOn_of_ne_repeated {fault : Fault} (machine : Machine)
    (other : ∀ bytes, fault ≠ .repeated bytes) :
    fault.raisedOn machine =
      if ∀ value ∈ fault.printed, machine.writes value = true then fault else .unwritable := by
  cases fault <;> first | rfl | exact absurd rfl (other _)

/-- Where digits are not limited, every fault with a message is raised with it. -/
theorem raisedOn_of_unlimited {fault : Fault} {machine : Machine}
    (unlimited : machine.digitLimit = none) (other : ∀ bytes, fault ≠ .repeated bytes) :
    fault.raisedOn machine = fault := by
  rw [raisedOn_of_ne_repeated machine other, if_pos]
  intro value _
  exact Machine.writes_of_unlimited unlimited value

end Fault

/-- What the caller of a computation gets on a machine. -/
def Machine.answer {α : Type} (machine : Machine) (outcome : Except Fault α) :
    Except Fault α :=
  outcome.mapError (Fault.raisedOn machine)

end LatticeDiff
