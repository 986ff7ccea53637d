import LatticeDiff.Stencil.Table

/-!
# Looking formulas up

A formula is asked for by kind, order and derivative. The order has to be an
integer proper; the derivative only has to be equal to one.
-/

namespace LatticeDiff

/-- The kind that an argument names. -/
def Arg.asKind : Arg → Except Fault Kind
  | .kind known => .ok known
  | .text name =>
      match Kind.ofName? name with
      | some known => .ok known
      | none => .error (.unknownKind name)
  | other => .error (.kindNotText other)

@[simp] theorem Arg.asKind_kind (known : Kind) : Arg.asKind (.kind known) = .ok known :=
  rfl

namespace Stencil

/-- The orders that are tabulated for a kind and a derivative, in increasing
order. -/
def ordersOf (kind : Kind) (derivative : Arg) : List Int :=
  ((table kind).filter fun stencil => derivative.equalInt? = some stencil.derivative).map
    Stencil.order

/-- The orders that are tabulated for an argument that names a kind. -/
def supportedOrders (kind derivative : Arg) : Except Fault (List Int) := do
  return ordersOf (← kind.asKind) derivative

/-- A request that no tabulated formula answers. -/
def unsupported (kind : Kind) (order derivative : Arg) : Fault :=
  .unsupportedOrder
    { kind := .kind kind
      order
      supported := (ordersOf kind derivative).map .int
      derivative }

/-- The tabulated formula of a kind, order and derivative. -/
def find? (kind : Kind) (order : Int) (derivative : Arg) : Option Stencil :=
  (table kind).find? fun stencil =>
    stencil.order = order && derivative.equalInt? = some stencil.derivative

/-- The tabulated formula that the arguments ask for. -/
def lookup (kind order derivative : Arg) : Except Fault Stencil := do
  let known ← kind.asKind
  match order with
  | .int wanted =>
      match derivative with
      | .list _ => throw .wrongType
      | _ =>
          match find? known wanted derivative with
          | some stencil => return stencil
          | none => throw (unsupported known order derivative)
  | _ => throw (unsupported known order derivative)

/-- The margins that a tabulated formula needs below and above a region. -/
def padding (kind order derivative : Arg) : Except Fault (Nat × Nat) := do
  (← lookup kind order derivative).reach

end Stencil

/-- The order used where none is asked for. -/
def defaultOrder : Arg := .int 2

/-- The kind used where none is asked for. -/
def defaultKind : Arg := .kind .central

/-- The derivative used where none is asked for. -/
def defaultDerivative : Arg := .int 1

end LatticeDiff
