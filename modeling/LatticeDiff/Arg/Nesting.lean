import LatticeDiff.Arg.Basic
import LatticeDiff.Shape

/-!
# Nested lists as arrays

A list nests regularly if its items all have the same shape. It then is an array,
whose entries are the scalars at the bottom, in order.
-/

namespace LatticeDiff

namespace Arg

mutual

/-- The shape of an argument as an array. Everything but a list is a scalar. -/
def shape? : Arg → Option Shape
  | .list items => (commonShape? items).map (items.length :: ·)
  | _ => some []

/-- The shape that all items share. No items share the shape of a scalar. -/
def commonShape? : List Arg → Option Shape
  | [] => some []
  | item :: rest =>
      match shape? item, commonShape? rest with
      | some first, some others =>
          if rest.isEmpty || first = others then some first else none
      | _, _ => none

end

mutual

/-- The scalars of a nested list, in order. -/
def scalars : Arg → List Arg
  | .list items => scalarsOf items
  | scalar => [scalar]

/-- The scalars of several nested lists, one list after the other. -/
def scalarsOf : List Arg → List Arg
  | [] => []
  | item :: rest => scalars item ++ scalarsOf rest

end

/-- The shape of an argument that is to be used as an array. -/
def arrayShape? (argument : Arg) : Option Shape :=
  argument.shape?.filter (·.length ≤ Shape.axisLimit)

end Arg

end LatticeDiff
