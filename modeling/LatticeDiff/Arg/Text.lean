import LatticeDiff.Arg.Basic
import LatticeDiff.Decimal.Notation
import LatticeDiff.Text.Quoted

/-!
# Arguments as text

How arguments, positions and shapes appear in messages. Text inside a message is
quoted, a text that stands for itself is not.
-/

namespace LatticeDiff

/-- Items in brackets. -/
def bracketed (items : List String) : String :=
  "[" ++ String.intercalate ", " items ++ "]"

/-- Items in parentheses; a single one is followed by a comma. -/
def parenthesized : List String → String
  | [item] => "(" ++ item ++ ",)"
  | items => "(" ++ String.intercalate ", " items ++ ")"

/-- A position or a shape as text. -/
def tupleText {α : Type} [ToString α] (coordinates : List α) : String :=
  parenthesized (coordinates.map toString)

/-- A kind as it is shown among other values. -/
def Kind.tag : Kind → String
  | .central => "<DifferenceKind.CENTRAL: 'central'>"
  | .forward => "<DifferenceKind.FORWARD: 'forward'>"
  | .backward => "<DifferenceKind.BACKWARD: 'backward'>"

namespace Arg

mutual

/-- An argument as it is shown inside a message. -/
def written : Arg → String
  | .nothing => "None"
  | .bool value => if value then "True" else "False"
  | .int value => toString value
  | .real value => (Binary64.ofFloat value).written
  | .text value => quoted value
  | .kind value => value.tag
  | .list items => bracketed (writtenItems items)

/-- The items of a list, each as it is shown inside a message. -/
def writtenItems : List Arg → List String
  | [] => []
  | item :: rest => written item :: writtenItems rest

end

@[simp] theorem writtenItems_eq_map (items : List Arg) :
    writtenItems items = items.map written := by
  induction items with
  | nil => rfl
  | cons item rest ih => simp [writtenItems, ih]

mutual

/-- The integers that are written out where an argument is shown. -/
def integers : Arg → List Int
  | .int value => [value]
  | .list items => integersOf items
  | _ => []

/-- The integers that are written out where the items of a list are shown. -/
def integersOf : List Arg → List Int
  | [] => []
  | item :: rest => integers item ++ integersOf rest

end

/-- An argument as text of its own: text stands for itself, and so does the name
of a kind. -/
def plain : Arg → String
  | .text value => value
  | .kind value => value.name
  | other => other.written

end Arg

end LatticeDiff
