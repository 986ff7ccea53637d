/-!
# Difference kinds

A difference formula samples on both sides of its point, only above it, or only
below it. This module names the three kinds and recognises a kind by any of its
spellings: letter case, spacing and punctuation never matter.
-/

namespace LatticeDiff

/-- Where a difference formula samples, relative to the point it is evaluated
at. -/
inductive Kind where
  | central
  | forward
  | backward
  deriving DecidableEq, Repr

namespace Kind

/-- Every kind, in the order in which kinds are listed. -/
def all : List Kind := [.central, .forward, .backward]

theorem mem_all (kind : Kind) : kind ∈ all := by
  cases kind <;> decide

/-- The canonical name. -/
def name : Kind → String
  | .central => "central"
  | .forward => "forward"
  | .backward => "backward"

/-- The kind with exactly the given name. -/
def named? (name : String) : Option Kind :=
  all.find? fun kind => kind.name = name

@[simp] theorem named?_name (kind : Kind) : named? kind.name = some kind := by
  cases kind <;> rfl

/-- The kind that samples on the other side. -/
def reflect : Kind → Kind
  | .central => .central
  | .forward => .backward
  | .backward => .forward

@[simp] theorem reflect_reflect (kind : Kind) : kind.reflect.reflect = kind := by
  cases kind <;> rfl

/-- The other accepted spellings. -/
def aliases : Kind → List String
  | .central => ["centered", "central-difference", "cd"]
  | .forward => ["forward-difference", "fd"]
  | .backward => ["backward-difference", "bd"]

/-- What one character contributes to the normal form of a name: its lower case
if that is an ASCII letter or digit, and nothing otherwise. Outside ASCII only
the Kelvin sign and the dotted capital I have an ASCII letter as lower case. -/
def fold? (character : Char) : Option Char :=
  if character.isUpper then some character.toLower
  else if character.isLower || character.isDigit then some character
  else if character = '\u212a' then some 'k'
  else if character = '\u0130' then some 'i'
  else none

/-- The normal form of a name, in which spellings are compared. -/
def normalize (name : String) : String :=
  String.ofList (name.toList.filterMap fold?)

@[simp] theorem toList_normalize (name : String) :
    (normalize name).toList = name.toList.filterMap fold? := by
  simp [normalize]

/-- The normal forms by which a kind is known. -/
def spellings (kind : Kind) : List String :=
  (kind.name :: kind.aliases).map normalize

/-- The kind that goes by a name, up to letter case and punctuation. -/
def ofName? (name : String) : Option Kind :=
  all.find? fun kind => normalize name ∈ kind.spellings

end Kind

end LatticeDiff
