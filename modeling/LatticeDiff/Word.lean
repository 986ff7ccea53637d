/-!
# Machine words

Integers are unbounded here, but arrays keep them in words of 64 bits, and count
entries and bytes with such words. This module holds the limits.
-/

namespace LatticeDiff

namespace Word

/-- The least natural number that is no signed word. -/
def signedLimit : Nat := Nat.pow 2 63

/-- The least natural number that is no unsigned word. -/
def unsignedLimit : Nat := Nat.pow 2 64

/-- Whether an integer is a signed word. -/
def fitsSigned (value : Int) : Bool :=
  -(signedLimit : Int) ≤ value && value < signedLimit

/-- Whether an integer is a signed or an unsigned word. -/
def fits (value : Int) : Bool :=
  -(signedLimit : Int) ≤ value && value < unsignedLimit

/-- The number of bytes in a word. -/
def byteLength : Nat := 8

end Word

end LatticeDiff
