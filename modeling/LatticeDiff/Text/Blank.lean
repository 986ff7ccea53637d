/-!
# Blank characters

The white space that may surround a number in text: the Unicode property of that
name, without the four information separators.
-/

namespace LatticeDiff

/-- Whether a character is white space around a number. -/
def isBlank (character : Char) : Bool :=
  let code := character.toNat
  (0x9 ≤ code && code ≤ 0xd) || code = 0x20 || code = 0x85 || code = 0xa0
    || code = 0x1680 || (0x2000 ≤ code && code ≤ 0x200a)
    || code = 0x2028 || code = 0x2029 || code = 0x202f || code = 0x205f
    || code = 0x3000

end LatticeDiff
