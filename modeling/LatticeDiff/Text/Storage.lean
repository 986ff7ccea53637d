/-!
# Stored text

A text is kept with the same number of bytes for each of its characters, as many as
its highest character needs.
-/

namespace LatticeDiff

namespace Text

/-- The number of bytes for a code point: one, two or four. -/
def codePointBytes (code : Nat) : Nat :=
  if code < 0x100 then 1 else if code < 0x10000 then 2 else 4

/-- The number of bytes for each character of a text. -/
def characterBytes (text : String) : Nat :=
  text.toList.foldl (fun bytes character => max bytes (codePointBytes character.toNat)) 1

end Text

end LatticeDiff
