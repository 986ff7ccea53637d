import LatticeDiff.Text.Printable

/-!
# Quoted text

Text inside a message is put in quotes, with everything escaped that would not be
seen as it is.
-/

namespace LatticeDiff

namespace Quoted

/-- The last `width` lower-case hexadecimal digits of a number. -/
def hexadecimal (width number : Nat) : List Char :=
  let digits := Nat.toDigits 16 number
  List.replicate (width - digits.length) '0' ++ digits

/-- A character as it stands between quotes: the quote and the backslash behind a
backslash, line breaks and tabs by letter, other unprintable characters by code
point. -/
def escape (quote character : Char) : List Char :=
  if character = quote || character = '\\' then ['\\', character]
  else if character = '\t' then ['\\', 't']
  else if character = '\n' then ['\\', 'n']
  else if character = '\r' then ['\\', 'r']
  else if isPrintable character then [character]
  else
    let code := character.toNat
    if code < 0x100 then '\\' :: 'x' :: hexadecimal 2 code
    else if code < 0x10000 then '\\' :: 'u' :: hexadecimal 4 code
    else '\\' :: 'U' :: hexadecimal 8 code

/-- Single quotes, unless the text holds some and no double ones. -/
def quoteFor (characters : List Char) : Char :=
  if '\'' ∈ characters && '"' ∉ characters then '"' else '\''

end Quoted

/-- A text in quotes. -/
def quoted (text : String) : String :=
  let quote := Quoted.quoteFor text.toList
  String.ofList (quote :: text.toList.flatMap (Quoted.escape quote) ++ [quote])

end LatticeDiff
