import LatticeDiff.Machine
import LatticeDiff.Text.Blank
import LatticeDiff.Text.Digit

/-!
# Numbers in text

Reads integers and floating-point numbers from text. Both may be surrounded by
blanks, carry one sign, use the digits of any script, and group digits by single
underscores that stand between two digits.
-/

namespace LatticeDiff

namespace Numeral

/-- The characters between the blanks at both ends. -/
def trim (characters : List Char) : List Char :=
  ((characters.dropWhile isBlank).reverse.dropWhile isBlank).reverse

/-- A digit of any script as the ASCII digit of the same value. -/
def plainDigit (character : Char) : Char :=
  match digitValue? character with
  | some value => Char.ofNat (0x30 + value)
  | none => character

/-- Leave out the underscores, each of which has to stand between two digits;
`previous` is the character before. -/
def ungroup? (previous : Char) : List Char → Option (List Char)
  | [] => some []
  | character :: rest =>
      if character = '_' then
        if previous.isDigit && (rest.head?.any Char.isDigit) then
          ungroup? character rest
        else none
      else (ungroup? character rest).map (character :: ·)

/-- The characters that make up a numeral, if the blanks and underscores around
and between them are well placed. -/
def content? (text : String) : Option (List Char) :=
  ungroup? ' ' ((trim text.toList).map plainDigit)

/-- A numeral's sign and the rest of it. -/
def splitSign : List Char → Bool × List Char
  | '-' :: rest => (true, rest)
  | '+' :: rest => (false, rest)
  | rest => (false, rest)

/-- The number that a row of ASCII digits stands for. -/
def value (digits : List Char) : Nat :=
  digits.foldl (fun total digit => 10 * total + (digit.toNat - 0x30)) 0

/-- Split a row of digits from what follows it. -/
def splitDigits (characters : List Char) : List Char × List Char :=
  (characters.takeWhile Char.isDigit, characters.dropWhile Char.isDigit)

/-- The exponent at the end of a floating-point numeral: nothing at all, or a
letter `e` and a signed row of digits. -/
def exponent? : List Char → Option Int
  | [] => some 0
  | mark :: rest =>
      let (negative, digits) := splitSign rest
      if (mark = 'e' || mark = 'E') && !digits.isEmpty && digits.all Char.isDigit then
        some (if negative then -(value digits : Int) else value digits)
      else none

/-- The double nearest to `coefficient * 10 ^ exponent`. Beyond the range of
doubles the exponent no longer matters, so it is not raised to. -/
def nearestDouble (coefficient : Nat) (exponent : Int) : Float :=
  let magnitude := exponent + (Nat.toDigits 10 coefficient).length
  if coefficient = 0 || magnitude < -400 then 0.0
  else if 400 < magnitude then 1.0 / 0.0
  else Float.ofScientific coefficient (exponent < 0) exponent.natAbs

/-- An unsigned floating-point numeral: digits with or without a point and an
exponent, or the name of a value that is not finite. -/
def unsignedDouble? (characters : List Char) : Option Float :=
  let word := String.ofList (characters.map Char.toLower)
  if word = "inf" || word = "infinity" then some (1.0 / 0.0)
  else if word = "nan" then some (0.0 / 0.0)
  else
    let (whole, afterWhole) := splitDigits characters
    let (fraction, afterFraction) :=
      match afterWhole with
      | '.' :: rest => splitDigits rest
      | rest => ([], rest)
    if whole.isEmpty && fraction.isEmpty then none
    else
      (exponent? afterFraction).map fun exponent =>
        nearestDouble (value (whole ++ fraction)) (exponent - fraction.length)

end Numeral

/-- The integer that a text stands for, if the machine reads so many digits. -/
def readInteger? (machine : Machine) (text : String) : Option Int :=
  (Numeral.content? text).bind fun characters =>
    let (negative, digits) := Numeral.splitSign characters
    if digits.isEmpty || !digits.all Char.isDigit || !machine.reads digits.length then none
    else
      let magnitude : Int := Numeral.value digits
      some (if negative then -magnitude else magnitude)

/-- The double that a text stands for. -/
def readDouble? (text : String) : Option Float :=
  (Numeral.content? text).bind fun characters =>
    let (negative, unsigned) := Numeral.splitSign characters
    (Numeral.unsignedDouble? unsigned).map fun magnitude =>
      if negative then -magnitude else magnitude

end LatticeDiff
