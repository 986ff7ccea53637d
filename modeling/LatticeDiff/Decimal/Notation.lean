import LatticeDiff.Decimal.Shortest

/-!
# Written floating-point numbers

Numbers with a leading digit between `10 ^ -4` and `10 ^ 15` are written
positionally and always show a fractional part; all others are written with an
exponent of at least two digits.
-/

namespace LatticeDiff

namespace Decimal

/-- The least exponent of the leading digit that is written positionally. -/
def positionalFrom : Int := -4

/-- The least exponent of the leading digit that is too large for positional
notation. -/
def positionalTo : Int := 16

/-- A digit string with the decimal point after `point` digits. -/
def positional (digits : List Char) (point : Int) : List Char :=
  if point ≤ 0 then
    '0' :: '.' :: (List.replicate (-point).toNat '0' ++ digits)
  else if digits.length ≤ point.toNat then
    digits ++ List.replicate (point.toNat - digits.length) '0' ++ ['.', '0']
  else digits.take point.toNat ++ '.' :: digits.drop point.toNat

/-- The exponent of scientific notation, signed and with at least two digits. -/
def exponentPart (exponent : Int) : List Char :=
  let digits := Nat.toDigits 10 exponent.natAbs
  'e' :: (if exponent < 0 then '-' else '+')
    :: (List.replicate (2 - digits.length) '0' ++ digits)

/-- A digit string in scientific notation, `exponent` being that of its first
digit. -/
def scientific (digits : List Char) (exponent : Int) : List Char :=
  match digits with
  | [] => []
  | [digit] => digit :: exponentPart exponent
  | digit :: rest => digit :: '.' :: (rest ++ exponentPart exponent)

/-- The significant digits of a decimal, without zeros at the end. -/
def significant (decimal : Decimal) : List Char :=
  ((Nat.toDigits 10 decimal.digits).reverse.dropWhile (· = '0')).reverse

/-- A positive decimal in the notation that its size calls for. -/
def written (decimal : Decimal) : List Char :=
  let point := decimal.exponent + length decimal.digits
  if positionalFrom ≤ point - 1 ∧ point - 1 < positionalTo then
    positional decimal.significant point
  else scientific decimal.significant (point - 1)

end Decimal

/-- A double as text: the shortest decimal that reads back, or its name. -/
def Binary64.written : Binary64 → String
  | .nan => "nan"
  | .infinite negative => if negative then "-inf" else "inf"
  | .finite negative mantissa exponent =>
      let magnitude :=
        if mantissa = 0 then ['0', '.', '0']
        else (Decimal.shortest mantissa exponent).written
      String.ofList (if negative then '-' :: magnitude else magnitude)

end LatticeDiff
