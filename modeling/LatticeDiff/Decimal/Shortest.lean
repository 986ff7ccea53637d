import LatticeDiff.Binary64

/-!
# Shortest decimals

A finite double is written with the fewest digits that still read back as the
same double. The reals that round to a double form an interval around it; a
decimal with `n` digits lies in that interval exactly if one of the two
neighbours of the double on the grid of `n`-digit decimals does. So the grids are
tried from the coarsest on, in exact arithmetic.
-/

namespace LatticeDiff

/-- The positive decimal `digits * 10 ^ exponent`. -/
structure Decimal where
  digits : Nat
  exponent : Int
  deriving DecidableEq, Repr

namespace Decimal

/-- The number of digits of a natural number in positional notation. -/
def length (number : Nat) : Nat :=
  (Nat.toDigits 10 number).length

/-- A positive double between the two ends of its rounding interval, as three
numerators over one denominator. -/
structure Interval where
  low : Nat
  value : Nat
  high : Nat
  denominator : Nat
  /-- Whether the ends themselves round to the double. -/
  closed : Bool

/-- The rounding interval of `mantissa * 2 ^ exponent`. It reaches half a unit to
each side, but only a quarter below a power of two, where the spacing changes.
The ends belong to it if the mantissa is even. -/
def Interval.ofBinary (mantissa : Nat) (exponent : Int) : Interval :=
  let below := if mantissa = Nat.pow 2 52 && exponent ≠ -1074 then 1 else 2
  let scale := Nat.pow 2 (exponent - 2).toNat
  { low := (4 * mantissa - below) * scale
    value := 4 * mantissa * scale
    high := (4 * mantissa + 2) * scale
    denominator := Nat.pow 2 (2 - exponent).toNat
    closed := mantissa % 2 = 0 }

/-- The exponent of the leading digit of the value, plus one: the value lies in
`[10 ^ (magnitude - 1), 10 ^ magnitude)`. -/
def Interval.magnitude (interval : Interval) : Int :=
  if interval.denominator ≤ interval.value then
    length (interval.value / interval.denominator)
  else
    let inverse := (interval.denominator + interval.value - 1) / interval.value
    1 - (length (inverse - 1) : Int)

/-- The multiple of `10 ^ exponent` inside the interval that is nearest to the
value, the even one of two equally near ones. -/
def Interval.onGrid? (interval : Interval) (exponent : Int) : Option Nat :=
  let finer := Nat.pow 10 (-exponent).toNat
  let unit := interval.denominator * Nat.pow 10 exponent.toNat
  let low := interval.low * finer
  let value := interval.value * finer
  let high := interval.high * finer
  let inside (multiple : Nat) : Bool :=
    if interval.closed then low ≤ multiple * unit && multiple * unit ≤ high
    else low < multiple * unit && multiple * unit < high
  let lower := value / unit
  let upper := lower + 1
  if inside lower then
    if inside upper then
      match compare (value - lower * unit) (upper * unit - value) with
      | .lt => some lower
      | .gt => some upper
      | .eq => some (if lower % 2 = 0 then lower else upper)
    else some lower
  else if inside upper then some upper
  else none

/-- Seventeen digits tell all doubles apart. -/
def digitLimit : Nat := 17

/-- The first grid that has a point in the interval, from `10 ^ exponent` to
finer ones. -/
def Interval.coarsest? (interval : Interval) (exponent : Int) :
    Nat → Option Decimal
  | 0 => none
  | grids + 1 =>
      match interval.onGrid? exponent with
      | some digits => some ⟨digits, exponent⟩
      | none => interval.coarsest? (exponent - 1) grids

/-- The shortest decimal that rounds to `mantissa * 2 ^ exponent`, for a positive
mantissa. -/
def shortest (mantissa : Nat) (exponent : Int) : Decimal :=
  let interval := Interval.ofBinary mantissa exponent
  (interval.coarsest? (interval.magnitude - 1) digitLimit).getD ⟨mantissa, 0⟩

end Decimal

end LatticeDiff
