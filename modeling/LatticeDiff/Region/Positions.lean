import LatticeDiff.Region.Basic

/-!
# The positions of a region

The positions of a region are counted in row-major order, the last axis running
fastest. Each is found from its number alone, so none is computed before it is
asked for.
-/

namespace LatticeDiff

namespace Region

/-- The position with the given number. -/
def positionAt (region : Region) (number : Nat) : Position :=
  region.spans.zipWith (fun span (offset : Nat) => span.low + offset)
    (region.shape.unrank number)

/-- How far a position lies above the low corner, axis by axis. -/
def indexOf (region : Region) (position : Position) : List Nat :=
  region.spans.zipWith (fun span coordinate => (coordinate - span.low).toNat) position

/-- All positions, in row-major order. -/
def positions (region : Region) : List Position :=
  (List.range region.size).map region.positionAt

@[simp] theorem length_positions (region : Region) :
    region.positions.length = region.size := by
  simp [positions]

/-- The greatest number of coordinates that can be counted along one axis. -/
def enumerationLimit : Nat := Word.signedLimit - 1

/-- What keeps the coordinates of axes of the given lengths from being listed, one axis
after the other, if `before` coordinates have been listed already. All lists are kept. -/
def listingFault? (machine : Machine) (before : Nat) : List Nat → Option Fault
  | [] => none
  | length :: lengths =>
      if enumerationLimit < length then some .tooLarge
      else if machine.fits (machine.listBytes (before + length)) then
        listingFault? machine (before + length) lengths
      else some .outOfMemory

/-- At most `limit` of the first positions. The coordinates of each axis are listed
before, and the limit is counted by a signed word. -/
def firstPositions (machine : Machine) (region : Region) (limit : Int) :
    Except Fault (List Position) :=
  match listingFault? machine 0 region.shape with
  | some fault => .error fault
  | none =>
      if 0 ≤ limit && Word.fitsSigned limit then
        .ok ((List.range (min limit.toNat region.size)).map region.positionAt)
      else .error .badLimit

end Region

end LatticeDiff
