import LatticeDiff.Word

/-!
# Machines

What a computation runs into that none of its arguments says: memory ends somewhere, an
array that has just been allocated holds whatever was there before, and a machine may
refuse to convert long integers from and to decimal digits. Machines differ in all of
this, so a result that holds for every machine depends on none of it.
-/

namespace LatticeDiff

/-- What a computation runs on. -/
structure Machine where
  /-- The number of bytes that whatever is allocated at once has to stay below. -/
  memory : Nat
  /-- The number of bytes that an integer takes up when it is kept by itself. -/
  integerBytes : Nat
  /-- The number of decimal digits up to which integers are written and read, on a
  machine that limits it. -/
  digitLimit : Option Nat
  /-- What a new array holds at each index before anything is stored there. -/
  leftover : List Nat → Float

namespace Machine

/-- Whether so many bytes can be allocated. -/
def fits (machine : Machine) (bytes : Nat) : Bool :=
  bytes < machine.memory

/-- The number of bytes of a list of so many integers. Each takes up a place in the list
and is kept by itself. -/
def listBytes (machine : Machine) (count : Nat) : Nat :=
  count * (Word.byteLength + machine.integerBytes)

/-- Whether an integer can be written in decimal digits. -/
def writes (machine : Machine) (value : Int) : Bool :=
  match machine.digitLimit with
  | none => true
  | some limit => value.natAbs < Nat.pow 10 limit

/-- Whether a numeral of so many decimal digits can be read. Zeros in front count. -/
def reads (machine : Machine) (digits : Nat) : Bool :=
  match machine.digitLimit with
  | none => true
  | some limit => digits ≤ limit

/-- Less than what fits does fit. -/
theorem fits_of_le {machine : Machine} {bytes more : Nat} (le : bytes ≤ more)
    (fits : machine.fits more = true) : machine.fits bytes = true :=
  decide_eq_true (Nat.lt_of_le_of_lt le (of_decide_eq_true fits))

theorem listBytes_le {machine : Machine} {count more : Nat} (le : count ≤ more) :
    machine.listBytes count ≤ machine.listBytes more :=
  Nat.mul_le_mul_right _ le

theorem writes_of_unlimited {machine : Machine} (unlimited : machine.digitLimit = none)
    (value : Int) : machine.writes value = true := by
  rw [writes, unlimited]

/-- A machine with a megabyte of memory, which does not limit the digits of integers. -/
def small : Machine where
  memory := 1000000
  integerBytes := 32
  digitLimit := none
  leftover := fun _ => 0.0

end Machine

end LatticeDiff
