import LatticeDiff.Stencil.Basic

/-!
# Accuracy of formulas

Applied to the monomial of degree `r`, a formula gives its moment of degree `r`. A
formula for the derivative `m` has the moment `m!` in degree `m` and none in the
other degrees up to its accuracy. Moments are exact rationals, so the accuracy
order is found without any tolerance.
-/

namespace LatticeDiff

namespace Stencil

/-- The product of the numbers up to `number`. -/
def factorial : Nat → Nat
  | 0 => 1
  | number + 1 => (number + 1) * factorial number

/-- The weighted sum of the powers of the offsets. -/
def moment (stencil : Stencil) (degree : Nat) : Rat :=
  stencil.terms.foldr (fun term total =>
    stencil.coefficient term * Int.pow term.offset degree + total) 0

/-- The moment of an exact formula, up to the degree of its derivative. -/
def expectedMoment (stencil : Stencil) (degree : Nat) : Rat :=
  if (degree : Int) = stencil.derivative then factorial degree else 0

/-- The least degree up to the derivative in which the formula is not exact. -/
def mismatch? (stencil : Stencil) : Option Nat :=
  (List.range (stencil.derivative + 1).toNat).find? fun degree =>
    stencil.moment degree ≠ stencil.expectedMoment degree

/-- The moment of any integer degree. Negative powers of an offset of zero are
undefined. -/
def momentOf (stencil : Stencil) (degree : Int) : Except Fault Rat :=
  if 0 ≤ degree then .ok (stencil.moment degree.toNat)
  else if 0 ∈ stencil.offsets then .error .divisionByZero
  else
    .ok (stencil.terms.foldr (fun term total =>
      stencil.coefficient term / Int.pow term.offset (-degree).toNat + total) 0)

/-- The first of `count` degrees, from `degree` on, whose moment does not
vanish. -/
def leadingDegree (stencil : Stencil) (degree : Int) : Nat → Except Fault Int
  | 0 => .error .orderUndetected
  | count + 1 => do
      if (← stencil.momentOf degree) ≠ 0 then return degree
      else stencil.leadingDegree (degree + 1) count

/-- The degree up to which moments are inspected where none is asked for. -/
def defaultMaxDegree : Int := 40

/-- The accuracy order of a formula: how far beyond its derivative the first
moment lies that does not vanish. -/
def accuracyOrder (stencil : Stencil) (maxDegree : Int) : Except Fault Int :=
  match stencil.mismatch? with
  | some degree =>
      .error (.momentMismatch stencil.derivative degree (stencil.moment degree))
  | none => do
      let leading ← stencil.leadingDegree (stencil.derivative + 1)
        (maxDegree - stencil.derivative).toNat
      return leading - stencil.derivative

end Stencil

end LatticeDiff
