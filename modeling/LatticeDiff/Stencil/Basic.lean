import LatticeDiff.Arg.Number
import LatticeDiff.Text.Storage
import LatticeDiff.Word

/-!
# Stencils

A stencil approximates a derivative along one axis of a lattice with unit spacing
by a weighted sum of samples, divided by a common divisor. Weights are integers,
so a formula is exact data; only applying it to samples rounds.
-/

namespace LatticeDiff

/-- One sample of a formula: where it is taken, relative to the point of
evaluation, and what it counts. -/
structure Term where
  offset : Int
  weight : Int
  deriving DecidableEq, Repr

/-- A one-dimensional difference formula. -/
structure Stencil where
  kind : Kind
  /-- The accuracy order that the formula is listed under. -/
  order : Int
  /-- Which derivative the formula approximates. -/
  derivative : Int
  terms : List Term
  divisor : Int
  divisor_ne_zero : divisor ≠ 0
  deriving DecidableEq, Repr

namespace Stencil

/-- Build a formula from offsets and weights that belong together. -/
def ofParts (kind : Kind) (order derivative : Int) (offsets weights : List Int)
    (divisor : Int) : Except Fault Stencil :=
  if offsets.length ≠ weights.length then .error .weightsUnpaired
  else if nonzero : divisor ≠ 0 then
    .ok ⟨kind, order, derivative, offsets.zipWith Term.mk weights, divisor, nonzero⟩
  else .error .divisorZero

/-- Build a formula whose kind is given by its canonical name. The name is looked
up before the parts are. -/
def ofNamedParts (name : String) (order derivative : Int) (offsets weights : List Int)
    (divisor : Int) : Except Fault Stencil :=
  match Kind.named? name with
  | some kind => ofParts kind order derivative offsets weights divisor
  | none => .error .kindNotNamed

/-- Where the formula samples, in the order of its terms. -/
def offsets (stencil : Stencil) : List Int :=
  stencil.terms.map Term.offset

/-- The weights, in the order of the terms. -/
def weights (stencil : Stencil) : List Int :=
  stencil.terms.map Term.weight

/-- How far the formula samples below its point. -/
def lowReach (stencil : Stencil) : Nat :=
  stencil.offsets.foldl (fun reach offset => max reach (-offset).toNat) 0

/-- How far the formula samples above its point. -/
def highReach (stencil : Stencil) : Nat :=
  stencil.offsets.foldl (fun reach offset => max reach offset.toNat) 0

/-- How far the formula samples below and above its point, if it samples at
all. -/
def reach (stencil : Stencil) : Except Fault (Nat × Nat) :=
  if stencil.terms.isEmpty then .error .noOffsets
  else .ok (stencil.lowReach, stencil.highReach)

/-- The normalised coefficient of a term. -/
def coefficient (stencil : Stencil) (term : Term) : Rat :=
  (term.weight : Rat) / stencil.divisor

/-- The normalised coefficients, in the order of the terms. -/
def coefficients (stencil : Stencil) : List Rat :=
  stencil.terms.map stencil.coefficient

/-- A weight times a sample, both as doubles. -/
def weighted (weight : Int) (sample : Float) : Except Fault Float := do
  return (← Arg.realOfInt weight) * sample

/-- A weighted sum divided by an integer. -/
def quotient (total : Float) (divisor : Int) : Except Fault Float := do
  return total / (← Arg.realOfInt divisor)

/-- Why a list is no sample. Its product with a weight repeats it, which has to be
possible before the type is found at fault. -/
def listRefusal (length : Nat) (weight : Int) : Fault :=
  if Word.fitsSigned weight then .repeated (Word.byteLength * (weight.toNat * length))
  else .tooLarge

/-- Why a text is no sample. Unlike those of a list, the characters of a repeated
text also have to be countable by a signed word. -/
def textRefusal (text : String) (weight : Int) : Fault :=
  let repeated := weight.toNat * text.length
  if !Word.fitsSigned weight || Word.signedLimit ≤ repeated then .tooLarge
  else .repeated (Text.characterBytes text * repeated)

/-- Add a sample with its weight to a sum. Integer samples are multiplied exactly
before they are rounded. What is no number is refused. -/
def addSample (total : Float) (weight : Int) : Arg → Except Fault Float
  | .real sample => do return total + (← weighted weight sample)
  | .int sample => do return total + (← Arg.realOfInt (weight * sample))
  | .bool sample => do return total + (← Arg.realOfInt (weight * Arg.ofBit sample))
  | .nothing => .error .wrongType
  | .text value => .error (textRefusal value weight)
  | .kind value => .error (textRefusal value.name weight)
  | .list items => .error (listRefusal items.length weight)

/-- The derivative estimate from one sample per term. Samples are added in the
order of the terms, starting from zero. -/
def apply (stencil : Stencil) (samples : List Arg) : Except Fault Float :=
  if samples.length ≠ stencil.terms.length then
    .error (.sampleCount stencil.terms.length samples.length)
  else do
    let total ← (stencil.terms.zip samples).foldlM
      (fun total (term, sample) => addSample total term.weight sample) 0.0
    quotient total stencil.divisor

/-- The formula reflected at its point. Reflection changes the sign of odd
derivatives. -/
def reflect (stencil : Stencil) : Stencil :=
  { stencil with
    kind := stencil.kind.reflect
    terms := stencil.terms.map fun term =>
      ⟨-term.offset, if stencil.derivative % 2 = 0 then term.weight else -term.weight⟩ }

end Stencil

end LatticeDiff
