import LatticeDiff.Journal

/-!
# Building evaluators by name

Evaluators for a kind and an accuracy order, as callers ask for them. The formula
is looked up before the source or the region is looked at, and every evaluator that
is built is put on record.
-/

namespace LatticeDiff

namespace Evaluator

/-- Build a gradient evaluator for a kind and an order, and put it on record. -/
def buildGradient (source : Source) (region? : Option Region) (kind order : Arg) :
    Except Fault (Evaluator × Record) := do
  let stencil ← Stencil.lookup kind order (.int 1)
  let built ← gradient source stencil region?
  return (built, .gradientBuilt stencil.kind stencil.order built.region built.padded)

/-- Build a Hessian evaluator for an order, and put it on record. -/
def buildHessian (source : Source) (region? : Option Region) (order : Arg) :
    Except Fault (Evaluator × Record) := do
  let (second, first) ← Scheme.hessianFormulas order
  let built ← ofScheme source (.hessian second first) region?
  return (built, .hessianBuilt second.order built.region built.padded)

end Evaluator

end LatticeDiff
