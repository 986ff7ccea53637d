import LatticeDiff.Proofs.Estimate.Probe

/-!
# Estimates at a position

The walk of an estimate moves one cursor about. Here every estimate is stated a
second time, as a function of the position that asks a reader for samples at
computed positions. `Derivative.probes_estimate` identifies the two: whatever
happened before, the walk results in the estimate at the walker's position.
-/

namespace LatticeDiff

/-- Something that gives the sample at a position, or fails to. -/
abbrev Reader := Position → Except Fault Float

namespace Stencil

/-- Add one term of a formula to a sum, its value coming from the offset. -/
def addTerm (value : Int → Except Fault Float) (total : Float) (term : Term) :
    Except Fault Float := do
  return total + (← weighted term.weight (← value term.offset))

/-- The sum of the terms of a formula, in their order, starting from zero. -/
def weightedSum (value : Int → Except Fault Float) (terms : List Term) :
    Except Fault Float :=
  terms.foldlM (addTerm value) 0.0

/-- The reads of a weighted sum whose values read for themselves. -/
def readsOfSum (value : Int → Except Fault Float) (reads : Int → List Position)
    (terms : List Term) : List Position :=
  Walk.readsOfLoop (addTerm value) (fun term => reads term.offset) 0.0 terms

/-- The weighted sum of the samples of a formula along an axis through a position. -/
def sumAt (read : Reader) (stencil : Stencil) (axis : Nat) (position : Position) :
    Except Fault Float :=
  weightedSum (fun offset => read (position.shift axis offset)) stencil.terms

/-- The reads of a weighted sum along an axis. -/
def readsAt (read : Reader) (stencil : Stencil) (axis : Nat) (position : Position) :
    List Position :=
  readsOfSum (fun offset => read (position.shift axis offset))
    (fun offset => [position.shift axis offset]) stencil.terms

end Stencil

namespace Derivative

/-- The estimate of a derivative at a position, from a reader of samples. -/
def estimateAt (read : Reader) (position : Position) : Derivative → Except Fault Float
  | .along stencil axis => do
      let total ← stencil.sumAt read axis position
      Stencil.quotient total stencil.divisor
  | .mixed stencil outer inner => do
      let total ← Stencil.weightedSum
        (fun offset => stencil.sumAt read inner (position.shift outer offset)) stencil.terms
      Stencil.quotient total (stencil.divisor * stencil.divisor)

/-- The reads of an estimate at a position. -/
def readsAt (read : Reader) (position : Position) : Derivative → List Position
  | .along stencil axis => stencil.readsAt read axis position
  | .mixed stencil outer inner =>
      Stencil.readsOfSum
        (fun offset => stencil.sumAt read inner (position.shift outer offset))
        (fun offset => stencil.readsAt read inner (position.shift outer offset)) stencil.terms

end Derivative

namespace Walk

@[simp] theorem readsAfter_nil {α : Type} (result : Except Fault α) :
    (readsAfter result fun _ => []) = [] := by
  cases result <;> rfl

/-- The sum of a formula whose values are found by a walk under displacements along an
axis. -/
theorem probes_weightedSum {block : Walk Progress Float} {position : Position} {axis : Nat}
    {value : Int → Except Fault Float} {reads : Int → List Position}
    (inner : ∀ offset, block.Probes (position.shift axis offset) (value offset) (reads offset))
    (terms : List Term) :
    (terms.foldlM (fun total term =>
      displacedBy axis term.offset do
        let found ← block
        return total + (← ofResult (Stencil.weighted term.weight found))) 0.0).Probes
      position (Stencil.weightedSum value terms) (Stencil.readsOfSum value reads terms) := by
  apply probes_foldlM
  intro total term
  apply Probes.displacedBy
  have summed := (inner term.offset).bind fun found =>
    (probes_ofResult (Stencil.weighted term.weight found)
      (position.shift axis term.offset)).bind fun product =>
        probes_pure (total + product) (position.shift axis term.offset)
  simp only [readsAfter_nil, List.append_nil] at summed
  exact summed

end Walk

namespace Derivative

variable (field : Field) (region : Region)

theorem probes_accumulate (stencil : Stencil) (axis : Nat) (position : Position) :
    (accumulate field region stencil axis).Probes position
      (stencil.sumAt (field.read region) axis position)
      (stencil.readsAt (field.read region) axis position) := by
  exact Walk.probes_weightedSum
    (fun offset => probes_sample field region (position.shift axis offset)) stencil.terms

theorem probes_accumulateMixed (stencil : Stencil) (outer inner : Nat) (position : Position) :
    (accumulateMixed field region stencil outer inner).Probes position
      (Stencil.weightedSum (fun offset =>
        stencil.sumAt (field.read region) inner (position.shift outer offset)) stencil.terms)
      (Stencil.readsOfSum (fun offset =>
          stencil.sumAt (field.read region) inner (position.shift outer offset))
        (fun offset =>
          stencil.readsAt (field.read region) inner (position.shift outer offset))
        stencil.terms) := by
  exact Walk.probes_weightedSum
    (fun offset => probes_accumulate field region stencil inner (position.shift outer offset))
    stencil.terms

/-- The walk of an estimate results in the estimate at the walker's position, and ends
there. -/
theorem probes_estimate (derivative : Derivative) (position : Position) :
    (derivative.estimate field region).Probes position
      (derivative.estimateAt (field.read region) position)
      (derivative.readsAt (field.read region) position) := by
  cases derivative with
  | along stencil axis =>
      have estimated := (probes_accumulate field region stencil axis position).bind
        fun total => Walk.probes_ofResult (Stencil.quotient total stencil.divisor) position
      simp only [Walk.readsAfter_nil, List.append_nil] at estimated
      exact estimated
  | mixed stencil outer inner =>
      have estimated := (probes_accumulateMixed field region stencil outer inner position).bind
        fun total => Walk.probes_ofResult
          (Stencil.quotient total (stencil.divisor * stencil.divisor)) position
      simp only [Walk.readsAfter_nil, List.append_nil] at estimated
      exact estimated

end Derivative

namespace Entry

/-- What filling entries at a position does to a matrix, and how it ends. -/
def fillAllAt (read : Reader) (position : Position) :
    List Entry → Grid → Except Fault Unit × Grid
  | [], matrix => (.ok (), matrix)
  | entry :: entries, matrix =>
      match entry.derivative.estimateAt read position with
      | .ok value => fillAllAt read position entries (entry.store value matrix)
      | .error fault => (.error fault, matrix)

/-- The reads of filling entries at a position. -/
def readsOfAll (read : Reader) (position : Position) (entries : List Entry) :
    List Position :=
  Walk.readsOfLoop
    (fun (_ : Unit) entry => (entry.derivative.estimateAt read position).map fun _ => ())
    (fun entry => entry.derivative.readsAt read position) () entries

/-- Filling entries ends where it started, also when an estimate fails: then the
entries before it are stored and no others. -/
theorem outcome_fillAll (field : Field) (region : Region) (entries : List Entry)
    (position : Position) (progress : Progress) :
    (fillAll field region entries).outcome ⟨position, progress⟩ =
      let (result, matrix) :=
        fillAllAt (field.read region) position entries progress.matrix
      (result, ⟨position,
        ⟨progress.reads ++ readsOfAll (field.read region) position entries, matrix⟩⟩) := by
  induction entries generalizing progress with
  | nil => simp [fillAll, fillAllAt, readsOfAll, Walk.readsOfLoop]
  | cons entry entries ih =>
      have estimated := entry.derivative.probes_estimate field region position progress
      simp only [fillAll, fill, Walk.outcome_bind, estimated, fillAllAt, readsOfAll,
        Walk.readsOfLoop]
      cases entry.derivative.estimateAt (field.read region) position with
      | error fault => simp [Walk.readsAfter, Except.map]
      | ok value =>
          simp only [Walk.outcome_note, ih]
          simp [Walk.readsAfter, Except.map, readsOfAll]

end Entry

end LatticeDiff
