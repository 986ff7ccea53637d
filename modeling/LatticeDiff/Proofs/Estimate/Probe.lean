import LatticeDiff.Evaluator.Estimate
import LatticeDiff.Proofs.Outcome

/-!
# Walks that come back

An estimate is found by a walk that leaves the position and the matrix as it found
them: all it does is read. `Walk.Probes` says so of a walk, together with what the
walk results in and where it reads. The property passes through sequencing,
displacements and loops, also where a step fails.
-/

namespace LatticeDiff

namespace Walk

variable {α β : Type}

/-- Started at a position, a walk results in `result`, reads at `reads`, and ends
where it started with the matrix untouched, whatever was noted before. -/
def Probes (walk : Walk Progress α) (position : Position) (result : Except Fault α)
    (reads : List Position) : Prop :=
  ∀ progress, walk.outcome ⟨position, progress⟩ =
    (result, ⟨position, { progress with reads := progress.reads ++ reads }⟩)

/-- The reads of what comes after a result: there are none after a failure. -/
def readsAfter (result : Except Fault α) (reads : α → List Position) : List Position :=
  match result with
  | .ok value => reads value
  | .error _ => []

/-- The reads of a loop that is broken off by the first failing step. -/
def readsOfLoop {γ : Type} (step : β → γ → Except Fault β) (reads : γ → List Position) :
    β → List γ → List Position
  | _, [] => []
  | state, item :: items =>
      reads item ++ readsAfter (step state item) fun next => readsOfLoop step reads next items

theorem probes_pure (value : α) (position : Position) :
    (pure value : Walk Progress α).Probes position (.ok value) [] := by
  intro progress
  simp

theorem probes_ofResult (result : Except Fault α) (position : Position) :
    (ofResult result : Walk Progress α).Probes position result [] := by
  intro progress
  simp

theorem Probes.bind {walk : Walk Progress α} {next : α → Walk Progress β}
    {position : Position} {result : Except Fault α} {reads : List Position}
    {nextResult : α → Except Fault β} {nextReads : α → List Position}
    (first : walk.Probes position result reads)
    (second : ∀ value, (next value).Probes position (nextResult value) (nextReads value)) :
    (walk >>= next).Probes position (result >>= nextResult)
      (reads ++ readsAfter result nextReads) := by
  intro progress
  rw [outcome_bind, first progress]
  cases result with
  | error fault => simp [readsAfter]
  | ok value =>
      have continued := second value { progress with reads := progress.reads ++ reads }
      simpa [readsAfter] using continued

/-- A displaced walk reads at the displaced positions, and is put back by the inverse
shift. -/
theorem Probes.displacedBy {block : Walk Progress α} {position : Position} {axis : Nat}
    {distance : Int} {result : Except Fault α} {reads : List Position}
    (inner : block.Probes (position.shift axis distance) result reads) :
    (displacedBy axis distance block).Probes position result reads := by
  intro progress
  rw [outcome_displacedBy]
  simp only [inner progress, Position.shift_shift_neg]

/-- A loop of walks that come back comes back, also when a step breaks it off. -/
theorem probes_foldlM {γ : Type} {position : Position} {step : β → γ → Walk Progress β}
    {result : β → γ → Except Fault β} {reads : γ → List Position}
    (each : ∀ state item, (step state item).Probes position (result state item) (reads item))
    (state : β) (items : List γ) :
    (items.foldlM step state).Probes position (items.foldlM result state)
      (readsOfLoop result reads state items) := by
  induction items generalizing state with
  | nil => exact probes_pure state position
  | cons item items ih =>
      rw [List.foldlM_cons, List.foldlM_cons, readsOfLoop]
      exact (each state item).bind fun next => ih next

end Walk

namespace Derivative

theorem probes_sample (field : Field) (region : Region) (position : Position) :
    (sample field region).Probes position (field.read region position) [position] := by
  intro progress
  rfl

end Derivative

end LatticeDiff
