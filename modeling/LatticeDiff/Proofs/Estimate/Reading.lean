import LatticeDiff.Proofs.Estimate.Pointwise
import LatticeDiff.Proofs.Region.Membership

/-!
# When estimates succeed

An estimate asks for its samples in a fixed order. If its weights and divisors are
small enough to become doubles, the arithmetic never fails, so the estimate succeeds
exactly if every sample can be read, and otherwise fails as the first one does that
cannot. `Reader.Decides` states this of an outcome and a list of positions.
-/

namespace LatticeDiff

namespace Reader

/-- Read at positions one after the other, up to the first failure. -/
def each (read : Reader) : List Position → Except Fault Unit
  | [] => .ok ()
  | position :: positions => do
      let _ ← read position
      each read positions

/-- There is a sample at a position. -/
def Serves (read : Reader) (position : Position) : Prop :=
  ∃ value, read position = .ok value

theorem each_eq_ok_iff {read : Reader} {positions : List Position} :
    each read positions = .ok () ↔ ∀ position ∈ positions, Serves read position := by
  induction positions with
  | nil => simp [each]
  | cons position positions ih =>
      rw [each, List.forall_mem_cons, ← ih]
      cases found : read position with
      | error fault => simp [Serves, found]
      | ok value => simp [Serves, found]

theorem each_append (read : Reader) (first second : List Position) :
    each read (first ++ second) = (do each read first; each read second) := by
  induction first with
  | nil => rfl
  | cons position positions ih =>
      rw [List.cons_append, each, each, ih, bind_assoc]

theorem exists_of_each_eq_error {read : Reader} {positions : List Position} {fault : Fault}
    (failed : each read positions = .error fault) :
    ∃ before position after, positions = before ++ position :: after ∧
      (∀ earlier ∈ before, Serves read earlier) ∧ read position = .error fault := by
  induction positions with
  | nil => simp [each] at failed
  | cons position positions ih =>
      cases found : read position with
      | error first =>
          simp only [each, found, Outcome.error_bind, Except.error.injEq] at failed
          subst failed
          exact ⟨[], position, positions, rfl, by simp, found⟩
      | ok value =>
          simp only [each, found, Outcome.ok_bind] at failed
          obtain ⟨before, failing, after, split, served, failure⟩ := ih failed
          refine ⟨position :: before, failing, after, by rw [split, List.cons_append], ?_, failure⟩
          intro earlier member
          cases member with
          | head => exact ⟨value, found⟩
          | tail _ member => exact served earlier member

variable {α β : Type}

/-- Whether an outcome is a failure, and which one, is decided by reading at positions
in order. -/
def Decides (read : Reader) (positions : List Position) (outcome : Except Fault α) : Prop :=
  outcome.map (fun _ => ()) = each read positions

theorem decides_read (read : Reader) (position : Position) :
    Decides read [position] (read position) := by
  unfold Decides each each
  cases read position <;> rfl

theorem decides_ok (read : Reader) (value : α) : Decides read [] (.ok value) := rfl

theorem Decides.map {read : Reader} {positions : List Position} {outcome : Except Fault α}
    (decided : Decides read positions outcome) (image : α → β) :
    Decides read positions (outcome.map image) := by
  unfold Decides at *
  rw [← decided]
  cases outcome <;> rfl

theorem Decides.bind {read : Reader} {first second : List Position}
    {outcome : Except Fault α} {next : α → Except Fault β}
    (decided : Decides read first outcome)
    (continued : ∀ value, outcome = .ok value → Decides read second (next value)) :
    Decides read (first ++ second) (outcome >>= next) := by
  unfold Decides at *
  rw [each_append, ← decided]
  cases outcome with
  | error fault => rfl
  | ok value => exact continued value rfl

/-- Going on in a way that does not fail leaves the decision to what came before. -/
theorem Decides.bind_total {read : Reader} {positions : List Position}
    {outcome : Except Fault α} {next : α → Except Fault β} {result : α → β}
    (decided : Decides read positions outcome)
    (total : ∀ value, next value = .ok (result value)) :
    Decides read positions (outcome >>= next) := by
  unfold Decides at *
  rw [← decided]
  cases outcome with
  | error fault => rfl
  | ok value =>
      rw [Outcome.ok_bind, total value]
      rfl

theorem decides_foldlM {γ : Type} {read : Reader} {step : β → γ → Except Fault β}
    {positions : γ → List Position} (items : List γ)
    (each : ∀ state, ∀ item ∈ items, Decides read (positions item) (step state item))
    (state : β) : Decides read (items.flatMap positions) (items.foldlM step state) := by
  induction items generalizing state with
  | nil => exact decides_ok read state
  | cons item items ih =>
      rw [List.flatMap_cons, List.foldlM_cons]
      apply Decides.bind (each state item (by simp))
      intro next _
      exact ih (fun state other member => each state other (by simp [member])) next

theorem Decides.eq_ok_iff {read : Reader} {positions : List Position}
    {outcome : Except Fault α} (decided : Decides read positions outcome) :
    (∃ value, outcome = .ok value) ↔ ∀ position ∈ positions, Serves read position := by
  rw [← each_eq_ok_iff, ← decided]
  cases outcome with
  | error fault => simp [Except.map]
  | ok value => simp [Except.map]

theorem Decides.eq_error_iff {read : Reader} {positions : List Position}
    {outcome : Except Fault α} {fault : Fault} (decided : Decides read positions outcome) :
    outcome = .error fault ↔ each read positions = .error fault := by
  rw [← decided]
  cases outcome with
  | error other => simp [Except.map]
  | ok value => simp [Except.map]

theorem Decides.exists_of_eq_error {read : Reader} {positions : List Position}
    {outcome : Except Fault α} {fault : Fault} (decided : Decides read positions outcome)
    (failed : outcome = .error fault) :
    ∃ before position after, positions = before ++ position :: after ∧
      (∀ earlier ∈ before, Serves read earlier) ∧ read position = .error fault :=
  exists_of_each_eq_error (decided.eq_error_iff.1 failed)

end Reader

/-- There are samples for a reader exactly where it can read. -/
theorem Field.serves_iff_readable {field : Field} {region : Region} {position : Position} :
    Reader.Serves (field.read region) position ↔ field.Readable region position := by
  constructor
  · rintro ⟨value, found⟩
    exact (Field.read_eq_ok_iff.1 found).1
  · intro readable
    exact ⟨_, Field.read_of_readable readable⟩

theorem Field.not_readable_of_read {field : Field} {region : Region} {position : Position}
    {fault : Fault} (failed : field.read region position = .error fault) :
    ¬field.Readable region position :=
  (Field.refuses_of_read failed).unreadable

theorem Field.outOfBounds_of_read {field : Field} {region : Region} {position : Position}
    {fault : Fault} (failed : field.read region position = .error fault) :
    fault.OutOfBounds :=
  (Field.refuses_of_read failed).outOfBounds

namespace Stencil

/-- The integers of a formula are small enough to become doubles. -/
structure Convertible (stencil : Stencil) : Prop where
  weights : ∀ term ∈ stencil.terms, term.weight.natAbs < Binary64.overflowThreshold
  divisor : stencil.divisor.natAbs < Binary64.overflowThreshold

theorem realOfInt_of_lt {value : Int} (small : value.natAbs < Binary64.overflowThreshold) :
    Arg.realOfInt value = .ok (Float.ofInt value) := by
  have found := Binary64.nearest?_of_lt small
  unfold Arg.realOfInt
  rw [found]

theorem weighted_of_lt {weight : Int} (small : weight.natAbs < Binary64.overflowThreshold)
    (sample : Float) : weighted weight sample = .ok (Float.ofInt weight * sample) := by
  rw [weighted, realOfInt_of_lt small]
  rfl

theorem quotient_of_lt {divisor : Int} (small : divisor.natAbs < Binary64.overflowThreshold)
    (total : Float) : quotient total divisor = .ok (total / Float.ofInt divisor) := by
  rw [quotient, realOfInt_of_lt small]
  rfl

theorem addTerm_of_lt {term : Term} (small : term.weight.natAbs < Binary64.overflowThreshold)
    (value : Int → Except Fault Float) (total : Float) :
    addTerm value total term =
      (value term.offset).map fun found => total + Float.ofInt term.weight * found := by
  unfold addTerm
  cases value term.offset with
  | error fault => rfl
  | ok found =>
      rw [Outcome.ok_bind, weighted_of_lt small, Outcome.ok_bind]
      rfl

theorem decides_weightedSum {read : Reader} {value : Int → Except Fault Float}
    {positions : Int → List Position} {terms : List Term}
    (small : ∀ term ∈ terms, term.weight.natAbs < Binary64.overflowThreshold)
    (values : ∀ offset, Reader.Decides read (positions offset) (value offset)) :
    Reader.Decides read (terms.flatMap fun term => positions term.offset)
      (weightedSum value terms) := by
  apply Reader.decides_foldlM
  intro total term member
  rw [addTerm_of_lt (small term member)]
  exact (values term.offset).map _

/-- The samples of a formula along an axis through a position, in order. -/
def samplesAt (stencil : Stencil) (axis : Nat) (position : Position) : List Position :=
  stencil.offsets.map fun offset => position.shift axis offset

theorem decides_sumAt (read : Reader) {stencil : Stencil}
    (small : ∀ term ∈ stencil.terms, term.weight.natAbs < Binary64.overflowThreshold)
    (axis : Nat) (position : Position) :
    Reader.Decides read (stencil.samplesAt axis position) (stencil.sumAt read axis position) := by
  have decided : Reader.Decides read
      (stencil.terms.flatMap fun term => [position.shift axis term.offset])
      (stencil.sumAt read axis position) :=
    decides_weightedSum small fun offset =>
      Reader.decides_read read (position.shift axis offset)
  rw [← List.map_eq_flatMap] at decided
  rw [samplesAt, offsets, List.map_map]
  exact decided

end Stencil

namespace Derivative

/-- The integers of an estimate are small enough to become doubles. -/
def Convertible : Derivative → Prop
  | .along stencil _ => stencil.Convertible
  | .mixed stencil _ _ => stencil.Convertible ∧
      (stencil.divisor * stencil.divisor).natAbs < Binary64.overflowThreshold

/-- The samples of an estimate at a position, in order. -/
def samplesAt (position : Position) : Derivative → List Position
  | .along stencil axis => stencil.samplesAt axis position
  | .mixed stencil outer inner =>
      stencil.offsets.flatMap fun offset => stencil.samplesAt inner (position.shift outer offset)

/-- An estimate succeeds exactly if its samples can be read, and fails as the first one
does that cannot. -/
theorem decides_estimateAt (read : Reader) (position : Position) {derivative : Derivative}
    (convertible : derivative.Convertible) :
    Reader.Decides read (derivative.samplesAt position)
      (derivative.estimateAt read position) := by
  cases derivative with
  | along stencil axis =>
      have summed := Stencil.decides_sumAt read convertible.weights axis position
      exact summed.bind_total fun total => Stencil.quotient_of_lt convertible.divisor total
  | mixed stencil outer inner =>
      have summed := Stencil.decides_weightedSum convertible.1.weights fun offset =>
        Stencil.decides_sumAt read convertible.1.weights inner (position.shift outer offset)
      rw [samplesAt, Stencil.offsets, List.flatMap_map]
      exact summed.bind_total fun total => Stencil.quotient_of_lt convertible.2 total

end Derivative

namespace Entry

/-- The samples of entries at a position, in the order in which they are estimated. -/
def samplesOfAll (position : Position) (entries : List Entry) : List Position :=
  entries.flatMap fun entry => entry.derivative.samplesAt position

theorem samplesOfAll_cons (position : Position) (entry : Entry) (entries : List Entry) :
    samplesOfAll position (entry :: entries) =
      entry.derivative.samplesAt position ++ samplesOfAll position entries := by
  rw [samplesOfAll, List.flatMap_cons, ← samplesOfAll]

/-- Filling entries succeeds exactly if all their samples can be read, and fails as the
first one does that cannot. -/
theorem decides_fillAllAt (read : Reader) (position : Position) {entries : List Entry}
    (convertible : ∀ entry ∈ entries, entry.derivative.Convertible) (matrix : Grid) :
    Reader.Decides read (samplesOfAll position entries)
      (fillAllAt read position entries matrix).1 := by
  induction entries generalizing matrix with
  | nil => exact Reader.decides_ok read ()
  | cons entry entries ih =>
      have rest := ih fun other member => convertible other (by simp [member])
      have estimated := Derivative.decides_estimateAt read position (convertible entry (by simp))
      have decided : Reader.Decides read
          (entry.derivative.samplesAt position ++ samplesOfAll position entries)
          (do
            let value ← entry.derivative.estimateAt read position
            (fillAllAt read position entries (entry.store value matrix)).1) :=
        estimated.bind fun value _ => rest (entry.store value matrix)
      rw [samplesOfAll_cons, fillAllAt]
      cases found : entry.derivative.estimateAt read position with
      | error fault => simpa [found] using decided
      | ok value => simpa [found] using decided

end Entry

end LatticeDiff
