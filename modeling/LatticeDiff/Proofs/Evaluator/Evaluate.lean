import LatticeDiff.Evaluator.Basic
import LatticeDiff.Proofs.Estimate.Formula
import LatticeDiff.Proofs.Estimate.Matrix
import LatticeDiff.Proofs.Estimate.Trace

/-!
# Evaluations

An evaluation is a walk of the evaluator's cursor. It leaves the position where it
was, changes nothing but cells of the matrix, and depends on the position, the samples
and the region for reading alone.
-/

namespace LatticeDiff

namespace Scheme

/-- The integers of a scheme are small enough to become doubles. -/
def Convertible : Scheme → Prop
  | .gradient stencil => stencil.Convertible
  | .hessian second first => second.Convertible ∧ first.Convertible ∧
      (first.divisor * first.divisor).natAbs < Binary64.overflowThreshold
  | .blank => True

theorem Convertible.entry {scheme : Scheme} {ndim : Nat} (convertible : scheme.Convertible) :
    ∀ entry ∈ scheme.entries ndim, entry.derivative.Convertible := by
  intro entry member
  cases scheme with
  | blank => simp [entries] at member
  | gradient stencil =>
      simp only [entries, gradientEntries, List.mem_map] at member
      obtain ⟨axis, _, rfl⟩ := member
      exact convertible
  | hessian second first =>
      simp only [entries, hessianRow, List.mem_flatMap, List.mem_cons, List.mem_map] at member
      obtain ⟨row, _, rfl | ⟨column, _, rfl⟩⟩ := member
      · exact convertible.1
      · exact convertible.2

/-- The samples of a matrix at a position, in the order in which they are read. -/
def samplesAt (scheme : Scheme) (ndim : Nat) (position : Position) : List Position :=
  Entry.samplesOfAll position (scheme.entries ndim)

theorem mem_gradient_samplesAt {stencil : Stencil} {ndim : Nat} {position place : Position} :
    place ∈ (gradient stencil).samplesAt ndim position ↔
      ∃ axis < ndim, ∃ offset ∈ stencil.offsets, place = position.shift axis offset := by
  simp only [samplesAt, Entry.samplesOfAll, entries, gradientEntries, List.flatMap_map,
    List.mem_flatMap, List.mem_range, Derivative.samplesAt, Stencil.samplesAt, List.mem_map,
    eq_comm]

theorem forall_mem_gradient_samplesAt {stencil : Stencil} {ndim : Nat} {position : Position}
    {property : Position → Prop} :
    (∀ place ∈ (gradient stencil).samplesAt ndim position, property place) ↔
      ∀ axis < ndim, ∀ offset ∈ stencil.offsets, property (position.shift axis offset) := by
  simp only [mem_gradient_samplesAt]
  constructor
  · intro every axis bound offset member
    exact every _ ⟨axis, bound, offset, member, rfl⟩
  · rintro every _ ⟨axis, bound, offset, member, rfl⟩
    exact every axis bound offset member

theorem mem_hessian_samplesAt {second first : Stencil} {ndim : Nat}
    {position place : Position} :
    place ∈ (hessian second first).samplesAt ndim position ↔
      (∃ axis < ndim, ∃ offset ∈ second.offsets, place = position.shift axis offset) ∨
      ∃ outer inner, outer < inner ∧ inner < ndim ∧
        ∃ far ∈ first.offsets, ∃ near ∈ first.offsets,
          place = (position.shift outer far).shift inner near := by
  simp only [samplesAt, Entry.samplesOfAll, entries, List.mem_flatMap, List.mem_range]
  constructor
  · rintro ⟨entry, ⟨row, bound, member⟩, sampled⟩
    simp only [hessianRow, List.mem_cons, List.mem_map] at member
    obtain rfl | ⟨column, beyond, rfl⟩ := member
    · simp only [Derivative.samplesAt, Stencil.samplesAt, List.mem_map] at sampled
      obtain ⟨offset, member, rfl⟩ := sampled
      exact .inl ⟨row, bound, offset, member, rfl⟩
    · have within := List.mem_range'_1.1 beyond
      simp only [Derivative.samplesAt, Stencil.samplesAt, List.mem_flatMap, List.mem_map]
        at sampled
      obtain ⟨far, farMember, near, nearMember, rfl⟩ := sampled
      exact .inr ⟨row, column, within.1, by omega, far, farMember, near, nearMember, rfl⟩
  · rintro (⟨axis, bound, offset, member, rfl⟩ |
      ⟨outer, inner, ordered, bound, far, farMember, near, nearMember, rfl⟩)
    · refine ⟨⟨.along second axis, [[axis, axis]]⟩, ⟨axis, bound, by simp [hessianRow]⟩, ?_⟩
      exact List.mem_map_of_mem member
    · have entryMember : ⟨.mixed first outer inner, [[outer, inner], [inner, outer]]⟩ ∈
          (hessian second first).entries ndim := mem_hessianEntries_mixed ordered bound
      rw [entries, List.mem_flatMap] at entryMember
      obtain ⟨row, rowMember, inRow⟩ := entryMember
      refine ⟨_, ⟨row, List.mem_range.1 rowMember, inRow⟩, ?_⟩
      exact List.mem_flatMap.2 ⟨far, farMember, List.mem_map_of_mem nearMember⟩

theorem forall_mem_hessian_samplesAt {second first : Stencil} {ndim : Nat}
    {position : Position} {property : Position → Prop} :
    (∀ place ∈ (hessian second first).samplesAt ndim position, property place) ↔
      (∀ axis < ndim, ∀ offset ∈ second.offsets, property (position.shift axis offset)) ∧
      ∀ outer inner, outer < inner → inner < ndim →
        ∀ far ∈ first.offsets, ∀ near ∈ first.offsets,
          property ((position.shift outer far).shift inner near) := by
  simp only [mem_hessian_samplesAt]
  constructor
  · intro every
    constructor
    · intro axis bound offset member
      exact every _ (.inl ⟨axis, bound, offset, member, rfl⟩)
    · intro outer inner ordered bound far farMember near nearMember
      exact every _ (.inr ⟨outer, inner, ordered, bound, far, farMember, near, nearMember, rfl⟩)
  · rintro ⟨along, across⟩ place (⟨axis, bound, offset, member, rfl⟩ |
      ⟨outer, inner, ordered, bound, far, farMember, near, nearMember, rfl⟩)
    · exact along axis bound offset member
    · exact across outer inner ordered bound far farMember near nearMember

end Scheme

namespace Evaluator

/-- An evaluation fills the entries of the scheme at the position where the evaluator
stands, and stays there. -/
theorem evaluate_eq {evaluator : Evaluator} (derives : evaluator.scheme ≠ .blank)
    (field : Field) :
    evaluator.evaluate field =
      let read := field.read evaluator.padded
      let entries := evaluator.scheme.entries evaluator.ndim
      let filled := Entry.fillAllAt read evaluator.position entries evaluator.matrix
      { result := filled.1
        reads := Entry.readsOfAll read evaluator.position entries
        evaluator := { evaluator with matrix := filled.2 } } := by
  unfold evaluate
  split
  · next blank => exact absurd blank derives
  · simp only [Entry.outcome_fillAll, List.nil_append]

theorem exists_matrix_evaluate (evaluator : Evaluator) (field : Field) :
    ∃ matrix, matrix.shape = evaluator.matrix.shape ∧
      (evaluator.evaluate field).evaluator = { evaluator with matrix } := by
  by_cases derives : evaluator.scheme = .blank
  · refine ⟨evaluator.matrix, rfl, ?_⟩
    obtain ⟨scheme, region, padded, position, matrix⟩ := evaluator
    subst derives
    rfl
  · rw [evaluate_eq derives]
    exact ⟨_, Entry.shape_fillAllAt _ _ _ _, rfl⟩

theorem position_evaluate (evaluator : Evaluator) (field : Field) :
    (evaluator.evaluate field).evaluator.position = evaluator.position := by
  obtain ⟨matrix, _, same⟩ := evaluator.exists_matrix_evaluate field
  rw [same]

theorem shape_evaluate (evaluator : Evaluator) (field : Field) :
    (evaluator.evaluate field).evaluator.matrix.shape = evaluator.matrix.shape := by
  obtain ⟨matrix, shape, same⟩ := evaluator.exists_matrix_evaluate field
  rw [same, shape]

/-- An evaluation succeeds exactly if all samples can be read, and fails as the first
one does that cannot. -/
theorem decides_evaluate {evaluator : Evaluator} (derives : evaluator.scheme ≠ .blank)
    (convertible : evaluator.scheme.Convertible) (field : Field) :
    Reader.Decides (field.read evaluator.padded)
      (evaluator.scheme.samplesAt evaluator.ndim evaluator.position)
      (evaluator.evaluate field).result := by
  rw [evaluate_eq derives]
  exact Entry.decides_fillAllAt _ _ convertible.entry _

theorem result_evaluate_eq_each {evaluator : Evaluator} (derives : evaluator.scheme ≠ .blank)
    (convertible : evaluator.scheme.Convertible) (field : Field) :
    (evaluator.evaluate field).result =
      Reader.each (field.read evaluator.padded)
        (evaluator.scheme.samplesAt evaluator.ndim evaluator.position) := by
  rw [← decides_evaluate derives convertible field]
  cases (evaluator.evaluate field).result <;> rfl

theorem result_evaluate_eq_ok_iff {evaluator : Evaluator}
    (derives : evaluator.scheme ≠ .blank) (convertible : evaluator.scheme.Convertible)
    (field : Field) :
    (evaluator.evaluate field).result = .ok () ↔
      ∀ place ∈ evaluator.scheme.samplesAt evaluator.ndim evaluator.position,
        field.Readable evaluator.padded place := by
  have decided := (decides_evaluate derives convertible field).eq_ok_iff
  constructor
  · intro success place member
    exact Field.serves_iff_readable.1 (decided.1 ⟨(), success⟩ place member)
  · intro readable
    obtain ⟨_, success⟩ := decided.2 fun place member =>
      Field.serves_iff_readable.2 (readable place member)
    exact success

theorem follows_evaluate {evaluator : Evaluator} (derives : evaluator.scheme ≠ .blank)
    (field : Field) :
    Reader.Follows (field.read evaluator.padded)
      (evaluator.scheme.samplesAt evaluator.ndim evaluator.position)
      (evaluator.evaluate field).reads (evaluator.evaluate field).result := by
  rw [evaluate_eq derives]
  exact Entry.follows_fillAllAt _ _ _ _

theorem cell?_evaluate {evaluator : Evaluator} {field : Field} {cell : List Nat}
    (derives : evaluator.scheme ≠ .blank)
    (shaped : evaluator.matrix.shape = evaluator.scheme.matrixShape evaluator.ndim)
    (success : (evaluator.evaluate field).result = .ok ())
    (inside : (evaluator.scheme.matrixShape evaluator.ndim).contains cell = true) :
    ∃ derivative value, evaluator.scheme.derivativeAt? cell = some derivative ∧
      derivative.estimateAt (field.read evaluator.padded) evaluator.position = .ok value ∧
      (evaluator.evaluate field).evaluator.matrix.cell? cell = some value := by
  rw [evaluate_eq derives] at success ⊢
  exact Scheme.cell?_fillAllAt derives shaped success inside

theorem cell?_evaluate_of_named {evaluator : Evaluator} {field : Field} {scheme : Scheme}
    {ndim : Nat} {cell : List Nat} {derivative : Derivative} (derives : scheme ≠ .blank)
    (sameScheme : evaluator.scheme = scheme) (sameNdim : evaluator.ndim = ndim)
    (shaped : evaluator.matrix.shape = scheme.matrixShape ndim)
    (success : (evaluator.evaluate field).result = .ok ())
    (inside : (scheme.matrixShape ndim).contains cell = true)
    (named : scheme.derivativeAt? cell = some derivative) :
    ∃ value, derivative.estimateAt (field.read evaluator.padded) evaluator.position = .ok value ∧
      (evaluator.evaluate field).evaluator.matrix.cell? cell = some value := by
  subst sameScheme sameNdim
  obtain ⟨_, value, sameNamed, found⟩ := cell?_evaluate derives shaped success inside
  rw [named, Option.some.injEq] at sameNamed
  subst sameNamed
  exact ⟨value, found⟩

/-- A completed evaluation has stored what the formula gives for the samples along an axis
in a cell that is for the derivative along it. -/
theorem cell?_evaluate_along {evaluator : Evaluator} {field : Field} {stencil : Stencil}
    {cell : List Nat} {axis : Nat} (derives : evaluator.scheme ≠ .blank)
    (shaped : evaluator.matrix.shape = evaluator.scheme.matrixShape evaluator.ndim)
    (success : (evaluator.evaluate field).result = .ok ())
    (inside : (evaluator.scheme.matrixShape evaluator.ndim).contains cell = true)
    (named : evaluator.scheme.derivativeAt? cell = some (.along stencil axis))
    (readable : ∀ offset ∈ stencil.offsets,
      field.Readable evaluator.padded (evaluator.position.shift axis offset)) :
    ∃ value, stencil.apply (stencil.offsets.map fun offset =>
        .real (field.sampleAt (evaluator.position.shift axis offset))) = .ok value ∧
      (evaluator.evaluate field).evaluator.matrix.cell? cell = some value := by
  obtain ⟨value, estimated, stored⟩ :=
    cell?_evaluate_of_named derives rfl rfl shaped success inside named
  refine ⟨value, ?_, stored⟩
  rw [← estimated]
  symm
  apply Derivative.estimateAt_along
  intro place member
  obtain ⟨offset, offsetMember, rfl⟩ := List.mem_map.1 member
  exact Field.read_of_readable (readable offset offsetMember)

/-- An evaluation depends on the estimates alone, and not on what the matrix has held before:
the outcome is the same, and after a success so is the matrix. -/
theorem evaluate_eq_of_estimates {first second : Evaluator} {field other : Field}
    (derives : first.scheme ≠ .blank)
    (shaped : first.matrix.shape = first.scheme.matrixShape first.ndim)
    (sameScheme : second.scheme = first.scheme)
    (sameShape : second.matrix.shape = first.matrix.shape) (sameNdim : second.ndim = first.ndim)
    (agree : ∀ entry ∈ first.scheme.entries first.ndim,
      entry.derivative.estimateAt (other.read second.padded) second.position =
        entry.derivative.estimateAt (field.read first.padded) first.position) :
    (second.evaluate other).result = (first.evaluate field).result ∧
      ((first.evaluate field).result = .ok () →
        (second.evaluate other).evaluator.matrix = (first.evaluate field).evaluator.matrix) := by
  have otherDerives : second.scheme ≠ .blank := by rwa [sameScheme]
  rw [evaluate_eq derives, evaluate_eq otherDerives, sameScheme, sameNdim]
  dsimp only
  rw [Entry.fillAllAt_congr_estimates agree]
  exact ⟨Entry.result_fillAllAt _ _ _ _ _,
    Scheme.matrix_fillAllAt derives shaped (sameShape.trans shaped)⟩

/-- Evaluations at one position that read the same samples agree. -/
theorem evaluate_eq_of_agree {first second : Evaluator} {field other : Field}
    (derives : first.scheme ≠ .blank)
    (shaped : first.matrix.shape = first.scheme.matrixShape first.ndim)
    (sameScheme : second.scheme = first.scheme)
    (sameShape : second.matrix.shape = first.matrix.shape)
    (samePosition : second.position = first.position)
    (agree : ∀ place ∈ first.scheme.samplesAt first.ndim first.position,
      other.read second.padded place = field.read first.padded place) :
    (second.evaluate other).result = (first.evaluate field).result ∧
      ((first.evaluate field).result = .ok () →
        (second.evaluate other).evaluator.matrix = (first.evaluate field).evaluator.matrix) := by
  have sameNdim : second.ndim = first.ndim := congrArg List.length samePosition
  apply evaluate_eq_of_estimates derives shaped sameScheme sameShape sameNdim
  intro entry member
  rw [samePosition]
  apply Derivative.estimateAt_congr
  intro place sampled
  exact agree place (List.mem_flatMap.2 ⟨entry, member, sampled⟩)

/-- Two evaluators of one scheme that stand at one position and may read in one region
evaluate alike. -/
theorem evaluate_eq_of_position_eq {first second : Evaluator}
    (derives : first.scheme ≠ .blank)
    (shaped : first.matrix.shape = first.scheme.matrixShape first.ndim)
    (sameScheme : second.scheme = first.scheme) (samePadded : second.padded = first.padded)
    (sameShape : second.matrix.shape = first.matrix.shape)
    (samePosition : second.position = first.position) (field : Field) :
    (second.evaluate field).result = (first.evaluate field).result ∧
      ((first.evaluate field).result = .ok () →
        (second.evaluate field).evaluator.matrix = (first.evaluate field).evaluator.matrix) := by
  apply evaluate_eq_of_agree derives shaped sameScheme sameShape samePosition
  intro place _
  rw [samePadded]

/-- Evaluations at one position that both succeed agree, in whichever regions they may
read. -/
theorem matrix_evaluate_eq {first second : Evaluator} {field : Field}
    (derives : first.scheme ≠ .blank) (convertible : first.scheme.Convertible)
    (shaped : first.matrix.shape = first.scheme.matrixShape first.ndim)
    (sameScheme : second.scheme = first.scheme)
    (sameShape : second.matrix.shape = first.matrix.shape)
    (samePosition : second.position = first.position)
    (firstSuccess : (first.evaluate field).result = .ok ())
    (secondSuccess : (second.evaluate field).result = .ok ()) :
    (second.evaluate field).evaluator.matrix = (first.evaluate field).evaluator.matrix := by
  have sameNdim : second.ndim = first.ndim := by rw [ndim, ndim, samePosition]
  have firstReadable := (result_evaluate_eq_ok_iff derives convertible field).1 firstSuccess
  have secondReadable := (result_evaluate_eq_ok_iff (sameScheme ▸ derives)
    (sameScheme ▸ convertible) field).1 secondSuccess
  rw [sameScheme, sameNdim, samePosition] at secondReadable
  apply (evaluate_eq_of_agree derives shaped sameScheme sameShape samePosition _).2 firstSuccess
  intro place member
  rw [Field.read_of_readable (firstReadable place member),
    Field.read_of_readable (secondReadable place member)]

/-- A failed evaluation reports the first sample in reading order that cannot be read. -/
theorem exists_of_result_evaluate_eq_error {evaluator : Evaluator}
    (derives : evaluator.scheme ≠ .blank) (convertible : evaluator.scheme.Convertible)
    {field : Field} {fault : Fault}
    (failed : (evaluator.evaluate field).result = .error fault) :
    ∃ before place after,
      evaluator.scheme.samplesAt evaluator.ndim evaluator.position =
        before ++ place :: after ∧
      (∀ earlier ∈ before, field.Readable evaluator.padded earlier) ∧
      ¬field.Readable evaluator.padded place ∧
      field.read evaluator.padded place = .error fault ∧ fault.OutOfBounds := by
  obtain ⟨before, place, after, split, served, failure⟩ :=
    (decides_evaluate derives convertible field).exists_of_eq_error failed
  refine ⟨before, place, after, split, ?_, Field.not_readable_of_read failure, failure,
    Field.outOfBounds_of_read failure⟩
  intro earlier member
  exact Field.serves_iff_readable.1 (served earlier member)

end Evaluator

end LatticeDiff
