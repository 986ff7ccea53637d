import LatticeDiff.Proofs.Evaluator.Gradient
import Mathlib.Algebra.BigOperators.Intervals
import Mathlib.Algebra.BigOperators.Ring.List

/-!
# The order of reading

The positions that an evaluation reads, written out for gradients and for Hessians, and how
many there are. An evaluation reads all of them in their order, or it ends with the first
that cannot be read. Nothing else that is asked of an evaluator reads, and neither does
building one: what comes of it is the same for all sources of one outline.
-/

namespace LatticeDiff

namespace Scheme

/-- Where a gradient is sampled: along one axis after the other. -/
def gradientOrder (stencil : Stencil) (ndim : Nat) (position : Position) : List Position :=
  (List.range ndim).flatMap fun axis =>
    stencil.offsets.map fun offset => position.shift axis offset

/-- Where a Hessian is sampled: for every axis along it, and then in the plane of the axis
and each later one. -/
def hessianOrder (second first : Stencil) (ndim : Nat) (position : Position) : List Position :=
  (List.range ndim).flatMap fun outer =>
    (second.offsets.map fun offset => position.shift outer offset) ++
      (List.range' (outer + 1) (ndim - (outer + 1))).flatMap fun inner =>
        first.offsets.flatMap fun far =>
          first.offsets.map fun near => (position.shift outer far).shift inner near

theorem samplesAt_hessian (second first : Stencil) (ndim : Nat) (position : Position) :
    (hessian second first).samplesAt ndim position =
      hessianOrder second first ndim position := by
  rw [samplesAt, Entry.samplesOfAll, entries, List.flatMap_assoc]
  simp only [hessianRow, List.flatMap_cons, List.flatMap_map]
  rfl

/-- Every axis has one pair with each later one. -/
theorem sum_laterAxes (ndim : Nat) :
    ((List.range ndim).map fun outer => ndim - (outer + 1)).sum = ndim * (ndim - 1) / 2 := by
  calc ((List.range ndim).map fun outer => ndim - (outer + 1)).sum
      = ∑ outer ∈ Finset.range ndim, (ndim - (outer + 1)) := rfl
    _ = ∑ outer ∈ Finset.range ndim, (ndim - 1 - outer) :=
        Finset.sum_congr rfl fun outer _ => by omega
    _ = ∑ outer ∈ Finset.range ndim, outer := Finset.sum_range_reflect (fun outer => outer) ndim
    _ = ndim * (ndim - 1) / 2 := Finset.sum_range_id ndim

theorem length_flatMap_of_length_eq {α β : Type} {image : α → List β} {length : Nat}
    (same : ∀ item, (image item).length = length) (items : List α) :
    (items.flatMap image).length = items.length * length := by
  simp only [List.length_flatMap, same, List.map_const', List.sum_replicate_nat]

theorem length_gradientOrder (stencil : Stencil) (ndim : Nat) (position : Position) :
    (gradientOrder stencil ndim position).length = ndim * stencil.terms.length := by
  rw [gradientOrder, length_flatMap_of_length_eq, List.length_range]
  intro axis
  rw [List.length_map, Stencil.offsets, List.length_map]

theorem length_hessianOrder (second first : Stencil) (ndim : Nat) (position : Position) :
    (hessianOrder second first ndim position).length =
      ndim * second.terms.length + ndim * (ndim - 1) / 2 * first.terms.length ^ 2 := by
  have plane : ∀ outer inner, (first.offsets.flatMap fun far =>
      first.offsets.map fun near => (position.shift outer far).shift inner near).length =
        first.terms.length ^ 2 := by
    intro outer inner
    rw [length_flatMap_of_length_eq fun far => List.length_map _, Stencil.offsets,
      List.length_map, Nat.pow_two]
  have row : ∀ outer, ((second.offsets.map fun offset => position.shift outer offset) ++
      (List.range' (outer + 1) (ndim - (outer + 1))).flatMap fun inner =>
        first.offsets.flatMap fun far =>
          first.offsets.map fun near => (position.shift outer far).shift inner near).length =
      second.terms.length + (ndim - (outer + 1)) * first.terms.length ^ 2 := by
    intro outer
    rw [List.length_append, length_flatMap_of_length_eq (plane outer), List.length_range',
      List.length_map, Stencil.offsets, List.length_map]
  rw [hessianOrder, List.length_flatMap]
  simp only [row]
  rw [List.sum_map_add, List.sum_map_mul_right, sum_laterAxes, List.map_const',
    List.sum_replicate_nat, List.length_range]

end Scheme

/-- Two sources that differ at most in their samples. -/
structure Source.SameOutline (first second : Source) : Prop where
  shape : second.field.shape = first.field.shape
  tellsBounds : second.tellsBounds = first.tellsBounds

namespace Source.SameOutline

variable {first second : Source}

theorem ndim (same : first.SameOutline second) : second.field.ndim = first.field.ndim :=
  congrArg List.length same.shape

theorem regionOfInterest (same : first.SameOutline second) (region? : Option Region) :
    second.regionOfInterest region? = first.regionOfInterest region? := by
  unfold Source.regionOfInterest Field.bounds Source.ndim
  rw [same.tellsBounds, same.shape, same.ndim]

end Source.SameOutline

namespace Evaluator

/-- Evaluators are built and copied over two sources with the same outcome. -/
structure BuildsAlike (first second : Source) : Prop where
  gradient : ∀ stencil region?,
    gradient second stencil region? = Evaluator.gradient first stencil region?
  hessian : ∀ order region?,
    hessian second order region? = Evaluator.hessian first order region?
  copy : ∀ evaluator : Evaluator, evaluator.copy second = evaluator.copy first

theorem ofScheme_of_sameOutline {first second : Source} (same : first.SameOutline second)
    (scheme : Scheme) (region? : Option Region) :
    ofScheme second scheme region? = ofScheme first scheme region? := by
  unfold ofScheme withPadding Field.cursor Source.ndim
  rw [same.regionOfInterest, same.ndim]

/-- Samples have no part in building or copying an evaluator. -/
theorem buildsAlike_of_sameOutline {first second : Source} (same : first.SameOutline second) :
    BuildsAlike first second := by
  have gradients : ∀ stencil region?,
      gradient second stencil region? = gradient first stencil region? := by
    intro stencil region?
    rw [gradient, gradient, ofScheme_of_sameOutline same]
  refine ⟨gradients, ?_, ?_⟩
  · intro order region?
    simp only [hessian, ofScheme_of_sameOutline same]
  · intro evaluator
    simp only [copy, rebuild, gradients, ofScheme_of_sameOutline same]

/-- How a step ends that reads in a fixed order. A reading that fails is the last one. The
only other failure is that of a formula with an integer that does not become a double. -/
structure ReadsInOrder (scheme : Scheme) (order : List Position) (field : Field)
    (region : Region) (step : Step) : Prop where
  success : ∀ reply, step.result = .ok reply →
    step.reads = order ∧ ∀ place ∈ order, field.Readable region place
  failure : ∀ fault, step.result = .error fault → fault ≠ .tooLarge →
    ∃ before place after, order = before ++ place :: after ∧ step.reads = before ++ [place] ∧
      (∀ earlier ∈ before, field.Readable region earlier) ∧ ¬field.Readable region place ∧
      field.read region place = .error fault
  overflow : step.result = .error .tooLarge → ¬scheme.Convertible ∧ step.reads <+: order ∧
    ∀ place ∈ step.reads, field.Readable region place

namespace Session

theorem readsInOrder_step {session : Session} (derives : session.current.scheme ≠ .blank) :
    ReadsInOrder session.current.scheme
      (session.current.scheme.samplesAt session.current.ndim session.current.position)
      session.source.field session.current.padded (session.step .evaluate) := by
  have followed : Reader.Follows _ _ (session.step .evaluate).reads
      (session.step .evaluate).result :=
    (follows_evaluate derives session.source.field).map fun _ => Reply.done
  constructor
  · intro reply succeeded
    obtain ⟨all, served⟩ := followed.complete reply succeeded
    exact ⟨all, fun place member => Field.serves_iff_readable.1 (served place member)⟩
  · intro fault failed other
    rcases followed.fails fault failed with ⟨arithmetic, _⟩ |
      ⟨before, place, after, split, stopped, served, failure⟩
    · exact absurd arithmetic other
    · refine ⟨before, place, after, split, stopped, ?_, Field.not_readable_of_read failure,
        failure⟩
      intro earlier member
      exact Field.serves_iff_readable.1 (served earlier member)
  · intro failed
    rcases followed.fails .tooLarge failed with ⟨_, served⟩ |
      ⟨before, place, after, split, stopped, served, failure⟩
    · refine ⟨?_, followed.begins, fun place member =>
        Field.serves_iff_readable.1 (served place member)⟩
      -- Were all integers of the formula convertible, a reading would be to blame.
      intro convertible
      have decided : Reader.Decides _ _ (session.step .evaluate).result :=
        (decides_evaluate derives convertible session.source.field).map fun _ => Reply.done
      obtain ⟨_, place, _, _, _, failure⟩ := decided.exists_of_eq_error failed
      cases Field.outOfBounds_of_read failure
    · cases Field.outOfBounds_of_read failure

/-- Whatever has happened before, an evaluation of a gradient or a Hessian reads in the
order that is written out for it. Positioning and copying read nothing, and what comes of
building and copying evaluators does not depend on any sample. -/
theorem readsInOrder_run (source : Source) :
    (∀ stencil region? built, gradient source stencil region? = .ok built →
      ∀ commands : List Command,
        let session := (start source built).run commands
        let order := Scheme.gradientOrder stencil source.ndim session.current.position
        order.length = source.ndim * stencil.terms.length ∧
        ReadsInOrder (.gradient stencil) order session.source.field built.padded
          (session.step .evaluate)) ∧
    (∀ order second first region? built, Scheme.hessianFormulas order = .ok (second, first) →
      hessian source order region? = .ok built →
      ∀ commands : List Command,
        let session := (start source built).run commands
        let order := Scheme.hessianOrder second first source.ndim session.current.position
        order.length = source.ndim * second.terms.length +
          source.ndim * (source.ndim - 1) / 2 * first.terms.length ^ 2 ∧
        (Scheme.hessian second first).Convertible ∧
        ReadsInOrder (.hessian second first) order session.source.field built.padded
          (session.step .evaluate)) ∧
    (∀ session : Session, (session.step .copy).reads = [] ∧
      ∀ motion, (session.step (.reposition motion)).reads = []) ∧
    ∀ other, source.SameOutline other → BuildsAlike source other := by
  refine ⟨?_, ?_, ?_, ?_⟩
  · intro stencil region? built success commands session order
    obtain ⟨sameScheme, samePadded, sameNdim, _⟩ :=
      current_run (gradient_eq_ok_iff.1 success).2 commands
    refine ⟨Scheme.length_gradientOrder stencil source.ndim _, ?_⟩
    have derives : session.current.scheme ≠ .blank := by simp [session, sameScheme]
    have ordered := readsInOrder_step derives
    rw [sameScheme, samePadded, sameNdim, Scheme.samplesAt_gradient] at ordered
    exact ordered
  · intro order second first region? built found success commands session order
    obtain ⟨_, _, sameFound, success⟩ := hessian_eq_ok_iff.1 success
    cases found.symm.trans sameFound
    obtain ⟨sameScheme, samePadded, sameNdim, _⟩ := current_run success commands
    refine ⟨Scheme.length_hessianOrder second first source.ndim _,
      Scheme.convertible_hessian found, ?_⟩
    have derives : session.current.scheme ≠ .blank := by simp [session, sameScheme]
    have ordered := readsInOrder_step derives
    rw [sameScheme, samePadded, sameNdim, Scheme.samplesAt_hessian] at ordered
    exact ordered
  · intro session
    exact ⟨reads_step_copy session, reads_step_reposition session⟩
  · intro other same
    exact buildsAlike_of_sameOutline same

/-- In the middle of a square a Hessian reads along the first axis, in the plane of both
axes, and along the second axis. -/
theorem readsInOrder_square :
    ∃ built, hessian (Source.square 3) (.int 2) none = .ok built ∧
      let session := (start (Source.square 3) built).run
        [.reposition (.setPosition (.ofPosition [1, 1]))]
      (session.step .evaluate).reads =
        [[0, 1], [1, 1], [2, 1], [0, 0], [0, 2], [2, 0], [2, 2], [1, 0], [1, 1], [1, 2]] := by
  let second : Stencil := ⟨.central, 2, 2, [⟨-1, 1⟩, ⟨0, -2⟩, ⟨1, 1⟩], 1, by decide⟩
  let first : Stencil := ⟨.central, 2, 1, [⟨-1, -1⟩, ⟨1, 1⟩], 2, by decide⟩
  let region : Region := ⟨[⟨0, 2, by decide⟩, ⟨0, 2, by decide⟩], by decide⟩
  let built := fresh (Source.square 3) (.hessian second first) region 1 1
  let moved : Evaluator := { built with position := [1, 1] }
  have success : hessian (Source.square 3) (.int 2) none = .ok built := rfl
  have found : Scheme.hessianFormulas (.int 2) = .ok (second, first) := rfl
  have derives : moved.scheme ≠ .blank := by simp [moved, built, fresh]
  have all : Reader.each ((Source.square 3).field.read moved.padded)
      (moved.scheme.samplesAt moved.ndim moved.position) = .ok () := rfl
  obtain ⟨_, served⟩ := (decides_evaluate derives (Scheme.convertible_hessian found)
    (Source.square 3).field).eq_ok_iff.2 (Reader.each_eq_ok_iff.1 all)
  refine ⟨built, success, ?_⟩
  intro session
  have current : session.current = moved := rfl
  have result : (session.step .evaluate).result = .ok .done := by
    rw [result_step_evaluate, current]
    exact congrArg (Except.map fun _ => Reply.done) served
  obtain ⟨_, _, ordered⟩ := (readsInOrder_run (Source.square 3)).2.1 (.int 2) second first none
    built found success [.reposition (.setPosition (.ofPosition [1, 1]))]
  exact (ordered.success .done result).1

end Session

end Evaluator

end LatticeDiff
