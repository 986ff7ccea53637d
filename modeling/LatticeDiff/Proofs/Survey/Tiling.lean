import LatticeDiff.Proofs.Region.Inside
import LatticeDiff.Proofs.Survey.Fields

/-!
# Sweeps over parts of a region

Where the derivatives over a region can be had, so can those over every part of it, and
position by position they are the same. So a sweep may be put together from sweeps over
parts of its region.
-/

namespace LatticeDiff

namespace Survey

open Evaluator

/-- One grid holds at every position of a region the entries that another grid holds there,
for the position as one of another region. -/
def Tiles (inner outer : Region) (entryShape : Shape) (part whole : Grid) : Prop :=
  ∀ position, inner.Holds position → ∀ entry, entryShape.contains entry = true →
    ∃ value, part.cell? (inner.indexOf position ++ entry) = some value ∧
      whole.cell? (outer.indexOf position ++ entry) = some value

variable {machine : Machine}

theorem exists_of_recordedSweep {survey : Survey} {built : Except Fault (Evaluator × Record)}
    {entryShape : Shape} {grid : Grid}
    (success : (survey.recordedSweep machine built entryShape).1 = .ok grid) :
    ∃ new record, built = .ok (new, record) ∧ survey.sweep machine new entryShape = .ok grid := by
  cases built with
  | error fault => cases success
  | ok answer =>
      refine ⟨answer.1, answer.2, rfl, ?_⟩
      rwa [← fst_recordedSweep survey answer.1 answer.2 entryShape]

theorem room_of_sweep {survey : Survey} {new : Evaluator} {entryShape : Shape} {grid : Grid}
    (success : survey.sweep machine new entryShape = .ok grid) :
    survey.RoomFor machine entryShape := by
  by_contra crowded
  rcases sweep_of_not_roomFor crowded with failed | failed
  · rw [failed] at success
    cases success
  · rw [failed] at success
    cases success

/-- Where there is room for a sweep over a region, there is for one over a part of it. -/
theorem RoomFor.inside {source : Source} {inner outer : Region} {entryShape : Shape}
    (inside : inner.Inside outer) (room : RoomFor machine ⟨source, outer⟩ entryShape) :
    RoomFor machine ⟨source, inner⟩ entryShape := by
  have shorter : List.Forall₂ (· ≤ ·) (inner.shape ++ entryShape) (outer.shape ++ entryShape) :=
    List.rel_append inside.shape_le (List.forall₂_same.2 fun length _ => Nat.le_refl length)
  exact ⟨Shape.canLayOut_of_le shorter room.layout, Shape.fitsMemory_of_le shorter room.memory,
    (inside.listable ((listable_iff room.layout).2 room.lists)).memory⟩

theorem exists_lookup_of_gradient {survey : Survey} {kind order : Arg} {new : Evaluator}
    {record : Record} (success : survey.gradient kind order = .ok (new, record)) :
    ∃ stencil, Stencil.lookup kind order (.int 1) = .ok stencil := by
  obtain ⟨known, named, success⟩ := Outcome.bind_eq_ok.1 success
  obtain ⟨stencil, found, _⟩ := Outcome.bind_eq_ok.1 success
  refine ⟨stencil, ?_⟩
  rw [Stencil.lookup, named]
  exact found

theorem exists_formulas_of_hessian {survey : Survey} {order : Arg} {new : Evaluator}
    {record : Record} (success : survey.hessian order = .ok (new, record)) :
    ∃ second first, Scheme.hessianFormulas order = .ok (second, first) := by
  obtain ⟨⟨second, first⟩, found, _⟩ := Outcome.bind_eq_ok.1 success
  exact ⟨second, first, found⟩

section Parts

variable {source : Source} {inner outer : Region} {scheme : Scheme} {low high : Nat}
  {entryShape : Shape}

/-- New evaluators for two regions have the same matrix where both of them evaluate with
success. -/
theorem Suits.matrix_eq_of_placed
    (part : Suits ⟨source, inner⟩ (fresh source scheme inner low high) low high)
    {target : Arg} {placed other : Evaluator} {field : Field}
    (accepted : (fresh source scheme inner low high).setPosition target = .ok placed)
    (otherAccepted : (fresh source scheme outer low high).setPosition target = .ok other)
    (same : other.position = placed.position)
    (evaluated : (placed.evaluate field).result = .ok ())
    (otherEvaluated : (other.evaluate field).result = .ok ()) :
    (other.evaluate field).evaluator.matrix = (placed.evaluate field).evaluator.matrix := by
  have alike := (Moved.of_setPosition accepted).alike
  have otherAlike := (Moved.of_setPosition otherAccepted).alike
  have derives : placed.scheme ≠ .blank := by
    rw [alike.scheme]
    exact part.derives
  have convertible : placed.scheme.Convertible := by
    rw [alike.scheme]
    exact part.convertible
  exact matrix_evaluate_eq derives convertible (alike.wellFormed part.formed).shape
    (otherAlike.scheme.trans alike.scheme.symm) (otherAlike.shape.trans alike.shape.symm) same
    evaluated otherEvaluated

/-- If a sweep over a region succeeds, so does one over a part of it, and gives the same at
the positions of the part. -/
theorem tiles_of_sweep (inside : inner.Inside outer)
    (part : Suits ⟨source, inner⟩ (fresh source scheme inner low high) low high)
    (whole : Suits ⟨source, outer⟩ (fresh source scheme outer low high) low high)
    (volume : entryShape.volume = (scheme.matrixShape source.ndim).volume)
    (cellOf : List Nat → List Nat)
    (cells : ∀ entry, entryShape.contains entry = true →
      (scheme.matrixShape source.ndim).contains (cellOf entry) = true ∧
        (scheme.matrixShape source.ndim).rank (cellOf entry) = entryShape.rank entry)
    {large : Grid}
    (success : sweep machine ⟨source, outer⟩ (fresh source scheme outer low high) entryShape =
      .ok large) :
    ∃ small,
      sweep machine ⟨source, inner⟩ (fresh source scheme inner low high) entryShape =
        .ok small ∧
      Tiles inner outer entryShape small large := by
  have partNdim : (fresh source scheme inner low high).ndim = source.ndim :=
    part.ndim.trans part.source
  have wholeNdim : (fresh source scheme outer low high).ndim = source.ndim :=
    whole.ndim.trans whole.source
  have room := room_of_sweep success
  have partSwept := sweptBy_sweep part (by rwa [partNdim]) (by rwa [partNdim]) (room.inside inside)
  have wholeSwept := sweptBy_sweep whole (by rwa [wholeNdim]) (by rwa [wholeNdim]) room
  have fits := wholeSwept.success.1 ⟨large, success⟩
  obtain ⟨small, given⟩ := partSwept.success.2 ((inside.pad low high).fits fits)
  refine ⟨small, given, ?_⟩
  intro position held entry inEntry
  obtain ⟨placed, accepted, stands, evaluated, stored⟩ := partSwept.cell small given position held
  obtain ⟨other, otherAccepted, otherStands, otherEvaluated, otherStored⟩ :=
    wholeSwept.cell large success position (inside.holds held)
  have same := part.matrix_eq_of_placed accepted otherAccepted (otherStands.trans stands.symm)
    evaluated otherEvaluated
  obtain ⟨value, inSmall, inMatrix⟩ := stored entry inEntry
  obtain ⟨otherValue, inLarge, inOther⟩ := otherStored entry inEntry
  rw [same, inMatrix, Option.some.injEq] at inOther
  subst inOther
  exact ⟨value, inSmall, inLarge⟩

end Parts

/-- Sweeps can be tiled: if the gradients or the Hessians over a region can be had, so can
those over any region that has no position outside of it, and they are the same. -/
theorem fields_tiled {source : Source} {inner outer : Region}
    (same : outer.ndim = source.ndim)
    (small : ∀ length ∈ source.field.shape, length < Word.signedLimit)
    (within : ∀ position, inner.Holds position → outer.Holds position) :
    (∀ kind order whole, (gradientField machine ⟨source, outer⟩ kind order).1 = .ok whole →
      ∃ part, (gradientField machine ⟨source, inner⟩ kind order).1 = .ok part ∧
        Tiles inner outer [source.ndim] part whole) ∧
    (∀ order whole, (hessianField machine ⟨source, outer⟩ order).1 = .ok whole →
      ∃ part, (hessianField machine ⟨source, inner⟩ order).1 = .ok part ∧
        Tiles inner outer [source.ndim, source.ndim] part whole) := by
  have inside := Region.inside_of_holds within
  have innerSame : inner.ndim = source.ndim := inside.ndim_eq.trans same
  constructor
  · intro kind order large success
    obtain ⟨_, _, handed, _⟩ := exists_of_recordedSweep success
    obtain ⟨stencil, found⟩ := exists_lookup_of_gradient handed
    have tabulated := Stencil.mem_all_of_lookup found
    have reaches := Scheme.reaches_gradient tabulated
    have convertible := Stencil.convertible_of_mem_all tabulated
    rw [fst_gradientField ⟨source, outer⟩ same found] at success
    rw [fst_gradientField ⟨source, inner⟩ innerSame found]
    refine tiles_of_sweep inside
      (suits_fresh innerSame small reaches (by simp) convertible)
      (suits_fresh same small reaches (by simp) convertible) ?_ (· ++ [0]) ?_ success
    · rfl
    · intro entry inEntry
      exact contains_gradient_entry inEntry
  · intro order large success
    obtain ⟨_, _, handed, _⟩ := exists_of_recordedSweep success
    obtain ⟨second, first, found⟩ := exists_formulas_of_hessian handed
    have reaches := Scheme.reaches_hessian found
    have convertible := Scheme.convertible_hessian found
    rw [fst_hessianField ⟨source, outer⟩ same found] at success
    rw [fst_hessianField ⟨source, inner⟩ innerSame found]
    refine tiles_of_sweep inside
      (suits_fresh innerSame small reaches (by simp) convertible)
      (suits_fresh same small reaches (by simp) convertible) ?_ id ?_ success
    · rfl
    · intro entry inEntry
      exact ⟨inEntry, rfl⟩

/-- Forward differences in the low quarter of a square, and in the second row of it. -/
theorem fields_tiled_square :
    let quarter : Survey :=
      ⟨Source.square 3, ⟨[⟨0, 1, by decide⟩, ⟨0, 1, by decide⟩], by decide⟩⟩
    let row : Survey :=
      ⟨Source.square 3, ⟨[⟨1, 1, by decide⟩, ⟨0, 1, by decide⟩], by decide⟩⟩
    ∃ whole part, (quarter.gradientField .small (.kind .forward) (.int 1)).1 = .ok whole ∧
      (row.gradientField .small (.kind .forward) (.int 1)).1 = .ok part ∧
      ∃ value, part.cell? [0, 1, 0] = some value ∧ whole.cell? [1, 1, 0] = some value := by
  intro quarter row
  let stencil : Stencil := ⟨.forward, 1, 1, [⟨0, -1⟩, ⟨1, 1⟩], 1, by decide⟩
  have found : Stencil.lookup (.kind .forward) (.int 1) (.int 1) = .ok stencil := rfl
  have tabulated := Stencil.mem_all_of_lookup found
  have small : ∀ length ∈ (Source.square 3).field.shape, length < Word.signedLimit := by
    decide
  have inside : row.region.Inside quarter.region :=
    .cons (by decide) (.cons (by decide) .nil)
  have suits : quarter.Suits _ _ _ := suits_fresh rfl small (Scheme.reaches_gradient tabulated)
    (by simp) (Stencil.convertible_of_mem_all tabulated)
  have room : quarter.RoomFor .small [2] := ⟨by decide, by decide, by decide⟩
  have ended : SweptBy quarter _ [2] (· ++ [0]) (quarter.sweep .small _ [2]) :=
    sweptBy_sweep suits rfl (fun entry => contains_gradient_entry) room
  have fits : (quarter.region.pad 0 1).Fits [3, 3] := .cons (by decide) (.cons (by decide) .nil)
  obtain ⟨whole, success⟩ := ended.success.2 fits
  have swept := (fst_gradientField quarter rfl found).trans success
  obtain ⟨part, given, tiles⟩ := (fields_tiled rfl small fun _ => inside.holds).1
    (.kind .forward) (.int 1) whole swept
  refine ⟨whole, part, swept, given, ?_⟩
  exact tiles [1, 1] (.cons (by decide) (.cons (by decide) .nil)) [0] (by decide)

end Survey

end LatticeDiff
