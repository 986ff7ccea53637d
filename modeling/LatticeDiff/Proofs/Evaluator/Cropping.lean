import LatticeDiff.Proofs.Evaluator.Run
import LatticeDiff.Proofs.Field.Cropping

/-!
# Derivatives of cropped fields

An evaluator over a part of a field reads what an evaluator over the whole field reads that
stands at the translated position, in the translated region. So where the first one finds its
derivatives, the second one finds the same.
-/

namespace LatticeDiff

/-- What is estimated from samples is estimated from the same samples at translated positions. -/
theorem Derivative.estimateAt_plus_of_ok {first second : Reader} {derivative : Derivative}
    {position : Position} {steps : List Int} {value : Float}
    (carried : ∀ place sample, first place = .ok sample → second (place.plus steps) = .ok sample)
    (estimated : derivative.estimateAt first position = .ok value) :
    derivative.estimateAt second (position.plus steps) = .ok value := by
  cases derivative with
  | along stencil axis =>
      apply estimateAt_along_of_ok _ estimated
      intro offset _ sample found
      rw [← Position.plus_shift]
      exact carried _ sample found
  | mixed stencil outer inner =>
      apply estimateAt_mixed_of_ok _ estimated
      intro far _ near _ sample found
      rw [← Position.plus_shift, ← Position.plus_shift]
      exact carried _ sample found

namespace Evaluator

/-- What is found in a part of a field is found in the whole field as well. -/
theorem evaluate_of_crop {field : Field} {box : Region} {part whole : Evaluator}
    (fits : box.Fits field.shape) (derives : part.scheme ≠ .blank)
    (shaped : part.matrix.shape = part.scheme.matrixShape part.ndim)
    (sameScheme : whole.scheme = part.scheme) (sameShape : whole.matrix.shape = part.matrix.shape)
    (sameNdim : whole.ndim = part.ndim) (padded : whole.padded = part.padded.translate box.low)
    (position : whole.position = part.position.plus box.low)
    (success : (part.evaluate (field.crop box)).result = .ok ()) :
    (whole.evaluate field).result = .ok () ∧
      (whole.evaluate field).evaluator.matrix =
        (part.evaluate (field.crop box)).evaluator.matrix := by
  have filled := success
  rw [evaluate_eq derives] at filled
  have agree : ∀ entry ∈ part.scheme.entries part.ndim,
      entry.derivative.estimateAt (field.read whole.padded) whole.position =
        entry.derivative.estimateAt ((field.crop box).read part.padded) part.position := by
    intro entry member
    obtain ⟨value, estimated⟩ := Entry.exists_of_fillAllAt_eq_ok filled entry member
    rw [position, padded, estimated]
    apply Derivative.estimateAt_plus_of_ok _ estimated
    intro place sample
    exact Field.read_of_read_crop fits
  obtain ⟨sameResult, sameMatrix⟩ :=
    evaluate_eq_of_estimates derives shaped sameScheme sameShape sameNdim agree
  exact ⟨sameResult.trans success, sameMatrix success⟩

theorem ofScheme_of_crop {source : Source} {box : Region}
    (fits : box.Fits source.field.shape) {scheme : Scheme} {region? : Option Region}
    {part : Evaluator} (built : ofScheme (source.crop box) scheme region? = .ok part) :
    ∃ whole, ofScheme source scheme (some (part.region.translate box.low)) = .ok whole ∧
      whole.padded = part.padded.translate box.low := by
  obtain ⟨region, low, high, settled, reach, rfl⟩ := ofScheme_eq_ok_iff.1 built
  have sameNdim : region.ndim = source.ndim := by
    rw [Source.ndim_of_regionOfInterest settled, Source.ndim_crop]
    exact fits.length_eq
  have accepted : source.regionOfInterest (some (region.translate box.low)) =
      .ok (region.translate box.low) := by
    rw [Source.regionOfInterest_some_eq_ok_iff, Region.ndim_translate]
    exact ⟨rfl, sameNdim⟩
  refine ⟨fresh source scheme (region.translate box.low) low high, ?_,
    region.pad_translate box.low low high⟩
  exact ofScheme_eq_ok_iff.2 ⟨_, low, high, accepted, reach, rfl⟩

namespace Session

/-- Cropping does not change derivatives. To every evaluator over a part of a source there is
one over the whole source, by the same recipe and for the translated region. Whatever has
happened to both of them: where the first one succeeds, the second one succeeds at the
translated position if the samples of the part are still the same, and has the same matrix. -/
theorem cropped_run {source : Source} {box : Region} (fits : box.Fits source.field.shape)
    {recipe : Recipe} {region? : Option Region} {part : Evaluator}
    (built : recipe.build (source.crop box) region? = .ok part) :
    ∃ whole, recipe.build source (some (part.region.translate box.low)) = .ok whole ∧
      ∀ commands others : List Command,
        let inPart := (start (source.crop box) part).run commands
        let inWhole := (start source whole).run others
        inPart.source.field = inWhole.source.field.crop box →
        inWhole.current.position = inPart.current.position.plus box.low →
        (inPart.current.evaluate inPart.source.field).result = .ok () →
        (inWhole.current.evaluate inWhole.source.field).result = .ok () ∧
          (inWhole.current.evaluate inWhole.source.field).evaluator.matrix =
            (inPart.current.evaluate inPart.source.field).evaluator.matrix := by
  obtain ⟨scheme, settled, built⟩ := Recipe.build_eq_ok_iff.1 built
  obtain ⟨whole, success, padded⟩ := ofScheme_of_crop fits built
  refine ⟨whole, Recipe.build_eq_ok_iff.2 ⟨scheme, settled, success⟩, ?_⟩
  intro commands others inPart inWhole sameSamples position
  obtain ⟨partScheme, partPadded, partNdim, partShape⟩ := current_run built commands
  obtain ⟨wholeScheme, wholePadded, wholeNdim, wholeShape⟩ := current_run success others
  have sameNdim : inWhole.current.ndim = inPart.current.ndim := by
    rw [wholeNdim, partNdim, Source.ndim_crop]
    exact fits.length_eq.symm
  have sameScheme : inWhole.current.scheme = inPart.current.scheme :=
    wholeScheme.trans partScheme.symm
  rw [sameSamples]
  apply evaluate_of_crop _ _ partShape sameScheme _ sameNdim _ position
  · rw [shape_run]
    exact fits
  · rw [partScheme]
    exact Recipe.scheme_ne_blank settled
  · rw [wholeShape, partShape, sameScheme, sameNdim]
  · rw [wholePadded, partPadded, padded]

/-- The lower rows of a square, where both evaluators take a step from their corners. -/
theorem cropped_square :
    let box : Region := ⟨[⟨1, 2, by decide⟩, ⟨0, 2, by decide⟩], by decide⟩
    let recipe : Recipe := .gradient ⟨.forward, 1, 1, [⟨0, -1⟩, ⟨1, 1⟩], 1, by decide⟩
    let commands : List Command := [.reposition (.forward (.int 1))]
    ∃ part whole, recipe.build ((Source.square 3).crop box) none = .ok part ∧
      recipe.build (Source.square 3) (some (part.region.translate [1, 0])) = .ok whole ∧
      let inPart := (start ((Source.square 3).crop box) part).run commands
      let inWhole := (start (Source.square 3) whole).run commands
      (inPart.current.evaluate inPart.source.field).result = .ok () ∧
        (inWhole.current.evaluate inWhole.source.field).result = .ok () ∧
        (inWhole.current.evaluate inWhole.source.field).evaluator.matrix =
          (inPart.current.evaluate inPart.source.field).evaluator.matrix := by
  intro box recipe commands
  let stencil : Stencil := ⟨.forward, 1, 1, [⟨0, -1⟩, ⟨1, 1⟩], 1, by decide⟩
  let region : Region := ⟨[⟨0, 1, by decide⟩, ⟨0, 2, by decide⟩], by decide⟩
  let part := fresh ((Source.square 3).crop box) (.gradient stencil) region 0 1
  have fits : box.Fits (Source.square 3).field.shape :=
    .cons (by decide) (.cons (by decide) .nil)
  have built : recipe.build ((Source.square 3).crop box) none = .ok part := rfl
  obtain ⟨whole, success, follows⟩ := cropped_run fits built
  have alsoBuilt : whole = fresh (Source.square 3) (.gradient stencil)
    (region.translate [1, 0]) 0 1 := (Except.ok.inj success).symm
  let moved : Evaluator := { part with position := [0, 1] }
  have derives : moved.scheme ≠ .blank := by simp [moved, part, fresh]
  have convertible : moved.scheme.Convertible := ⟨by decide +kernel, by decide +kernel⟩
  have found : (moved.evaluate ((Source.square 3).crop box).field).result = .ok () :=
    result_evaluate_eq_each derives convertible _
  refine ⟨part, whole, built, success, found, ?_⟩
  subst alsoBuilt
  exact follows commands commands rfl rfl found

end Session

end Evaluator

end LatticeDiff
