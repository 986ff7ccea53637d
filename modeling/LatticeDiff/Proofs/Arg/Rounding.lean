import LatticeDiff.Proofs.Arg.Coordinates
import LatticeDiff.Proofs.Binary64.Integer

/-!
# Positions that are rounded

A position of integers is always accepted as a position, but not always as the same one:
where signed and unsigned words meet, all coordinates are rounded to doubles.
`Position.stored` says what a position becomes. This only happens to positions with a
coordinate beyond the signed words, and afterwards there is still one.
-/

namespace LatticeDiff

namespace Position

/-- Some coordinate lies beyond the signed words. -/
def Far (position : Position) : Prop :=
  ∃ coordinate ∈ position, (Word.signedLimit : Int) ≤ coordinate

/-- All coordinates are words, but no type of words holds all of them. -/
def Mixed (position : Position) : Prop :=
  (∀ coordinate ∈ position, Word.fits coordinate = true) ∧
    (∃ coordinate ∈ position, Word.fitsSigned coordinate = false) ∧
    ∃ coordinate ∈ position, Word.fitsSigned coordinate = true

instance (position : Position) : Decidable position.Mixed :=
  inferInstanceAs (Decidable (_ ∧ _ ∧ _))

/-- The position that is left of a position after it has been gathered into an array. -/
def stored (position : Position) : Position :=
  if position.Mixed then position.map Binary64.rounded else position

theorem stored_of_mixed {position : Position} (mixed : position.Mixed) :
    position.stored = position.map Binary64.rounded :=
  if_pos mixed

theorem stored_of_not_mixed {position : Position} (apart : ¬position.Mixed) :
    position.stored = position :=
  if_neg apart

@[simp] theorem length_stored (position : Position) :
    position.stored.length = position.length := by
  unfold stored
  split
  · exact List.length_map _
  · rfl

theorem stored_stored (position : Position) : position.stored.stored = position.stored := by
  by_cases mixed : position.Mixed
  · rw [stored_of_mixed mixed, stored]
    split
    · rw [List.map_map]
      exact List.map_congr_left fun coordinate _ => Binary64.rounded_rounded coordinate
    · rfl
  · rw [stored_of_not_mixed mixed, stored_of_not_mixed mixed]

/-- Doubles have room for all coordinates, should these meet in them. -/
def Storable (position : Position) : Prop :=
  position.Mixed → ∀ coordinate ∈ position, Binary64.Precise coordinate.natAbs

instance (position : Position) : Decidable position.Storable :=
  inferInstanceAs (Decidable (_ → _))

theorem stored_eq_self_iff {position : Position} :
    position.stored = position ↔ position.Storable := by
  unfold stored Storable
  split
  · next mixed =>
      rw [← List.map_id position, List.map_map, List.map_inj_left, List.map_id]
      simp only [Function.comp_apply, id, Binary64.rounded_eq_self_iff, mixed, true_imp_iff]
  · next unmixed => simp [unmixed]

theorem Mixed.far {position : Position} (mixed : position.Mixed) : position.Far := by
  obtain ⟨fits, ⟨coordinate, member, unsigned⟩, _⟩ := mixed
  refine ⟨coordinate, member, ?_⟩
  have word := fits coordinate member
  simp only [Word.fits, Word.fitsSigned, Bool.and_eq_true, Bool.and_eq_false_imp,
    decide_eq_true_eq, decide_eq_false_iff_not] at word unsigned
  exact Int.not_lt.1 (unsigned word.1)

/-- A position is kept, or it has a coordinate beyond the signed words before and
afterwards. -/
theorem stored_eq_or_far (position : Position) :
    position.stored = position ∨ position.Far ∧ position.stored.Far := by
  by_cases mixed : position.Mixed
  · obtain ⟨coordinate, member, beyond⟩ := mixed.far
    rw [stored_of_mixed mixed]
    exact .inr ⟨mixed.far, _, List.mem_map_of_mem member,
      Binary64.signedLimit_le_rounded beyond⟩
  · exact .inl (stored_of_not_mixed mixed)

end Position

namespace Arg

/-- Integers are no reals and no texts, so only the first and the last rules decide. -/
theorem commonType_ints (position : Position) :
    commonType (position.map Arg.int) =
      if (position.map Arg.int).any isOpaque then .mixed
      else if (position.map Arg.int).any isUnsignedWord &&
        (position.map Arg.int).any isSignedWord then .real
      else if (position.map Arg.int).any fun entry => !entry.isBool then .int
      else .bool := by
  have noneReal : (position.map Arg.int).any isReal = false := by
    simp [isReal]
  have noneTextual : (position.map Arg.int).any isTextual = false := by
    simp [isTextual]
  rw [commonType, noneReal, noneTextual]
  rfl

theorem commonType_ints_ne_text (position : Position) :
    commonType (position.map Arg.int) ≠ .text := by
  intro text
  rw [commonType_ints] at text
  split at text
  · cases text
  · split at text
    · cases text
    · split at text
      · cases text
      · cases text

/-- Integers become doubles exactly if words of both types meet. -/
theorem commonType_ints_eq_real_iff {position : Position} :
    commonType (position.map Arg.int) = .real ↔ position.Mixed := by
  have opaques : (position.map Arg.int).any isOpaque = true ↔
      ¬∀ coordinate ∈ position, Word.fits coordinate = true := by
    simp [isOpaque]
  have meeting : ((position.map Arg.int).any isUnsignedWord &&
      (position.map Arg.int).any isSignedWord) = true ↔
        (∃ coordinate ∈ position,
          Word.fits coordinate = true ∧ Word.fitsSigned coordinate = false) ∧
        ∃ coordinate ∈ position, Word.fitsSigned coordinate = true := by
    simp [isUnsignedWord, isSignedWord]
  rw [commonType_ints, Position.Mixed]
  split
  · next some =>
      rw [opaques] at some
      simp [some]
  · next none =>
      rw [opaques, not_not] at none
      split
      · next both =>
          obtain ⟨⟨coordinate, member, _, unsigned⟩, signed⟩ := meeting.1 both
          simp only [true_iff]
          exact ⟨none, ⟨coordinate, member, unsigned⟩, signed⟩
      · next apart =>
          have notMixed : ¬((∃ coordinate ∈ position, Word.fitsSigned coordinate = false) ∧
              ∃ coordinate ∈ position, Word.fitsSigned coordinate = true) := by
            rintro ⟨⟨coordinate, member, unsigned⟩, signed⟩
            have fits := none coordinate member
            exact apart (meeting.2 ⟨⟨coordinate, member, fits, unsigned⟩, signed⟩)
          split <;> simp [notMixed]

theorem mapM_integral_reals {name : String} {position : Position}
    (fits : ∀ coordinate ∈ position, Word.fits coordinate = true) :
    (position.map fun coordinate => Arg.real (Float.ofInt coordinate)).mapM (integral name) =
      .ok (position.map Binary64.rounded) := by
  induction position with
  | nil => rfl
  | cons coordinate position ih =>
      have first : integral name (.real (Float.ofInt coordinate)) =
          .ok (Binary64.rounded coordinate) := by
        simp only [integral, Binary64.integer?_ofInt (fits coordinate (by simp))]
      have rest := ih fun other member => fits other (by simp [member])
      rw [List.map_cons, List.mapM_cons, first, rest]
      rfl

theorem coordinates_ofPosition_eq_stored (position : Position) :
    (ofPosition position).coordinates position.length = .ok position.stored := by
  have shape : (ofPosition position).arrayShape? = some [position.length] := by
    simp [ofPosition, arrayShape?, shape?, Shape.axisLimit]
  have unified : (ofPosition position).coordinates position.length =
      (unify (position.map Arg.int)).mapM (integral "coordinate") := by
    simp only [coordinates, shape, if_true]
    rw [ofPosition, scalars, scalarsOf_ints]
  by_cases mixed : position.Mixed
  · have type := commonType_ints_eq_real_iff.2 mixed
    rw [unified, unify, type, Position.stored_of_mixed mixed, ← mapM_integral_reals mixed.1,
      List.map_map]
    rfl
  · have same : unify (position.map Arg.int) = position.map Arg.int := by
      unfold unify
      cases type : commonType (position.map Arg.int) with
      | text => exact absurd type (commonType_ints_ne_text position)
      | real => exact absurd (commonType_ints_eq_real_iff.1 type) mixed
      | mixed | int | bool => simp [toEntryType]
    rw [unified, same, Position.stored_of_not_mixed mixed]
    exact mapM_integral_ints "coordinate" position

end Arg

end LatticeDiff
