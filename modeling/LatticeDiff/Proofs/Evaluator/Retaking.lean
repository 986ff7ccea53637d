import LatticeDiff.Proofs.Arg.Elementwise
import LatticeDiff.Proofs.Evaluator.Construction
import LatticeDiff.Proofs.Evaluator.Repositioning

/-!
# Positions that are taken twice

An evaluator takes a position and hands it on to its cursor, which takes it once more. What
has been accepted once is accepted again, and almost always it is the same then. It is not
if booleans stand beside words that are no signed ones: these are integers among themselves,
but beside the zeros and ones that the booleans have become only doubles have room for them.
-/

namespace LatticeDiff

namespace Arg

variable {entries : List Arg}

/-- Booleans beside words beyond the signed ones, one of which has more digits than a
double. -/
structure Unsettled (entries : List Arg) : Prop where
  kinds : ∀ entry ∈ entries, entry.isBool = true ∨ entry.isUnsignedWord = true
  boolean : ∃ entry ∈ entries, entry.isBool = true
  rough : ∃ value, Arg.int value ∈ entries ∧ ¬Binary64.Precise value.natAbs

theorem precise_ofBit (value : Bool) : Binary64.Precise (ofBit value).natAbs := by
  cases value with
  | false => decide
  | true => decide

/-- An accepted row consists of numbers, unless one of its entries is an integer beyond the
words, which keeps all of them as they are. -/
theorem numbers_of_coordinates (flat : ∀ entry ∈ entries, entry.shape? = some [])
    {accepted : Position}
    (success : (Arg.list entries).coordinates entries.length = .ok accepted) :
    (Numbers entries ∧ accepted = if MeetInDoubles entries then
        (entries.filterMap equalInt?).map Binary64.rounded else entries.filterMap equalInt?) ∨
      ∃ value, Arg.int value ∈ entries ∧ value ∈ accepted ∧ Word.fits value = false := by
  by_cases kept : ∃ entry ∈ entries, entry.isOpaque = true
  · right
    rw [coordinates_row flat, unify_eq_self (.inl (commonType_eq_mixed kept))] at success
    obtain ⟨entry, member, opaqueEntry⟩ := kept
    obtain ⟨whole, taken⟩ := Outcome.exists_mapM_eq_ok_iff.1 ⟨_, success⟩ entry member
    have equal := (integral_eq_ok_iff.1 taken).1
    rw [eq_filterMap_of_mapM_integral success]
    cases entry with
    | int value =>
        have beyond : Word.fits value = false := by simpa [isOpaque] using opaqueEntry
        exact ⟨value, member, List.mem_filterMap.2 ⟨_, member, rfl⟩, beyond⟩
    | nothing => cases equal
    | bool | real | text | kind | list => cases opaqueEntry
  · left
    have numbers : Numbers entries := by
      intro entry member
      refine ⟨by simpa using fun found => kept ⟨entry, member, found⟩, ?_⟩
      apply Option.ne_none_iff_exists'.1
      intro unequal
      exact coordinates_ne_ok flat member unequal accepted success
    refine ⟨numbers, ?_⟩
    by_cases proper : ∃ entry ∈ entries, entry.isBool = false
    · rw [coordinates_of_numbers numbers proper] at success
      exact (Except.ok.inj success).symm
    · have apart : ¬MeetInDoubles entries := fun meet => proper meet.proper
      have type := commonType_of_numbers numbers
      rw [if_neg apart, if_neg proper] at type
      rw [coordinates_row flat, unify_eq_self (.inr type)] at success
      rw [if_neg apart, eq_filterMap_of_mapM_integral success]

theorem fitsSigned_ofBit (value : Bool) : Word.fitsSigned (ofBit value) = true := by
  cases value with
  | false => decide
  | true => decide

theorem Unsettled.bool_or_word (unsettled : Unsettled entries) {entry : Arg}
    (member : entry ∈ entries) :
    (∃ bit, entry = .bool bit) ∨
      ∃ value, entry = .int value ∧ Word.fits value = true ∧ Word.fitsSigned value = false := by
  have kinds := unsettled.kinds entry member
  cases entry with
  | bool bit => exact .inl ⟨bit, rfl⟩
  | int value =>
      simp only [isBool, isUnsignedWord, Bool.false_eq_true, false_or, Bool.and_eq_true,
        Bool.not_eq_true'] at kinds
      exact .inr ⟨value, rfl, kinds⟩
  | nothing | real | text | kind | list => simp [isBool, isUnsignedWord] at kinds

theorem Unsettled.numbers (unsettled : Unsettled entries) : Numbers entries := by
  intro entry member
  rcases unsettled.bool_or_word member with ⟨bit, rfl⟩ | ⟨value, rfl, fits, _⟩
  · exact ⟨rfl, ofBit bit, rfl⟩
  · exact ⟨by simp [isOpaque, fits], value, rfl⟩

/-- Booleans are neither floats nor words, so they stand beside words of one type only. -/
theorem Unsettled.apart (unsettled : Unsettled entries) : ¬MeetInDoubles entries := by
  rintro (⟨entry, member, real⟩ | ⟨_, entry, member, signed⟩)
  · rcases unsettled.bool_or_word member with ⟨_, rfl⟩ | ⟨_, rfl, _⟩ <;> cases real
  · rcases unsettled.bool_or_word member with ⟨_, rfl⟩ | ⟨value, rfl, _, unsigned⟩
    · cases signed
    · rw [isSignedWord, unsigned] at signed
      cases signed

theorem Unsettled.coordinates (unsettled : Unsettled entries) :
    (Arg.list entries).coordinates entries.length = .ok (entries.filterMap equalInt?) := by
  obtain ⟨value, member, _⟩ := unsettled.rough
  rw [coordinates_of_numbers unsettled.numbers ⟨_, member, rfl⟩, if_neg unsettled.apart]

/-- What an unsettled row is accepted as is changed by being stored. -/
theorem Unsettled.not_storable (unsettled : Unsettled entries) :
    ¬Position.Storable (entries.filterMap equalInt?) := by
  intro storable
  obtain ⟨value, member, rough⟩ := unsettled.rough
  have among : value ∈ entries.filterMap equalInt? := List.mem_filterMap.2 ⟨_, member, rfl⟩
  refine rough (storable ⟨?_, ?_, ?_⟩ value among)
  · intro coordinate found
    obtain ⟨entry, entryMember, equal⟩ := List.mem_filterMap.1 found
    rcases unsettled.bool_or_word entryMember with ⟨bit, rfl⟩ | ⟨_, rfl, fits, _⟩
    · cases equal
      cases bit <;> decide
    · cases equal
      exact fits
  · rcases unsettled.bool_or_word member with ⟨_, ⟨⟩⟩ | ⟨_, ⟨⟩, _, unsigned⟩
    exact ⟨value, among, unsigned⟩
  · obtain ⟨entry, entryMember, boolean⟩ := unsettled.boolean
    cases entry with
    | bool bit =>
        exact ⟨ofBit bit, List.mem_filterMap.2 ⟨_, entryMember, rfl⟩, fitsSigned_ofBit bit⟩
    | nothing | int | real | text | kind | list => cases boolean

/-- Without a float, the integer that a number is equal to comes from an integer or from a
boolean. -/
theorem mem_or_ofBit_of_equalInt? (apart : ¬MeetInDoubles entries) {coordinate : Int}
    (found : coordinate ∈ entries.filterMap equalInt?) :
    Arg.int coordinate ∈ entries ∨ ∃ bit, Arg.bool bit ∈ entries ∧ ofBit bit = coordinate := by
  obtain ⟨entry, member, equal⟩ := List.mem_filterMap.1 found
  cases entry with
  | int =>
      cases equal
      exact .inl member
  | bool bit =>
      cases equal
      exact .inr ⟨bit, member, rfl⟩
  | real => exact absurd (.inl ⟨_, member, rfl⟩) apart
  | nothing | text | kind | list => cases equal

/-- Conversely, only unsettled rows are changed. -/
theorem unsettled_of_not_storable (numbers : Numbers entries) (apart : ¬MeetInDoubles entries)
    (changed : ¬Position.Storable (entries.filterMap equalInt?)) : Unsettled entries := by
  unfold Position.Storable at changed
  push Not at changed
  obtain ⟨⟨_, ⟨beyond, beyondFound, unsigned⟩, within, withinFound, signed⟩, coordinate, found,
    rough⟩ := changed
  -- The coordinate beyond the signed words is an integer, which keeps other integers from
  -- being signed words, so that the coordinate within them is a boolean.
  have isInteger : Arg.int beyond ∈ entries := by
    rcases mem_or_ofBit_of_equalInt? apart beyondFound with member | ⟨bit, _, rfl⟩
    · exact member
    · rw [fitsSigned_ofBit] at unsigned
      cases unsigned
  have noneSigned : ∀ entry ∈ entries, entry.isSignedWord = false := by
    intro entry member
    by_contra signedWord
    rw [Bool.not_eq_false] at signedWord
    have word := (numbers _ isInteger).1
    simp only [isOpaque, Bool.not_eq_false'] at word
    exact apart (.inr ⟨⟨_, isInteger, by simp [isUnsignedWord, word, unsigned]⟩,
      entry, member, signedWord⟩)
  refine ⟨?_, ?_, coordinate, ?_, rough⟩
  · intro entry member
    obtain ⟨word, whole, equal⟩ := numbers entry member
    have notSigned := noneSigned entry member
    cases entry with
    | int value =>
        simp only [isOpaque, Bool.not_eq_false'] at word
        simp only [isSignedWord] at notSigned
        simp [isUnsignedWord, word, notSigned]
    | bool => exact .inl rfl
    | real => exact absurd (.inl ⟨_, member, rfl⟩) apart
    | nothing | text | kind | list => cases equal
  · rcases mem_or_ofBit_of_equalInt? apart withinFound with member | ⟨bit, member, _⟩
    · have notSigned := noneSigned _ member
      simp only [isSignedWord, signed] at notSigned
      cases notSigned
    · exact ⟨_, member, rfl⟩
  · rcases mem_or_ofBit_of_equalInt? apart found with member | ⟨bit, _, rfl⟩
    · exact member
    · exact absurd (precise_ofBit bit) rough

theorem storable_map_rounded (position : Position) :
    Position.Storable (position.map Binary64.rounded) := by
  intro _ coordinate member
  obtain ⟨before, _, rfl⟩ := List.mem_map.1 member
  exact Binary64.rounded_eq_self_iff.1 (Binary64.rounded_rounded before)

/-- What a row has been accepted as can be stored, unless the row is unsettled. -/
theorem storable_iff_of_coordinates (flat : ∀ entry ∈ entries, entry.shape? = some [])
    {accepted : Position}
    (success : (Arg.list entries).coordinates entries.length = .ok accepted) :
    accepted.Storable ↔ ¬Unsettled entries := by
  rcases numbers_of_coordinates flat success with ⟨numbers, rfl⟩ | ⟨value, member, kept, beyond⟩
  · split
    · next meet =>
        have settled : ¬Unsettled entries := fun unsettled => unsettled.apart meet
        simp only [settled, not_false_iff, iff_true]
        exact storable_map_rounded _
    · next apart =>
        constructor
        · exact fun storable unsettled => unsettled.not_storable storable
        · intro settled
          by_contra changed
          exact settled (unsettled_of_not_storable numbers apart changed)
  · constructor
    · intro _ unsettled
      have word := (unsettled.numbers _ member).1
      simp [isOpaque, beyond] at word
    · intro _ mixed
      rw [mixed.1 value kept] at beyond
      cases beyond

end Arg

namespace Evaluator

/-- The cursor of an evaluator. -/
def cursor (evaluator : Evaluator) : Cursor :=
  ⟨evaluator.padded, evaluator.position⟩

/-- An evaluator moves to where its cursor would, as that position is stored, and refuses
what its cursor refuses. -/
theorem setPosition_eq_map (evaluator : Evaluator) (position : Arg) :
    evaluator.setPosition position = (evaluator.cursor.setPosition position).map fun moved =>
      { evaluator with position := moved.position.stored } := by
  rw [setPosition, cursor, Cursor.setPosition, Cursor.ndim, ndim]
  cases success : position.coordinates evaluator.position.length with
  | error fault => rfl
  | ok accepted => exact place_eq (Arg.length_of_coordinates success)

theorem setPosition_agrees_iff {evaluator : Evaluator} {position : Arg} {accepted : Position}
    (success : position.coordinates evaluator.ndim = .ok accepted) :
    (evaluator.setPosition position).map cursor = evaluator.cursor.setPosition position ↔
      accepted.stored = accepted := by
  have placed : evaluator.cursor.setPosition position = .ok ⟨evaluator.padded, accepted⟩ := by
    rw [Cursor.setPosition, Cursor.ndim, cursor, ← ndim, success]
    rfl
  rw [setPosition_eq_map, placed]
  simp [Except.map, cursor]

/-- An evaluator and its cursor part exactly at the unsettled rows of as many entries as there
are axes. -/
theorem setPosition_agrees_iff_settled (evaluator : Evaluator) (position : Arg) :
    (evaluator.setPosition position).map cursor = evaluator.cursor.setPosition position ↔
      ¬∃ entries, position = .list entries ∧ entries.length = evaluator.ndim ∧
        Arg.Unsettled entries := by
  cases success : position.coordinates evaluator.ndim with
  | error fault =>
      have refused : evaluator.cursor.setPosition position = .error fault := by
        rw [Cursor.setPosition, Cursor.ndim, cursor, ← ndim, success]
        rfl
      rw [setPosition_eq_map, refused]
      simp only [Except.map, true_iff]
      rintro ⟨entries, rfl, length, unsettled⟩
      rw [← length, unsettled.coordinates] at success
      cases success
  | ok accepted =>
      obtain ⟨entries, rfl, flat, _, length⟩ := Arg.exists_row_of_coordinates success
      have same : evaluator.ndim = entries.length := Int.ofNat.inj length
      rw [setPosition_agrees_iff success, Position.stored_eq_self_iff]
      rw [same] at success
      rw [Arg.storable_iff_of_coordinates flat success]
      simp [same]

/-- What is accepted as a position is accepted again as the position that is stored, which is
the same one unless booleans stand beside words that are no signed ones and do not fit into
doubles. So placing an evaluator and placing its cursor are refused for the same faults, and
lead to the same position unless the position is of that kind. -/
theorem setPosition_retaken (axes : Int) (position : Arg) :
    (∀ accepted : Position, position.coordinates axes = .ok accepted →
      (Arg.ofPosition accepted).coordinates axes = .ok accepted.stored ∧
      (accepted.stored = accepted ↔ ¬Arg.Unsettled position.scalars)) ∧
    ∀ evaluator : Evaluator,
      (∀ fault, evaluator.setPosition position = .error fault ↔
        evaluator.cursor.setPosition position = .error fault) ∧
      ((evaluator.setPosition position).map cursor = evaluator.cursor.setPosition position ↔
        ¬∃ entries, position = .list entries ∧ entries.length = evaluator.ndim ∧
          Arg.Unsettled entries) := by
  constructor
  · intro accepted success
    obtain ⟨entries, rfl, flat, scalars, rfl⟩ := Arg.exists_row_of_coordinates success
    constructor
    · rw [← Arg.length_of_coordinates success]
      exact Arg.coordinates_ofPosition_eq_stored accepted
    · rw [scalars, Position.stored_eq_self_iff]
      exact Arg.storable_iff_of_coordinates flat success
  · intro evaluator
    refine ⟨?_, setPosition_agrees_iff_settled evaluator position⟩
    intro fault
    rw [setPosition_eq_map]
    cases evaluator.cursor.setPosition position with
    | error other => simp [Except.map]
    | ok moved => simp [Except.map]

/-- A boolean beside a word that is no signed one, but has a double. -/
theorem setPosition_retaken_settled :
    let stencil : Stencil := ⟨.central, 2, 1, [⟨-1, -1⟩, ⟨1, 1⟩], 2, by decide⟩
    let position : Arg := .list [.int (2 ^ 63), .bool true]
    position.coordinates 2 = .ok [2 ^ 63, 1] ∧
      (Arg.ofPosition [2 ^ 63, 1]).coordinates 2 = .ok [2 ^ 63, 1] ∧
      ∃ built, gradient (Source.square 3) stencil none = .ok built ∧
        (built.setPosition position).map cursor = built.cursor.setPosition position := by
  intro stencil position
  have accepted : position.coordinates 2 = .ok [2 ^ 63, 1] := rfl
  have settled : ¬Arg.Unsettled [.int (2 ^ 63), .bool true] := by
    intro unsettled
    obtain ⟨value, member, rough⟩ := unsettled.rough
    simp only [List.mem_cons, Arg.int.injEq, reduceCtorEq, List.not_mem_nil, or_self,
      or_false] at member
    subst member
    exact rough (by decide +kernel)
  obtain ⟨retaken, agrees⟩ := setPosition_retaken 2 position
  obtain ⟨again, same⟩ := retaken _ accepted
  rw [same.2 settled] at again
  refine ⟨accepted, again, _, rfl, (agrees _).2.2 ?_⟩
  rintro ⟨entries, row, _, unsettled⟩
  cases Arg.list.inj row
  exact settled unsettled

/-- Beside a boolean, an odd word beyond the signed ones is accepted as it is, but not when
it is accepted again. -/
theorem setPosition_unsettled :
    let stencil : Stencil := ⟨.central, 2, 1, [⟨-1, -1⟩, ⟨1, 1⟩], 2, by decide⟩
    let position : Arg := .list [.int (2 ^ 63 + 1), .bool true]
    position.coordinates 2 = .ok [2 ^ 63 + 1, 1] ∧
      (Arg.ofPosition [2 ^ 63 + 1, 1]).coordinates 2 = .ok [2 ^ 63, 1] ∧
      ∃ built, gradient (Source.square 3) stencil none = .ok built ∧
        (built.setPosition position).map (·.position) = .ok [2 ^ 63, 1] ∧
        (built.cursor.setPosition position).map (·.position) = .ok [2 ^ 63 + 1, 1] := by
  intro stencil position
  have accepted : position.coordinates 2 = .ok [2 ^ 63 + 1, 1] := rfl
  have again := Arg.coordinates_ofPosition_eq_stored [2 ^ 63 + 1, 1]
  have rounded : Position.stored [2 ^ 63 + 1, 1] = [2 ^ 63, 1] := by decide +kernel
  rw [rounded] at again
  refine ⟨accepted, again, _, rfl, ?_, rfl⟩
  rw [setPosition_eq_map]
  exact congrArg Except.ok rounded

end Evaluator

end LatticeDiff
