import LatticeDiff.Arg.Nesting
import LatticeDiff.Arg.Number
import LatticeDiff.Word

/-!
# Arguments as positions

A position is first gathered into an array, whose entries take a common type, and
only then does each entry have to be an integer. So an entry may be changed by its
neighbours: next to a float, or next to an integer of a different word type, large
integers are rounded to doubles.
-/

namespace LatticeDiff

namespace Arg

/-- The type that the entries of an array take in common. -/
inductive EntryType where
  /-- Every entry keeps its own type. -/
  | mixed
  | text
  | real
  | int
  | bool
  deriving DecidableEq, Repr

/-- An entry that keeps all entries as they are. -/
def isOpaque : Arg → Bool
  | .nothing => true
  | .int value => !Word.fits value
  | _ => false

/-- An entry that turns all entries into text. -/
def isTextual : Arg → Bool
  | .text _ | .kind _ => true
  | _ => false

/-- An entry that turns all entries into doubles. -/
def isReal : Arg → Bool
  | .real _ => true
  | _ => false

/-- An integer within the signed words. -/
def isSignedWord : Arg → Bool
  | .int value => Word.fitsSigned value
  | _ => false

/-- An integer beyond the signed words, which only an unsigned word holds. -/
def isUnsignedWord : Arg → Bool
  | .int value => Word.fits value && !Word.fitsSigned value
  | _ => false

/-- The type in common. Signed and unsigned words together only have doubles in
common. -/
def commonType (entries : List Arg) : EntryType :=
  if entries.any isOpaque then .mixed
  else if entries.any isTextual then .text
  else if entries.any isReal then .real
  else if entries.any isUnsignedWord && entries.any isSignedWord then .real
  else if entries.any (fun entry => !entry.isBool) then .int
  else .bool

/-- Text as it is kept in an array, where zeros at the end are padding. -/
def unpadded (value : String) : String :=
  String.ofList ((value.toList.reverse.dropWhile (· = '\x00')).reverse)

/-- An entry converted to the common type. -/
def toEntryType (type : EntryType) (entry : Arg) : Arg :=
  match type, entry with
  | .text, _ => .text (unpadded entry.plain)
  | .real, .int value => .real (Float.ofInt value)
  | .real, .bool value => .real (Float.ofInt (ofBit value))
  | .int, .bool value => .int (ofBit value)
  | _, _ => entry

/-- The entries of an array of scalars, in their common type. -/
def unify (entries : List Arg) : List Arg :=
  entries.map (toEntryType (commonType entries))

/-- An argument as a position with `ndim` coordinates. -/
def coordinates (ndim : Int) (position : Arg) : Except Fault (List Int) :=
  match position.arrayShape? with
  | none => .error .ragged
  | some [length] =>
      if (length : Int) = ndim then
        (unify position.scalars).mapM (integral "coordinate")
      else .error (.coordinateCount ndim [length])
  | some shape => .error (.coordinateCount ndim shape)

@[simp] theorem commonShape?_ints (position : Position) :
    commonShape? (position.map Arg.int) = some [] := by
  induction position with
  | nil => rfl
  | cons coordinate rest ih => simp [commonShape?, shape?, ih]

@[simp] theorem scalarsOf_ints (position : Position) :
    scalarsOf (position.map Arg.int) = position.map Arg.int := by
  induction position with
  | nil => rfl
  | cons coordinate rest ih => simp [scalarsOf, scalars, ih]

/-- Integers are integral, one after the other. -/
theorem mapM_integral_ints (name : String) (position : Position) :
    (position.map Arg.int).mapM (integral name) = .ok position := by
  induction position with
  | nil => rfl
  | cons coordinate rest ih =>
      rw [List.map_cons, List.mapM_cons, ih]
      rfl

/-- Signed words keep their type next to each other. -/
theorem unify_signedWords {position : Position}
    (small : ∀ coordinate ∈ position, Word.fitsSigned coordinate = true) :
    unify (position.map Arg.int) = position.map Arg.int := by
  have fits : ∀ coordinate ∈ position, Word.fits coordinate = true := by
    intro coordinate member
    have bounds := small coordinate member
    simp only [Word.fitsSigned, Word.fits, Bool.and_eq_true, decide_eq_true_eq] at bounds ⊢
    exact ⟨bounds.1, Int.lt_trans bounds.2 (by decide)⟩
  have noneOpaque : (position.map Arg.int).any isOpaque = false := by
    simpa [isOpaque] using fits
  have noneUnsigned : (position.map Arg.int).any isUnsignedWord = false := by
    simp only [List.any_map, List.any_eq_false, Function.comp_apply, isUnsignedWord]
    intro coordinate member
    simp [small coordinate member]
  have noneTextual : (position.map Arg.int).any isTextual = false := by
    simp [isTextual]
  have noneReal : (position.map Arg.int).any isReal = false := by
    simp [isReal]
  unfold unify commonType
  simp only [noneOpaque, noneTextual, noneReal, noneUnsigned, Bool.false_and,
    Bool.false_eq_true, if_false, List.map_map]
  split <;> rfl

/-- A position whose coordinates are signed words is taken as it is. -/
theorem coordinates_ofPosition {position : Position}
    (small : ∀ coordinate ∈ position, Word.fitsSigned coordinate = true) :
    (ofPosition position).coordinates position.length = .ok position := by
  have shape : (ofPosition position).arrayShape? = some [position.length] := by
    simp [ofPosition, arrayShape?, shape?, Shape.axisLimit]
  simp only [coordinates, shape, if_true]
  rw [ofPosition, scalars, scalarsOf_ints, unify_signedWords small]
  exact mapM_integral_ints "coordinate" position

end Arg

end LatticeDiff
