import LatticeDiff.Stencil.Lookup
import Mathlib

/-!
# Names of kinds

A kind is recognised by the normal form of a name: what remains of its lower case if only
ASCII letters and digits are kept. Lower case is that of full Unicode, where one character may
become several and may depend on its neighbours; this module says what little of it matters.
Normal forms are taken character by character, so characters that leave nothing behind may be
inserted anywhere, and the case of letters does not count. No two kinds share a normal form,
so a name is recognised as a kind exactly if it has the normal form of one of its spellings.
-/

namespace LatticeDiff

namespace Kind

/-- The characters that normal forms are made of: the small letters and the digits of
ASCII. -/
def counts (character : Char) : Bool :=
  character.isLower || character.isDigit

/-- What the lower case of a character may be. ASCII letters have their own one, and so have
the two other characters that turn into an ASCII letter. Any other character may become
anything without ASCII letters and digits, also different things in different places. -/
inductive LowersTo : Char → List Char → Prop where
  | capital {character : Char} : character.isUpper = true →
      LowersTo character [character.toLower]
  | small {character : Char} : counts character = true → LowersTo character [character]
  | kelvin : LowersTo '\u212a' ['k']
  | dotted : LowersTo '\u0130' ['i', '\u0307']
  | other {character : Char} {image : List Char} : character.isUpper = false →
      counts character = false → character ≠ '\u212a' → character ≠ '\u0130' →
      (∀ result ∈ image, counts result = false) → LowersTo character image

/-- One text is the lower case of another one, put together from that of its characters. -/
def IsLowerCase (lowered name : String) : Prop :=
  ∃ images, List.Forall₂ LowersTo name.toList images ∧ lowered.toList = images.flatten

/-- One text is another one with characters inserted that have nothing as normal form, and
with ASCII letters in another case. -/
inductive Restyled : List Char → List Char → Prop where
  | nil : Restyled [] []
  | insert {character : Char} {name styled : List Char} :
      normalize (String.singleton character) = "" → Restyled name styled →
      Restyled name (character :: styled)
  | recase {character other : Char} {name styled : List Char} :
      other.toLower = character.toLower → Restyled name styled →
      Restyled (character :: name) (other :: styled)

section Characters

variable {character : Char}

theorem counts_toLower (capital : character.isUpper = true) :
    counts character.toLower = true := by
  simp [counts, Char.isAlpha, capital]

theorem isUpper_of_counts (counted : counts character = true) : character.isUpper = false := by
  rw [counts, Bool.or_eq_true] at counted
  rcases counted with small | digit
  · simpa using Char.not_isUpper_of_isLower small
  · simp only [Char.isDigit, Char.isUpper, UInt32.le_iff_toNat_le, Bool.and_eq_true,
      decide_eq_true_eq, decide_eq_false_iff_not] at digit ⊢
    have lastDigit : '9'.val.toNat = 57 := rfl
    have firstCapital : 'A'.val.toNat = 65 := rfl
    omega

theorem fold?_of_counts (counted : counts character = true) :
    fold? character = some character := by
  have small := isUpper_of_counts counted
  rw [counts] at counted
  simp [fold?, small, counted]

theorem counts_of_fold? {result : Char} (folded : fold? character = some result) :
    counts result = true := by
  unfold fold? at folded
  split at folded
  · next capital =>
      cases folded
      exact counts_toLower capital
  · split at folded
    · next counted =>
        cases folded
        exact counted
    · split at folded
      · cases folded
        rfl
      · split at folded
        · cases folded
          rfl
        · cases folded

theorem fold?_toLower (character : Char) : fold? character.toLower = fold? character := by
  by_cases capital : character.isUpper = true
  · rw [fold?_of_counts (counts_toLower capital), fold?, if_pos capital]
  · rw [Char.toLower_eq_of_not_isUpper capital]

/-- What counts in the lower case of a character is its normal form. -/
theorem filter_counts_of_lowersTo {image : List Char} (lowered : LowersTo character image) :
    image.filter counts = (fold? character).toList := by
  cases lowered with
  | capital upper => simp [fold?, upper, counts_toLower upper]
  | small counted => simp [fold?_of_counts counted, counted]
  | kelvin => rfl
  | dotted => rfl
  | other upper uncounted notKelvin notDotted silent =>
      rw [counts] at uncounted
      simp only [fold?, upper, uncounted, notKelvin, notDotted, Bool.false_eq_true, if_false,
        Option.toList_none, List.filter_eq_nil_iff]
      intro result member
      simp [silent result member]

theorem normalize_singleton_eq_empty_iff :
    normalize (String.singleton character) = "" ↔ fold? character = none := by
  rw [← String.toList_inj, toList_normalize, String.toList_singleton]
  simp

end Characters

theorem filter_counts_of_forall₂ {characters : List Char} {images : List (List Char)}
    (each : List.Forall₂ LowersTo characters images) :
    images.flatten.filter counts = characters.filterMap fold? := by
  induction each with
  | nil => rfl
  | @cons character image characters images first _ ih =>
      rw [List.flatten_cons, List.filter_append, ih, filter_counts_of_lowersTo first,
        List.filterMap_cons]
      cases fold? character <;> rfl

/-- A normal form is what counts in the lower case of a name, whatever that is. -/
theorem normalize_of_isLowerCase {lowered name : String} (lower : IsLowerCase lowered name) :
    normalize name = String.ofList (lowered.toList.filter counts) := by
  obtain ⟨images, each, whole⟩ := lower
  rw [whole, filter_counts_of_forall₂ each, normalize]

theorem normalize_normalize (name : String) : normalize (normalize name) = normalize name := by
  rw [normalize, toList_normalize, List.filterMap_filterMap, normalize]
  congr 2
  funext character
  cases folded : fold? character with
  | none => rfl
  | some result => exact fold?_of_counts (counts_of_fold? folded)

theorem normalize_append (first second : String) :
    normalize (first ++ second) = normalize first ++ normalize second := by
  rw [normalize, String.toList_append, List.filterMap_append, String.ofList_append]
  rfl

theorem filterMap_fold?_of_restyled {name styled : List Char} (restyled : Restyled name styled) :
    styled.filterMap fold? = name.filterMap fold? := by
  induction restyled with
  | nil => rfl
  | insert silent _ ih =>
      rw [List.filterMap_cons_none (normalize_singleton_eq_empty_iff.1 silent), ih]
  | recase same _ ih =>
      rw [List.filterMap_cons, List.filterMap_cons, ih, ← fold?_toLower, same, fold?_toLower]

theorem mem_spellings_iff {kind : Kind} {spelling : String} :
    spelling ∈ kind.spellings ↔
      spelling = normalize kind.name ∨ ∃ other ∈ kind.aliases, spelling = normalize other := by
  simp only [spellings, List.map_cons, List.mem_cons, List.mem_map, eq_comm]

theorem eq_of_mem_spellings : ∀ first second : Kind, ∀ spelling ∈ first.spellings,
    spelling ∈ second.spellings → first = second := by
  intro first second
  cases first <;> cases second <;> decide +kernel

theorem ofName?_eq_some_iff {name : String} {kind : Kind} :
    ofName? name = some kind ↔ normalize name ∈ kind.spellings := by
  constructor
  · intro found
    simpa using List.find?_some found
  · intro member
    cases found : ofName? name with
    | none =>
        have missed := List.find?_eq_none.1 found kind (mem_all kind)
        simp [member] at missed
    | some other =>
        have otherMember : normalize name ∈ other.spellings := by
          simpa using List.find?_some found
        rw [eq_of_mem_spellings other kind _ otherMember member]

theorem asKind_text_eq_ok_iff {name : String} {kind : Kind} :
    Arg.asKind (.text name) = .ok kind ↔ ofName? name = some kind := by
  rw [Arg.asKind]
  cases ofName? name <;> simp

theorem asKind_text_eq_error_iff {name : String} {fault : Fault} :
    Arg.asKind (.text name) = .error fault ↔
      ofName? name = none ∧ fault = .unknownKind name := by
  rw [Arg.asKind]
  cases ofName? name <;> simp [eq_comm]

theorem ofName?_of_restyled {name styled : String}
    (restyled : Restyled name.toList styled.toList) : ofName? styled = ofName? name := by
  have same : normalize styled = normalize name := by
    rw [normalize, normalize, filterMap_fold?_of_restyled restyled]
  rw [ofName?, ofName?, same]

/-- Names are recognised up to the case of their letters, and up to what is neither an ASCII
letter nor an ASCII digit. A name stands for a kind exactly if it has the normal form of the
name of that kind or of another spelling of it, and every other name is refused. The normal
form is what counts in the lower case of a name. It does not change if it is taken again, and
texts that are put together have theirs put together. So names that differ in characters that
leave nothing behind and in the case of ASCII letters stand for the same kind, or are both
refused. -/
theorem recognised_by_normal_form :
    (∀ lowered name, IsLowerCase lowered name →
      normalize name = String.ofList (lowered.toList.filter counts)) ∧
    (∀ name kind, Arg.asKind (.text name) = .ok kind ↔
      normalize name = normalize kind.name ∨
        ∃ other ∈ kind.aliases, normalize name = normalize other) ∧
    (∀ name, (∀ kind, Arg.asKind (.text name) ≠ .ok kind) →
      Arg.asKind (.text name) = .error (.unknownKind name)) ∧
    (∀ name, normalize (normalize name) = normalize name) ∧
    (∀ first second, normalize (first ++ second) = normalize first ++ normalize second) ∧
    ∀ name styled : String, Restyled name.toList styled.toList →
      (∀ kind, Arg.asKind (.text styled) = .ok kind ↔ Arg.asKind (.text name) = .ok kind) ∧
      (Arg.asKind (.text styled) = .error (.unknownKind styled) ↔
        Arg.asKind (.text name) = .error (.unknownKind name)) := by
  refine ⟨fun _ _ => normalize_of_isLowerCase, ?_, ?_, normalize_normalize, normalize_append, ?_⟩
  · intro name kind
    rw [asKind_text_eq_ok_iff, ofName?_eq_some_iff, mem_spellings_iff]
  · intro name unrecognised
    cases outcome : Arg.asKind (.text name) with
    | ok kind => exact absurd outcome (unrecognised kind)
    | error fault => rw [(asKind_text_eq_error_iff.1 outcome).2]
  · intro name styled restyled
    simp only [asKind_text_eq_ok_iff, asKind_text_eq_error_iff, ofName?_of_restyled restyled,
      and_true, implies_true]

/-- A sigma has a lower case of its own at the end of a word, and that of the kelvin sign is
an ASCII letter. -/
theorem recognised_with_kelvin_sign :
    IsLowerCase "cdς" "CDΣ" ∧ Arg.asKind (.text "CDΣ") = .ok .central ∧
    IsLowerCase "bk" "B\u212a" ∧ normalize "B\u212a" = "bk" ∧
    Restyled "fd".toList " F-d".toList ∧ Arg.asKind (.text " F-d") = .ok .forward := by
  have finalSigma : LowersTo 'Σ' ['ς'] :=
    .other rfl rfl (by simp) (by simp) (List.forall_mem_singleton.2 rfl)
  have abbreviated : IsLowerCase "cdς" "CDΣ" :=
    ⟨[['c'], ['d'], ['ς']], .cons (.capital rfl) (.cons (.capital rfl) (.cons finalSigma .nil)),
      rfl⟩
  have kelvin : IsLowerCase "bk" "B\u212a" :=
    ⟨[['b'], ['k']], .cons (.capital rfl) (.cons .kelvin .nil), rfl⟩
  have styled : Restyled "fd".toList " F-d".toList :=
    .insert rfl (.recase rfl (.insert rfl (.recase rfl .nil)))
  obtain ⟨lower, recognised, _, _, _, restyled⟩ := recognised_by_normal_form
  refine ⟨abbreviated, ?_, kelvin, lower _ _ kelvin, styled, ?_⟩
  · rw [recognised, lower _ _ abbreviated]
    right
    exact ⟨"cd", by decide, rfl⟩
  · rw [(restyled "fd" " F-d" styled).1]
    rfl

end Kind

end LatticeDiff
