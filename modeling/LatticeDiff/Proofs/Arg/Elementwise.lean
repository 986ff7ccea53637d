import LatticeDiff.Proofs.Arg.Rounding

/-!
# Positions entry by entry

The entries of a position are gathered into an array before any of them is looked at. This
module compares what becomes of a row of scalars with what becomes of its entries one by
one. Two things disturb a row: a boolean next to a number is taken for a number as well, and
integers lose digits where all entries become doubles. Nothing else makes a difference to
which positions are accepted, and as what.
-/

namespace LatticeDiff

namespace Arg

variable {entries : List Arg}

theorem integral_eq_ok_iff {name : String} {argument : Arg} {whole : Int} :
    argument.integral name = .ok whole ↔
      argument.equalInt? = some whole ∧ argument.isBool = false := by
  cases argument with
  | int value => simp [integral, equalInt?, isBool]
  | real value =>
      simp only [integral, equalInt?, isBool, and_true]
      cases (Binary64.ofFloat value).integer? with
      | none => simp
      | some found => simp
  | bool value => simp [integral, isBool]
  | nothing | text | kind | list => simp [integral, equalInt?]

theorem fault_of_integral {name : String} {argument : Arg} {fault : Fault}
    (refused : argument.integral name = .error fault) : fault = .notIntegral name argument := by
  unfold integral at refused
  split at refused
  · cases refused
  · split at refused
    · cases refused
    · cases refused
      rfl
  · cases refused
    rfl

theorem eq_notIntegral_of_integral {name : String} {argument : Arg} {fault : Fault}
    (refused : argument.integral name = .error fault) :
    ∃ given, fault = .notIntegral name given :=
  ⟨argument, fault_of_integral refused⟩

theorem integral_toEntryType_ne_ok {name : String} {entry : Arg} (type : EntryType)
    (unequal : entry.equalInt? = none) (whole : Int) :
    (toEntryType type entry).integral name ≠ .ok whole := by
  rw [Ne, integral_eq_ok_iff]
  rintro ⟨equal, _⟩
  cases entry with
  | int value | bool value => cases unequal
  | real value =>
      cases type with
      | text => cases equal
      | mixed | real | int | bool => cases unequal.symm.trans equal
  | nothing | text | kind | list => cases type <;> cases equal

/-- In an array of doubles, a number is the integer that it is equal to, rounded. -/
theorem integral_toEntryType_real {name : String} {entry : Arg} {whole : Int}
    (word : entry.isOpaque = false) (equal : entry.equalInt? = some whole) :
    (toEntryType .real entry).integral name = .ok (Binary64.rounded whole) := by
  rw [integral_eq_ok_iff]
  cases entry with
  | int value =>
      cases equal
      simp only [isOpaque, Bool.not_eq_false'] at word
      exact ⟨Binary64.integer?_ofInt word, rfl⟩
  | bool value =>
      cases equal
      have fits : Word.fits (ofBit value) = true := by cases value <;> decide
      exact ⟨Binary64.integer?_ofInt fits, rfl⟩
  | real value =>
      rw [Binary64.rounded_of_integer? equal]
      exact ⟨equal, rfl⟩
  | nothing | text | kind | list => cases equal

theorem integral_toEntryType_int {name : String} {entry : Arg} {whole : Int}
    (equal : entry.equalInt? = some whole) :
    (toEntryType .int entry).integral name = .ok whole := by
  rw [integral_eq_ok_iff]
  cases entry with
  | int | bool | real => exact ⟨equal, rfl⟩
  | nothing | text | kind | list => cases equal

/-- All entries are numbers or booleans, and none is an integer beyond the words. -/
def Numbers (entries : List Arg) : Prop :=
  ∀ entry ∈ entries, entry.isOpaque = false ∧ ∃ whole, entry.equalInt? = some whole

/-- Among the entries there is a float, or there are words of both types: only doubles have
room for all of them. -/
def MeetInDoubles (entries : List Arg) : Prop :=
  (∃ entry ∈ entries, entry.isReal = true) ∨
    (∃ entry ∈ entries, entry.isUnsignedWord = true) ∧
      ∃ entry ∈ entries, entry.isSignedWord = true

instance (entries : List Arg) : Decidable (MeetInDoubles entries) :=
  inferInstanceAs (Decidable (_ ∨ _))

/-- Next to an integer beyond the words, or to nothing, entries stay as they are. -/
theorem commonType_eq_mixed (some : ∃ entry ∈ entries, entry.isOpaque = true) :
    commonType entries = .mixed :=
  if_pos (List.any_eq_true.2 some)

/-- Numbers take one of three types: doubles, integers, or booleans if there are no
others. -/
theorem commonType_of_numbers (numbers : Numbers entries) :
    commonType entries =
      if MeetInDoubles entries then .real
      else if ∃ entry ∈ entries, entry.isBool = false then .int
      else .bool := by
  have noneOpaque : entries.any isOpaque = false :=
    List.any_eq_false.2 fun entry member => by simp [(numbers entry member).1]
  have noneTextual : entries.any isTextual = false := by
    refine List.any_eq_false.2 fun entry member => ?_
    obtain ⟨whole, equal⟩ := (numbers entry member).2
    cases entry with
    | int | bool | real => simp [isTextual]
    | nothing | text | kind | list => cases equal
  simp only [commonType, noneOpaque, noneTextual, Bool.false_eq_true, if_false, MeetInDoubles,
    List.any_eq_true, Bool.and_eq_true, Bool.not_eq_true']
  by_cases reals : ∃ entry ∈ entries, entry.isReal = true
  · simp [reals]
  · simp [reals]

/-- Only arrays of text, of doubles and of integers change their entries. -/
theorem unify_eq_self (kept : commonType entries = .mixed ∨ commonType entries = .bool) :
    unify entries = entries := by
  have same : ∀ entry, toEntryType (commonType entries) entry = entry := by
    intro entry
    rcases kept with type | type
    · rw [type]
      cases entry <;> rfl
    · rw [type]
      cases entry <;> rfl
  rw [unify, List.map_congr_left fun entry _ => same entry, List.map_id']

theorem forall₂_equalInt? (numbers : Numbers entries) :
    List.Forall₂ (fun entry whole => entry.isOpaque = false ∧ entry.equalInt? = some whole)
      entries (entries.filterMap equalInt?) := by
  induction entries with
  | nil => exact .nil
  | cons entry rest ih =>
      obtain ⟨word, whole, equal⟩ := numbers entry List.mem_cons_self
      have others := ih fun other member => numbers other (List.mem_cons_of_mem entry member)
      rw [List.filterMap_cons_some equal]
      exact .cons ⟨word, equal⟩ others

/-- Integers that are accepted one by one are what their entries are equal to. -/
theorem eq_filterMap_of_mapM_integral {name : String} {position : Position}
    (accepted : entries.mapM (integral name) = .ok position) :
    position = entries.filterMap equalInt? := by
  have each := Outcome.mapM_eq_ok_iff.1 accepted
  clear accepted
  induction each with
  | nil => rfl
  | cons taken _ ih => rw [List.filterMap_cons_some (integral_eq_ok_iff.1 taken).1, ← ih]

theorem Numbers.flat (numbers : Numbers entries) : ∀ entry ∈ entries, entry.shape? = some [] := by
  intro entry member
  obtain ⟨_, whole, equal⟩ := numbers entry member
  cases entry with
  | int | bool | real => rfl
  | nothing | text | kind | list => cases equal

/-- Numbers that are not all booleans are accepted as what they are equal to, rounded where
only doubles have room for all of them. -/
theorem coordinates_of_numbers (numbers : Numbers entries)
    (proper : ∃ entry ∈ entries, entry.isBool = false) :
    (Arg.list entries).coordinates entries.length =
      .ok (if MeetInDoubles entries then (entries.filterMap equalInt?).map Binary64.rounded
        else entries.filterMap equalInt?) := by
  have equal := forall₂_equalInt? numbers
  rw [coordinates_row numbers.flat, unify, commonType_of_numbers numbers, if_pos proper,
    Outcome.mapM_eq_ok_iff, List.forall₂_map_left_iff]
  split
  · rw [List.forall₂_map_right_iff]
    exact equal.imp fun entry whole same => integral_toEntryType_real same.1 same.2
  · exact equal.imp fun entry whole same => integral_toEntryType_int same.2

/-- A row of numbers in which an entry is not taken for what it is alone: a boolean next to
another number, or an integer without room in a double where all entries become doubles. -/
structure Disturbed (entries : List Arg) : Prop where
  numbers : Numbers entries
  changed : (∃ entry ∈ entries, entry.isBool = true) ∧
      (∃ entry ∈ entries, entry.isBool = false) ∨
    MeetInDoubles entries ∧ ∃ value, Arg.int value ∈ entries ∧ ¬Binary64.Precise value.natAbs

theorem isBool_eq_false {entry : Arg} (other : entry.isReal = true ∨ entry.isUnsignedWord = true) :
    entry.isBool = false := by
  cases entry with
  | bool => simp [isReal, isUnsignedWord] at other
  | nothing | int | real | text | kind | list => rfl

theorem MeetInDoubles.proper (meet : MeetInDoubles entries) :
    ∃ entry ∈ entries, entry.isBool = false := by
  rcases meet with ⟨entry, member, real⟩ | ⟨⟨entry, member, unsigned⟩, _⟩
  · exact ⟨entry, member, isBool_eq_false (.inl real)⟩
  · exact ⟨entry, member, isBool_eq_false (.inr unsigned)⟩

theorem Disturbed.proper (disturbed : Disturbed entries) :
    ∃ entry ∈ entries, entry.isBool = false := by
  rcases disturbed.changed with ⟨_, proper⟩ | ⟨meet, _⟩
  · exact proper
  · exact meet.proper

/-- What becomes of a disturbed row does not become of its entries one by one. -/
theorem Disturbed.apart_ne_ok (disturbed : Disturbed entries) {name : String} :
    entries.mapM (integral name) ≠
      .ok (if MeetInDoubles entries then (entries.filterMap equalInt?).map Binary64.rounded
        else entries.filterMap equalInt?) := by
  intro accepted
  rcases disturbed.changed with ⟨⟨entry, member, boolean⟩, _⟩ | ⟨meet, value, member, rough⟩
  · obtain ⟨whole, taken⟩ := Outcome.exists_mapM_eq_ok_iff.1 ⟨_, accepted⟩ entry member
    rw [(integral_eq_ok_iff.1 taken).2] at boolean
    cases boolean
  · have same := eq_filterMap_of_mapM_integral accepted
    rw [if_pos meet] at same
    have among : value ∈ entries.filterMap equalInt? := List.mem_filterMap.2 ⟨_, member, rfl⟩
    have kept := List.map_inj_left.1 (same.trans (List.map_id _).symm) value among
    exact rough (Binary64.rounded_eq_self_iff.1 kept)

/-- Where only doubles have room for all entries, but have room for each of them, nothing is
rounded. -/
theorem map_rounded_of_precise
    (precise : ∀ value, Arg.int value ∈ entries → Binary64.Precise value.natAbs)
    (proper : ∀ entry ∈ entries, entry.isBool = false) :
    (entries.filterMap equalInt?).map Binary64.rounded = entries.filterMap equalInt? := by
  rw [← List.map_id (entries.filterMap equalInt?), List.map_map, List.map_inj_left]
  intro whole among
  obtain ⟨entry, member, equal⟩ := List.mem_filterMap.1 among
  cases entry with
  | int value =>
      cases equal
      exact Binary64.rounded_eq_self_iff.2 (precise whole member)
  | real value => exact Binary64.rounded_of_integer? equal
  | bool value => cases proper _ member
  | nothing | text | kind | list => cases equal

theorem mapM_integral_of_numbers {name : String} (numbers : Numbers entries)
    (proper : ∀ entry ∈ entries, entry.isBool = false) :
    entries.mapM (integral name) = .ok (entries.filterMap equalInt?) := by
  rw [Outcome.mapM_eq_ok_iff, List.forall₂_iff_zip]
  have equal := List.forall₂_iff_zip.1 (forall₂_equalInt? numbers)
  refine ⟨equal.1, fun {entry whole} pair => ?_⟩
  exact integral_eq_ok_iff.2 ⟨(equal.2 pair).2, proper entry (List.of_mem_zip pair).1⟩

/-- What is equal to no integer makes a row refused that no entry keeps as it is. -/
theorem coordinates_ne_ok (flat : ∀ entry ∈ entries, entry.shape? = some []) {entry : Arg}
    (member : entry ∈ entries) (unequal : entry.equalInt? = none) (position : Position) :
    (Arg.list entries).coordinates entries.length ≠ .ok position := by
  rw [coordinates_row flat]
  intro accepted
  have converted : toEntryType (commonType entries) entry ∈ unify entries :=
    List.mem_map_of_mem member
  obtain ⟨whole, taken⟩ := Outcome.exists_mapM_eq_ok_iff.1 ⟨_, accepted⟩ _ converted
  exact integral_toEntryType_ne_ok _ unequal whole taken

/-- In a row that is not disturbed, every entry is taken for what it is alone. -/
theorem coordinates_eq_ok_iff_of_calm (flat : ∀ entry ∈ entries, entry.shape? = some [])
    (calm : ¬Disturbed entries) (position : Position) :
    (Arg.list entries).coordinates entries.length = .ok position ↔
      entries.mapM (integral "coordinate") = .ok position := by
  -- Numbers that are not all booleans are accepted on both sides. Other rows are either kept as
  -- they are, or have an entry for which both sides refuse them.
  by_cases numbers : Numbers entries
  · by_cases proper : ∃ entry ∈ entries, entry.isBool = false
    · have noBooleans : ∀ entry ∈ entries, entry.isBool = false := by
        intro entry member
        by_contra boolean
        rw [Bool.not_eq_false] at boolean
        exact calm ⟨numbers, .inl ⟨⟨entry, member, boolean⟩, proper⟩⟩
      have nothingLost : (if MeetInDoubles entries then
          (entries.filterMap equalInt?).map Binary64.rounded
            else entries.filterMap equalInt?) = entries.filterMap equalInt? := by
        split
        · next meet =>
            apply map_rounded_of_precise _ noBooleans
            intro value member
            by_contra rough
            exact calm ⟨numbers, .inr ⟨meet, value, member, rough⟩⟩
        · rfl
      rw [coordinates_of_numbers numbers proper, nothingLost,
        mapM_integral_of_numbers numbers noBooleans]
    · have apart : ¬MeetInDoubles entries := fun meet => proper meet.proper
      have type := commonType_of_numbers numbers
      rw [if_neg apart, if_neg proper] at type
      rw [coordinates_row flat, unify_eq_self (.inr type)]
  · by_cases kept : ∃ entry ∈ entries, entry.isOpaque = true
    · rw [coordinates_row flat, unify_eq_self (.inl (commonType_eq_mixed kept))]
    · obtain ⟨entry, member, unequal⟩ : ∃ entry ∈ entries, entry.equalInt? = none := by
        unfold Numbers at numbers
        push Not at numbers kept
        obtain ⟨entry, member, unequal⟩ := numbers
        have none := unequal (by simpa using kept entry member)
        exact ⟨entry, member, Option.eq_none_iff_forall_ne_some.2 none⟩
      constructor
      · intro accepted
        exact absurd accepted (coordinates_ne_ok flat member unequal position)
      · intro accepted
        obtain ⟨whole, taken⟩ := Outcome.exists_mapM_eq_ok_iff.1 ⟨_, accepted⟩ entry member
        rw [(integral_eq_ok_iff.1 taken).1] at unequal
        cases unequal

/-- A row of scalars is accepted as a position as its entries are accepted one by one, with
the same coordinates, unless it is disturbed. A disturbed row is always accepted: booleans
become zeros and ones, and all coordinates are rounded if there is a float among the entries
or there are words of both types. Only integers, integral floats and booleans are ever
accepted, and a row is refused for an entry that is no integer, as a single entry is. -/
theorem coordinates_elementwise (flat : ∀ entry ∈ entries, entry.shape? = some []) :
    let together := (Arg.list entries).coordinates entries.length
    let apart := entries.mapM (integral "coordinate")
    ((∀ position, together = .ok position ↔ apart = .ok position) ↔ ¬Disturbed entries) ∧
    (Disturbed entries → together =
      .ok (if MeetInDoubles entries then (entries.filterMap equalInt?).map Binary64.rounded
        else entries.filterMap equalInt?)) ∧
    (∀ position, together = .ok position →
      ∀ entry ∈ entries, ∃ whole, entry.equalInt? = some whole) ∧
    ∀ fault, together = .error fault ∨ apart = .error fault →
      ∃ given, fault = .notIntegral "coordinate" given := by
  intro together apart
  have disturbs : Disturbed entries → together = _ := fun disturbed =>
    coordinates_of_numbers disturbed.numbers disturbed.proper
  refine ⟨⟨?_, coordinates_eq_ok_iff_of_calm flat⟩, disturbs, ?_, ?_⟩
  · intro agree disturbed
    exact disturbed.apart_ne_ok ((agree _).1 (disturbs disturbed))
  · intro position accepted entry member
    apply Option.ne_none_iff_exists'.1
    intro unequal
    exact coordinates_ne_ok flat member unequal position accepted
  · intro fault refused
    rw [show together = _ from coordinates_row flat] at refused
    rcases refused with inRow | alone
    · obtain ⟨entry, _, failed⟩ := Outcome.exists_of_mapM_eq_error inRow
      exact eq_notIntegral_of_integral failed
    · obtain ⟨entry, _, failed⟩ := Outcome.exists_of_mapM_eq_error alone
      exact eq_notIntegral_of_integral failed

/-- A row that is disturbed in both ways: words of both types, and a boolean. -/
theorem coordinates_words_and_boolean :
    let entries : List Arg := [.int (2 ^ 63 + 1), .int 1, .bool true]
    (∀ entry ∈ entries, entry.shape? = some []) ∧ Disturbed entries ∧
      (Arg.list entries).coordinates entries.length = .ok [2 ^ 63, 1, 1] := by
  intro entries
  have flat : ∀ entry ∈ entries, entry.shape? = some [] := by simp [entries, shape?]
  have numbers : Numbers entries := by
    simp [Numbers, entries, isOpaque, equalInt?, Word.fits, Word.signedLimit, Word.unsignedLimit]
  have disturbed : Disturbed entries :=
    ⟨numbers, .inl ⟨⟨.bool true, by simp [entries], rfl⟩, .int 1, by simp [entries], rfl⟩⟩
  have meet : MeetInDoubles entries := by decide
  have accepted := (coordinates_elementwise flat).2.1 disturbed
  rw [if_pos meet] at accepted
  have kept : (entries.filterMap equalInt?).map Binary64.rounded = [2 ^ 63, 1, 1] := by
    decide +kernel
  exact ⟨flat, disturbed, accepted.trans (congrArg Except.ok kept)⟩

/-- A boolean that is refused alone is accepted next to a number, and a word is rounded next
to one of the other type. -/
theorem coordinates_beside_others :
    ((Arg.list [.int 1, .bool true]).coordinates 2 = .ok [1, 1] ∧
      [Arg.int 1, .bool true].mapM (integral "coordinate") =
        .error (.notIntegral "coordinate" (.bool true))) ∧
    (Arg.list [.int (2 ^ 63), .int 1, .int (2 ^ 63 + 1)]).coordinates 3 =
        .ok [2 ^ 63, 1, 2 ^ 63] ∧
      [Arg.int (2 ^ 63), .int 1, .int (2 ^ 63 + 1)].mapM (integral "coordinate") =
        .ok [2 ^ 63, 1, 2 ^ 63 + 1] := by
  have accepted := coordinates_ofPosition_eq_stored [2 ^ 63, 1, 2 ^ 63 + 1]
  have kept : Position.stored [2 ^ 63, 1, 2 ^ 63 + 1] = [2 ^ 63, 1, 2 ^ 63] := by
    decide +kernel
  exact ⟨⟨rfl, rfl⟩, accepted.trans (congrArg Except.ok kept), rfl⟩

end Arg

end LatticeDiff
