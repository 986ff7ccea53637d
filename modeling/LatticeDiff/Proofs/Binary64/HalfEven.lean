import LatticeDiff.Binary64
import Mathlib

/-!
# Rounding in integers

What becomes of an integer that is rounded to a double, in integer arithmetic: the 53
leading bits stay, rounded to the nearest number of that many bits and to the even one
where two are equally near, and all bits after them become zeros.
-/

namespace LatticeDiff

namespace Binary64

/-- A number divided by a power of two, rounded to the nearest integer and to the even one
where two are equally near. -/
def halfEven (number bits : Nat) : Nat :=
  match compare (2 * (number % 2 ^ bits)) (2 ^ bits) with
  | .lt => number / 2 ^ bits
  | .eq => number / 2 ^ bits + number / 2 ^ bits % 2
  | .gt => number / 2 ^ bits + 1

theorem halfEven_cases (number bits : Nat) :
    halfEven number bits = number / 2 ^ bits ∨ halfEven number bits = number / 2 ^ bits + 1 := by
  have parity := Nat.mod_two_eq_zero_or_one (number / 2 ^ bits)
  unfold halfEven
  split
  · exact .inl rfl
  · rcases parity with even | odd
    · exact .inl (congrArg _ even)
    · exact .inr (congrArg _ odd)
  · exact .inr rfl

/-- The mantissas of normal doubles, which have exactly 53 bits. -/
def Normal (mantissa : Nat) : Prop :=
  2 ^ 52 ≤ mantissa ∧ mantissa < 2 ^ 53

theorem Normal.log2 {mantissa : Nat} (normal : Normal mantissa) : mantissa.log2 = 52 :=
  (Nat.log2_eq_iff (by have := normal.1; omega)).2 normal

/-- The mantissas of numbers with more than 53 bits, cut off after 53 of them. -/
theorem normal_div_two_pow {mantissa bits : Nat} (size : mantissa.log2 = 52 + bits) :
    Normal (mantissa / 2 ^ bits) := by
  have nonzero : mantissa ≠ 0 := by
    rintro rfl
    simp at size
    omega
  obtain ⟨lower, upper⟩ := (Nat.log2_eq_iff nonzero).1 size
  have positive := Nat.two_pow_pos bits
  constructor
  · rw [Nat.le_div_iff_mul_le positive, ← Nat.pow_add]
    exact lower
  · rw [Nat.div_lt_iff_lt_mul positive, ← Nat.pow_add]
    have same : 53 + bits = 52 + bits + 1 := by omega
    rw [same]
    exact upper

/-- A mantissa that is rounded to 53 bits may carry into another one. -/
theorem halfEven_of_log2 {mantissa bits : Nat} (size : mantissa.log2 = 52 + bits) :
    2 ^ 52 ≤ halfEven mantissa bits ∧ halfEven mantissa bits ≤ 2 ^ 53 := by
  obtain ⟨lower, upper⟩ := normal_div_two_pow size
  rcases halfEven_cases mantissa bits with same | next
  · omega
  · omega

/-- Nothing is rounded where only zeros are cut off. -/
theorem halfEven_mul_two_pow (whole bits : Nat) : halfEven (whole * 2 ^ bits) bits = whole := by
  have positive := Nat.two_pow_pos bits
  have below : compare (2 * (whole * 2 ^ bits % 2 ^ bits)) (2 ^ bits) = .lt := by
    rw [Nat.mul_mod_left, Nat.mul_zero]
    exact Nat.compare_eq_lt.2 positive
  simp only [halfEven, below]
  exact Nat.mul_div_cancel whole positive

theorem halfEven_mul_two_pow_add (number bits zeros : Nat) :
    halfEven (number * 2 ^ zeros) (bits + zeros) = halfEven number bits := by
  have positive := Nat.two_pow_pos zeros
  have scaled : ∀ left right : Nat,
      compare (left * 2 ^ zeros) (right * 2 ^ zeros) = compare left right := by
    intro left right
    rcases Nat.lt_trichotomy left right with less | rfl | greater
    · rw [Nat.compare_eq_lt.2 less, Nat.compare_eq_lt]
      exact Nat.mul_lt_mul_of_pos_right less positive
    · rw [Nat.compare_eq_eq.2 rfl, Nat.compare_eq_eq.2 rfl]
    · rw [Nat.compare_eq_gt.2 greater, Nat.compare_eq_gt]
      exact Nat.mul_lt_mul_of_pos_right greater positive
  have quotient : number * 2 ^ zeros / 2 ^ (bits + zeros) = number / 2 ^ bits := by
    rw [Nat.pow_add, Nat.mul_div_mul_right _ _ positive]
  have remainder : number * 2 ^ zeros % 2 ^ (bits + zeros) = number % 2 ^ bits * 2 ^ zeros := by
    rw [Nat.pow_add, Nat.mul_mod_mul_right]
  simp only [halfEven, quotient, remainder]
  rw [← Nat.mul_assoc, Nat.pow_add, scaled]

/-- The number of bits that a number has beyond the 53 of a double. -/
def spareBits (number : Nat) : Nat :=
  number.log2 - 52

theorem log2_eq_add_spareBits {number : Nat} (long : 52 ≤ number.log2) :
    number.log2 = 52 + spareBits number := by
  unfold spareBits
  omega

/-- The double nearest to a number, as a number again. -/
def roundedNat (number : Nat) : Nat :=
  halfEven number (spareBits number) * 2 ^ spareBits number

/-- The numbers that doubles have room for. -/
def Precise (number : Nat) : Prop :=
  2 ^ spareBits number ∣ number

instance (number : Nat) : Decidable (Precise number) :=
  inferInstanceAs (Decidable (_ ∣ _))

theorem roundedNat_eq_self_iff {number : Nat} : roundedNat number = number ↔ Precise number := by
  constructor
  · intro same
    exact ⟨halfEven number (spareBits number), by rw [Nat.mul_comm]; exact same.symm⟩
  · rintro ⟨whole, same⟩
    rw [Nat.mul_comm] at same
    calc roundedNat number
        = halfEven (whole * 2 ^ spareBits number) (spareBits number) * 2 ^ spareBits number := by
          rw [← same, roundedNat]
      _ = whole * 2 ^ spareBits number := by rw [halfEven_mul_two_pow]
      _ = number := same.symm

theorem roundedNat_of_log2_le {number : Nat} (short : number.log2 ≤ 52) :
    roundedNat number = number := by
  have none : spareBits number = 0 := Nat.sub_eq_zero_of_le short
  rw [roundedNat_eq_self_iff, Precise, none]
  exact Nat.one_dvd number

theorem log2_mul_two_pow {number : Nat} (nonzero : number ≠ 0) (bits : Nat) :
    (number * 2 ^ bits).log2 = number.log2 + bits := by
  induction bits with
  | zero => rw [Nat.pow_zero, Nat.mul_one, Nat.add_zero]
  | succ bits ih =>
      have still : number * 2 ^ bits ≠ 0 :=
        Nat.mul_ne_zero nonzero (Nat.ne_of_gt (Nat.two_pow_pos bits))
      rw [Nat.pow_succ, ← Nat.mul_assoc, Nat.mul_comm _ 2, Nat.log2_two_mul still, ih]
      rfl

/-- A number of at most 53 bits has room in a double, and so have its multiples by powers of
two. -/
theorem precise_mul_two_pow {number : Nat} (short : number < 2 ^ 53) (bits : Nat) :
    Precise (number * 2 ^ bits) := by
  rcases Nat.eq_zero_or_pos number with rfl | positive
  · rw [Nat.zero_mul]
    exact Nat.dvd_zero _
  · have nonzero := Nat.ne_of_gt positive
    have size : number.log2 < 53 := (Nat.log2_lt nonzero).2 short
    have few : spareBits (number * 2 ^ bits) ≤ bits := by
      rw [spareBits, log2_mul_two_pow nonzero]
      omega
    exact Nat.dvd_mul_left_of_dvd (Nat.pow_dvd_pow 2 few) number

theorem two_pow_log2_le_roundedNat {number : Nat} (nonzero : number ≠ 0) :
    2 ^ number.log2 ≤ roundedNat number := by
  rcases Nat.le_total number.log2 52 with short | long
  · rw [roundedNat_of_log2_le short]
    exact Nat.log2_self_le nonzero
  · have size := log2_eq_add_spareBits long
    rw [size, Nat.pow_add, roundedNat]
    exact Nat.mul_le_mul_right _ (halfEven_of_log2 size).1

theorem precise_roundedNat (number : Nat) : Precise (roundedNat number) := by
  rcases Nat.le_total number.log2 52 with short | long
  · rw [roundedNat_of_log2_le short, ← roundedNat_eq_self_iff]
    exact roundedNat_of_log2_le short
  · have near := halfEven_of_log2 (log2_eq_add_spareBits long)
    rw [roundedNat]
    generalize halfEven number (spareBits number) = leading at near ⊢
    generalize spareBits number = bits
    -- Only a carry into another bit makes the number longer, and then zeros are left.
    rcases Nat.lt_or_eq_of_le near.2 with normal | rfl
    · have size : leading.log2 = 52 := (Nat.log2_eq_iff (by omega)).2 ⟨near.1, normal⟩
      rw [Precise, spareBits, log2_mul_two_pow (by omega), size, Nat.add_sub_cancel_left]
      exact Nat.dvd_mul_left _ _
    · have size : (2 ^ 53 * 2 ^ bits).log2 = 53 + bits := by
        rw [← Nat.pow_add, Nat.log2_two_pow]
      have more : 53 + bits - 52 = bits + 1 := by omega
      rw [Precise, spareBits, size, more, ← Nat.pow_add]
      exact Nat.pow_dvd_pow 2 (by omega)

/-- The double nearest to an integer, as an integer again. -/
def rounded (value : Int) : Int :=
  value.sign * roundedNat value.natAbs

theorem rounded_ofNat (number : Nat) : rounded number = roundedNat number := by
  rcases Nat.eq_zero_or_pos number with rfl | positive
  · rfl
  · rw [rounded, Int.sign_eq_one_of_pos (by omega), Int.natAbs_natCast, Int.one_mul]

theorem rounded_neg (value : Int) : rounded (-value) = -rounded value := by
  rw [rounded, Int.sign_neg, Int.natAbs_neg, Int.neg_mul, rounded]

theorem rounded_eq_self_iff {value : Int} : rounded value = value ↔ Precise value.natAbs := by
  rw [← roundedNat_eq_self_iff]
  obtain ⟨number, rfl | rfl⟩ := value.eq_nat_or_neg
  · rw [rounded_ofNat, Int.natAbs_natCast]
    exact Int.natCast_inj
  · rw [rounded_neg, rounded_ofNat, Int.natAbs_neg, Int.natAbs_natCast]
    omega

theorem rounded_rounded (value : Int) : rounded (rounded value) = rounded value := by
  rw [rounded_eq_self_iff]
  obtain ⟨number, rfl | rfl⟩ := value.eq_nat_or_neg
  · rw [rounded_ofNat, Int.natAbs_natCast]
    exact precise_roundedNat number
  · rw [rounded_neg, rounded_ofNat, Int.natAbs_neg, Int.natAbs_natCast]
    exact precise_roundedNat number

end Binary64

end LatticeDiff
