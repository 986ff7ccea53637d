import LatticeDiff.Proofs.Binary64.Packing
import LatticeDiff.Word

/-!
# Doubles of integers

Rounding a word to a double gives an integer again: the one that `rounded` gives. It may be
another one, but it does not fall below the power of two that the word has reached. What a
double is equal to changes its sign with the double.
-/

namespace LatticeDiff

namespace Binary64

open Float.Model (Format UnpackedFloat totalExponent)
open Float.Model.UnpackedFloat

/-- What is known of the double nearest to a positive number: a normal mantissa and an
exponent that fit the size of the number, and denote the number rounded. -/
structure Nearest (number mantissa : Nat) (exponent : Int) : Prop where
  normal : Normal mantissa
  lower : (number.log2 : Int) - 52 ≤ exponent
  upper : exponent ≤ number.log2 - 51
  value : mantissa * 2 ^ exponent.toNat = roundedNat number * 2 ^ (-exponent).toNat

/-- Numbers of at most 53 bits are shifted to the left, and nothing is lost. -/
theorem ofNat_unpacked {number : Nat} (positive : 0 < number) (small : number.log2 ≤ 52) :
    ∃ mantissa exponent, ∃ nonzero : 0 < mantissa,
      UnpackedFloat.ofNat Format.binary64 number =
        .finite .positive mantissa exponent nonzero ∧ Nearest number mantissa exponent := by
  obtain ⟨room, total⟩ : ∃ room, number.log2 + room = 52 := ⟨52 - number.log2, by omega⟩
  have nonzero : 0 < number * 2 ^ room := Nat.mul_pos positive (Nat.two_pow_pos room)
  have size : (number * 2 ^ room).log2 = 52 := by
    rw [log2_mul_two_pow (Nat.ne_of_gt positive), total]
  have normal : Normal (number * 2 ^ room) := (Nat.log2_eq_iff (Nat.ne_of_gt nonzero)).1 size
  have above : -1074 ≤ -(room : Int) + (0 : Nat) := by omega
  have rounded := roundWithAccuracy_mul_two_pow .positive nonzero normal above
  rw [Nat.pow_zero, Nat.mul_one, Int.natCast_zero, Int.add_zero] at rounded
  have whole : (-(room : Int)).toNat = 0 := by omega
  refine ⟨number * 2 ^ room, -(room : Int), nonzero, ?_, normal, ?_, ?_, ?_⟩
  · have isPositive : compare (number : Int) 0 = .gt :=
      Int.compare_eq_gt.2 (Int.natCast_pos.2 positive)
    have target : Format.binary64.targetExponent (totalExponent number 0) = -(room : Int) := by
      have width : Format.binary64.mantissaBits = 53 := rfl
      have least : Format.binary64.minExponent = -1074 := rfl
      rw [Format.targetExponent, totalExponent, width, least]
      omega
    have amount : (0 - -(room : Int)).toNat = room := by omega
    rw [← rounded, UnpackedFloat.ofNat, UnpackedFloat.ofInt]
    simp only [UnpackedFloat.normalize, isPositive, Int.toNat_natCast, UnpackedFloat.round,
      decreaseExponent, target, amount, Nat.shiftLeft_eq]
    rw [Int.zero_sub]
  · omega
  · omega
  · rw [whole, Nat.pow_zero, Nat.mul_one, roundedNat_of_log2_le small, Int.neg_neg,
      Int.toNat_natCast]

/-- Numbers of at least 53 bits are shifted to the right and rounded, and once more after a
carry. -/
theorem nearest_of_halfEven {number mantissa : Nat} {exponent : Int}
    (long : 52 ≤ number.log2) (normal : Normal mantissa)
    (value : exponent = spareBits number ∧ mantissa = halfEven number (spareBits number) ∨
      exponent = spareBits number + 1 ∧ mantissa * 2 = halfEven number (spareBits number)) :
    Nearest number mantissa exponent := by
  have size := log2_eq_add_spareBits long
  refine ⟨normal, by omega, by omega, ?_⟩
  have noFraction : (-exponent).toNat = 0 := by omega
  rw [noFraction, Nat.pow_zero, Nat.mul_one, roundedNat]
  rcases value with ⟨rfl, rfl⟩ | ⟨rfl, doubled⟩
  · rw [Int.toNat_natCast]
  · have more : (spareBits number + 1 : Int).toNat = 1 + spareBits number := by omega
    rw [more, Nat.pow_add, ← Nat.mul_assoc, Nat.pow_one, doubled]

theorem mul_one_unpacked {mantissa : Nat} {exponent : Int} (nonzero : 0 < mantissa)
    (normal : Normal mantissa) (above : -1074 ≤ exponent) :
    UnpackedFloat.mul Format.binary64 (.finite .positive mantissa exponent nonzero)
      (.finite .positive (2 ^ 52) (-52) (by decide)) =
        .finite .positive mantissa exponent nonzero := by
  have stays : exponent + -52 + (52 : Nat) = exponent := by omega
  have inRange : -1074 ≤ exponent + -52 + (52 : Nat) := by omega
  have kept := roundWithAccuracy_mul_two_pow .positive nonzero normal inRange
  simp only [stays] at kept
  exact kept

theorem toModel_ofNat_of_lt {number : Nat} (positive : 0 < number) (short : number < 2 ^ 53) :
    ∃ mantissa exponent, ∃ nonzero : 0 < mantissa,
      (Float.ofNat number).toModel = .pack (.finite .positive mantissa exponent nonzero) ∧
        Nearest number mantissa exponent := by
  have bits : number.log2 < 53 := (Nat.log2_lt (Nat.ne_of_gt positive)).2 short
  obtain ⟨mantissa, exponent, nonzero, converted, nearest⟩ :=
    ofNat_unpacked positive (Nat.le_of_lt_succ bits)
  have lower := nearest.lower
  have upper := nearest.upper
  have above : -1074 ≤ exponent := by omega
  refine ⟨mantissa, exponent, nonzero, ?_, nearest⟩
  have fast : Float.ofNat number =
      number.toUInt64.toFloat * Float.ofBits 0x3FF0000000000000 := by
    have inRange : number < 2 ^ 53 ∧ 0 ≤ 22 := ⟨short, by decide⟩
    exact dif_pos inRange
  have word : number.toUInt64.toNat = number := Nat.mod_eq_of_lt (by omega)
  have left : number.toUInt64.toFloat.toModel.unpack =
      .finite .positive mantissa exponent nonzero := by
    have packed : number.toUInt64.toFloat.toModel =
        .pack (.finite .positive mantissa exponent nonzero) := by
      rw [← converted]
      exact congrArg
        (fun whole => Float.Model.pack (UnpackedFloat.ofNat Format.binary64 whole)) word
    rw [packed]
    exact unpack_pack_normal .positive nonzero nearest.normal above (by omega)
  have right : (Float.ofBits 0x3FF0000000000000).toModel.unpack =
      .finite .positive (2 ^ 52) (-52) (by decide) := rfl
  rw [fast, ← mul_one_unpacked nonzero nearest.normal above, ← left, ← right]
  rfl

theorem toModel_ofNat_of_ge {number : Nat} (long : 2 ^ 53 ≤ number) :
    ∃ mantissa exponent, ∃ nonzero : 0 < mantissa,
      (Float.ofNat number).toModel = .pack (.finite .positive mantissa exponent nonzero) ∧
        Nearest number mantissa exponent := by
  have nonzero : number ≠ 0 := by omega
  have size : (number * 2 ^ 53 * 1).log2 = 52 + (number.log2 + 1) := by
    rw [Nat.mul_one, log2_mul_two_pow nonzero]
    omega
  have above : -1074 ≤ (-53 + 0 : Int) + (number.log2 + 1 : Nat) := by omega
  obtain ⟨mantissa, exponent, positive, normal, rounded, value⟩ :=
    roundWithAccuracy_normal .positive size above
  have bits : 53 ≤ number.log2 := (Nat.le_log2 nonzero).2 long
  have nearest : Nearest number mantissa exponent := by
    have longer : number.log2 + 1 = spareBits number + 53 := by
      unfold spareBits
      omega
    have sameExponent : (-53 + 0 : Int) + (number.log2 + 1 : Nat) = spareBits number := by
      omega
    rw [sameExponent, Nat.mul_one, longer, halfEven_mul_two_pow_add] at value
    exact nearest_of_halfEven (Nat.le_of_lt bits) normal value
  refine ⟨mantissa, exponent, positive, ?_, nearest⟩
  have slow : (Float.ofNat number).toModel = Float.Model.ofScientific number 0 := by
    have outOfRange : ¬(number < 2 ^ 53 ∧ 0 ≤ 22) := by omega
    exact congrArg Float.toModel (dif_neg outOfRange)
  have unpacked : UnpackedFloat.ofScientific Format.binary64 number 0 =
      roundWithAccuracy Format.binary64 .positive (number * 2 ^ 53 * 1) (-53 + 0) .exact := by
    have notHuge : ¬((0 : Int) > 2 ^ Format.binary64.exponentBits) := by decide
    have notTiny : ¬((0 : Int) < -((2 ^ Format.binary64.exponentBits : Int) + number.log2)) := by
      have width : (2 ^ Format.binary64.exponentBits : Int) = 2048 := by decide
      rw [width]
      omega
    rw [UnpackedFloat.ofScientific, dif_neg nonzero, if_neg notHuge, if_neg notTiny,
      if_pos (Int.le_refl 0), ← Nat.shiftLeft_eq]
    rfl
  rw [slow, ← rounded, ← unpacked]
  rfl

theorem ofFloat_ofNat {number : Nat} (positive : 0 < number) (small : number < 2 ^ 64) :
    ∃ mantissa exponent, Nearest number mantissa exponent ∧
      ofFloat (Float.ofNat number) = .finite false mantissa exponent ∧
      ofFloat (Float.ofNat number).neg = .finite true mantissa exponent := by
  have converted : ∃ mantissa exponent, ∃ nonzero : 0 < mantissa,
      (Float.ofNat number).toModel = .pack (.finite .positive mantissa exponent nonzero) ∧
        Nearest number mantissa exponent := by
    rcases Nat.lt_or_ge number (2 ^ 53) with short | long
    · exact toModel_ofNat_of_lt positive short
    · exact toModel_ofNat_of_ge long
  obtain ⟨mantissa, exponent, nonzero, packed, nearest⟩ := converted
  have lower := nearest.lower
  have upper := nearest.upper
  have bits : number.log2 < 64 := (Nat.log2_lt (Nat.ne_of_gt positive)).2 small
  have above : -1074 ≤ exponent := by omega
  have below : exponent ≤ 971 := by omega
  have readBack := fun sign => unpack_pack_normal sign nonzero nearest.normal above below
  have unpacked : (Float.ofNat number).toModel.unpack =
      .finite .positive mantissa exponent nonzero := by
    rw [packed]
    exact readBack .positive
  refine ⟨mantissa, exponent, nearest, ?_, ?_⟩
  · rw [ofFloat_eq_ofUnpacked, unpacked]
    rfl
  · have negated : (Float.ofNat number).neg.toModel =
        .pack (.finite .negative mantissa exponent nonzero) := by
      have flipped : (Float.ofNat number).neg.toModel =
          .pack (UnpackedFloat.neg (Float.ofNat number).toModel.unpack) := rfl
      rw [flipped, unpacked]
      rfl
    rw [ofFloat_eq_ofUnpacked, negated]
    exact congrArg ofUnpacked (readBack .negative)

theorem Nearest.integer? {number mantissa : Nat} {exponent : Int}
    (nearest : Nearest number mantissa exponent) (negative : Bool) :
    (finite negative mantissa exponent).integer? = some (signed negative (roundedNat number)) := by
  have value := nearest.value
  have positive := Nat.two_pow_pos (-exponent).toNat
  have whole : mantissa % 2 ^ (-exponent).toNat = 0 := by
    rcases Int.lt_or_le 0 exponent with up | down
    · have noFraction : (-exponent).toNat = 0 := by omega
      rw [noFraction, Nat.pow_zero, Nat.mod_one]
    · have wholeExponent : exponent.toNat = 0 := by omega
      rw [wholeExponent, Nat.pow_zero, Nat.mul_one] at value
      rw [value, Nat.mul_mod_left]
  simp only [Binary64.integer?, wholePart, Nat.pow_eq]
  rw [if_pos whole, value, Nat.mul_div_cancel _ positive]

theorem integer?_ofInt {value : Int} (fits : Word.fits value = true) :
    (ofFloat (Float.ofInt value)).integer? = some (rounded value) := by
  have signedLimit : Word.signedLimit = 2 ^ 63 := rfl
  have unsignedLimit : Word.unsignedLimit = 2 ^ 64 := rfl
  simp only [Word.fits, Bool.and_eq_true, decide_eq_true_eq, signedLimit, unsignedLimit] at fits
  obtain ⟨low, high⟩ := fits
  cases value with
  | ofNat number =>
      have cast : Int.ofNat number = (number : Int) := rfl
      rw [cast, rounded_ofNat]
      rcases Nat.eq_zero_or_pos number with rfl | positive
      · have zero : ofFloat (Float.ofInt (0 : Nat)) = .finite false 0 (-1074) := rfl
        rw [zero]
        simp only [integer?, wholePart, signed, Nat.zero_mod, Nat.zero_mul, Nat.zero_div]
        rfl
      · obtain ⟨mantissa, exponent, nearest, converted, _⟩ :=
          ofFloat_ofNat positive (by omega)
        have same : Float.ofInt (number : Int) = Float.ofNat number := rfl
        rw [same, converted]
        exact nearest.integer? false
  | negSucc number =>
      obtain ⟨mantissa, exponent, nearest, _, converted⟩ :=
        ofFloat_ofNat (Nat.succ_pos number) (by omega)
      have negated : Int.negSucc number = -((number + 1 : Nat) : Int) := rfl
      rw [Float.ofInt, converted, negated, rounded_neg, rounded_ofNat]
      exact nearest.integer? true

theorem normal_or_subnormal_of_ofFloat {value : Float} {negative : Bool} {mantissa : Nat}
    {exponent : Int} (denoted : ofFloat value = .finite negative mantissa exponent) :
    Normal mantissa ∧ -1074 ≤ exponent ∧ exponent ≤ 971 ∨
      mantissa < 2 ^ 52 ∧ exponent = -1074 := by
  have fraction : value.toBits.toNat % Nat.pow 2 52 < 2 ^ 52 := Nat.mod_lt _ (by decide)
  have biased : value.toBits.toNat / Nat.pow 2 52 % Nat.pow 2 11 < 2048 :=
    Nat.mod_lt _ (by decide)
  have leading : Nat.pow 2 52 = 2 ^ 52 := rfl
  simp only [ofFloat] at denoted
  split at denoted
  · split at denoted <;> cases denoted
  · split at denoted
    · cases denoted
      exact .inr ⟨fraction, rfl⟩
    · cases denoted
      refine .inl ⟨?_, ?_⟩
      · rw [leading] at fraction ⊢
        constructor <;> omega
      · omega

theorem mantissa_lt_of_ofFloat {value : Float} {negative : Bool} {mantissa : Nat}
    {exponent : Int} (denoted : ofFloat value = .finite negative mantissa exponent) :
    mantissa < 2 ^ 53 := by
  rcases normal_or_subnormal_of_ofFloat denoted with ⟨normal, _⟩ | ⟨small, _⟩
  · exact normal.2
  · exact Nat.lt_trans small (by decide)

theorem natAbs_signed (negative : Bool) (magnitude : Nat) :
    (signed negative magnitude).natAbs = magnitude := by
  cases negative with
  | false => exact Int.natAbs_natCast magnitude
  | true => exact (Int.natAbs_neg _).trans (Int.natAbs_natCast magnitude)

theorem rounded_of_integer? {value : Float} {whole : Int}
    (integral : (ofFloat value).integer? = some whole) : rounded whole = whole := by
  rw [rounded_eq_self_iff]
  cases denoted : ofFloat value with
  | nan | infinite => simp [denoted, integer?] at integral
  | finite negative mantissa exponent =>
      have short := mantissa_lt_of_ofFloat denoted
      simp only [denoted, integer?, Option.ite_none_right_eq_some, Option.some.injEq] at integral
      obtain ⟨_, rfl⟩ := integral
      have magnitude : (wholePart negative mantissa exponent).natAbs =
          mantissa * 2 ^ exponent.toNat / 2 ^ (-exponent).toNat := natAbs_signed negative _
      rw [magnitude]
      rcases Int.le_total 0 exponent with up | down
      · have noFraction : (-exponent).toNat = 0 := by omega
        rw [noFraction, Nat.pow_zero, Nat.div_one]
        exact precise_mul_two_pow short _
      · have noZeros : exponent.toNat = 0 := by omega
        rw [noZeros, Nat.pow_zero, Nat.mul_one, ← Nat.mul_one (mantissa / _)]
        exact precise_mul_two_pow (Nat.lt_of_le_of_lt (Nat.div_le_self _ _) short) 0

/-- Beyond the signed words, a word stays beyond them when it is rounded. -/
theorem signedLimit_le_rounded {value : Int} (beyond : (Word.signedLimit : Int) ≤ value) :
    (Word.signedLimit : Int) ≤ rounded value := by
  have limit : Word.signedLimit = 2 ^ 63 := rfl
  rw [limit] at beyond ⊢
  obtain ⟨number, rfl⟩ := Int.eq_ofNat_of_zero_le (Int.le_trans (by decide) beyond)
  rw [rounded_ofNat]
  have long : 2 ^ 63 ≤ number := Int.ofNat_le.1 beyond
  have nonzero : number ≠ 0 := by omega
  have bits : 63 ≤ number.log2 := (Nat.le_log2 nonzero).2 long
  apply Int.ofNat_le.2
  calc 2 ^ 63 ≤ 2 ^ number.log2 := Nat.pow_le_pow_right (by decide) bits
    _ ≤ roundedNat number := two_pow_log2_le_roundedNat nonzero

/-- The sign of a normal double is all that its negative changes. -/
theorem ofFloat_neg {value : Float} {negative : Bool} {mantissa : Nat} {exponent : Int}
    (denoted : ofFloat value = .finite negative mantissa exponent) (normal : Normal mantissa)
    (lower : -1074 ≤ exponent) (upper : exponent ≤ 971) :
    ofFloat (-value) = .finite (!negative) mantissa exponent := by
  rw [ofFloat_eq_ofUnpacked] at denoted
  have flipped : (-value).toModel = .pack (UnpackedFloat.neg value.toModel.unpack) := rfl
  rw [ofFloat_eq_ofUnpacked, flipped]
  cases unpacked : value.toModel.unpack with
  | notANumber | infinity => simp [unpacked, ofUnpacked] at denoted
  | zero sign =>
      simp only [unpacked, ofUnpacked, finite.injEq] at denoted
      have least := normal.1
      omega
  | finite sign read scale positive =>
      simp only [unpacked, ofUnpacked, finite.injEq] at denoted
      obtain ⟨rfl, rfl, rfl⟩ := denoted
      have readBack := unpack_pack_normal (-sign) positive normal lower upper
      refine (congrArg ofUnpacked readBack).trans ?_
      cases sign <;> rfl

theorem wholePart_zero (negative : Bool) (exponent : Int) : wholePart negative 0 exponent = 0 := by
  cases negative <;> simp [wholePart, signed]

/-- The negative of a double is equal to the negative of the integer, apart from zeros. -/
theorem integer?_neg {value : Float} {whole : Int}
    (integral : (ofFloat value).integer? = some whole) (nonzero : whole ≠ 0) :
    (ofFloat (-value)).integer? = some (-whole) := by
  cases denoted : ofFloat value with
  | nan | infinite => simp [denoted, integer?] at integral
  | finite negative mantissa exponent =>
      simp only [denoted, integer?, Option.ite_none_right_eq_some, Option.some.injEq] at integral
      obtain ⟨divides, rfl⟩ := integral
      rcases normal_or_subnormal_of_ofFloat denoted with ⟨normal, lower, upper⟩ | ⟨small, rfl⟩
      · rw [ofFloat_neg denoted normal lower upper, integer?, if_pos divides]
        cases negative <;> simp [wholePart, signed]
      · have kept : ∀ bits, 52 ≤ bits → mantissa % Nat.pow 2 bits = mantissa := by
          intro bits enough
          exact Nat.mod_eq_of_lt (Nat.lt_of_lt_of_le small
            (Nat.pow_le_pow_right (by decide) enough))
        rw [kept _ (by decide)] at divides
        rw [divides] at nonzero
        exact absurd (wholePart_zero negative (-1074)) nonzero

end Binary64

end LatticeDiff
