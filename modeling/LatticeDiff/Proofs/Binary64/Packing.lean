import LatticeDiff.Proofs.Binary64.Rounding

/-!
# Doubles and their bits

A double is kept as its bits. Reading the value off the bits agrees with the logical
model of `Float`, and a normal number that is packed into bits is read back unchanged.
-/

namespace LatticeDiff

namespace Binary64

open Float.Model (Format UnpackedFloat totalExponent)
open Float.Model.UnpackedFloat

/-- Whether a sign is the negative one. -/
def isNegative : Sign → Bool
  | .negative => true
  | .positive => false

/-- What an unpacked float denotes. -/
def ofUnpacked : UnpackedFloat → Binary64
  | .notANumber => .nan
  | .infinity sign => .infinite (isNegative sign)
  | .zero sign => .finite (isNegative sign) 0 (-1074)
  | .finite sign mantissa exponent _ => .finite (isNegative sign) mantissa exponent

theorem toNat_unpackExponent (bits : BitVec Format.binary64.numBits) :
    (unpackExponent bits).toNat = bits.toNat / Nat.pow 2 52 % Nat.pow 2 11 := by
  rw [unpackExponent, BitVec.toNat_cast, BitVec.extractLsb_toNat, Nat.shiftRight_eq_div_pow]
  rfl

theorem toNat_unpackMantissa (bits : BitVec Format.binary64.numBits) :
    (unpackMantissa bits).toNat = bits.toNat % Nat.pow 2 52 := by
  rw [unpackMantissa, BitVec.toNat_cast, BitVec.extractLsb_toNat]
  rfl

theorem isNegative_unpackSign (bits : BitVec Format.binary64.numBits) :
    isNegative (Sign.ofBitVec (unpackSign bits)) = decide (Nat.pow 2 63 ≤ bits.toNat) := by
  have read : (unpackSign bits).toNat = bits.toNat / 2 ^ 63 % 2 := by
    rw [unpackSign, BitVec.toNat_cast, BitVec.extractLsb_toNat, Nat.shiftRight_eq_div_pow]
    rfl
  have small : bits.toNat < 2 ^ 64 := bits.isLt
  have limit : Nat.pow 2 63 = 2 ^ 63 := rfl
  have zero : unpackSign bits = 0#1 ↔ (unpackSign bits).toNat = 0 := BitVec.toNat_inj.symm
  rw [Sign.ofBitVec, limit]
  split
  · next positive =>
      rw [zero, read] at positive
      symm
      exact decide_eq_false (by omega)
  · next negative =>
      rw [zero, read] at negative
      symm
      exact decide_eq_true (by omega)

/-- Reading the value off the bits agrees with the logical model of doubles. -/
theorem ofFloat_eq_ofUnpacked (value : Float) :
    ofFloat value = ofUnpacked value.toModel.unpack := by
  let bits : BitVec Format.binary64.numBits := value.toModel.toBits.toBitVec
  have exponentBits := toNat_unpackExponent bits
  have mantissaBits := toNat_unpackMantissa bits
  have signBit := isNegative_unpackSign bits
  have same : value.toBits.toNat = bits.toNat := rfl
  have top : unpackExponent bits = -1#11 ↔ (unpackExponent bits).toNat = 2047 :=
    BitVec.toNat_inj.symm
  have bottom : unpackExponent bits = 0#11 ↔ (unpackExponent bits).toNat = 0 :=
    BitVec.toNat_inj.symm
  have none : unpackMantissa bits = 0#52 ↔ (unpackMantissa bits).toNat = 0 :=
    BitVec.toNat_inj.symm
  have implicit : (1#1 ++ unpackMantissa bits).toNat =
      Nat.pow 2 52 + (unpackMantissa bits).toNat := by
    rw [BitVec.toNat_append]
    exact (Nat.two_pow_add_eq_or_of_lt (unpackMantissa bits).isLt 1).symm
  have model : value.toModel.unpack = unpack Format.binary64 bits := rfl
  rw [model]
  simp only [ofFloat, unpack, same, ← exponentBits, ← mantissaBits, ← signBit]
  simp only [top, bottom, none]
  split
  · split
    · rfl
    · rfl
  · split
    · next subnormal =>
        split
        · next zero =>
            simp only [ofUnpacked, zero]
        · simp only [ofUnpacked, subnormal]
          rfl
    · simp only [ofUnpacked, implicit]
      rfl

/-- Normal numbers are packed with their biased exponent and without their first bit. -/
theorem pack_normal (sign : Sign) {mantissa : Nat} {exponent : Int} (positive : 0 < mantissa)
    (normal : Normal mantissa) (upper : exponent ≤ 971) :
    pack Format.binary64 (.finite sign mantissa exponent positive) =
      packComponents Format.binary64 sign (BitVec.ofNat 11 (exponent + 1075).toNat)
        (BitVec.ofNat 52 mantissa) := by
  have added : exponent + Format.binary64.exponentBias +
      Format.binary64.mantissaBitsWithoutImplicit = exponent + 1075 :=
    Int.add_assoc exponent 1023 52
  have inRange : ¬2 ^ 11 ≤ (exponent + 1075).toNat + 1 := by omega
  simp only [pack, normal.log2, added]
  exact (if_neg inRange).trans (if_pos rfl)

/-- A biased exponent that is neither the least nor the greatest is that of a normal
number. -/
theorem unpack_normal (sign : Sign) {mantissa biased : Nat} (positive : 0 < mantissa)
    (normal : Normal mantissa) (lower : 0 < biased) (upper : biased < 2047) :
    unpack Format.binary64 (packComponents Format.binary64 sign (BitVec.ofNat 11 biased)
      (BitVec.ofNat 52 mantissa)) = .finite sign mantissa (biased - 1075) positive := by
  have exponentBits : (BitVec.ofNat 11 biased).toNat = biased := by
    rw [BitVec.toNat_ofNat]
    exact Nat.mod_eq_of_lt (by omega)
  have notTop : BitVec.ofNat 11 biased ≠ -1#11 := by
    intro same
    have sameNat := congrArg BitVec.toNat same
    rw [exponentBits] at sameNat
    have top : (-1#11 : BitVec 11).toNat = 2047 := rfl
    omega
  have notBottom : BitVec.ofNat 11 biased ≠ 0#11 := by
    intro same
    have sameNat := congrArg BitVec.toNat same
    rw [exponentBits] at sameNat
    have bottom : (0#11 : BitVec 11).toNat = 0 := rfl
    omega
  have implicit : (1#1 ++ BitVec.ofNat 52 mantissa).toNat = mantissa := by
    obtain ⟨least, greatest⟩ := normal
    have joined := Nat.two_pow_add_eq_or_of_lt (BitVec.ofNat 52 mantissa).isLt 1
    rw [BitVec.toNat_append]
    refine joined.symm.trans ?_
    rw [BitVec.toNat_ofNat]
    omega
  have unbiased : ((BitVec.ofNat 11 biased).toNat : Int) -
      (Format.binary64.exponentBias + (52 : Nat)) = biased - 1075 := by
    have bias : (Format.binary64.exponentBias : Int) = 1023 := rfl
    rw [exponentBits, bias]
    omega
  simp only [unpack, unpackMantissa_packComponents, unpackExponent_packComponents,
    unpackSign_packComponents, Sign.ofBitVec_toBitVec]
  rw [if_neg notTop, if_neg notBottom]
  simp only [implicit, unbiased]

theorem unpack_pack_normal (sign : Sign) {mantissa : Nat} {exponent : Int}
    (positive : 0 < mantissa) (normal : Normal mantissa) (lower : -1074 ≤ exponent)
    (upper : exponent ≤ 971) :
    unpack Format.binary64 (pack Format.binary64 (.finite sign mantissa exponent positive)) =
      .finite sign mantissa exponent positive := by
  have unbiased : ((exponent + 1075).toNat : Int) - 1075 = exponent := by omega
  rw [pack_normal sign positive normal upper,
    unpack_normal sign positive normal (by omega) (by omega), unbiased]

end Binary64

end LatticeDiff
