import SceneLogic.Number.Binary
import SceneLogic.Proofs.Number.Rounding

/-!
# Bit patterns and the numbers they stand for

The bits of a double are read twice: as a magnitude with a sign, by which a double is written as a
text and brought to an integer, and unpacked, which is what the operations on doubles start from.
For a finite double both readings give the same mantissa and exponent.

* `readAs_unpack` — the two readings of a double
-/

namespace SceneLogic.Number

open Float.Model Float.Model.UnpackedFloat

/-! ## Fields -/

theorem exponentField_eq (bits : UInt64) :
    exponentField bits = (@unpackExponent Format.binary64 bits.toBitVec).toNat := by
  change ((bits >>> 52) &&& 0x7FF).toNat = bits.toNat >>> 52 % 2 ^ 11
  rw [UInt64.toNat_and, UInt64.toNat_shiftRight]
  exact Nat.and_two_pow_sub_one_eq_mod _ 11

theorem fractionField_eq (bits : UInt64) :
    fractionField bits = (@unpackMantissa Format.binary64 bits.toBitVec).toNat := by
  change (bits &&& 0xFFFFFFFFFFFFF).toNat = bits.toNat >>> 0 % 2 ^ 52
  rw [UInt64.toNat_and]
  exact Nat.and_two_pow_sub_one_eq_mod _ 52

/-- The first bit is the sign. -/
theorem shiftRight_eq_one_iff (bits : UInt64) : bits >>> 63 = 1 ↔
    Sign.ofBitVec (@unpackSign Format.binary64 bits.toBitVec) = .negative := by
  have hsign : (@unpackSign Format.binary64 bits.toBitVec).toNat =
      bits.toNat / 2 ^ 63 % 2 := congrArg (· % 2) (Nat.shiftRight_eq_div_pow _ 63)
  have hfield : (bits >>> 63).toNat = bits.toNat / 2 ^ 63 :=
    (UInt64.toNat_shiftRight bits 63).trans (Nat.shiftRight_eq_div_pow _ 63)
  have hlt := bits.toNat_lt
  unfold Sign.ofBitVec
  rw [← UInt64.toNat_inj, hfield, UInt64.toNat_one]
  by_cases hzero : @unpackSign Format.binary64 bits.toBitVec = 0#1
  · rw [if_pos hzero]
    rw [hzero] at hsign
    change 0 = _ at hsign
    exact iff_of_false (by omega) Sign.noConfusion
  · rw [if_neg hzero]
    have hone : (@unpackSign Format.binary64 bits.toBitVec).toNat ≠ 0 :=
      fun h => hzero (BitVec.eq_of_toNat_eq h)
    exact iff_of_true (by omega) rfl

/-! ## Magnitudes -/

theorem ofBits_low {bits : UInt64} (h : exponentField bits = 0) :
    Magnitude.ofBits bits = ⟨fractionField bits, -1074, false⟩ :=
  if_pos h

theorem ofBits_full {bits : UInt64} (h : exponentField bits ≠ 0) :
    Magnitude.ofBits bits = ⟨2 ^ 52 + fractionField bits, exponentField bits - 1075,
      fractionField bits = 0 && 1 < exponentField bits⟩ :=
  if_neg h

/-- The bits have the sign, the mantissa and the exponent of an unpacked number. -/
def ReadAs (bits : UInt64) : UnpackedFloat → Prop
  | .finite sign mantissa exponent _ =>
    (bits >>> 63 = 1 ↔ sign = .negative) ∧ (Magnitude.ofBits bits).mantissa = mantissa ∧
      (Magnitude.ofBits bits).exponent = exponent
  | .zero _ => (Magnitude.ofBits bits).mantissa = 0
  | _ => True

/-- Unpacking a double reads its magnitude. -/
theorem readAs_unpack (x : Float) : ReadAs x.toBits x.toModel.unpack := by
  have hexponent := exponentField_eq x.toBits
  have hfraction := fractionField_eq x.toBits
  have hsign := shiftRight_eq_one_iff x.toBits
  change ReadAs x.toBits (UnpackedFloat.unpack Format.binary64 x.toBits.toBitVec)
  fun_cases UnpackedFloat.unpack Format.binary64 x.toBits.toBitVec with
  | case1 => trivial
  | case2 => trivial
  | case3 fraction field _ _ _ hzeros hnone =>
    have hlow : exponentField x.toBits = 0 := hexponent.trans (congrArg BitVec.toNat hzeros)
    rw [ReadAs, ofBits_low hlow]
    exact hfraction.trans (congrArg BitVec.toNat hnone)
  | case4 fraction field exponent _ sign _ hzeros hsome =>
    have hlow : exponentField x.toBits = 0 := hexponent.trans (congrArg BitVec.toNat hzeros)
    have hbottom : exponent + 1 = -1074 := by
      change (field.toNat : Int) - 1075 + 1 = _
      rw [congrArg BitVec.toNat hzeros]
      rfl
    rw [ReadAs, ofBits_low hlow]
    exact ⟨hsign, hfraction, hbottom.symm⟩
  | case5 fraction field exponent _ sign _ hzeros =>
    have hfull : exponentField x.toBits ≠ 0 := by
      rw [hexponent]
      exact fun h => hzeros (BitVec.eq_of_toNat_eq h)
    rw [ReadAs, ofBits_full hfull]
    refine ⟨hsign, ?_, ?_⟩
    · change 2 ^ 52 + fractionField x.toBits = _
      rw [hfraction, toNat_append_one]
    · change (exponentField x.toBits : Int) - 1075 = _
      rw [hexponent]
      rfl

end SceneLogic.Number
