import Mathlib

/-!
# Doubles and the numbers they stand for

A finite double is a mantissa times a power of two, in one form only: the mantissa has 53 bits, or
the exponent is the least one. Every double is unpacked to such a form, and what has the form is
packed without loss, unless its exponent is too large for a double.

* `Canonical` — the form that the numbers of doubles have
* `unpack_canonical`, `unpack_pack`, `pack_unpack` — doubles and numbers of that form are the same
  thing
-/

namespace SceneLogic.Number

open Float.Model Float.Model.UnpackedFloat

/-- A mantissa and an exponent are those of a double: the mantissa fills its 53 bits, or the
exponent cannot be less. -/
structure Fits (mantissa : Nat) (exponent : Int) : Prop where
  narrow : mantissa < 2 ^ 53
  bottom : -1074 ≤ exponent
  full : 2 ^ 52 ≤ mantissa ∨ exponent = -1074

/-- A number has the form of a double, but for the size of its exponent. -/
def Canonical : UnpackedFloat → Prop
  | .finite _ mantissa exponent _ => Fits mantissa exponent
  | _ => True

/-- A number whose exponent is too large for a double is infinite. -/
def capped : UnpackedFloat → UnpackedFloat
  | .finite sign mantissa exponent hpos =>
    if exponent ≤ 971 then .finite sign mantissa exponent hpos else .infinity sign
  | u => u

theorem toNat_append_one (mantissa : BitVec 52) :
    (1#1 ++ mantissa).toNat = 2 ^ 52 + mantissa.toNat := by
  rw [BitVec.toNat_append, ← Nat.shiftLeft_add_eq_or_of_lt mantissa.isLt]
  rfl

/-- Every double has the form of one. -/
theorem unpack_canonical (x : Float.Model) : Canonical x.unpack := by
  unfold Float.Model.unpack
  fun_cases UnpackedFloat.unpack Format.binary64 x.toBits.toBitVec with
  | case1 => trivial
  | case2 => trivial
  | case3 => trivial
  | case4 fraction field exponent _ sign _ hzeros hfraction =>
    have hnarrow : fraction.toNat < 2 ^ 52 := fraction.isLt
    have hexponent : exponent = (field.toNat : Int) - 1075 := rfl
    rw [hzeros] at hexponent
    change exponent = -1075 at hexponent
    exact ⟨by omega, by omega, Or.inr (by omega)⟩
  | case5 fraction field exponent _ sign _ hzeros =>
    have hnarrow : fraction.toNat < 2 ^ 52 := fraction.isLt
    have hexponent : exponent = (field.toNat : Int) - 1075 := rfl
    have hpos : 0 < field.toNat := Nat.pos_of_ne_zero fun h => hzeros (BitVec.eq_of_toNat_eq h)
    have hmantissa := toNat_append_one fraction
    exact ⟨by omega, by omega, Or.inl (by omega)⟩

theorem fits_of_unpack {x : Float.Model} {sign : Sign} {mantissa : Nat} {exponent : Int}
    {hpos : 0 < mantissa} (h : x.unpack = .finite sign mantissa exponent hpos) :
    Fits mantissa exponent := by
  have hcanonical := unpack_canonical x
  rwa [h] at hcanonical

/-- The field of a number with 53 bits keeps its exponent, and the other bits are the fraction. -/
theorem unpack_pack_full (sign : Sign) {mantissa : Nat} {exponent : Int} (hpos : 0 < mantissa)
    (h : Fits mantissa exponent) (hfull : 2 ^ 52 ≤ mantissa) (htop : exponent ≤ 971) :
    UnpackedFloat.unpack Format.binary64
        (packComponents Format.binary64 sign (BitVec.ofNat _ (exponent + 1075).toNat)
          (BitVec.ofNat _ mantissa)) =
      .finite sign mantissa exponent hpos := by
  obtain ⟨hnarrow, hbottom, -⟩ := h
  have hfield : (BitVec.ofNat 11 (exponent + 1075).toNat).toNat = (exponent + 1075).toNat := by
    rw [BitVec.toNat_ofNat, Nat.mod_eq_of_lt (by omega)]
  have hfraction : (1#1 ++ BitVec.ofNat 52 mantissa).toNat = mantissa := by
    rw [toNat_append_one, BitVec.toNat_ofNat]
    omega
  have hones : ¬ BitVec.ofNat 11 (exponent + 1075).toNat = -1#11 := by
    intro heq
    rw [heq] at hfield
    change 2047 = _ at hfield
    omega
  have hzeros : ¬ BitVec.ofNat 11 (exponent + 1075).toNat = 0#11 := by
    intro heq
    rw [heq] at hfield
    change 0 = _ at hfield
    omega
  have hbias : (Format.binary64.exponentBias : Int) = 1023 := rfl
  simp only [UnpackedFloat.unpack, unpackExponent_packComponents, unpackMantissa_packComponents,
    unpackSign_packComponents, Sign.ofBitVec_toBitVec, if_neg hones, if_neg hzeros, hfield,
    hfraction, hbias]
  congr 1
  omega

/-- A number with fewer bits is all fraction. -/
theorem unpack_pack_low (sign : Sign) {mantissa : Nat} (hpos : 0 < mantissa)
    (hlow : mantissa < 2 ^ 52) :
    UnpackedFloat.unpack Format.binary64
        (packComponents Format.binary64 sign 0#_ (BitVec.ofNat _ mantissa)) =
      .finite sign mantissa (-1074) hpos := by
  have hfraction : (BitVec.ofNat 52 mantissa).toNat = mantissa := by
    rw [BitVec.toNat_ofNat, Nat.mod_eq_of_lt hlow]
  have hnonzero : ¬ BitVec.ofNat 52 mantissa = 0#52 := by
    intro heq
    rw [heq] at hfraction
    change 0 = _ at hfraction
    omega
  have hones : ¬ 0#11 = -1#11 := by decide
  simp only [UnpackedFloat.unpack, unpackExponent_packComponents, unpackMantissa_packComponents,
    unpackSign_packComponents, Sign.ofBitVec_toBitVec, if_neg hones, if_true, dif_neg hnonzero,
    hfraction]
  rfl

/-- The packed form of a number is unpacked to the number itself. -/
theorem unpack_pack {u : UnpackedFloat} (h : Canonical u) :
    (Float.Model.pack u).unpack = capped u := by
  change UnpackedFloat.unpack Format.binary64 (UnpackedFloat.pack Format.binary64 u) = capped u
  cases u with
  | notANumber => exact unpack_packedNaN
  | infinity sign => cases sign <;> rfl
  | zero sign => exact unpack_packedZero
  | finite sign mantissa exponent hpos =>
    have hfield : (exponent + Format.binary64.exponentBias +
        Format.binary64.mantissaBitsWithoutImplicit).toNat = (exponent + 1075).toNat :=
      congrArg Int.toNat (add_assoc exponent 1023 52)
    have hbits : (mantissa.log2 + 1 = Format.binary64.mantissaBits) = (mantissa.log2 + 1 = 53) :=
      rfl
    simp only [UnpackedFloat.pack, hfield, hbits, capped]
    by_cases htop : exponent ≤ 971
    · rw [if_neg (by change ¬ 2048 ≤ _; omega), if_pos htop]
      by_cases hfull : 2 ^ 52 ≤ mantissa
      · rw [if_pos ((Nat.log2_eq_iff hpos.ne').mpr ⟨hfull, h.narrow⟩ ▸ rfl)]
        exact unpack_pack_full sign hpos h hfull htop
      · have hlow := not_le.mp hfull
        have hlog := (Nat.log2_lt hpos.ne').mpr hlow
        rw [if_neg (by omega)]
        obtain rfl := h.full.resolve_left hfull
        exact unpack_pack_low sign hpos hlow
    · rw [if_pos (by change 2048 ≤ _; omega), if_neg htop]
      cases sign <;> rfl

/-- A double is packed again as it was. -/
theorem pack_unpack (x : Float.Model) : Float.Model.pack x.unpack = x := by
  obtain ⟨bits, hvalid⟩ := x
  have hbits : UnpackedFloat.pack Format.binary64
      (UnpackedFloat.unpack Format.binary64 bits.toBitVec) = bits.toBitVec :=
    pack_unpack_of_valid hvalid
  simp only [Float.Model.pack, Float.Model.unpack, hbits]

/-- The exponent of a double is not too large for one. -/
theorem exponent_le_of_unpack {x : Float.Model} {sign : Sign} {mantissa : Nat} {exponent : Int}
    {hpos : 0 < mantissa} (h : x.unpack = .finite sign mantissa exponent hpos) :
    exponent ≤ 971 := by
  have hpack := unpack_pack (unpack_canonical x)
  rw [pack_unpack, h, capped] at hpack
  by_contra hlarge
  rw [if_neg hlarge] at hpack
  cases hpack

theorem not_isNaN_of_isFinite {x : Float} (h : x.isFinite = true) : x.isNaN = false := by
  have hfinite : x.toModel.unpack.isFinite = true := h
  change x.toModel.unpack.isNaN = false
  generalize x.toModel.unpack = u at hfinite
  cases u with
  | notANumber => cases hfinite
  | _ => rfl

end SceneLogic.Number
