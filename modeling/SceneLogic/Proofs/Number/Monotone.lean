import SceneLogic.Proofs.Number.Integers
import SceneLogic.Proofs.Number.Patterns
import SceneLogic.Proofs.Number.Squares

/-!
# Squares in order

Rounding keeps the order of numbers, and so the squares of doubles are ordered as the doubles are,
as long as these are not negative: of two bounds for a distance, the squares bound it in the same
order.

* `value_roundWithAccuracy_mono` — rounded numbers are in the order of the numbers
* `square_le_square` — squares are in the order of what is squared
-/

namespace SceneLogic.Number

open Float.Model Float.Model.UnpackedFloat

/-! ## Rounding -/

variable {m m' : Nat} {e e' : Int}

theorem value_roundWithAccuracy_positive (he : e ≤ target m e) :
    value (roundWithAccuracy Format.binary64 .positive m e .exact) =
      evenQuotient m (target m e - e).toNat * 2 ^ target m e := by
  rw [roundWithAccuracy_shifted _ _ _ _ he, value_carried, shifted, roundedMantissa_shiftRight]
  rfl

theorem evenQuotient_le_reduced (m : Nat) (e : Int) :
    reduced m e ≤ evenQuotient m (target m e - e).toNat ∧
      evenQuotient m (target m e - e).toNat ≤ 2 ^ 53 := by
  have hlt := reduced_lt m e
  unfold reduced at hlt ⊢
  rcases evenQuotient_cases m (target m e - e).toNat with ⟨heq, -⟩ | ⟨heq, -⟩ <;> omega

/-- One more than the largest mantissa is the least one of the next exponent. -/
theorem two_pow_carried (t : Int) : (2 ^ 53 * 2 ^ t : ℝ) = (2 ^ 52 : Nat) * 2 ^ (t + 1) := by
  push_cast
  rw [zpow_add_one₀ two_ne_zero]
  ring

/-- A number with the larger exponent is the larger one, also before it is rounded. -/
theorem target_le (he : e ≤ target m e) (he' : e' ≤ target m' e')
    (h : (m * 2 ^ e : ℝ) ≤ m' * 2 ^ e') : target m e ≤ target m' e' := by
  by_contra hlt
  have hbottom : -1074 ≤ target m' e' := le_max_right _ _
  have hfull : 2 ^ 52 ≤ reduced m e := (le_reduced he).resolve_right (by omega)
  have hlow : reduced m' e' + 1 ≤ 2 ^ 53 := reduced_lt m' e'
  have hpos : (0 : ℝ) < 2 ^ e' := by positivity
  refine absurd h (not_le.mpr ?_)
  calc (m' * 2 ^ e' : ℝ) < (m' + 1) * 2 ^ e' := by gcongr; exact lt_add_one _
    _ ≤ (reduced m' e' + 1) * 2 ^ target m' e' := le_reduced_succ he'
    _ ≤ 2 ^ 53 * 2 ^ target m' e' := by gcongr; exact_mod_cast hlow
    _ = (2 ^ 52 : Nat) * 2 ^ (target m' e' + 1) := two_pow_carried _
    _ ≤ reduced m e * 2 ^ target m e := by
        gcongr
        · exact one_le_two
        · omega
    _ ≤ m * 2 ^ e := reduced_le he

/-- Rounding keeps the order. -/
theorem value_roundWithAccuracy_mono (he : e ≤ target m e) (he' : e' ≤ target m' e')
    (h : (m * 2 ^ e : ℝ) ≤ m' * 2 ^ e') :
    value (roundWithAccuracy Format.binary64 .positive m e .exact) ≤
      value (roundWithAccuracy Format.binary64 .positive m' e' .exact) := by
  rw [value_roundWithAccuracy_positive he, value_roundWithAccuracy_positive he']
  rcases (target_le he he' h).lt_or_eq with hlt | heq
  · have hbottom : -1074 ≤ target m e := le_max_right _ _
    have hfull : 2 ^ 52 ≤ reduced m' e' := (le_reduced he').resolve_right (by omega)
    calc (evenQuotient m (target m e - e).toNat * 2 ^ target m e : ℝ)
        ≤ 2 ^ 53 * 2 ^ target m e := by
          gcongr
          exact_mod_cast (evenQuotient_le_reduced m e).2
      _ = (2 ^ 52 : Nat) * 2 ^ (target m e + 1) := two_pow_carried _
      _ ≤ evenQuotient m' (target m' e' - e').toNat * 2 ^ target m' e' := by
          gcongr
          · exact hfull.trans (evenQuotient_le_reduced m' e').1
          · exact one_le_two
          · omega
  · -- The numbers are brought to one denominator.
    set k := (target m e - e).toNat
    set k' := (target m' e' - e').toNat
    have hscale : m * 2 ^ k' ≤ m' * 2 ^ k := by
      have hpos : (0 : ℝ) < 2 ^ target m e := by positivity
      have hreal : (m * 2 ^ k' : ℝ) * 2 ^ target m e ≤ m' * 2 ^ k * 2 ^ target m e := by
        calc (m * 2 ^ k' : ℝ) * 2 ^ target m e = m * 2 ^ e * (2 ^ k * 2 ^ k') := by
              rw [two_pow_target he]
              ring
          _ ≤ m' * 2 ^ e' * (2 ^ k * 2 ^ k') := by gcongr
          _ = m' * 2 ^ k * 2 ^ target m e := by
              rw [heq, two_pow_target he']
              ring
      exact_mod_cast le_of_mul_le_mul_right hreal hpos
    have hquotients : evenQuotient m k ≤ evenQuotient m' k' := by
      rw [← evenQuotient_mul_two_pow m k k', ← evenQuotient_mul_two_pow m' k' k, add_comm k' k]
      exact evenQuotient_mono hscale _
    rw [heq]
    gcongr

/-! ## Packing -/

variable {a b : UnpackedFloat} {x y : Float}

theorem Unsigned.extendedValue_nonneg (h : Unsigned a) : 0 ≤ extendedValue a := by
  rcases h.cases with rfl | rfl | ⟨m, e, hm, rfl⟩
  · exact le_rfl
  · exact le_top
  · have hnonneg : (0 : ℝ) ≤ m * 2 ^ e := by positivity
    exact EReal.coe_nonneg.mpr hnonneg

/-- Capping what is too large keeps the order. -/
theorem extendedValue_capped_mono (ha : Canonical a) (hb : Canonical b) (hua : Unsigned a)
    (hub : Unsigned b) (hfa : a.isFinite = true) (hfb : b.isFinite = true)
    (h : value a ≤ value b) : extendedValue (capped a) ≤ extendedValue (capped b) := by
  cases a with
  | notANumber => cases hfa
  | infinity s => cases hfa
  | zero s =>
    have hub' := hub.unpack_pack hb
    rw [unpack_pack hb] at hub'
    exact hub'.extendedValue_nonneg
  | finite s m e hm =>
    obtain rfl : s = .positive := hua
    have hpos : (0 : ℝ) < m * 2 ^ e := mul_pos (Nat.cast_pos.mpr hm) (by positivity)
    cases b with
    | notANumber => cases hfb
    | infinity s' => cases hfb
    | zero s' => exact absurd h (not_le.mpr hpos)
    | finite s' m' e' hm' =>
      obtain rfl : s' = .positive := hub
      unfold capped
      dsimp only
      by_cases htop' : e' ≤ 971
      · have htop : e ≤ 971 := by
          by_contra hlarge
          exact absurd h (not_le.mpr (Fits.lt_of_exponent_lt hb ha (by omega)))
        rw [if_pos htop, if_pos htop']
        exact EReal.coe_le_coe_iff.mpr h
      · rw [if_neg htop']
        exact le_top

/-! ## Squares -/

theorem value_mul_self_mono (ha : Canonical a) (hb : Canonical b) (hua : Unsigned a)
    (hub : Unsigned b) (hfa : a.isFinite = true) (hfb : b.isFinite = true)
    (h : value a ≤ value b) : value (UnpackedFloat.mul Format.binary64 a a) ≤
      value (UnpackedFloat.mul Format.binary64 b b) := by
  cases a with
  | notANumber => cases hfa
  | infinity s => cases hfa
  | zero s =>
    obtain ⟨hsquare, -⟩ := unsigned_mul_self hb hub.isNaN
    have hnonneg := hsquare.extendedValue_nonneg
    rw [extendedValue_of_isFinite (mul_near hb hb hfb hfb).finite] at hnonneg
    exact EReal.coe_nonneg.mp hnonneg
  | finite s m e hm =>
    obtain rfl : s = .positive := hua
    have hpos : (0 : ℝ) < m * 2 ^ e := mul_pos (Nat.cast_pos.mpr hm) (by positivity)
    cases b with
    | notANumber => cases hfb
    | infinity s' => cases hfb
    | zero s' => exact absurd h (not_le.mpr hpos)
    | finite s' m' e' hm' =>
      obtain rfl : s' = .positive := hub
      refine value_roundWithAccuracy_mono (le_target_mul ha ha hm hm)
        (le_target_mul hb hb hm' hm') ?_
      have hsquare : ∀ (m : Nat) (e : Int),
          ((m * m : Nat) * 2 ^ (e + e) : ℝ) = m * 2 ^ e * (m * 2 ^ e) := by
        intro m e
        push_cast
        rw [zpow_add₀ two_ne_zero]
        ring
      rw [hsquare, hsquare]
      exact mul_self_le_mul_self hpos.le h

theorem extended_mul_self_mono (ha : Canonical a) (hb : Canonical b) (hua : Unsigned a)
    (hub : Unsigned b) (h : extendedValue a ≤ extendedValue b) :
    extendedValue (Float.Model.pack (UnpackedFloat.mul Format.binary64 a a)).unpack ≤
      extendedValue (Float.Model.pack (UnpackedFloat.mul Format.binary64 b b)).unpack := by
  rcases isFinite_or_infinity hub.isNaN with hfb | ⟨s', rfl⟩
  · rcases isFinite_or_infinity hua.isNaN with hfa | ⟨s, rfl⟩
    · rw [extendedValue_of_isFinite hfa, extendedValue_of_isFinite hfb, EReal.coe_le_coe_iff] at h
      have hneara := mul_near ha ha hfa hfa
      have hnearb := mul_near hb hb hfb hfb
      rw [unpack_pack hneara.canonical, unpack_pack hnearb.canonical]
      exact extendedValue_capped_mono hneara.canonical hnearb.canonical
        (unsigned_mul_self ha hua.isNaN).1 (unsigned_mul_self hb hub.isNaN).1 hneara.finite
        hnearb.finite (value_mul_self_mono ha hb hua hub hfa hfb h)
    · obtain rfl : s = .positive := hua
      rw [extendedValue_of_isFinite hfb] at h
      exact absurd h (not_le.mpr (EReal.coe_lt_top _))
  · obtain rfl : s' = .positive := hub
    exact le_top

theorem extendedValue_neg (a : UnpackedFloat) : extendedValue a.neg = -extendedValue a := by
  cases a with
  | infinity s => cases s <;> rfl
  | notANumber => exact neg_zero.symm
  | zero s => exact neg_zero.symm
  | finite s m e hm =>
    exact (congrArg Real.toEReal (value_neg (.finite s m e hm))).trans (EReal.coe_neg _)

/-- Of a double and its opposite the one without a minus sign is the larger. -/
theorem extendedValue_abs (a : UnpackedFloat) :
    extendedValue a.abs = max (extendedValue a) (-extendedValue a) := by
  rw [← extendedValue_neg]
  cases a with
  | notANumber => exact (max_self _).symm
  | zero s => exact (max_self _).symm
  | infinity s =>
    cases s with
    | negative => exact (max_eq_right bot_le).symm
    | positive => exact (max_eq_left bot_le).symm
  | finite s m e hm =>
    have hnonneg : (0 : ℝ) ≤ m * 2 ^ e := by positivity
    have hle : (-(m * 2 ^ e) : ℝ) ≤ m * 2 ^ e := by linarith
    cases s with
    | negative => exact (max_eq_right (EReal.coe_le_coe_iff.mpr hle)).symm
    | positive => exact (max_eq_left (EReal.coe_le_coe_iff.mpr hle)).symm

theorem unsigned_abs (h : a.isNaN = false) : Unsigned a.abs := by
  cases a with
  | notANumber => cases h
  | _ => rfl

theorem Canonical.abs (h : Canonical a) : Canonical a.abs := by
  cases a with
  | finite s m e hm => exact h
  | _ => trivial

theorem abs_abs_unpacked (a : UnpackedFloat) : a.abs.abs = a.abs := by
  cases a <;> rfl

/-- A double that is not less than another one and its opposite has the larger square. -/
theorem square_le_square (h : x ≤ y) (h' : -y ≤ x) : x * x ≤ y * y := by
  obtain ⟨hx, hy⟩ := isNaN_of_le h
  obtain ⟨hneg, -⟩ := isNaN_of_le h'
  have hca := unpack_canonical x.toModel
  have hcb := unpack_canonical y.toModel
  rw [le_iff_extended_le hx hy] at h
  rw [le_iff_extended_le hneg hx, extended, extended, unpack_neg, extendedValue_neg] at h'
  have habs : extendedValue x.toModel.unpack.abs ≤ extendedValue y.toModel.unpack.abs := by
    rw [extendedValue_abs, extendedValue_abs]
    exact le_max_of_le_left (max_le h (EReal.neg_le.mp h'))
  have hsquares := extended_mul_self_mono hca.abs hcb.abs (unsigned_abs hx) (unsigned_abs hy) habs
  rw [mul_self_of_abs (abs_abs_unpacked _), mul_self_of_abs (abs_abs_unpacked _)] at hsquares
  exact (le_iff_extended_le (isNaN_mul_self hx) (isNaN_mul_self hy)).mpr hsquares

end SceneLogic.Number
