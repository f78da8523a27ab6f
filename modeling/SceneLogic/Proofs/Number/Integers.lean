import SceneLogic.Proofs.Number.Magnitudes
import SceneLogic.Proofs.Number.Significant

/-!
# Doubles that are integers

Sums, differences and products of integers are integers, but they need not be doubles. What the
operations on doubles give for them is the double that such an integer is taken for. The same is so
of a 64-bit integer that is converted to a double; the way back loses nothing but what does not fit.

* `Whole` — the double is an integer
* `Whole.add`, `Whole.sub`, `Whole.mul`, `Whole.minimum`, `Whole.maximum` — operations on integers
* `whole_ofInt64`, `Whole.saturate` — conversions
-/

namespace SceneLogic.Number

open Float.Model Float.Model.UnpackedFloat

/-! ## Rounding to even -/

/-- The remainder by a power of two is that by the power before it, and one bit more. -/
theorem mod_two_pow_succ (n k : Nat) :
    (n / 2 ^ k % 2 = 0 ∧ n % 2 ^ (k + 1) = n % 2 ^ k) ∨
      (n / 2 ^ k % 2 = 1 ∧ n % 2 ^ (k + 1) = n % 2 ^ k + 2 ^ k) := by
  rw [Nat.mod_pow_succ]
  rcases Nat.mod_two_eq_zero_or_one (n / 2 ^ k) with hbit | hbit
  · exact Or.inl ⟨hbit, by rw [hbit, mul_zero, add_zero]⟩
  · exact Or.inr ⟨hbit, by rw [hbit, mul_one]⟩

/-- What a shift cuts off a mantissa: the last bit that goes, and whether there was more. -/
theorem shiftRight_succ (mantissa k : Nat) :
    ExtendedMantissa.ofMantissaAndAccuracy mantissa .exact >>> (k + 1) =
      ⟨mantissa / 2 ^ (k + 1), mantissa / 2 ^ k % 2 != 0, mantissa % 2 ^ k != 0⟩ := by
  induction k with
  | zero =>
    change (ExtendedMantissa.mk mantissa false false).shiftRightOne = _
    simp [ExtendedMantissa.shiftRightOne, Nat.mod_one]
  | succ k ih =>
    change (ExtendedMantissa.ofMantissaAndAccuracy mantissa .exact >>> (k + 1)).shiftRightOne = _
    rw [ih, ExtendedMantissa.shiftRightOne, Nat.div_div_eq_div_mul, ← pow_succ]
    congr 1
    rcases mod_two_pow_succ mantissa k with ⟨hbit, hmod⟩ | ⟨hbit, hmod⟩
    · rw [hbit, hmod]
      rfl
    · rw [hbit, hmod]
      simp

/-- A shifted mantissa is rounded to the nearest number, and to the even one of two. -/
theorem roundedMantissa_shiftRight (mantissa k : Nat) :
    (ExtendedMantissa.ofMantissaAndAccuracy mantissa .exact >>> k).roundedMantissa =
      evenQuotient mantissa k := by
  cases k with
  | zero =>
    have heven := evenQuotient_of_dvd mantissa 0
    rw [pow_zero, mul_one] at heven
    exact heven.symm
  | succ k =>
    rw [shiftRight_succ, evenQuotient]
    have hpower : 2 ^ (k + 1) = 2 * 2 ^ k := pow_succ' 2 k
    have hrest : mantissa % 2 ^ k < 2 ^ k := Nat.mod_lt _ (Nat.two_pow_pos k)
    rcases mod_two_pow_succ mantissa k with ⟨hbit, hmod⟩ | ⟨hbit, hmod⟩
    · rw [hbit, if_pos (Or.inl (by omega))]
      cases mantissa % 2 ^ k != 0 <;> rfl
    · by_cases hzero : mantissa % 2 ^ k = 0
      · rw [hbit, hzero]
        change mantissa / 2 ^ (k + 1) + mantissa / 2 ^ (k + 1) % 2 = _
        split_ifs <;> omega
      · rw [hbit, bne_iff_ne.mpr hzero, if_neg (by omega)]
        rfl

/-! ## Rounding integers -/

/-- A whole number of any exponent is rounded to the double that it is taken for. -/
theorem value_roundWithAccuracy_of_nonneg (sign : Sign) {mantissa : Nat} {exponent : Int}
    (hpos : 0 < mantissa) (he : exponent ≤ target mantissa exponent) (hexponent : 0 ≤ exponent) :
    value (roundWithAccuracy Format.binary64 sign mantissa exponent .exact) =
      signed sign (roundedNat (mantissa * 2 ^ exponent.toNat)) := by
  have hlog := log2_mul_two_pow hpos exponent.toNat
  have htarget : target mantissa exponent = excess (mantissa * 2 ^ exponent.toNat) := by
    rw [excess, target]
    rw [target] at he
    omega
  have hshift : excess (mantissa * 2 ^ exponent.toNat) =
      (target mantissa exponent - exponent).toNat + exponent.toNat := by omega
  rw [roundWithAccuracy_shifted _ _ _ _ he, value_carried, shifted, roundedMantissa_shiftRight,
    roundedNat]
  congr 1
  push_cast
  congr 1
  · rw [hshift, evenQuotient_mul_two_pow]
  · rw [htarget, zpow_natCast]

/-- So is one that has a fraction of zeros. -/
theorem value_roundWithAccuracy_of_nonpos (sign : Sign) {n : Nat} (k : Nat) (hpos : 0 < n)
    (he : -(k : Int) ≤ target (n * 2 ^ k) (-k)) :
    value (roundWithAccuracy Format.binary64 sign (n * 2 ^ k) (-k) .exact) =
      signed sign (roundedNat n) := by
  have htarget : target (n * 2 ^ k) (-k) = n.log2 - 52 := by
    rw [← zero_sub, target_mul_two_pow hpos, target]
    omega
  rw [roundWithAccuracy_shifted _ _ _ _ he, value_carried, shifted, roundedMantissa_shiftRight,
    htarget, sub_neg_eq_add]
  rw [htarget] at he
  congr 1
  by_cases hlog : 52 ≤ n.log2
  · have hshift : ((n.log2 : Int) - 52 + k).toNat = excess n + k := by
      unfold excess
      omega
    have hexcess : (n.log2 : Int) - 52 = (excess n : Nat) := by
      unfold excess
      omega
    rw [hshift, evenQuotient_mul_two_pow, hexcess, zpow_natCast, roundedNat]
    push_cast
    rfl
  · -- The number has fewer bits than a double.
    obtain ⟨d, hd⟩ : ∃ d : Nat, (n.log2 : Int) - 52 = -d := ⟨52 - n.log2, by omega⟩
    have hsplit : n * 2 ^ k = n * 2 ^ d * 2 ^ (k - d) := by
      rw [mul_assoc, ← pow_add]
      congr 2
      omega
    have hshift : (-(d : Int) + k).toNat = k - d := by omega
    rw [hd, hshift, hsplit, evenQuotient_of_dvd, roundedNat_of_excess (by unfold excess; omega),
      zpow_neg, zpow_natCast]
    push_cast
    exact mul_inv_cancel_right₀ (by positivity) _

/-- The number is whole: what stands in its mantissa below the point are zeros. -/
theorem mantissa_of_whole {mantissa n : Nat} {exponent : Int}
    (h : (mantissa * 2 ^ exponent : ℝ) = n) (hexponent : exponent < 0) :
    ∃ k : Nat, exponent = -k ∧ mantissa = n * 2 ^ k := by
  obtain ⟨k, rfl⟩ : ∃ k : Nat, exponent = -k := ⟨exponent.natAbs, by omega⟩
  refine ⟨k, rfl, ?_⟩
  rw [zpow_neg, zpow_natCast, mul_inv_eq_iff_eq_mul₀ (by positivity)] at h
  exact_mod_cast h

theorem whole_of_nonneg {mantissa n : Nat} {exponent : Int}
    (h : (mantissa * 2 ^ exponent : ℝ) = n) (hexponent : 0 ≤ exponent) :
    n = mantissa * 2 ^ exponent.toNat := by
  obtain ⟨k, rfl⟩ := Int.eq_ofNat_of_zero_le hexponent
  rw [zpow_natCast] at h
  exact_mod_cast h.symm

theorem natAbs_of_signed {sign : Sign} {x : ℝ} {n : Int} (hnonneg : 0 ≤ x)
    (h : signed sign x = n) : x = n.natAbs ∧ sign.apply n.natAbs = n := by
  cases sign with
  | negative =>
    have hneg : n ≤ 0 := by
      have hcast : (n : ℝ) ≤ 0 := h ▸ neg_nonpos.mpr hnonneg
      exact_mod_cast hcast
    have habs := Int.ofNat_natAbs_of_nonpos hneg
    refine ⟨?_, ?_⟩
    · have hcast : ((n.natAbs : Int) : ℝ) = -n := by
        rw [habs]
        push_cast
        rfl
      rw [← h] at hcast
      exact (hcast.trans (neg_neg x)).symm
    · change -(n.natAbs : Int) = n
      omega
  | positive =>
    have hpos : 0 ≤ n := by
      have hcast : (0 : ℝ) ≤ n := h ▸ hnonneg
      exact_mod_cast hcast
    have habs := Int.natAbs_of_nonneg hpos
    refine ⟨?_, habs⟩
    have hcast : ((n.natAbs : Int) : ℝ) = n := by rw [habs]
    exact (hcast.trans h.symm).symm

/-- The sign of an integer stays outside of the rounding. -/
theorem signed_roundedNat (sign : Sign) (n : Nat) :
    signed sign (roundedNat n) = rounded (sign.apply n) := by
  cases sign
  · change -(roundedNat n : ℝ) = (rounded (-n) : Int)
    rw [rounded_neg, rounded_natCast]
    push_cast
    rfl
  · change (roundedNat n : ℝ) = (rounded n : Int)
    rw [rounded_natCast]
    rfl

/-- An integer is rounded to the double that it is taken for. -/
theorem value_roundWithAccuracy (sign : Sign) {mantissa : Nat} {n exponent : Int}
    (hpos : 0 < mantissa) (he : exponent ≤ target mantissa exponent)
    (h : signed sign (mantissa * 2 ^ exponent) = n) :
    value (roundWithAccuracy Format.binary64 sign mantissa exponent .exact) = rounded n := by
  obtain ⟨hwhole, hn⟩ := natAbs_of_signed (by positivity) h
  rw [← hn, ← signed_roundedNat]
  rcases lt_or_ge exponent 0 with hneg | hnonneg
  · obtain ⟨k, rfl, hmantissa⟩ := mantissa_of_whole hwhole hneg
    rw [hmantissa] at hpos he ⊢
    exact value_roundWithAccuracy_of_nonpos sign k (Nat.pos_of_mul_pos_right hpos) he
  · rw [whole_of_nonneg hwhole hnonneg]
    exact value_roundWithAccuracy_of_nonneg sign hpos he hnonneg

theorem value_round (sign : Sign) {mantissa : Nat} {n exponent : Int} (hpos : 0 < mantissa)
    (h : signed sign (mantissa * 2 ^ exponent) = n) :
    value (UnpackedFloat.round Format.binary64 sign mantissa exponent) = rounded n := by
  rw [round_eq]
  refine value_roundWithAccuracy sign (by positivity) (le_target_padding hpos exponent) ?_
  rw [mul_two_pow_zpow, h]

theorem value_normalize {mantissa n exponent : Int} (zeroSign : Sign)
    (h : (mantissa * 2 ^ exponent : ℝ) = n) :
    value (UnpackedFloat.normalize Format.binary64 mantissa exponent zeroSign) = rounded n := by
  unfold UnpackedFloat.normalize
  rcases lt_trichotomy mantissa 0 with hneg | rfl | hpos
  · rw [Int.compare_eq_lt.mpr hneg]
    refine value_round .negative (by omega) ?_
    have hcast : (((-mantissa).toNat : Nat) : ℝ) = -mantissa := by
      exact_mod_cast Int.toNat_of_nonneg (by omega : 0 ≤ -mantissa)
    rw [hcast, signed, neg_mul, neg_neg, h]
  · rw [Int.cast_zero, zero_mul] at h
    obtain rfl : n = 0 := by exact_mod_cast h.symm
    exact Int.cast_zero.symm
  · rw [Int.compare_eq_gt.mpr hpos]
    refine value_round .positive (by omega) ?_
    have hcast : ((mantissa.toNat : Nat) : ℝ) = mantissa := by
      exact_mod_cast Int.toNat_of_nonneg hpos.le
    rw [hcast, signed, h]

/-! ## Sums and products of integers -/

variable {a b : UnpackedFloat} {n k l : Int}

theorem eq_zero_of_zero_eq (h : (0 : ℝ) = n) : n = 0 := by
  exact_mod_cast h.symm

/-- An integer that has the form of a double is one. -/
theorem isDouble_of_value (ha : Canonical a) (h : value a = n) : IsDouble n := by
  cases a with
  | finite sign mantissa exponent hpos =>
    obtain ⟨hwhole, -⟩ := natAbs_of_signed (by positivity) h
    rcases lt_or_ge exponent 0 with hneg | hnonneg
    · obtain ⟨k, -, hmantissa⟩ := mantissa_of_whole hwhole hneg
      refine ⟨n.natAbs, 0, ?_, (mul_one _).symm⟩
      exact lt_of_le_of_lt (hmantissa ▸ Nat.le_mul_of_pos_right _ (Nat.two_pow_pos k)) ha.narrow
    · exact ⟨mantissa, exponent.toNat, ha.narrow, whole_of_nonneg hwhole hnonneg⟩
  | _ =>
    obtain rfl := eq_zero_of_zero_eq h
    exact ⟨0, 0, by decide, rfl⟩

theorem value_eq_rounded (ha : Canonical a) (h : value a = n) : value a = rounded n := by
  rw [rounded_eq_self (isDouble_of_value ha h), h]

theorem value_add (ha : Canonical a) (hb : Canonical b) (hfa : a.isFinite = true)
    (hfb : b.isFinite = true) (hk : value a = k) (hl : value b = l) :
    value (UnpackedFloat.add Format.binary64 a b) = rounded (k + l) := by
  cases a with
  | notANumber => cases hfa
  | infinity s => cases hfa
  | zero s =>
    obtain rfl := eq_zero_of_zero_eq hk
    rw [zero_add, ← value_eq_rounded hb hl]
    cases b with
    | notANumber => cases hfb
    | infinity s' => cases hfb
    | zero s' => cases s <;> cases s' <;> rfl
    | finite s' m' e' hm' => rfl
  | finite s m e hpos =>
    cases b with
    | notANumber => cases hfb
    | infinity s' => cases hfb
    | zero s' =>
      obtain rfl := eq_zero_of_zero_eq hl
      rw [add_zero, ← value_eq_rounded ha hk]
      rfl
    | finite s' m' e' hpos' =>
      have hsum : ((s.apply (decreaseExponent m e (min e e')).1 +
          s'.apply (decreaseExponent m' e' (min e e')).1 : Int) : ℝ) * 2 ^ min e e' =
          (k + l : Int) := by
        rw [Int.cast_add, add_mul, signed_decreaseExponent s m (min_le_left e e'),
          signed_decreaseExponent s' m' (min_le_right e e'), Int.cast_add, ← hk, ← hl]
        rfl
      exact value_normalize .positive hsum

theorem value_mul (ha : Canonical a) (hb : Canonical b) (hfa : a.isFinite = true)
    (hfb : b.isFinite = true) (hk : value a = k) (hl : value b = l) :
    value (UnpackedFloat.mul Format.binary64 a b) = rounded (k * l) := by
  cases a with
  | notANumber => cases hfa
  | infinity s => cases hfa
  | zero s =>
    obtain rfl := eq_zero_of_zero_eq hk
    rw [zero_mul]
    cases b with
    | notANumber => cases hfb
    | infinity s' => cases hfb
    | _ => exact Int.cast_zero.symm
  | finite s m e hpos =>
    cases b with
    | notANumber => cases hfb
    | infinity s' => cases hfb
    | zero s' =>
      obtain rfl := eq_zero_of_zero_eq hl
      rw [mul_zero]
      exact Int.cast_zero.symm
    | finite s' m' e' hpos' =>
      refine value_roundWithAccuracy (s * s') (by positivity) (le_target_mul ha hb hpos hpos') ?_
      have hproduct : ((m * m' : Nat) * 2 ^ (e + e') : ℝ) = (m * 2 ^ e) * (m' * 2 ^ e') := by
        push_cast
        rw [zpow_add₀ two_ne_zero]
        ring
      rw [hproduct, signed_mul, Int.cast_mul, ← hk, ← hl]
      rfl

/-! ## Doubles -/

/-- The double is an integer. -/
structure Whole (x : Float) (n : Int) : Prop where
  finite : x.isFinite = true
  real : real x = n

variable {x y : Float}

theorem Whole.isDouble (h : Whole x n) : IsDouble n :=
  isDouble_of_value (unpack_canonical x.toModel) h.real

/-- A number that is not too large is packed as it is. -/
theorem capped_eq_self (ha : Canonical a) (h : |value a| < 2 ^ (1024 : ℤ)) : capped a = a := by
  cases a with
  | finite sign mantissa exponent hpos =>
    refine if_pos (not_lt.mp fun htop => ?_)
    rw [value_finite, abs_signed, abs_of_pos (by positivity)] at h
    refine absurd h (not_lt.mpr ?_)
    have hbottom : exponent ≠ -1074 := by omega
    have hfull : ((2 ^ 52 : Nat) : ℝ) ≤ mantissa :=
      Nat.cast_le.mpr (ha.full.resolve_right hbottom)
    have hpower : (2 : ℝ) ^ (972 : ℤ) ≤ 2 ^ exponent :=
      zpow_le_zpow_right₀ one_le_two (by omega)
    calc (2 : ℝ) ^ (1024 : ℤ) = (2 ^ 52 : Nat) * 2 ^ (972 : ℤ) := by
          rw [Nat.cast_pow, Nat.cast_ofNat, ← zpow_natCast, ← zpow_add₀ two_ne_zero]
          rfl
      _ ≤ mantissa * 2 ^ exponent := by gcongr
  | _ => rfl

theorem isDouble_two_pow (k : Nat) : IsDouble (2 ^ k) :=
  ⟨1, k, by decide, by simp⟩

theorem abs_rounded_le {k : Nat} (h : |n| ≤ 2 ^ k) : |rounded n| ≤ 2 ^ k := by
  obtain ⟨hlow, hhigh⟩ := abs_le.mp h
  exact abs_le.mpr ⟨le_rounded (isDouble_two_pow k).neg hlow, rounded_le (isDouble_two_pow k) hhigh⟩

/-- A result is packed as the double that an integer is taken for. -/
theorem whole_of_pack (ha : Canonical a) (hfinite : a.isFinite = true) (h : value a = rounded n)
    (hsize : |n| ≤ 2 ^ 128) : Whole (Float.ofModel (.pack a)) (rounded n) := by
  have hbound : |value a| < 2 ^ (1024 : ℤ) := by
    have hcast : |(rounded n : ℝ)| ≤ 2 ^ 128 := by exact_mod_cast abs_rounded_le hsize
    rw [h]
    exact hcast.trans_lt ((zpow_natCast (2 : ℝ) 128).symm.trans_lt
      (zpow_lt_zpow_right₀ one_lt_two (by decide)))
  have hunpack := (unpack_pack ha).trans (capped_eq_self ha hbound)
  refine ⟨?_, ?_⟩
  · change (Float.Model.pack a).unpack.isFinite = true
    rw [hunpack, hfinite]
  · change value (Float.Model.pack a).unpack = _
    rw [hunpack, h]

theorem Whole.add (hx : Whole x k) (hy : Whole y l) (hsize : |k + l| ≤ 2 ^ 128) :
    Whole (x + y) (rounded (k + l)) := by
  have hnear := add_near (unpack_canonical x.toModel) (unpack_canonical y.toModel) hx.finite
    hy.finite
  exact whole_of_pack hnear.canonical hnear.finite
    (value_add (unpack_canonical _) (unpack_canonical _) hx.finite hy.finite hx.real hy.real) hsize

theorem Whole.sub (hx : Whole x k) (hy : Whole y l) (hsize : |k - l| ≤ 2 ^ 128) :
    Whole (x - y) (rounded (k - l)) := by
  have hnear := sub_near (unpack_canonical x.toModel) (unpack_canonical y.toModel) hx.finite
    hy.finite
  have hvalue : value y.toModel.unpack.neg = (-l : Int) := by
    rw [value_neg, Int.cast_neg]
    exact congrArg _ hy.real
  refine whole_of_pack hnear.canonical hnear.finite ?_ hsize
  rw [sub_eq_add, sub_eq_add_neg]
  exact value_add (unpack_canonical _) (unpack_canonical _).neg hx.finite
    ((isFinite_neg _).trans hy.finite) hx.real hvalue

theorem Whole.mul (hx : Whole x k) (hy : Whole y l) (hsize : |k * l| ≤ 2 ^ 128) :
    Whole (x * y) (rounded (k * l)) := by
  have hnear := mul_near (unpack_canonical x.toModel) (unpack_canonical y.toModel) hx.finite
    hy.finite
  exact whole_of_pack hnear.canonical hnear.finite
    (value_mul (unpack_canonical _) (unpack_canonical _) hx.finite hy.finite hx.real hy.real) hsize

theorem Whole.neg (hx : Whole x n) (hsize : |n| ≤ 2 ^ 128) : Whole (-x) (-n) := by
  have hvalue : value x.toModel.unpack.neg = rounded (-n) := by
    rw [rounded_eq_self hx.isDouble.neg, value_neg, Int.cast_neg]
    exact congrArg _ hx.real
  have hwhole := whole_of_pack (unpack_canonical _).neg ((isFinite_neg _).trans hx.finite) hvalue
    ((abs_neg n).trans_le hsize)
  rwa [rounded_eq_self hx.isDouble.neg] at hwhole

theorem Whole.le_iff (hx : Whole x k) (hy : Whole y l) : x ≤ y ↔ k ≤ l := by
  rw [le_iff_real_le hx.finite hy.finite, hx.real, hy.real, Int.cast_le]

theorem Whole.minimum (hx : Whole x k) (hy : Whole y l) : Whole (minimum x y) (min k l) := by
  unfold Number.minimum
  rw [not_isNaN_of_isFinite hx.finite, Bool.false_or]
  by_cases hle : l ≤ k
  · rw [if_pos (decide_eq_true ((hy.le_iff hx).mpr hle)), min_eq_right hle]
    exact hy
  · rw [if_neg (by simpa using mt (hy.le_iff hx).mp hle), min_eq_left (by omega)]
    exact hx

theorem Whole.maximum (hx : Whole x k) (hy : Whole y l) : Whole (maximum x y) (max k l) := by
  unfold Number.maximum
  rw [not_isNaN_of_isFinite hx.finite, Bool.false_or]
  by_cases hle : k ≤ l
  · rw [if_pos (decide_eq_true ((hx.le_iff hy).mpr hle)), max_eq_right hle]
    exact hy
  · rw [if_neg (by simpa using mt (hx.le_iff hy).mp hle), max_eq_left (by omega)]
    exact hx

/-! ## Integers as doubles -/

theorem whole_one : Whole 1 1 :=
  ⟨rfl, (real_of_natural (n := 1) (k := 52) rfl).trans (by norm_num)⟩

theorem whole_toFloat (w : UInt64) : Whole w.toFloat (rounded w.toNat) := by
  have hcast : ((w.toNat : Int) * 2 ^ (0 : ℤ) : ℝ) = (w.toNat : Int) := by
    rw [zpow_zero, mul_one]
  have hnear := normalize_near w.toNat 0 .positive
  refine whole_of_pack hnear.canonical hnear.finite (value_normalize .positive hcast) ?_
  have hlt := w.toNat_lt
  rw [Nat.abs_cast]
  omega

theorem ofScientific_zero {n : Nat} (hpos : 0 < n) :
    UnpackedFloat.ofScientific Format.binary64 n 0 =
      roundWithAccuracy Format.binary64 .positive (n * 2 ^ 53) (0 - (53 : Nat)) .exact := by
  have hexponent : (0 : Int) ≤ 2 ^ Format.binary64.exponentBits + n.log2 := by positivity
  unfold UnpackedFloat.ofScientific
  rw [dif_neg hpos.ne', if_neg (by decide), if_neg (by omega), if_pos le_rfl]
  have hmantissa : n <<< 53 * 1 = n * 2 ^ 53 := by rw [mul_one, Nat.shiftLeft_eq]
  rw [← hmantissa]
  rfl

/-- What is too large to be converted as a word is read from its digits. -/
theorem whole_ofScientific {n : Nat} (hpos : 0 < n) (h : n ≤ 2 ^ 64) :
    Whole (Float.ofModel (Float.Model.ofScientific n 0)) (rounded n) := by
  have htarget : (0 : Int) - (53 : Nat) ≤ target (n * 2 ^ 53) (0 - (53 : Nat)) := by
    rw [target_mul_two_pow hpos, target]
    omega
  have hvalue : ((n * 2 ^ 53 : Nat) : ℝ) * 2 ^ (0 - ((53 : Nat) : Int)) = (n : Int) := by
    rw [mul_two_pow_zpow, zpow_zero, mul_one, Int.cast_natCast]
  have hnear := roundWithAccuracy_exact_near .positive htarget
  have hrounded := value_roundWithAccuracy .positive (by positivity) htarget hvalue
  rw [← ofScientific_zero hpos] at hnear hrounded
  exact whole_of_pack hnear.canonical hnear.finite hrounded (by rw [Nat.abs_cast]; omega)

theorem whole_ofNat {n : Nat} (h : n ≤ 2 ^ 64) : Whole (Float.ofNat n) (rounded n) := by
  change Whole (Float.ofScientific n false 0) (rounded n)
  by_cases hsmall : n < 2 ^ 53
  · have heq : Float.ofScientific n false 0 = n.toUInt64.toFloat * 1 :=
      dif_pos ⟨hsmall, by decide⟩
    have hcast : n.toUInt64.toNat = n := Nat.mod_eq_of_lt (by omega)
    have hfloat := whole_toFloat n.toUInt64
    rw [hcast] at hfloat
    have hdouble := hfloat.isDouble
    have hmul := hfloat.mul whole_one
    rw [mul_one, rounded_eq_self hdouble] at hmul
    rw [heq]
    exact hmul (abs_rounded_le (by rw [Nat.abs_cast]; omega))
  · have heq : Float.ofScientific n false 0 = Float.ofModel (Float.Model.ofScientific n 0) :=
      dif_neg fun h => hsmall h.1
    rw [heq]
    exact whole_ofScientific (by omega) h

theorem whole_ofInt {n : Int} (h : n.natAbs ≤ 2 ^ 64) : Whole (Float.ofInt n) (rounded n) := by
  cases n with
  | ofNat n => exact whole_ofNat h
  | negSucc n =>
    have hwhole := whole_ofNat (n := n.succ) h
    have hsize : |((n.succ : Nat) : Int)| ≤ 2 ^ 128 := by
      rw [Nat.abs_cast]
      exact_mod_cast h.trans (by decide)
    have hneg := hwhole.neg (abs_rounded_le hsize)
    rwa [← rounded_neg] at hneg

/-- A 64-bit integer is converted to the double that it is taken for. -/
theorem whole_ofInt64 (i : Int64) : Whole (ofInt64 i) (rounded i.toInt) := by
  have hlow := i.le_toInt
  have hhigh := i.toInt_lt
  exact whole_ofInt (by omega)

/-! ## Doubles as integers -/

theorem floor_of_whole {m : Magnitude} {n : Nat} (h : (m.mantissa * 2 ^ m.exponent : ℝ) = n) :
    m.floor = n := by
  unfold Magnitude.floor
  split_ifs with hnonneg
  · exact (whole_of_nonneg h hnonneg).symm
  · obtain ⟨k, hexponent, hmantissa⟩ := mantissa_of_whole h (not_le.mp hnonneg)
    rw [hexponent, neg_neg, Int.toNat_natCast, hmantissa]
    exact Nat.mul_div_cancel _ (Nat.two_pow_pos k)

/-- A whole number has nothing to cut off. -/
theorem Whole.truncate (h : Whole x n) : truncate x = n := by
  have hread := readAs_unpack x
  have hfinite : x.toModel.unpack.isFinite = true := h.finite
  have hvalue : value x.toModel.unpack = n := h.real
  unfold Number.truncate isNegative
  cases hu : x.toModel.unpack with
  | notANumber =>
    rw [hu] at hfinite
    cases hfinite
  | infinity s =>
    rw [hu] at hfinite
    cases hfinite
  | zero s =>
    rw [hu] at hread hvalue
    have hzero : (Magnitude.ofBits x.toBits).mantissa = 0 := hread
    obtain rfl := eq_zero_of_zero_eq hvalue
    have hfloor : (Magnitude.ofBits x.toBits).floor = 0 :=
      floor_of_whole (by rw [hzero, Nat.cast_zero, zero_mul])
    simp [hfloor]
  | finite sign mantissa exponent hpos =>
    rw [hu] at hread hvalue
    obtain ⟨hsign, hmantissa, hexponent⟩ := hread
    obtain ⟨hwhole, hn⟩ := natAbs_of_signed (by positivity) hvalue
    have hfloor := floor_of_whole (hmantissa ▸ hexponent ▸ hwhole)
    rw [hfloor]
    cases sign with
    | negative => exact (if_pos (decide_eq_true (hsign.mpr rfl))).trans hn
    | positive =>
      have hsign' : x.toBits >>> 63 ≠ 1 := fun h => Sign.noConfusion (hsign.mp h)
      exact (if_neg (by simpa using hsign')).trans hn

/-- An integer that a double stands for is brought into the range of 64 bits. -/
theorem Whole.saturate (h : Whole x n) : saturate x = clamp n := by
  have hfinite : x.toModel.unpack.isFinite = true := h.finite
  have hinf : x.isInf = false := by
    change x.toModel.unpack.isInf = false
    generalize x.toModel.unpack = u at hfinite
    cases u with
    | infinity s => cases hfinite
    | _ => rfl
  rw [Number.saturate, not_isNaN_of_isFinite h.finite, hinf, h.truncate]
  rfl

end SceneLogic.Number
