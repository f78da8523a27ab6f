import SceneLogic.Proofs.Number.Doubles

/-!
# How far a double is from what it is worked out for

Sums, products, quotients and square roots of doubles are as near to the exact results as doubles
can be, up to the last bit: the error is a share of `2 ^ -52` of the result, or where that is less
than the least double, the least double.

* `value` — the number that a double stands for
* `Near` — a double may be worked out for a number
* `add_near`, `sub_near`, `mul_near`, `div_near`, `sqrt_near` — the operations
-/

namespace SceneLogic.Number

open Float.Model Float.Model.UnpackedFloat

/-- A number with a sign. -/
def signed : Sign → ℝ → ℝ
  | .positive, x => x
  | .negative, x => -x

theorem abs_signed (s : Sign) (x : ℝ) : |signed s x| = |x| := by
  cases s
  · exact abs_neg x
  · rfl

theorem abs_signed_sub (s : Sign) (x y : ℝ) : |signed s x - signed s y| = |x - y| := by
  cases s
  · exact (abs_sub_comm _ _).trans (by rw [signed, signed, sub_neg_eq_add, neg_add_eq_sub])
  · rfl

/-- The number that an unpacked double stands for; infinities and NaN stand for none. -/
noncomputable def value : UnpackedFloat → ℝ
  | .finite sign mantissa exponent _ => signed sign (mantissa * 2 ^ exponent)
  | _ => 0

theorem value_zero (sign : Sign) : value (.zero sign) = 0 := rfl

theorem value_finite (sign : Sign) {mantissa : Nat} {exponent : Int} (h : 0 < mantissa) :
    value (.finite sign mantissa exponent h) = signed sign (mantissa * 2 ^ exponent) := rfl

/-- The share of a result that rounding may take or add. -/
noncomputable def share : ℝ := 2 ^ (-52 : ℤ)

/-- The least double that is more than zero. -/
noncomputable def least : ℝ := 2 ^ (-1074 : ℤ)

theorem share_pos : 0 < share := zpow_pos two_pos _

theorem least_pos : 0 < least := zpow_pos two_pos _

theorem share_le : share ≤ 1 / 10 ^ 15 := by
  rw [share, zpow_neg]
  norm_num

theorem least_le : least ≤ share / 10 ^ 15 := by
  have hscale : least = share * 2 ^ (-1022 : ℤ) := by
    rw [least, share, ← zpow_add₀ two_ne_zero]
    norm_num
  have hpower : (2 : ℝ) ^ (-1022 : ℤ) ≤ 2 ^ (-50 : ℤ) :=
    zpow_le_zpow_right₀ one_le_two (by decide)
  have hsmall : (2 : ℝ) ^ (-50 : ℤ) ≤ 1 / 10 ^ 15 := by
    rw [zpow_neg]
    norm_num
  rw [hscale, div_eq_mul_one_div]
  exact mul_le_mul_of_nonneg_left (hpower.trans hsmall) share_pos.le

/-- The number is worked out for another one: it has the form of a double, and is as near to it as a
double need be. -/
structure Near (u : UnpackedFloat) (x : ℝ) : Prop where
  canonical : Canonical u
  finite : u.isFinite = true
  error : |value u - x| ≤ share * |x| + least

/-! ## Rounding -/

/-- The exponent that a number of this size has as a double. -/
def target (mantissa : Nat) (exponent : Int) : Int :=
  max (mantissa.log2 + 1 + exponent - 53) (-1074)

theorem mantissa_shiftRight (em : ExtendedMantissa) (n : Nat) :
    (em >>> n).mantissa = em.mantissa / 2 ^ n := by
  induction n with
  | zero => exact (Nat.div_one _).symm
  | succ n ih =>
    change (em >>> n).shiftRightOne.mantissa = _
    rw [ExtendedMantissa.shiftRightOne, ih, Nat.div_div_eq_div_mul, pow_succ]

theorem mantissa_ofMantissaAndAccuracy (mantissa : Nat) (accuracy : Accuracy) :
    (ExtendedMantissa.ofMantissaAndAccuracy mantissa accuracy).mantissa = mantissa := by
  rcases accuracy with _ | _ | _ | _ <;> rfl

/-- Rounding keeps a mantissa, or takes the next one. -/
theorem roundedMantissa_cases (em : ExtendedMantissa) :
    em.roundedMantissa = em.mantissa ∨ em.roundedMantissa = em.mantissa + 1 := by
  rcases em with ⟨m, _ | _, _ | _⟩
  · exact Or.inl rfl
  · exact Or.inl rfl
  · change m + m % 2 = m ∨ m + m % 2 = m + 1
    omega
  · exact Or.inr rfl

/-- A rounded mantissa with its exponent. One that has grown to 54 bits is halved. -/
def carried (sign : Sign) (mantissa : Nat) (exponent : Int) : UnpackedFloat :=
  if h : mantissa = 0 then .zero sign
  else if mantissa = 2 ^ 53 then .finite sign (2 ^ 52) (exponent + 1) (by decide)
  else .finite sign mantissa exponent (Nat.pos_of_ne_zero h)

theorem carried_canonical {sign : Sign} {mantissa : Nat} {exponent : Int}
    (h : mantissa ≤ 2 ^ 53) (hbottom : -1074 ≤ exponent)
    (hfull : 2 ^ 52 ≤ mantissa ∨ exponent = -1074) :
    Canonical (carried sign mantissa exponent) := by
  unfold carried
  split_ifs with hzero hcarry
  · trivial
  · exact ⟨by decide, by omega, Or.inl le_rfl⟩
  · exact ⟨lt_of_le_of_ne h hcarry, hbottom, hfull⟩

theorem value_carried (sign : Sign) (mantissa : Nat) (exponent : Int) :
    value (carried sign mantissa exponent) = signed sign (mantissa * 2 ^ exponent) := by
  unfold carried
  split_ifs with hzero hcarry
  · subst hzero
    cases sign <;> simp [value, signed]
  · subst hcarry
    rw [value]
    congr 1
    push_cast
    rw [zpow_add_one₀ two_ne_zero]
    ring
  · rfl

theorem isFinite_carried (sign : Sign) (mantissa : Nat) (exponent : Int) :
    (carried sign mantissa exponent).isFinite = true := by
  unfold carried
  split_ifs <;> rfl

/-- After rounding, the second look at the exponent does no more than halve. -/
theorem dite_shiftToTargetExponent {sign : Sign} {mantissa : Nat} {exponent : Int}
    (h : mantissa ≤ 2 ^ 53) (hbottom : -1074 ≤ exponent) :
    let r := shiftToTargetExponent Format.binary64 mantissa exponent .exact
    (if h : r.1.mantissa = 0 then UnpackedFloat.zero sign
      else .finite sign r.1.mantissa r.2 (Nat.pos_of_ne_zero h)) =
      carried sign mantissa exponent := by
  intro r
  have hmantissa : r.1.mantissa = mantissa / 2 ^ (target mantissa exponent - exponent).toNat :=
    (mantissa_shiftRight _ _).trans (congrArg (· / _) (mantissa_ofMantissaAndAccuracy _ _))
  have hexponent : r.2 = exponent + (target mantissa exponent - exponent).toNat := rfl
  unfold carried
  by_cases hcarry : mantissa = 2 ^ 53
  · have htarget : (target mantissa exponent - exponent).toNat = 1 := by
      rw [hcarry, target, Nat.log2_two_pow]
      omega
    rw [htarget, hcarry] at hmantissa
    rw [htarget] at hexponent
    have hhalf : r.1.mantissa = 2 ^ 52 := hmantissa
    rw [dif_neg (by rw [hhalf]; decide), dif_neg (by rw [hcarry]; decide), if_pos hcarry]
    simp only [hhalf, hexponent, Nat.cast_one]
  · have hlog : mantissa.log2 < 53 := by
      rcases Nat.eq_zero_or_pos mantissa with rfl | hpos
      · decide
      · exact (Nat.log2_lt hpos.ne').mpr (lt_of_le_of_ne h hcarry)
    have htarget : (target mantissa exponent - exponent).toNat = 0 := by
      rw [target]
      omega
    rw [htarget, pow_zero, Nat.div_one] at hmantissa
    rw [htarget, Nat.cast_zero, add_zero] at hexponent
    simp only [hmantissa, hexponent, if_neg hcarry]

/-- What is left of a mantissa when its exponent is raised to the one of a double. -/
def reduced (mantissa : Nat) (exponent : Int) : Nat :=
  mantissa / 2 ^ (target mantissa exponent - exponent).toNat

theorem two_pow_target {mantissa : Nat} {exponent : Int}
    (he : exponent ≤ target mantissa exponent) :
    (2 : ℝ) ^ target mantissa exponent =
      2 ^ (target mantissa exponent - exponent).toNat * 2 ^ exponent := by
  rw [← zpow_natCast, ← zpow_add₀ two_ne_zero, Int.toNat_of_nonneg (by omega)]
  congr 1
  omega

theorem reduced_lt (mantissa : Nat) (exponent : Int) : reduced mantissa exponent < 2 ^ 53 := by
  rw [reduced, Nat.div_lt_iff_lt_mul (Nat.two_pow_pos _), ← pow_add]
  refine lt_of_lt_of_le Nat.lt_log2_self (Nat.pow_le_pow_right two_pos ?_)
  rw [target]
  omega

theorem le_reduced {mantissa : Nat} {exponent : Int} (he : exponent ≤ target mantissa exponent) :
    2 ^ 52 ≤ reduced mantissa exponent ∨ target mantissa exponent = -1074 := by
  by_cases hbottom : target mantissa exponent = -1074
  · exact Or.inr hbottom
  · refine Or.inl ?_
    have htarget : target mantissa exponent = mantissa.log2 + 1 + exponent - 53 := by
      rw [target] at hbottom ⊢
      omega
    have hpos : mantissa ≠ 0 := by
      rintro rfl
      rw [Nat.log2_zero] at htarget
      omega
    rw [reduced, Nat.le_div_iff_mul_le (Nat.two_pow_pos _), ← pow_add]
    refine le_trans (Nat.pow_le_pow_right two_pos ?_) (Nat.log2_self_le hpos)
    omega

/-- Raising the exponent leaves a number between two neighbours. -/
theorem reduced_le {mantissa : Nat} {exponent : Int} (he : exponent ≤ target mantissa exponent) :
    reduced mantissa exponent * (2 : ℝ) ^ target mantissa exponent ≤ mantissa * 2 ^ exponent := by
  have hmul : reduced mantissa exponent * 2 ^ (target mantissa exponent - exponent).toNat ≤
      mantissa := Nat.div_mul_le_self _ _
  calc reduced mantissa exponent * (2 : ℝ) ^ target mantissa exponent
      = ((reduced mantissa exponent * 2 ^ (target mantissa exponent - exponent).toNat : Nat) : ℝ) *
        2 ^ exponent := by
        rw [two_pow_target he]
        push_cast
        ring
    _ ≤ mantissa * 2 ^ exponent := by gcongr

theorem le_reduced_succ {mantissa : Nat} {exponent : Int}
    (he : exponent ≤ target mantissa exponent) : (mantissa + 1) * (2 : ℝ) ^ exponent ≤
      (reduced mantissa exponent + 1) * 2 ^ target mantissa exponent := by
  have hmul : mantissa + 1 ≤
      (reduced mantissa exponent + 1) * 2 ^ (target mantissa exponent - exponent).toNat :=
    (Nat.div_lt_iff_lt_mul (Nat.two_pow_pos _)).mp (Nat.lt_succ_self _)
  calc (mantissa + 1) * (2 : ℝ) ^ exponent
      = ((mantissa + 1 : Nat) : ℝ) * 2 ^ exponent := by push_cast; rfl
    _ ≤ (((reduced mantissa exponent + 1) *
          2 ^ (target mantissa exponent - exponent).toNat : Nat) : ℝ) * 2 ^ exponent := by gcongr
    _ = (reduced mantissa exponent + 1) * (2 : ℝ) ^ target mantissa exponent := by
        rw [two_pow_target he]
        push_cast
        ring

/-- A mantissa shifted to the exponent of a double, with what the shift has cut off. -/
def shifted (mantissa : Nat) (exponent : Int) (accuracy : Accuracy) : ExtendedMantissa :=
  ExtendedMantissa.ofMantissaAndAccuracy mantissa accuracy >>>
    (target mantissa exponent - exponent).toNat

theorem roundedMantissa_shifted (mantissa : Nat) (exponent : Int) (accuracy : Accuracy) :
    (shifted mantissa exponent accuracy).roundedMantissa = reduced mantissa exponent ∨
      (shifted mantissa exponent accuracy).roundedMantissa = reduced mantissa exponent + 1 := by
  have hmantissa : (shifted mantissa exponent accuracy).mantissa = reduced mantissa exponent :=
    (mantissa_shiftRight _ _).trans (congrArg (· / _) (mantissa_ofMantissaAndAccuracy _ _))
  have hrounded := roundedMantissa_cases (shifted mantissa exponent accuracy)
  rwa [hmantissa] at hrounded

/-- The shifted mantissa is rounded, and nothing else is lost. -/
theorem roundWithAccuracy_shifted (sign : Sign) (mantissa : Nat) (exponent : Int)
    (accuracy : Accuracy) (he : exponent ≤ target mantissa exponent) :
    roundWithAccuracy Format.binary64 sign mantissa exponent accuracy =
      carried sign (shifted mantissa exponent accuracy).roundedMantissa
        (target mantissa exponent) := by
  let r := shiftToTargetExponent Format.binary64 mantissa exponent accuracy
  have hexponent : r.2 = target mantissa exponent := by
    change exponent + ((target mantissa exponent - exponent).toNat : Int) = _
    omega
  have hle : r.1.roundedMantissa ≤ 2 ^ 53 := by
    have hlt := reduced_lt mantissa exponent
    have hrounded := roundedMantissa_shifted mantissa exponent accuracy
    change (shifted mantissa exponent accuracy).roundedMantissa ≤ 2 ^ 53
    omega
  have hbottom : -1074 ≤ r.2 := hexponent ▸ le_max_right _ _
  rw [← hexponent]
  exact dite_shiftToTargetExponent hle hbottom

/-- A number is rounded to one of the two doubles next to it. -/
theorem roundWithAccuracy_eq (sign : Sign) (mantissa : Nat) (exponent : Int)
    (accuracy : Accuracy) (he : exponent ≤ target mantissa exponent) :
    ∃ rounded, (rounded = reduced mantissa exponent ∨ rounded = reduced mantissa exponent + 1) ∧
      roundWithAccuracy Format.binary64 sign mantissa exponent accuracy =
        carried sign rounded (target mantissa exponent) :=
  ⟨_, roundedMantissa_shifted mantissa exponent accuracy,
    roundWithAccuracy_shifted sign mantissa exponent accuracy he⟩

/-- A mantissa stands for the numbers up to the next one; each of them is rounded well. -/
theorem roundWithAccuracy_near (sign : Sign) {mantissa : Nat} {exponent : Int}
    (accuracy : Accuracy) {x : ℝ} (he : exponent ≤ target mantissa exponent)
    (hlow : mantissa * 2 ^ exponent ≤ x) (hhigh : x < (mantissa + 1) * 2 ^ exponent) :
    Near (roundWithAccuracy Format.binary64 sign mantissa exponent accuracy) (signed sign x) := by
  obtain ⟨rounded, hrounded, heq⟩ := roundWithAccuracy_eq sign mantissa exponent accuracy he
  rw [heq]
  have hlt := reduced_lt mantissa exponent
  have hfull := le_reduced he
  have hbottom : -1074 ≤ target mantissa exponent := le_max_right _ _
  have hlow' := (reduced_le he).trans hlow
  have hhigh' := hhigh.trans_le (le_reduced_succ he)
  set t := target mantissa exponent
  have hstep : |rounded * (2 : ℝ) ^ t - x| ≤ 2 ^ t := by
    rcases hrounded with rfl | rfl
    · rw [abs_le]
      constructor <;> linarith
    · push_cast
      rw [abs_le]
      constructor <;> linarith
  have hnonneg : 0 ≤ x := le_trans (by positivity) hlow
  refine ⟨carried_canonical (by omega) hbottom (by omega), isFinite_carried .., ?_⟩
  rw [value_carried, abs_signed_sub, abs_signed, abs_of_nonneg hnonneg]
  refine hstep.trans ?_
  rcases hfull with hfull | hfull
  · have hbits : (2 : ℝ) ^ t ≤ share * x := by
      calc (2 : ℝ) ^ t = share * ((2 ^ 52 : Nat) * 2 ^ t) := by
            push_cast
            rw [share, ← mul_assoc, zpow_neg]
            norm_num
        _ ≤ share * (reduced mantissa exponent * 2 ^ t) := by gcongr; exact share_pos.le
        _ ≤ share * x := by gcongr; exact share_pos.le
    exact hbits.trans (le_add_of_nonneg_right least_pos.le)
  · rw [hfull]
    exact le_add_of_nonneg_left (mul_nonneg share_pos.le hnonneg)

/-- A number that needs no more bits than are cut off is rounded well. -/
theorem roundWithAccuracy_exact_near (sign : Sign) {mantissa : Nat} {exponent : Int}
    (he : exponent ≤ target mantissa exponent) :
    Near (roundWithAccuracy Format.binary64 sign mantissa exponent .exact)
      (signed sign (mantissa * 2 ^ exponent)) := by
  have hpos : (0 : ℝ) < 2 ^ exponent := by positivity
  refine roundWithAccuracy_near sign .exact he le_rfl ?_
  gcongr
  exact lt_add_one _

/-! ## Operations on numbers in the form of doubles -/

variable {a b : UnpackedFloat}

theorem near_zero (sign : Sign) : Near (.zero sign) 0 where
  canonical := trivial
  finite := rfl
  error := by
    rw [value_zero, sub_zero, abs_zero, mul_zero, zero_add]
    exact least_pos.le

theorem near_self (h : Canonical a) (hfinite : a.isFinite = true) : Near a (value a) where
  canonical := h
  finite := hfinite
  error := by
    rw [sub_self, abs_zero]
    exact add_nonneg (mul_nonneg share_pos.le (abs_nonneg _)) least_pos.le

theorem signed_mul (s₁ s₂ : Sign) (x y : ℝ) :
    signed (s₁ * s₂) (x * y) = signed s₁ x * signed s₂ y := by
  cases s₁ <;> cases s₂ <;> simp only [signed, neg_mul, mul_neg, neg_neg]

theorem signed_div (s₁ s₂ : Sign) (x y : ℝ) :
    signed (s₁ / s₂) (x / y) = signed s₁ x / signed s₂ y := by
  cases s₁ <;> cases s₂ <;> simp only [signed, neg_div, div_neg, neg_neg] <;> rfl

theorem apply_cast (s : Sign) (n : Nat) : ((s.apply n : Int) : ℝ) = signed s n := by
  cases s <;> simp [Sign.apply, signed]

theorem log2_mul_two_pow {n : Nat} (h : 0 < n) (k : Nat) : (n * 2 ^ k).log2 = n.log2 + k := by
  rw [Nat.log2_eq_iff (by positivity)]
  constructor
  · rw [pow_add]
    exact Nat.mul_le_mul_right _ (Nat.log2_self_le h.ne')
  · rw [add_right_comm, pow_add]
    exact Nat.mul_lt_mul_of_pos_right Nat.lt_log2_self (Nat.two_pow_pos k)

/-- Giving a mantissa more bits leaves the exponent that it has as a double. -/
theorem target_mul_two_pow {mantissa : Nat} (h : 0 < mantissa) (exponent : Int) (k : Nat) :
    target (mantissa * 2 ^ k) (exponent - k) = target mantissa exponent := by
  rw [target, target, log2_mul_two_pow h]
  push_cast
  congr 1
  ring

theorem mul_two_pow_zpow (mantissa : Nat) (exponent : Int) (k : Nat) :
    ((mantissa * 2 ^ k : Nat) : ℝ) * 2 ^ (exponent - k) = mantissa * 2 ^ exponent := by
  push_cast
  rw [mul_assoc, ← zpow_natCast, ← zpow_add₀ two_ne_zero, add_sub_cancel]

/-- The zeros that a mantissa gets for an exponent that is too large. -/
def padding (mantissa : Nat) (exponent : Int) : Nat :=
  (exponent - target mantissa exponent).toNat

/-- Before it is rounded, a mantissa gets as many bits as a double has. -/
theorem round_eq (sign : Sign) (mantissa : Nat) (exponent : Int) :
    UnpackedFloat.round Format.binary64 sign mantissa exponent =
      roundWithAccuracy Format.binary64 sign (mantissa * 2 ^ padding mantissa exponent)
        (exponent - padding mantissa exponent) .exact := by
  rw [← Nat.shiftLeft_eq]
  rfl

theorem le_target_padding {mantissa : Nat} (h : 0 < mantissa) (exponent : Int) :
    exponent - padding mantissa exponent ≤
      target (mantissa * 2 ^ padding mantissa exponent) (exponent - padding mantissa exponent) := by
  rw [target_mul_two_pow h, padding]
  omega

/-- A mantissa with any exponent is rounded well. -/
theorem round_near (sign : Sign) {mantissa : Nat} (h : 0 < mantissa) (exponent : Int) :
    Near (UnpackedFloat.round Format.binary64 sign mantissa exponent)
      (signed sign (mantissa * 2 ^ exponent)) := by
  rw [round_eq, ← mul_two_pow_zpow mantissa exponent (padding mantissa exponent)]
  exact roundWithAccuracy_exact_near sign (le_target_padding h exponent)

/-- So is an integer with any exponent. -/
theorem normalize_near (mantissa : Int) (exponent : Int) (zeroSign : Sign) :
    Near (UnpackedFloat.normalize Format.binary64 mantissa exponent zeroSign)
      (mantissa * 2 ^ exponent) := by
  unfold UnpackedFloat.normalize
  rcases lt_trichotomy mantissa 0 with hneg | rfl | hpos
  · rw [Int.compare_eq_lt.mpr hneg]
    have hnear := round_near .negative (by omega : 0 < (-mantissa).toNat) exponent
    have hcast : (((-mantissa).toNat : Nat) : ℝ) = -mantissa := by
      exact_mod_cast Int.toNat_of_nonneg (by omega : 0 ≤ -mantissa)
    rwa [hcast, signed, neg_mul, neg_neg] at hnear
  · rw [Int.cast_zero, zero_mul]
    exact near_zero zeroSign
  · rw [Int.compare_eq_gt.mpr hpos]
    have hnear := round_near .positive (by omega : 0 < mantissa.toNat) exponent
    have hcast : ((mantissa.toNat : Nat) : ℝ) = mantissa := by
      exact_mod_cast Int.toNat_of_nonneg hpos.le
    rwa [hcast] at hnear

/-- A number written with a smaller exponent. -/
theorem signed_decreaseExponent (sign : Sign) (mantissa : Nat) {exponent lower : Int}
    (h : lower ≤ exponent) :
    ((sign.apply (decreaseExponent mantissa exponent lower).1 : Int) : ℝ) * 2 ^ lower =
      signed sign (mantissa * 2 ^ exponent) := by
  have hvalue := mul_two_pow_zpow mantissa exponent (exponent - lower).toNat
  have hlower : exponent - (exponent - lower).toNat = lower := by omega
  rw [hlower, ← Nat.shiftLeft_eq] at hvalue
  rw [apply_cast, decreaseExponent, ← hvalue]
  cases sign
  · exact neg_mul _ _
  · rfl

theorem add_near (ha : Canonical a) (hb : Canonical b) (hfa : a.isFinite = true)
    (hfb : b.isFinite = true) :
    Near (UnpackedFloat.add Format.binary64 a b) (value a + value b) := by
  cases a with
  | notANumber => cases hfa
  | infinity s => cases hfa
  | zero s =>
    rw [value_zero, zero_add]
    cases b with
    | notANumber => cases hfb
    | infinity s' => cases hfb
    | zero s' =>
      unfold UnpackedFloat.add
      dsimp only
      split_ifs
      · exact near_zero _
      · exact near_zero _
    | finite s' m' e' hm' => exact near_self hb rfl
  | finite s m e hm =>
    cases b with
    | notANumber => cases hfb
    | infinity s' => cases hfb
    | zero s' => exact (add_zero (value (.finite s m e hm))).symm ▸ near_self ha rfl
    | finite s' m' e' hm' =>
      have hnear := normalize_near (s.apply (decreaseExponent m e (min e e')).1 +
        s'.apply (decreaseExponent m' e' (min e e')).1) (min e e') .positive
      rw [Int.cast_add, add_mul, signed_decreaseExponent s m (min_le_left e e'),
        signed_decreaseExponent s' m' (min_le_right e e')] at hnear
      exact hnear

theorem signed_neg (s : Sign) (x : ℝ) : signed (-s) x = -signed s x := by
  cases s
  · exact (neg_neg x).symm
  · rfl

theorem apply_neg (s : Sign) (n : Int) : (-s).apply n = -s.apply n := by
  cases s
  · exact (neg_neg n).symm
  · rfl

/-- A difference is the sum with the opposite. -/
theorem sub_eq_add (a b : UnpackedFloat) :
    UnpackedFloat.sub Format.binary64 a b = UnpackedFloat.add Format.binary64 a b.neg := by
  cases a with
  | notANumber => cases b <;> rfl
  | infinity s =>
    cases b with
    | infinity s' => cases s <;> cases s' <;> rfl
    | _ => rfl
  | zero s =>
    cases b with
    | zero s' => cases s <;> cases s' <;> rfl
    | _ => rfl
  | finite s m e hm =>
    cases b with
    | finite s' m' e' hm' =>
      unfold UnpackedFloat.sub UnpackedFloat.neg UnpackedFloat.add
      dsimp only
      rw [apply_neg, ← sub_eq_add_neg]
    | _ => rfl

theorem value_neg (a : UnpackedFloat) : value a.neg = -value a := by
  cases a with
  | finite s m e hm => exact signed_neg s _
  | _ => exact neg_zero.symm

theorem isFinite_neg (a : UnpackedFloat) : a.neg.isFinite = a.isFinite := by
  cases a <;> rfl

theorem Canonical.neg (h : Canonical a) : Canonical a.neg := by
  cases a with
  | finite s m e hm => exact h
  | _ => trivial

theorem unpack_neg (x : Float) : (-x).toModel.unpack = x.toModel.unpack.neg := by
  change (Float.Model.pack x.toModel.unpack.neg).unpack = _
  rw [unpack_pack (unpack_canonical _).neg]
  cases hx : x.toModel.unpack with
  | finite s m e hm => exact if_pos (exponent_le_of_unpack hx)
  | _ => rfl

theorem sub_near (ha : Canonical a) (hb : Canonical b) (hfa : a.isFinite = true)
    (hfb : b.isFinite = true) :
    Near (UnpackedFloat.sub Format.binary64 a b) (value a - value b) := by
  rw [sub_eq_add, sub_eq_add_neg, ← value_neg]
  exact add_near ha hb.neg hfa ((isFinite_neg b).trans hfb)

/-- The exponents of two factors add up to one that the product need not keep. -/
theorem le_target_mul {m m' : Nat} {e e' : Int} (h : Fits m e) (h' : Fits m' e') (hm : 0 < m)
    (hm' : 0 < m') : e + e' ≤ target (m * m') (e + e') := by
  by_cases hfull : 2 ^ 52 ≤ m * m'
  · have hlog := (Nat.le_log2 (Nat.mul_pos hm hm').ne').mpr hfull
    rw [target]
    omega
  · have hlow : ¬ 2 ^ 52 ≤ m := fun hle => hfull (hle.trans (Nat.le_mul_of_pos_right m hm'))
    have hlow' : ¬ 2 ^ 52 ≤ m' := fun hle => hfull (hle.trans (Nat.le_mul_of_pos_left m' hm))
    rw [h.full.resolve_left hlow, h'.full.resolve_left hlow']
    exact le_trans (by decide) (le_max_right _ _)

theorem mul_near (ha : Canonical a) (hb : Canonical b) (hfa : a.isFinite = true)
    (hfb : b.isFinite = true) :
    Near (UnpackedFloat.mul Format.binary64 a b) (value a * value b) := by
  cases a with
  | notANumber => cases hfa
  | infinity s => cases hfa
  | zero s =>
    rw [value_zero, zero_mul]
    cases b with
    | notANumber => cases hfb
    | infinity s' => cases hfb
    | zero s' => exact near_zero _
    | finite s' m' e' hm' => exact near_zero _
  | finite s m e hm =>
    cases b with
    | notANumber => cases hfb
    | infinity s' => cases hfb
    | zero s' =>
      change Near _ (value (.finite s m e hm) * 0)
      rw [mul_zero]
      exact near_zero _
    | finite s' m' e' hm' =>
      have hproduct : (m * 2 ^ e : ℝ) * (m' * 2 ^ e') = (m * m' : Nat) * 2 ^ (e + e') := by
        push_cast
        rw [zpow_add₀ two_ne_zero]
        ring
      rw [value_finite, value_finite, ← signed_mul, hproduct]
      exact roundWithAccuracy_exact_near (s * s') (le_target_mul ha hb hm hm')

/-- The first approximation to a quotient: a mantissa between whose number and the next one the
quotient lies. -/
theorem divCore_spec {m m' : Nat} (hm : 0 < m) (hm' : 0 < m') (e e' : Int) :
    let r := divCore Format.binary64 m e m' e'
    r.2.1 ≤ target r.1 r.2.1 ∧ r.1 * 2 ^ r.2.1 ≤ (m * 2 ^ e : ℝ) / (m' * 2 ^ e') ∧
      (m * 2 ^ e : ℝ) / (m' * 2 ^ e') < (r.1 + 1) * 2 ^ r.2.1 := by
  intro r
  let wanted : Int := max (m.log2 + 1 + e - (m'.log2 + 1 + e') - 53) (-1074)
  let t : Int := min (e - e') wanted
  let k : Nat := (e - e' - t).toNat
  have hmantissa : r.1 = m * 2 ^ k / m' := congrArg (· / m') (Nat.shiftLeft_eq ..)
  have hexponent : r.2.1 = t := rfl
  rw [hmantissa, hexponent]
  have hquotient : (m * 2 ^ e : ℝ) / (m' * 2 ^ e') = ((m * 2 ^ k : Nat) / m' : ℝ) * 2 ^ t := by
    have hscale : (2 : ℝ) ^ e = 2 ^ k * 2 ^ t * 2 ^ e' := by
      rw [← zpow_natCast, ← zpow_add₀ two_ne_zero, ← zpow_add₀ two_ne_zero]
      congr 1
      omega
    rw [hscale]
    push_cast
    field_simp
  have hpos : (0 : ℝ) < m' := by exact_mod_cast hm'
  rw [hquotient]
  refine ⟨?_, ?_, ?_⟩
  · by_cases hbottom : t ≤ -1074
    · exact hbottom.trans (le_max_right _ _)
    · -- The quotient has enough bits.
      have hfull : 2 ^ 52 ≤ m * 2 ^ k / m' := by
        rw [Nat.le_div_iff_mul_le hm']
        calc 2 ^ 52 * m' ≤ 2 ^ 52 * 2 ^ (m'.log2 + 1) :=
              Nat.mul_le_mul_left _ Nat.lt_log2_self.le
          _ = 2 ^ (52 + (m'.log2 + 1)) := (pow_add ..).symm
          _ ≤ 2 ^ (m.log2 + k) := Nat.pow_le_pow_right two_pos (by omega)
          _ = 2 ^ m.log2 * 2 ^ k := pow_add ..
          _ ≤ m * 2 ^ k := Nat.mul_le_mul_right _ (Nat.log2_self_le hm.ne')
      have hlog := (Nat.le_log2 (lt_of_lt_of_le (by positivity) hfull).ne').mpr hfull
      rw [target]
      omega
  · gcongr
    exact Nat.cast_div_le
  · gcongr
    rw [div_lt_iff₀ hpos]
    exact_mod_cast Nat.lt_mul_of_div_lt (Nat.lt_succ_self (m * 2 ^ k / m')) hm'

theorem div_near (hfa : a.isFinite = true) (hfb : b.isFinite = true) (hnonzero : value b ≠ 0) :
    Near (UnpackedFloat.div Format.binary64 a b) (value a / value b) := by
  cases b with
  | notANumber => cases hfb
  | infinity s' => cases hfb
  | zero s' => exact absurd rfl hnonzero
  | finite s' m' e' hm' =>
    cases a with
    | notANumber => cases hfa
    | infinity s => cases hfa
    | zero s =>
      rw [value_zero, zero_div]
      exact near_zero _
    | finite s m e hm =>
      obtain ⟨he, hlow, hhigh⟩ := divCore_spec hm hm' e e'
      rw [value_finite, value_finite, ← signed_div]
      exact roundWithAccuracy_near (s / s') _ he hlow hhigh

/-- The first approximation to a square root. -/
theorem sqrtCore_spec {m : Nat} {e : Int} (h : Fits m e) (hm : 0 < m) :
    let r := sqrtCore Format.binary64 m e
    r.2.1 ≤ target r.1 r.2.1 ∧ r.1 * 2 ^ r.2.1 ≤ √(m * 2 ^ e) ∧
      √(m * 2 ^ e) < (r.1 + 1) * 2 ^ r.2.1 := by
  intro r
  let wanted : Int := max ((m.log2 + 1 + e + 1) / 2 - 53) (-1074)
  let t : Int := min (e / 2) wanted
  let k : Nat := (e - 2 * t).toNat
  have hmantissa : r.1 = (m * 2 ^ k).sqrt := congrArg Nat.sqrt (Nat.shiftLeft_eq ..)
  have hexponent : r.2.1 = t := rfl
  rw [hmantissa, hexponent]
  have hbottom := h.bottom
  have hroot : √(m * 2 ^ e : ℝ) = √((m * 2 ^ k : Nat) : ℝ) * 2 ^ t := by
    have hscale : (m * 2 ^ e : ℝ) = (m * 2 ^ k : Nat) * (2 ^ t) ^ 2 := by
      push_cast
      rw [mul_assoc, ← zpow_natCast, ← zpow_natCast, ← zpow_mul, ← zpow_add₀ two_ne_zero]
      congr 2
      push_cast
      omega
    rw [hscale, Real.sqrt_mul (Nat.cast_nonneg _), Real.sqrt_sq (by positivity)]
  rw [hroot]
  refine ⟨?_, ?_, ?_⟩
  · -- The root has enough bits, for the mantissa has twice as many.
    have hfull : 2 ^ 52 ≤ (m * 2 ^ k).sqrt := by
      rw [Nat.le_sqrt]
      calc 2 ^ 52 * 2 ^ 52 ≤ 2 ^ (m.log2 + k) := by
            rw [← pow_add]
            exact Nat.pow_le_pow_right two_pos (by omega)
        _ = 2 ^ m.log2 * 2 ^ k := pow_add ..
        _ ≤ m * 2 ^ k := Nat.mul_le_mul_right _ (Nat.log2_self_le hm.ne')
    have hlog := (Nat.le_log2 (lt_of_lt_of_le (by positivity) hfull).ne').mpr hfull
    rw [target]
    omega
  · gcongr
    exact Real.nat_sqrt_le_real_sqrt
  · gcongr
    exact Real.real_sqrt_lt_nat_sqrt_succ

theorem sqrt_near (ha : Canonical a) (hfa : a.isFinite = true)
    (hfinite : (UnpackedFloat.sqrt Format.binary64 a).isFinite = true) :
    Near (UnpackedFloat.sqrt Format.binary64 a) √(value a) := by
  cases a with
  | notANumber => cases hfa
  | infinity s => cases hfa
  | zero s =>
    rw [value_zero, Real.sqrt_zero]
    exact near_zero s
  | finite s m e hm =>
    cases s with
    | negative => cases hfinite
    | positive =>
      obtain ⟨he, hlow, hhigh⟩ := sqrtCore_spec ha hm
      exact roundWithAccuracy_near .positive _ he hlow hhigh

/-! ## What a finite result tells of the operands -/

theorem isFinite_of_pack {u : UnpackedFloat} (h : (Float.Model.pack u).unpack.isFinite = true) :
    u.isFinite = true := by
  cases u with
  | notANumber =>
    rw [unpack_pack (u := .notANumber) trivial] at h
    cases h
  | infinity s =>
    rw [unpack_pack (u := .infinity s) trivial] at h
    cases h
  | zero s => rfl
  | finite s m e hm => rfl

/-- What is not finite spoils a sum. -/
theorem isFinite_of_add (h : (UnpackedFloat.add Format.binary64 a b).isFinite = true) :
    a.isFinite = true ∧ b.isFinite = true := by
  cases a with
  | notANumber => cases h
  | infinity s =>
    cases b with
    | infinity s' =>
      unfold UnpackedFloat.add at h
      dsimp only at h
      split_ifs at h <;> cases h
    | _ => cases h
  | _ =>
    cases b with
    | notANumber => cases h
    | infinity s' => cases h
    | _ => exact ⟨rfl, rfl⟩

theorem isFinite_of_sub (h : (UnpackedFloat.sub Format.binary64 a b).isFinite = true) :
    a.isFinite = true ∧ b.isFinite = true := by
  rw [sub_eq_add] at h
  obtain ⟨ha, hb⟩ := isFinite_of_add h
  exact ⟨ha, (isFinite_neg b).symm.trans hb⟩

theorem isFinite_of_mul (h : (UnpackedFloat.mul Format.binary64 a b).isFinite = true) :
    a.isFinite = true ∧ b.isFinite = true := by
  cases a with
  | notANumber => cases h
  | infinity s => cases b <;> cases h
  | _ =>
    cases b with
    | notANumber => cases h
    | infinity s' => cases h
    | _ => exact ⟨rfl, rfl⟩

theorem isFinite_of_sqrt (h : (UnpackedFloat.sqrt Format.binary64 a).isFinite = true) :
    a.isFinite = true := by
  cases a with
  | notANumber => cases h
  | infinity s => cases s <;> cases h
  | _ => rfl

/-- A quotient by a finite number that is not zero. -/
theorem isFinite_of_div (h : (UnpackedFloat.div Format.binary64 a b).isFinite = true)
    (hb : b.isFinite = true) : a.isFinite = true := by
  cases a with
  | notANumber => cases h
  | infinity s =>
    cases b with
    | infinity s' => cases hb
    | _ => cases h
  | _ => rfl

/-! ## Operations on doubles -/

/-- The number that a double stands for. -/
noncomputable def real (x : Float) : ℝ :=
  value x.toModel.unpack

/-- A double is as near to a number as a double need be. -/
def Close (x : Float) (y : ℝ) : Prop :=
  |real x - y| ≤ share * |y| + least

theorem Near.close {u : UnpackedFloat} {y : ℝ} (hnear : Near u y)
    (h : (Float.Model.pack u).unpack.isFinite = true) : Close (Float.ofModel (.pack u)) y := by
  rw [unpack_pack hnear.canonical] at h
  rw [Close, real, unpack_pack hnear.canonical]
  have hcapped : capped u = u := by
    cases u with
    | finite s m e hm =>
      unfold capped at h ⊢
      dsimp only at h ⊢
      split_ifs at h ⊢
      · rfl
      · cases h
    | _ => rfl
  rw [hcapped]
  exact hnear.error

variable {x y : Float}

theorem add_close (h : (x + y).isFinite = true) :
    (x.isFinite = true ∧ y.isFinite = true) ∧ Close (x + y) (real x + real y) := by
  have hoperands := isFinite_of_add (isFinite_of_pack h)
  exact ⟨hoperands, (add_near (unpack_canonical _) (unpack_canonical _) hoperands.1
    hoperands.2).close h⟩

theorem sub_close (h : (x - y).isFinite = true) :
    (x.isFinite = true ∧ y.isFinite = true) ∧ Close (x - y) (real x - real y) := by
  have hoperands := isFinite_of_sub (isFinite_of_pack h)
  exact ⟨hoperands, (sub_near (unpack_canonical _) (unpack_canonical _) hoperands.1
    hoperands.2).close h⟩

theorem mul_close (h : (x * y).isFinite = true) :
    (x.isFinite = true ∧ y.isFinite = true) ∧ Close (x * y) (real x * real y) := by
  have hoperands := isFinite_of_mul (isFinite_of_pack h)
  exact ⟨hoperands, (mul_near (unpack_canonical _) (unpack_canonical _) hoperands.1
    hoperands.2).close h⟩

theorem div_close (h : (x / y).isFinite = true) (hy : y.isFinite = true) (hnonzero : real y ≠ 0) :
    x.isFinite = true ∧ Close (x / y) (real x / real y) := by
  have hdividend := isFinite_of_div (isFinite_of_pack h) hy
  exact ⟨hdividend, (div_near hdividend hy hnonzero).close h⟩

theorem sqrt_close (h : x.sqrt.isFinite = true) :
    x.isFinite = true ∧ Close x.sqrt √(real x) := by
  have hfinite := isFinite_of_pack h
  have hoperand := isFinite_of_sqrt hfinite
  exact ⟨hoperand, (sqrt_near (unpack_canonical _) hoperand hfinite).close h⟩

/-! ## Zeros -/

/-- A zero of either sign. -/
def IsZero (x : Float) : Prop :=
  ∃ sign, x.toModel.unpack = .zero sign

theorem isZero_of_pack {u : UnpackedFloat} (h : ∃ sign, u = .zero sign) :
    IsZero (Float.ofModel (.pack u)) := by
  obtain ⟨sign, rfl⟩ := h
  exact ⟨sign, unpack_pack trivial⟩

theorem IsZero.mul (hx : x.isFinite = true) (hy : IsZero y) : IsZero (x * y) := by
  obtain ⟨sign, hy⟩ := hy
  refine isZero_of_pack (u := UnpackedFloat.mul Format.binary64 _ _) ?_
  have hfinite : x.toModel.unpack.isFinite = true := hx
  rw [hy]
  generalize x.toModel.unpack = u at hfinite
  cases u with
  | notANumber => cases hfinite
  | infinity s => cases hfinite
  | _ => exact ⟨_, rfl⟩

/-- What is finite but divided by what is not, is zero. -/
theorem IsZero.div (h : (x / y).isFinite = true) (hy : ¬ y.isFinite = true) : IsZero (x / y) := by
  refine isZero_of_pack (u := UnpackedFloat.div Format.binary64 _ _) ?_
  have hquotient := isFinite_of_pack h
  have hdivisor : ¬ y.toModel.unpack.isFinite = true := hy
  generalize x.toModel.unpack = u at hquotient
  generalize y.toModel.unpack = v at hquotient hdivisor
  cases v with
  | notANumber => cases u <;> cases hquotient
  | infinity s =>
    cases u with
    | notANumber => cases hquotient
    | infinity s' => cases hquotient
    | _ => exact ⟨_, rfl⟩
  | _ => exact absurd rfl hdivisor

/-- Adding a zero leaves the number. -/
theorem real_add_of_isZero (x : Float) (hy : IsZero y) : real (x + y) = real x := by
  obtain ⟨sign, hy⟩ := hy
  change value (Float.Model.pack (UnpackedFloat.add Format.binary64 x.toModel.unpack
    y.toModel.unpack)).unpack = value x.toModel.unpack
  rw [hy]
  cases hx : x.toModel.unpack with
  | notANumber => exact congrArg value (unpack_pack (u := .notANumber) trivial)
  | infinity s => exact congrArg value (unpack_pack (u := .infinity s) trivial)
  | zero s => cases s <;> cases sign <;> rfl
  | finite s m e hm =>
    change value (Float.Model.pack (.finite s m e hm)).unpack = _
    rw [← hx, pack_unpack]

/-! ## Order -/

/-- Of two numbers in the form of doubles the one with the larger exponent is larger. -/
theorem Fits.lt_of_exponent_lt {m m' : Nat} {e e' : Int} (h : Fits m e) (h' : Fits m' e')
    (hlt : e < e') : (m * 2 ^ e : ℝ) < m' * 2 ^ e' := by
  have hfull : 2 ^ 52 ≤ m' := h'.full.resolve_right (by have := h.bottom; omega)
  have hnarrow : (m : ℝ) < 2 ^ 53 := by exact_mod_cast h.narrow
  calc (m * 2 ^ e : ℝ) < 2 ^ 53 * 2 ^ e := by gcongr
    _ = (2 ^ 52 : Nat) * 2 ^ (e + 1) := by
      push_cast
      rw [zpow_add_one₀ two_ne_zero]
      ring
    _ ≤ m' * 2 ^ e' := by
      gcongr
      · exact one_le_two
      · omega

/-- Mantissas and exponents compare as the numbers do. -/
theorem Fits.compare_eq {m m' : Nat} {e e' : Int} (h : Fits m e) (h' : Fits m' e') :
    (compare e e').then (compare m m') = compare (m * 2 ^ e : ℝ) (m' * 2 ^ e') := by
  rcases lt_trichotomy e e' with hlt | rfl | hgt
  · rw [compare_lt_iff_lt.mpr hlt, compare_lt_iff_lt.mpr (h.lt_of_exponent_lt h' hlt)]
    rfl
  · have hpos : (0 : ℝ) < 2 ^ e := by positivity
    rw [compare_eq_iff_eq.mpr (rfl : e = e)]
    change compare m m' = _
    rcases lt_trichotomy m m' with hlt | rfl | hgt
    · rw [compare_lt_iff_lt.mpr hlt, compare_lt_iff_lt.mpr]
      gcongr
    · rw [compare_eq_iff_eq.mpr rfl, compare_eq_iff_eq.mpr rfl]
    · rw [compare_gt_iff_gt.mpr hgt, compare_gt_iff_gt.mpr]
      gcongr
  · rw [compare_gt_iff_gt.mpr hgt, compare_gt_iff_gt.mpr (h'.lt_of_exponent_lt h hgt)]
    rfl

theorem swap_compare (x y : ℝ) : (compare x y).swap = compare (-x) (-y) := by
  rcases lt_trichotomy x y with hlt | rfl | hgt
  · rw [compare_lt_iff_lt.mpr hlt, compare_gt_iff_gt.mpr (neg_lt_neg hlt)]
    rfl
  · rw [compare_eq_iff_eq.mpr rfl, compare_eq_iff_eq.mpr rfl]
    rfl
  · rw [compare_gt_iff_gt.mpr hgt, compare_lt_iff_lt.mpr (neg_lt_neg hgt)]
    rfl

/-- Doubles compare as the numbers they stand for. -/
theorem compare_value (ha : Canonical a) (hb : Canonical b) (hfa : a.isFinite = true)
    (hfb : b.isFinite = true) : a.compare b = some (compare (value a) (value b)) := by
  have hpos : ∀ {m : Nat} {e : Int}, 0 < m → (0 : ℝ) < m * 2 ^ e := fun hm =>
    mul_pos (Nat.cast_pos.mpr hm) (by positivity)
  cases a with
  | notANumber => cases hfa
  | infinity s => cases hfa
  | zero s =>
    cases b with
    | notANumber => cases hfb
    | infinity s' => cases hfb
    | zero s' => exact congrArg some (compare_eq_iff_eq.mpr rfl).symm
    | finite s' m' e' hm' =>
      cases s' with
      | negative => exact congrArg some (compare_gt_iff_gt.mpr (neg_lt_zero.mpr (hpos hm'))).symm
      | positive => exact congrArg some (compare_lt_iff_lt.mpr (hpos hm')).symm
  | finite s m e hm =>
    cases b with
    | notANumber => cases hfb
    | infinity s' => cases hfb
    | zero s' =>
      cases s with
      | negative => exact congrArg some (compare_lt_iff_lt.mpr (neg_lt_zero.mpr (hpos hm))).symm
      | positive => exact congrArg some (compare_gt_iff_gt.mpr (hpos hm)).symm
    | finite s' m' e' hm' =>
      have hopposite : -(m * 2 ^ e : ℝ) < m' * 2 ^ e' :=
        lt_trans (neg_lt_zero.mpr (hpos hm)) (hpos hm')
      have hopposite' : -(m' * 2 ^ e' : ℝ) < m * 2 ^ e :=
        lt_trans (neg_lt_zero.mpr (hpos hm')) (hpos hm)
      cases s with
      | negative =>
        cases s' with
        | negative =>
          exact congrArg some ((congrArg Ordering.swap (Fits.compare_eq ha hb)).trans
            (swap_compare _ _))
        | positive => exact congrArg some (compare_lt_iff_lt.mpr hopposite).symm
      | positive =>
        cases s' with
        | negative => exact congrArg some (compare_gt_iff_gt.mpr hopposite').symm
        | positive => exact congrArg some (Fits.compare_eq ha hb)

theorem le_iff_unpack_le (x y : Float) :
    x ≤ y ↔ UnpackedFloat.le x.toModel.unpack y.toModel.unpack = true :=
  ⟨of_decide_eq_true, decide_eq_true⟩

theorem le_iff_real_le (hx : x.isFinite = true) (hy : y.isFinite = true) :
    x ≤ y ↔ real x ≤ real y := by
  have hcompare := compare_value (unpack_canonical x.toModel) (unpack_canonical y.toModel) hx hy
  rw [le_iff_unpack_le, UnpackedFloat.le, hcompare]
  exact Ordering.ne_gt_iff_isLE.symm.trans (compare_le_iff_le (a := real x) (b := real y))

/-- What is not less than zero stands for no negative number. -/
theorem real_nonneg (h : 0 ≤ x) : 0 ≤ real x := by
  by_cases hx : x.isFinite = true
  · have hzero : real 0 = 0 := rfl
    rw [← hzero]
    exact (le_iff_real_le rfl hx).mp h
  · have hnumber : real x = 0 := by
      have hx' : ¬ x.toModel.unpack.isFinite = true := hx
      rw [real]
      cases hu : x.toModel.unpack with
      | notANumber => rfl
      | infinity s => rfl
      | _ =>
        rw [hu] at hx'
        exact absurd rfl hx'
    exact hnumber.ge

theorem real_of_unpack {mantissa : Nat} {exponent : Int} {hpos : 0 < mantissa}
    (h : x.toModel.unpack = .finite .positive mantissa exponent hpos) :
    real x = mantissa * 2 ^ exponent := by
  rw [real, h]
  rfl

/-- A double that is a natural number. -/
theorem real_of_natural {n k : Nat} {hpos : 0 < n * 2 ^ k}
    (h : x.toModel.unpack = .finite .positive (n * 2 ^ k) (-k) hpos) : real x = n := by
  rw [real_of_unpack h, zpow_neg, zpow_natCast]
  push_cast
  exact mul_inv_cancel_right₀ (by positivity) _

theorem real_five : real 5 = 5 :=
  (real_of_natural (n := 5) (k := 50) rfl).trans Nat.cast_ofNat

end SceneLogic.Number
