import SceneLogic.Proofs.Number.Rounding

/-!
# Squares of differences, and roots of squares

Two facts about single doubles that a bound on the error does not give. A difference has the same
square whichever way round it is taken. And a root of a double that is more than twenty-five is more
than five, except that of the very next double, which is rounded down.

* `sub_mul_self_swap` — squares of differences
* `sqrt_le_five` — roots that are no more than five
-/

namespace SceneLogic.Number

open Float.Model Float.Model.UnpackedFloat

/-! ## Squares of differences -/

variable {a b u v : UnpackedFloat}

theorem abs_round (s s' : Sign) (m : Nat) (e : Int) :
    (UnpackedFloat.round Format.binary64 s m e).abs =
      (UnpackedFloat.round Format.binary64 s' m e).abs := by
  unfold UnpackedFloat.round roundWithAccuracy
  dsimp only
  split_ifs <;> rfl

theorem abs_normalize_neg (m : Int) (e : Int) (s : Sign) :
    (UnpackedFloat.normalize Format.binary64 (-m) e s).abs =
      (UnpackedFloat.normalize Format.binary64 m e s).abs := by
  unfold UnpackedFloat.normalize
  rcases lt_trichotomy m 0 with hneg | rfl | hpos
  · rw [Int.compare_eq_gt.mpr (by omega : 0 < -m), Int.compare_eq_lt.mpr hneg]
    exact abs_round ..
  · rfl
  · rw [Int.compare_eq_lt.mpr (by omega : -m < 0), Int.compare_eq_gt.mpr hpos, neg_neg]
    exact abs_round ..

/-- A difference taken the other way round is the same but for its sign. -/
theorem abs_sub_swap (a b : UnpackedFloat) : (UnpackedFloat.sub Format.binary64 a b).abs =
    (UnpackedFloat.sub Format.binary64 b a).abs := by
  cases a with
  | notANumber => cases b <;> rfl
  | infinity s =>
    cases b with
    | infinity s' => cases s <;> cases s' <;> rfl
    | _ => rfl
  | zero s =>
    cases b with
    | zero s' => cases s <;> cases s' <;> rfl
    | _ => rfl
  | finite s m e hm =>
    cases b with
    | finite s' m' e' hm' =>
      have hneg := abs_normalize_neg (s'.apply (decreaseExponent m' e' (min e e')).1 -
        s.apply (decreaseExponent m e (min e e')).1) (min e e') .positive
      rw [neg_sub] at hneg
      have hmin : min e e' = min e' e := min_comm e e'
      rw [hmin] at hneg
      change (UnpackedFloat.normalize Format.binary64 (s.apply (decreaseExponent m e (min e e')).1 -
        s'.apply (decreaseExponent m' e' (min e e')).1) (min e e') .positive).abs = _
      rw [hmin]
      exact hneg
    | _ => rfl

/-- Packing leaves what is the same but for its sign so. -/
theorem abs_unpack_pack (hu : Canonical u) (hv : Canonical v) (h : u.abs = v.abs) :
    (Float.Model.pack u).unpack.abs = (Float.Model.pack v).unpack.abs := by
  have hcapped : ∀ w : UnpackedFloat, (capped w).abs = capped w.abs := by
    intro w
    cases w with
    | finite s m e hm =>
      unfold capped UnpackedFloat.abs
      dsimp only
      split_ifs <;> rfl
    | _ => rfl
  rw [unpack_pack hu, unpack_pack hv, hcapped, hcapped, h]

/-- A square does not tell a number from its opposite. -/
theorem mul_self_of_abs (h : a.abs = b.abs) : UnpackedFloat.mul Format.binary64 a a =
    UnpackedFloat.mul Format.binary64 b b := by
  have hsquare : ∀ w : UnpackedFloat, UnpackedFloat.mul Format.binary64 w w =
      UnpackedFloat.mul Format.binary64 w.abs w.abs := by
    intro w
    cases w with
    | notANumber => rfl
    | infinity s => cases s <;> rfl
    | zero s => cases s <;> rfl
    | finite s m e hm => cases s <;> rfl
  rw [hsquare a, hsquare b, h]

theorem sub_canonical (ha : Canonical a) (hb : Canonical b) :
    Canonical (UnpackedFloat.sub Format.binary64 a b) := by
  by_cases h : (UnpackedFloat.sub Format.binary64 a b).isFinite = true
  · obtain ⟨hfa, hfb⟩ := isFinite_of_sub h
    exact (sub_near ha hb hfa hfb).canonical
  · generalize UnpackedFloat.sub Format.binary64 a b = u at h
    cases u with
    | finite s m e hm => exact absurd rfl h
    | _ => trivial

theorem sub_mul_self_swap (x y : Float) : (x - y) * (x - y) = (y - x) * (y - x) := by
  have hx := unpack_canonical x.toModel
  have hy := unpack_canonical y.toModel
  have habs := abs_unpack_pack (sub_canonical hx hy) (sub_canonical hy hx) (abs_sub_swap _ _)
  exact congrArg (fun u => Float.ofModel (.pack u)) (mul_self_of_abs habs)

/-! ## Roots that are five -/

/-- The double next to twenty-five. -/
def pastTwentyFive : Float := 25.000000000000004

theorem eq_of_unpack {x y : Float} (h : x.toModel.unpack = y.toModel.unpack) : x = y := by
  obtain ⟨⟨bits, hvalid⟩⟩ := x
  obtain ⟨⟨bits', hvalid'⟩⟩ := y
  have hbits : bits.toBitVec = bits'.toBitVec := (unpack_inj_of_valid hvalid hvalid').mp h
  obtain rfl : bits = bits' := UInt64.toBitVec_inj.mp hbits
  rfl

theorem real_twentyFive : real 25 = 25 :=
  (real_of_natural (n := 25) (k := 48) rfl).trans Nat.cast_ofNat

/-- A positive number that is no more than five has no exponent that is too large. -/
theorem isFinite_capped {m : Nat} {e : Int} {hpos : 0 < m}
    (h : (capped (.finite .positive m e hpos)).le (5 : Float).toModel.unpack = true) :
    (capped (.finite .positive m e hpos)).isFinite = true := by
  unfold capped at h ⊢
  dsimp only at h ⊢
  split_ifs at h ⊢
  · rfl
  · cases h

/-- The root of a positive number is no NaN, and if it is no more than five, no infinity either. -/
theorem isFinite_sqrt {x : Float} {m : Nat} {e : Int} {hpos : 0 < m}
    (hx : x.toModel.unpack = .finite .positive m e hpos) (h : x.sqrt ≤ 5) :
    x.sqrt.isFinite = true := by
  have hfit : Fits m e := fits_of_unpack hx
  have hunpack : x.sqrt.toModel.unpack =
      (Float.Model.pack (UnpackedFloat.sqrt Format.binary64 x.toModel.unpack)).unpack := rfl
  obtain ⟨he, hlow, hhigh⟩ := sqrtCore_spec hfit hpos
  obtain ⟨rounded, -, heq⟩ := roundWithAccuracy_eq .positive _ _
    (sqrtCore Format.binary64 m e).2.2 he
  have hnear := roundWithAccuracy_near .positive (sqrtCore Format.binary64 m e).2.2 he hlow hhigh
  have hroot : UnpackedFloat.sqrt Format.binary64 x.toModel.unpack =
      carried .positive rounded (target (sqrtCore Format.binary64 m e).1
        (sqrtCore Format.binary64 m e).2.1) := by
    rw [hx]
    exact heq
  rw [heq] at hnear
  rw [hroot, unpack_pack hnear.canonical] at hunpack
  rw [le_iff_unpack_le, hunpack] at h
  change x.sqrt.toModel.unpack.isFinite = true
  rw [hunpack]
  unfold carried at h ⊢
  split_ifs at h ⊢
  · rfl
  · exact isFinite_capped h
  · exact isFinite_capped h

/-- A number whose root is no more than five is less than four doubles past twenty-five. -/
theorem real_lt_of_sqrt_le_five {x : Float} (hnonneg : 0 ≤ real x)
    (hfinite : x.sqrt.isFinite = true) (h : x.sqrt ≤ 5) :
    real x < (25 * 2 ^ 48 + 4 : Nat) * 2 ^ (-48 : ℤ) := by
  have hroot : real x.sqrt ≤ 5 := by
    rw [← real_five]
    exact (le_iff_real_le hfinite rfl).mp h
  have hclose := abs_le.mp (sqrt_close hfinite).2
  rw [abs_of_nonneg (Real.sqrt_nonneg _)] at hclose
  have hshare := share_pos
  have hshare' := share_le
  have hleast := least_le
  have hbound : √(real x) ≤ 5 + 6 * share := by nlinarith
  have hlimit : ((25 * 2 ^ 48 + 4 : Nat) : ℝ) * 2 ^ (-48 : ℤ) = 25 + 64 * share := by
    rw [share, zpow_neg, zpow_neg]
    norm_num
  rw [hlimit, ← Real.sq_sqrt hnonneg]
  nlinarith [Real.sqrt_nonneg (real x)]

/-- The three doubles that follow twenty-five. -/
theorem Fits.eq_of_between {m : Nat} {e : Int} (h : Fits m e) (hlow : 25 < (m * 2 ^ e : ℝ))
    (hhigh : (m * 2 ^ e : ℝ) < (25 * 2 ^ 48 + 4 : Nat) * 2 ^ (-48 : ℤ)) :
    e = -48 ∧ 25 * 2 ^ 48 < m ∧ m < 25 * 2 ^ 48 + 4 := by
  have hscale : (0 : ℝ) < 2 ^ (-48 : ℤ) := by positivity
  have hlow' : (25 * 2 ^ 48 : Nat) * 2 ^ (-48 : ℤ) < (m * 2 ^ e : ℝ) := by
    have hlimit : ((25 * 2 ^ 48 : Nat) : ℝ) * 2 ^ (-48 : ℤ) = 25 := by
      rw [zpow_neg]
      norm_num
    rwa [hlimit]
  obtain rfl : e = -48 := by
    by_contra hne
    rcases lt_or_gt_of_ne hne with hless | hmore
    · have hfit : Fits (25 * 2 ^ 48) (-48) := ⟨by decide, by decide, by decide⟩
      exact lt_asymm hlow' (h.lt_of_exponent_lt hfit hless)
    · have hfit : Fits (25 * 2 ^ 48 + 4) (-48) := ⟨by decide, by decide, by decide⟩
      exact lt_asymm hhigh (hfit.lt_of_exponent_lt h hmore)
  exact ⟨rfl, by exact_mod_cast lt_of_mul_lt_mul_right hlow' hscale.le,
    by exact_mod_cast lt_of_mul_lt_mul_right hhigh hscale.le⟩

/-- A root that is no more than five is so although its number is more than twenty-five, if that is
the next double. -/
theorem sqrt_le_five {x : Float} (h : x.sqrt ≤ 5) : x ≤ 25 ∨ x = pastTwentyFive := by
  by_cases hle : x ≤ 25
  · exact Or.inl hle
  have hunpack : x.sqrt.toModel.unpack =
      (Float.Model.pack (UnpackedFloat.sqrt Format.binary64 x.toModel.unpack)).unpack := rfl
  refine Or.inr ?_
  cases hx : x.toModel.unpack with
  | notANumber =>
    rw [hx] at hunpack
    rw [le_iff_unpack_le, hunpack] at h
    cases h
  | infinity s =>
    rw [hx] at hunpack
    rw [le_iff_unpack_le, hunpack] at h
    cases s <;> cases h
  | zero s =>
    rw [le_iff_unpack_le, hx] at hle
    exact absurd rfl hle
  | finite s m e hpos =>
    cases s with
    | negative =>
      rw [le_iff_unpack_le, hx] at hle
      exact absurd rfl hle
    | positive =>
      have hfit : Fits m e := fits_of_unpack hx
      have hreal : real x = m * 2 ^ e := real_of_unpack hx
      have hxfinite : x.isFinite = true := by
        change x.toModel.unpack.isFinite = true
        rw [hx]
        rfl
      rw [le_iff_real_le hxfinite rfl, real_twentyFive, not_le] at hle
      have hshort := real_lt_of_sqrt_le_five (by linarith) (isFinite_sqrt hx h) h
      rw [hreal] at hle hshort
      obtain ⟨rfl, hlow, hhigh⟩ := hfit.eq_of_between hle hshort
      -- Of these three doubles only the first has such a root.
      obtain rfl | rfl | rfl : m = 25 * 2 ^ 48 + 1 ∨ m = 25 * 2 ^ 48 + 2 ∨ m = 25 * 2 ^ 48 + 3 := by
        omega
      · exact eq_of_unpack hx
      · obtain rfl : x = 25.000000000000007 := eq_of_unpack hx
        exact absurd h (by decide +kernel)
      · obtain rfl : x = 25.00000000000001 := eq_of_unpack hx
        exact absurd h (by decide +kernel)

end SceneLogic.Number
