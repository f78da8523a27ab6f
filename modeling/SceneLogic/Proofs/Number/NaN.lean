import SceneLogic.Proofs.Number.Comparing
import SceneLogic.Proofs.Number.Integers
import SceneLogic.Proofs.Number.Numerals

/-!
# Texts that are read as a NaN

A text of digits stands for a number, and for the double that is worked out for it. However large or
small the number is, that is none that equals nothing: what is too large becomes infinite. So a NaN
is read from its name alone.

* `isNaN_nearest` — no decimal number becomes a NaN
* `namesNaN_iff` — which texts are read as a NaN
-/

namespace SceneLogic.Number

open Float.Model Float.Model.UnpackedFloat

/-! ## Decimal numbers -/

variable {u : UnpackedFloat} {x y : Float} {text : List Char}

theorem isNaN_of_near {r : ℝ} (h : Near u r) : (Float.Model.pack u).unpack.isNaN = false :=
  isNaN_unpack_pack h.canonical (isNaN_of_isFinite h.finite)

theorem isNaN_mul (hx : x.isFinite = true) (hy : y.isFinite = true) : (x * y).isNaN = false :=
  isNaN_of_near (mul_near (unpack_canonical x.toModel) (unpack_canonical y.toModel) hx hy)

theorem isNaN_div (hx : x.isFinite = true) (hy : y.isFinite = true) (hnonzero : real y ≠ 0) :
    (x / y).isNaN = false :=
  isNaN_of_near (div_near (a := x.toModel.unpack) hx hy hnonzero)

/-- A number with one bit more than a double is rounded. -/
theorem le_target {mantissa : Nat} (exponent : Int) (h : 2 ^ 53 ≤ mantissa) :
    exponent ≤ target mantissa exponent := by
  have hlog := (Nat.le_log2 (by omega)).mpr h
  rw [target]
  omega

/-- A decimal number is worked out from two numbers, or it is zero or infinite. -/
theorem isNaN_unpack_ofScientific (n : Nat) (e : Int) :
    (Float.Model.ofScientific n e).unpack.isNaN = false := by
  change (Float.Model.pack (UnpackedFloat.ofScientific Format.binary64 n e)).unpack.isNaN = false
  unfold UnpackedFloat.ofScientific
  split_ifs with hzero
  · rfl
  · rfl
  · rfl
  · have hbits : 2 ^ 53 ≤ n <<< 53 * 10 ^ e.toNat := by
      rw [Nat.shiftLeft_eq, mul_assoc, mul_comm (2 ^ 53), ← mul_assoc]
      exact Nat.le_mul_of_pos_left _ (by positivity)
    exact isNaN_of_near
      (roundWithAccuracy_exact_near .positive (le_target (-(53 : Nat) + 0) hbits))
  · exact isNaN_of_near (div_near rfl rfl (by
      rw [value_finite]
      exact (mul_pos (by positivity) (by positivity)).ne'))

/-- The powers of ten that are kept for small numbers are positive numbers. -/
theorem power_positive : ∀ k : Fin 23, Float.exactlyRepresentablePowersOfTen[k].isFinite = true ∧
    ¬ Float.exactlyRepresentablePowersOfTen[k] ≤ 0 := by
  decide +kernel

theorem isNaN_ofScientific (n : Nat) (negative : Bool) (k : Nat) :
    (Float.ofScientific n negative k).isNaN = false := by
  by_cases hsmall : n < 2 ^ 53 ∧ k ≤ 22
  · have hk : k < Float.exactlyRepresentablePowersOfTen.size := Nat.lt_succ_of_le hsmall.2
    obtain ⟨hfinite, hpositive⟩ := power_positive ⟨k, hk⟩
    have hnonzero : real Float.exactlyRepresentablePowersOfTen[k] ≠ 0 := fun hzero =>
      hpositive ((le_iff_real_le hfinite rfl).mpr hzero.le)
    have hdigits := (whole_toFloat n.toUInt64).finite
    unfold Float.ofScientific
    rw [dif_pos hsmall]
    split_ifs
    · exact isNaN_div hdigits hfinite hnonzero
    · exact isNaN_mul hdigits hfinite
  · unfold Float.ofScientific
    rw [dif_neg hsmall]
    exact isNaN_unpack_ofScientific _ _

theorem isNaN_nearest (digits : Nat) (exponent : Int) :
    (nearest digits exponent).isNaN = false := by
  unfold nearest
  dsimp only
  split_ifs
  · rfl
  · rfl
  · exact isNaN_ofScientific _ _ _
  · exact isNaN_ofScientific _ _ _

/-! ## Names -/

/-- The text is a name of NaN, with a sign or without. -/
def namesNaN (s : String) : Bool :=
  (splitSign s.toList).2.map Char.toLower == ['n', 'a', 'n']

theorem isNaN_neg (x : Float) : (-x).isNaN = x.isNaN := by
  change (-x).toModel.unpack.isNaN = x.toModel.unpack.isNaN
  rw [unpack_neg]
  cases x.toModel.unpack <;> rfl

theorem isNaN_of_readUnsigned? (h : readUnsigned? text = some x) :
    x.isNaN = (text.map Char.toLower == ['n', 'a', 'n']) := by
  unfold readUnsigned? at h
  dsimp only at h
  split_ifs at h with hinf hnan hnone
  · obtain rfl := Option.some.inj h
    rcases hinf with hinf | hinf <;> rw [hinf] <;> rfl
  · obtain rfl := Option.some.inj h
    rw [hnan]
    rfl
  · obtain ⟨e, -, rfl⟩ := Option.map_eq_some_iff.mp h
    rw [isNaN_nearest, beq_eq_false_iff_ne.mpr hnan]

/-- A NaN is read from its names alone. -/
theorem isNaN_of_read? {s : String} (h : read? s = some x) : x.isNaN = namesNaN s := by
  rw [read?_eq] at h
  obtain ⟨y, hy, rfl⟩ := Option.map_eq_some_iff.mp h
  rw [namesNaN, ← isNaN_of_readUnsigned? hy]
  split_ifs
  · exact isNaN_neg y
  · rfl

/-- A text is read as a NaN if it is a name of it. -/
theorem namesNaN_iff {s : String} : namesNaN s = true ↔ ∃ x, read? s = some x ∧ x.isNaN = true := by
  refine ⟨fun h => ?_, ?_⟩
  · have hword := beq_iff_eq.mp h
    have hunsigned : readUnsigned? (splitSign s.toList).2 = some (0 / 0) := by
      unfold readUnsigned?
      rw [hword]
      rfl
    have hread : read? s = some (if (splitSign s.toList).1 then -(0 / 0) else 0 / 0) := by
      rw [read?_eq, hunsigned]
      rfl
    exact ⟨_, hread, (isNaN_of_read? hread).trans h⟩
  · rintro ⟨x, hread, hnan⟩
    rw [← isNaN_of_read? hread]
    exact hnan

end SceneLogic.Number
