import SceneLogic.Modifier
import SceneLogic.Proofs.Number.Integers
import SceneLogic.Value.Decidable

/-!
# Arithmetic on integers

Two integers that a modifier combines stay an integer, but what they become is worked out in
doubles: each of them is taken for a double, and so is the result, before it is brought into the
range of 64 bits. Whether that shows depends on how many significant bits the three have. Up to
`2 ^ 53` it never does.

A sum or a difference that does not fit into 64 bits becomes the bound next to it, however its
operands are rounded. Close to the bound all three roundings may take something away, and still what
is left reaches it. For products this is not so.

* `toInt_clamp` — what does not fit becomes the nearest integer that does
* `bound_le_rounded_add` — sums beyond the bound stay there
* `integers_combine_rounded` — what two integers become, and when that is exact
-/

namespace SceneLogic

namespace Number

/-- The integer has 64 bits. -/
def FitsInt64 (n : Int) : Prop :=
  -2 ^ 63 ≤ n ∧ n < 2 ^ 63

/-- Of the integers with 64 bits, the nearest one is taken. -/
theorem toInt_clamp (n : Int) : (clamp n).toInt = max (-2 ^ 63) (min n (2 ^ 63 - 1)) := by
  have hlow : Int64.minValue.toInt = -2 ^ 63 := rfl
  have hhigh : Int64.maxValue.toInt = 2 ^ 63 - 1 := rfl
  unfold clamp
  rw [hlow, hhigh]
  split_ifs
  · rw [hlow]
    omega
  · rw [hhigh]
    omega
  · rw [Int64.toInt_ofInt_of_le (by omega) (by omega)]
    omega

theorem clamp_eq_clamp {m n : Int}
    (h : max (-2 ^ 63) (min m (2 ^ 63 - 1)) = max (-2 ^ 63) (min n (2 ^ 63 - 1))) :
    clamp m = clamp n :=
  Int64.toInt_inj.mp ((toInt_clamp m).trans (h.trans (toInt_clamp n).symm))

/-! ## Sums beyond the bound -/

/-- Doubles just below `2 ^ 63` are the multiples of `2 ^ 10`, and the nearest of these is taken. -/
theorem rounded_below_bound {n : Int} (hlow : 2 ^ 62 ≤ n) (hhigh : n ≤ 2 ^ 63) :
    ∃ q : Int, rounded n = 1024 * q ∧ 2 ^ 52 ≤ q ∧ q ≤ 2 ^ 53 ∧ n - rounded n ≤ 512 := by
  have hbelow := le_rounded (isDouble_two_pow 62) hlow
  have habove := rounded_le (isDouble_two_pow 63) hhigh
  have hmultiple : ∃ q : Nat, rounded n = 1024 * q := by
    obtain ⟨r, hr⟩ := Int.eq_ofNat_of_zero_le (le_trans (by decide) hbelow)
    have hdouble : IsDouble r := hr ▸ isDouble_rounded n
    obtain ⟨q, hq⟩ := two_pow_dvd (k := 10) hdouble (by omega)
    exact ⟨q, by rw [hr, hq]; norm_num⟩
  have hnear : n - rounded n ≤ 512 := by
    have hdouble : IsDouble (((n.toNat + 512) / 1024 * 2 ^ 10 : Nat) : Int) :=
      isDouble_two_pow_mul (by omega)
    have hle := rounded_nearest n hdouble
    simp only [Int.abs_eq_natAbs, Nat.cast_le] at hle
    omega
  obtain ⟨q, hq⟩ := hmultiple
  exact ⟨q, hq, by omega, by omega, hnear⟩

/-- A sum that is beyond the bound is so after all roundings. -/
theorem bound_le_rounded_add {k l : Int} (hk : k ≤ 2 ^ 63) (hl : l ≤ 2 ^ 63)
    (h : 2 ^ 63 ≤ k + l) : 2 ^ 63 ≤ rounded (rounded k + rounded l) := by
  wlog hle : l ≤ k generalizing k l
  · rw [add_comm]
    exact this hl hk (by omega) (by omega)
  obtain ⟨q, hq, hlow, hhigh, hnear⟩ := rounded_below_bound (n := k) (by omega) hk
  -- What the first summand leaves up to the last midpoint before the bound is a double, and the
  -- second is not less.
  have hdouble : IsDouble (2 ^ 63 - 512 - rounded k) := by
    refine ⟨(2 ^ 54 - 1 - 2 * q).natAbs, 9, by omega, ?_⟩
    rw [hq]
    omega
  have hrest : 2 ^ 63 - 512 - rounded k ≤ rounded l := le_rounded hdouble (by omega)
  calc (2 ^ 63 : Int) = rounded (2 ^ 63 - 512) := by decide
    _ ≤ rounded (rounded k + rounded l) := rounded_mono (by omega)

theorem clamp_rounded_add {k l : Int} (hk : |k| ≤ 2 ^ 63) (hl : |l| ≤ 2 ^ 63)
    (h : ¬ FitsInt64 (k + l)) : clamp (rounded (rounded k + rounded l)) = clamp (k + l) := by
  obtain ⟨hklow, hkhigh⟩ := abs_le.mp hk
  obtain ⟨hllow, hlhigh⟩ := abs_le.mp hl
  apply clamp_eq_clamp
  rcases not_and_or.mp h with hlow | hhigh
  · have hneg := bound_le_rounded_add (k := -k) (l := -l) (by omega) (by omega) (by omega)
    rw [rounded_neg, rounded_neg, ← neg_add, rounded_neg] at hneg
    omega
  · have hpos := bound_le_rounded_add hkhigh hlhigh (not_lt.mp hhigh)
    omega

/-- What is rounded to a double of its own stays where it was to the bounds. -/
theorem clamp_rounded {n : Int} (h : IsDouble n ∨ ¬ FitsInt64 n) : clamp (rounded n) = clamp n := by
  rcases h with hdouble | hbeyond
  · rw [rounded_eq_self hdouble]
  · apply clamp_eq_clamp
    rcases not_and_or.mp hbeyond with hlow | hhigh
    · have hle := rounded_le (isDouble_two_pow 63).neg (not_le.mp hlow).le
      omega
    · have hle := le_rounded (isDouble_two_pow 63) (not_lt.mp hhigh)
      omega

end Number

open Number

/-- The operation on integers that a modifier carries out. To set a value takes none, and a quotient
is no integer. -/
def Modifier.onIntegers? : Modifier → Option (Int → Int → Int)
  | .set => none
  | .add => some (· + ·)
  | .sub => some (· - ·)
  | .mul => some (· * ·)
  | .div => none
  | .min => some Min.min
  | .max => some Max.max

variable {m : Modifier} {f : Int → Int → Int}

/-- On doubles that are integers, a modifier gives the double that the exact result is taken for. -/
theorem whole_apply (h : m.onIntegers? = some f) {x y : Float} {k l : Int} (hx : Whole x k)
    (hy : Whole y l) (hk : |k| ≤ 2 ^ 63) (hl : |l| ≤ 2 ^ 63) :
    Whole (m.apply x y) (rounded (f k l)) := by
  obtain ⟨hklow, hkhigh⟩ := abs_le.mp hk
  obtain ⟨hllow, hlhigh⟩ := abs_le.mp hl
  cases m with
  | set => cases h
  | div => cases h
  | add =>
    cases h
    exact hx.add hy (abs_le.mpr ⟨by omega, by omega⟩)
  | sub =>
    cases h
    exact hx.sub hy (abs_le.mpr ⟨by omega, by omega⟩)
  | mul =>
    cases h
    refine hx.mul hy ?_
    calc |k * l| = |k| * |l| := abs_mul k l
      _ ≤ 2 ^ 63 * 2 ^ 63 := by gcongr
      _ ≤ 2 ^ 128 := by decide
  | min =>
    cases h
    have hdouble : IsDouble (min k l) := by
      rcases min_choice k l with heq | heq
      · rw [heq]
        exact hx.isDouble
      · rw [heq]
        exact hy.isDouble
    rw [rounded_eq_self hdouble]
    exact hx.minimum hy
  | max =>
    cases h
    have hdouble : IsDouble (max k l) := by
      rcases max_choice k l with heq | heq
      · rw [heq]
        exact hx.isDouble
      · rw [heq]
        exact hy.isDouble
    rw [rounded_eq_self hdouble]
    exact hx.maximum hy

theorem applyValue_int (h : m.onIntegers? = some f) (a b : Int64) :
    m.applyValue (.int a) (.int b) = .int (saturate (m.apply (ofInt64 a) (ofInt64 b))) := by
  cases m with
  | set => cases h
  | div => cases h
  | _ => rfl

theorem abs_rounded_toInt_le (i : Int64) : |rounded i.toInt| ≤ 2 ^ 63 := by
  have hlow := i.le_toInt
  have hhigh := i.toInt_lt
  exact abs_rounded_le (abs_le.mpr ⟨by omega, by omega⟩)

theorem applyValue_int_eq_clamp (h : m.onIntegers? = some f) (a b : Int64) :
    m.applyValue (.int a) (.int b) =
      .int (clamp (rounded (f (rounded a.toInt) (rounded b.toInt)))) := by
  have hwhole := whole_apply h (whole_ofInt64 a) (whole_ofInt64 b) (abs_rounded_toInt_le a)
    (abs_rounded_toInt_le b)
  rw [applyValue_int h, hwhole.saturate]

/-- Other than a product, what two integers become is the bound where the exact result is beyond. -/
theorem clamp_rounded_of_beyond (h : m.onIntegers? = some f) (hmul : m ≠ .mul) {a b : Int64}
    (hbeyond : ¬ FitsInt64 (f a.toInt b.toInt)) :
    clamp (rounded (f (rounded a.toInt) (rounded b.toInt))) = clamp (f a.toInt b.toInt) := by
  have halow := a.le_toInt
  have hahigh := a.toInt_lt
  have hblow := b.le_toInt
  have hbhigh := b.toInt_lt
  have ha : |a.toInt| ≤ 2 ^ 63 := abs_le.mpr ⟨by omega, by omega⟩
  have hb : |b.toInt| ≤ 2 ^ 63 := abs_le.mpr ⟨by omega, by omega⟩
  cases m with
  | set => cases h
  | div => cases h
  | mul => exact absurd rfl hmul
  | add =>
    cases h
    exact clamp_rounded_add ha hb hbeyond
  | sub =>
    cases h
    have hsum : ¬ FitsInt64 (a.toInt + -b.toInt) := hbeyond
    have hadd := clamp_rounded_add ha ((abs_neg _).trans_le hb) hsum
    rwa [rounded_neg] at hadd
  | min =>
    cases h
    refine absurd ?_ hbeyond
    constructor <;> omega
  | max =>
    cases h
    refine absurd ?_ hbeyond
    constructor <;> omega

/-- What two integers become. Each of them and the result are taken for doubles. That is exact where
all three are doubles, and it is the nearest bound where the result does not fit, if both operands
are doubles or it is no product. -/
theorem integers_combine_rounded (h : m.onIntegers? = some f) (a b : Int64) :
    m.applyValue (.int a) (.int b) =
        .int (clamp (rounded (f (rounded a.toInt) (rounded b.toInt)))) ∧
      (IsDouble a.toInt → IsDouble b.toInt →
        IsDouble (f a.toInt b.toInt) ∨ ¬ FitsInt64 (f a.toInt b.toInt) →
        m.applyValue (.int a) (.int b) = .int (clamp (f a.toInt b.toInt))) ∧
      (m ≠ .mul → ¬ FitsInt64 (f a.toInt b.toInt) →
        m.applyValue (.int a) (.int b) = .int (clamp (f a.toInt b.toInt))) := by
  rw [applyValue_int_eq_clamp h]
  refine ⟨rfl, fun ha hb hresult => ?_, fun hmul hbeyond => ?_⟩
  · rw [rounded_eq_self ha, rounded_eq_self hb, clamp_rounded hresult]
  · rw [clamp_rounded_of_beyond h hmul hbeyond]

/-- Small integers are added exactly, and beyond the bound the bound is left. -/
theorem coins_add_up : Modifier.add.applyValue (.int 40) (.int 2) = .int 42 ∧
    Modifier.add.applyValue (.int Int64.maxValue) (.int 1) = .int Int64.maxValue := by
  have hdouble : ∀ n : Int, n.natAbs ≤ 42 → IsDouble n := fun n hn =>
    isDouble_of_natAbs_le (by omega)
  constructor
  · exact (integers_combine_rounded (m := .add) rfl 40 2).2.1 (hdouble _ (by decide))
      (hdouble _ (by decide)) (Or.inl (hdouble _ (by decide)))
  · exact (integers_combine_rounded (m := .add) rfl Int64.maxValue 1).2.2 (by decide)
      (fun h => absurd h.2 (by decide))

/-- A result that fits need not be exact: the last digit of a sum may be lost. -/
theorem not_always_exact : ¬ ∀ (m : Modifier) (f : Int → Int → Int) (a b : Int64),
    m.onIntegers? = some f → m.applyValue (.int a) (.int b) = .int (clamp (f a.toInt b.toInt)) := by
  intro h
  have hsum := h .add _ 9007199254740992 1 rfl
  exact absurd hsum (by decide +kernel)

end SceneLogic
