import Mathlib.Data.Int.Order.Basic
import Mathlib.Tactic.Linarith
import Mathlib.Tactic.NormNum
import Mathlib.Tactic.Ring

/-!
# Integers with fifty-three significant bits

A double has fifty-three bits for the digits of a number. An integer that has more of them, zeros at
its end apart, is none: the nearest one that is takes its place, and of two that are equally near
the one whose last digit is even.

* `IsDouble` — integers that are doubles
* `rounded` — the double that an integer is taken for
* `rounded_eq_self`, `rounded_nearest`, `rounded_mono` — it is the integer itself if that is one, no
  double is nearer, and the order of integers is kept
-/

namespace SceneLogic.Number

/-- The integer nearest to `n / 2 ^ k`, and of two such the even one. -/
def evenQuotient (n k : Nat) : Nat :=
  if 2 * (n % 2 ^ k) < 2 ^ k ∨ 2 * (n % 2 ^ k) = 2 ^ k ∧ n / 2 ^ k % 2 = 0 then n / 2 ^ k
  else n / 2 ^ k + 1

/-- The bits of a number that are too many for a double. -/
def excess (n : Nat) : Nat :=
  n.log2 - 52

/-- The natural number that a natural number is taken for. -/
def roundedNat (n : Nat) : Nat :=
  evenQuotient n (excess n) * 2 ^ excess n

/-- The double that an integer is taken for. -/
def rounded (n : Int) : Int :=
  n.sign * roundedNat n.natAbs

/-- The integer has no more than fifty-three significant bits. -/
def IsDouble (n : Int) : Prop :=
  ∃ m k : Nat, m < 2 ^ 53 ∧ n.natAbs = m * 2 ^ k

/-! ## Quotients -/

theorem evenQuotient_mul_two_pow (n k j : Nat) :
    evenQuotient (n * 2 ^ j) (k + j) = evenQuotient n k := by
  have hpos : 0 < 2 ^ j := Nat.two_pow_pos j
  have hmod : n * 2 ^ j % 2 ^ (k + j) = n % 2 ^ k * 2 ^ j := by
    rw [pow_add, Nat.mul_mod_mul_right]
  have hdiv : n * 2 ^ j / 2 ^ (k + j) = n / 2 ^ k := by
    rw [pow_add, Nat.mul_div_mul_right _ _ hpos]
  unfold evenQuotient
  rw [hmod, hdiv]
  simp only [pow_add, ← mul_assoc, Nat.mul_lt_mul_right hpos, Nat.mul_left_inj hpos.ne']

/-- What has enough zeros at its end is divided without a remainder. -/
theorem evenQuotient_of_dvd (n k : Nat) : evenQuotient (n * 2 ^ k) k = n := by
  have h := evenQuotient_mul_two_pow n 0 k
  rw [zero_add] at h
  rw [h]
  simp [evenQuotient, Nat.mod_one]

theorem evenQuotient_cases (n k : Nat) :
    (evenQuotient n k = n / 2 ^ k ∧ 2 * (n % 2 ^ k) ≤ 2 ^ k) ∨
      (evenQuotient n k = n / 2 ^ k + 1 ∧ 2 ^ k ≤ 2 * (n % 2 ^ k)) := by
  unfold evenQuotient
  split_ifs with h
  · exact Or.inl ⟨rfl, by omega⟩
  · exact Or.inr ⟨rfl, by omega⟩

/-- Of the two multiples next to a number the nearer one is the nearest of all. -/
theorem nearest_multiple {n p q r e : Int} (hsplit : n = q * p + r) (hr : 0 ≤ r) (hlt : r < p)
    (he : (e = q ∧ 2 * r ≤ p) ∨ (e = q + 1 ∧ p ≤ 2 * r)) (c : Int) :
    |e * p - n| ≤ |c * p - n| := by
  have hpos : 0 < p := hr.trans_lt hlt
  have hother : r ≤ |c * p - n| ∨ p - r ≤ |c * p - n| := by
    rcases le_or_gt c q with hle | hgt
    · have hstep : c * p ≤ q * p := Int.mul_le_mul_of_nonneg_right hle hpos.le
      left
      rw [abs_sub_comm]
      exact le_trans (by linarith) (le_abs_self _)
    · have hstep : (q + 1) * p ≤ c * p := Int.mul_le_mul_of_nonneg_right hgt hpos.le
      right
      exact le_trans (by linarith) (le_abs_self _)
  rcases he with ⟨rfl, hhalf⟩ | ⟨rfl, hhalf⟩
  · have hdist : |e * p - n| = r := by
      rw [hsplit, sub_add_cancel_left, abs_neg, abs_of_nonneg hr]
    omega
  · have hdist : |(q + 1) * p - n| = p - r := by
      rw [hsplit, abs_of_nonneg (by linarith)]
      ring
    omega

theorem evenQuotient_nearest (n k : Nat) (c : Int) :
    |(evenQuotient n k * 2 ^ k : Int) - n| ≤ |c * 2 ^ k - n| := by
  refine nearest_multiple (q := (n / 2 ^ k : Nat)) (r := (n % 2 ^ k : Nat)) ?_
    (Int.natCast_nonneg _) ?_ ?_ c
  · exact_mod_cast (Nat.div_add_mod' n (2 ^ k)).symm
  · exact_mod_cast Nat.mod_lt n (Nat.two_pow_pos k)
  · exact_mod_cast evenQuotient_cases n k

/-- The order of numbers is kept. -/
theorem evenQuotient_mono {n n' : Nat} (h : n ≤ n') (k : Nat) :
    evenQuotient n k ≤ evenQuotient n' k := by
  by_contra hlt
  -- In the wrong order, each of the two multiples would be the nearer one to the other number.
  have hn := evenQuotient_nearest n k (evenQuotient n' k)
  have hn' := evenQuotient_nearest n' k (evenQuotient n k)
  have hne : n ≠ n' := by
    rintro rfl
    exact hlt le_rfl
  have hmultiples : (evenQuotient n' k * 2 ^ k : Int) < evenQuotient n k * 2 ^ k := by
    exact_mod_cast Nat.mul_lt_mul_of_pos_right (not_le.mp hlt) (Nat.two_pow_pos k)
  simp only [Int.abs_eq_natAbs, Nat.cast_le] at hn hn'
  omega

/-! ## Natural numbers -/

theorem roundedNat_of_excess {n : Nat} (h : excess n = 0) : roundedNat n = n := by
  have heven := evenQuotient_of_dvd n 0
  rw [pow_zero, mul_one] at heven
  rw [roundedNat, h, heven, pow_zero, mul_one]

/-- A number has its first bit fifty-two places before the first one that is too many. -/
theorem two_pow_le_of_excess {n : Nat} (h : excess n ≠ 0) :
    2 ^ 52 * 2 ^ excess n ≤ n ∧ n < 2 ^ 53 * 2 ^ excess n := by
  unfold excess at h ⊢
  have hpos : n ≠ 0 := by
    rintro rfl
    exact h rfl
  rw [← pow_add, ← pow_add]
  exact ⟨(Nat.pow_le_pow_right two_pos (by omega)).trans (Nat.log2_self_le hpos),
    Nat.lt_log2_self.trans_le (Nat.pow_le_pow_right two_pos (by omega))⟩

/-- A double that is not less than the first bit of a number has zeros in place of those that are
too many. -/
theorem two_pow_dvd {d k : Nat} (h : IsDouble d) (hle : 2 ^ 52 * 2 ^ k ≤ d) : 2 ^ k ∣ d := by
  obtain ⟨m, j, hm, hd⟩ := h
  rw [Int.natAbs_natCast] at hd
  have hk : k ≤ j := by
    by_contra hlt
    have hpow : 2 * 2 ^ j ≤ 2 ^ k := by
      rw [← pow_succ']
      exact Nat.pow_le_pow_right two_pos (not_le.mp hlt)
    have hmul := Nat.mul_lt_mul_of_pos_right hm (Nat.two_pow_pos j)
    omega
  rw [hd]
  exact Dvd.dvd.mul_left (pow_dvd_pow 2 hk) m

theorem isDouble_two_pow_mul {m k : Nat} (h : m ≤ 2 ^ 53) : IsDouble (m * 2 ^ k : Nat) := by
  rcases h.lt_or_eq with hlt | rfl
  · exact ⟨m, k, hlt, Int.natAbs_natCast _⟩
  · refine ⟨2 ^ 52, k + 1, by decide, ?_⟩
    rw [Int.natAbs_natCast, pow_succ]
    ring

theorem isDouble_roundedNat (n : Nat) : IsDouble (roundedNat n) := by
  by_cases h : excess n = 0
  · rw [roundedNat_of_excess h]
    refine ⟨n, 0, ?_, by simp⟩
    rcases Nat.eq_zero_or_pos n with rfl | hpos
    · decide
    · exact (Nat.log2_lt hpos.ne').mp (by unfold excess at h; omega)
  · refine isDouble_two_pow_mul ?_
    have hlt : n / 2 ^ excess n < 2 ^ 53 :=
      (Nat.div_lt_iff_lt_mul (Nat.two_pow_pos _)).mpr (two_pow_le_of_excess h).2
    rcases evenQuotient_cases n (excess n) with ⟨heq, -⟩ | ⟨heq, -⟩ <;> omega

/-- No double is nearer to a natural number than the one that it is taken for. -/
theorem roundedNat_nearest (n : Nat) {d : Int} (hd : IsDouble d) :
    |(roundedNat n : Int) - n| ≤ |d - n| := by
  by_cases h : excess n = 0
  · rw [roundedNat_of_excess h, sub_self, abs_zero]
    exact abs_nonneg _
  have hcast : ((roundedNat n : Nat) : Int) = evenQuotient n (excess n) * 2 ^ excess n := by
    rw [roundedNat]
    push_cast
    rfl
  have hlow : (2 ^ 52 * 2 ^ excess n : Int) ≤ n := by exact_mod_cast (two_pow_le_of_excess h).1
  rw [hcast]
  by_cases hle : (2 ^ 52 * 2 ^ excess n : Int) ≤ d
  · obtain ⟨d, rfl⟩ := Int.eq_ofNat_of_zero_le (le_trans (by positivity) hle)
    obtain ⟨c, rfl⟩ := two_pow_dvd hd (by exact_mod_cast hle)
    have hnear := evenQuotient_nearest n (excess n) c
    rwa [mul_comm (c : Int)] at hnear
  · -- The power in between is a multiple, too.
    refine (evenQuotient_nearest n (excess n) (2 ^ 52)).trans ?_
    rw [abs_sub_comm, abs_of_nonneg (by linarith), abs_sub_comm]
    exact le_trans (by linarith) (le_abs_self _)

/-! ## Integers -/

theorem rounded_natCast (n : Nat) : rounded n = roundedNat n := by
  rcases Nat.eq_zero_or_pos n with rfl | hpos
  · rfl
  · rw [rounded, Int.sign_eq_one_of_pos (by exact_mod_cast hpos), one_mul, Int.natAbs_natCast]

theorem rounded_neg (n : Int) : rounded (-n) = -rounded n := by
  rw [rounded, Int.sign_neg, Int.natAbs_neg, neg_mul, rounded]

theorem IsDouble.neg {n : Int} (h : IsDouble n) : IsDouble (-n) := by
  obtain ⟨m, k, hm, hn⟩ := h
  exact ⟨m, k, hm, by rw [Int.natAbs_neg, hn]⟩

/-- What an integer is taken for is a double. -/
theorem isDouble_rounded (n : Int) : IsDouble (rounded n) := by
  obtain ⟨m, rfl | rfl⟩ := n.eq_nat_or_neg
  · rw [rounded_natCast]
    exact isDouble_roundedNat m
  · rw [rounded_neg, rounded_natCast]
    exact (isDouble_roundedNat m).neg

/-- No double is nearer to an integer than the one that it is taken for. -/
theorem rounded_nearest (n : Int) {d : Int} (hd : IsDouble d) : |rounded n - n| ≤ |d - n| := by
  obtain ⟨m, rfl | rfl⟩ := n.eq_nat_or_neg
  · rw [rounded_natCast]
    exact roundedNat_nearest m hd
  · have hnear := roundedNat_nearest m hd.neg
    have hleft : |-(roundedNat m : Int) - -m| = |(roundedNat m : Int) - m| := by
      rw [neg_sub_neg, abs_sub_comm]
    have hright : |-d - m| = |d - -m| := by
      rw [← abs_neg, neg_sub, sub_neg_eq_add, sub_neg_eq_add, add_comm]
    rwa [rounded_neg, rounded_natCast, hleft, ← hright]

/-- A double is taken for itself. -/
theorem rounded_eq_self {n : Int} (h : IsDouble n) : rounded n = n := by
  have hnear := rounded_nearest n h
  rw [sub_self, abs_zero] at hnear
  exact sub_eq_zero.mp (abs_nonpos_iff.mp hnear)

/-- The order of integers is kept. -/
theorem rounded_mono {m n : Int} (h : m ≤ n) : rounded m ≤ rounded n := by
  by_contra hlt
  -- In the wrong order, each of the two would be the nearer one to the other integer.
  have hm := rounded_nearest m (isDouble_rounded n)
  have hn := rounded_nearest n (isDouble_rounded m)
  have hne : m ≠ n := by
    rintro rfl
    exact hlt le_rfl
  simp only [Int.abs_eq_natAbs, Nat.cast_le] at hm hn
  omega

/-- No integer is taken for a double beyond another one that it does not pass. -/
theorem rounded_le {n d : Int} (hd : IsDouble d) (h : n ≤ d) : rounded n ≤ d :=
  (rounded_mono h).trans_eq (rounded_eq_self hd)

theorem le_rounded {n d : Int} (hd : IsDouble d) (h : d ≤ n) : d ≤ rounded n :=
  (rounded_eq_self hd).symm.trans_le (rounded_mono h)

theorem isDouble_of_natAbs_le {n : Int} (h : n.natAbs ≤ 2 ^ 53) : IsDouble n := by
  have hdouble := isDouble_two_pow_mul (k := 0) h
  rw [pow_zero, mul_one] at hdouble
  rcases n.natAbs_eq with heq | heq
  · exact heq ▸ hdouble
  · exact heq ▸ hdouble.neg

end SceneLogic.Number
