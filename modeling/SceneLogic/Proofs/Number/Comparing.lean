import SceneLogic.Point
import SceneLogic.Proofs.Number.Rounding

/-!
# Comparisons that leave nothing out

Of two doubles that are numbers or infinite, one is less than the other or they are equal. What is
no number compares with nothing, so wherever a program asks whether a distance is beyond a bound it
matters that the distance is none of these.

* `not_lt_iff_le` — comparisons of doubles that are no NaN
* `Point.isNaN_distanceSq` — the distance of places that are given by numbers is comparable
-/

open Float.Model Float.Model.UnpackedFloat

namespace SceneLogic.Number

/-! ## Comparing -/

theorem compare_swap {a b : UnpackedFloat} (ha : a.isNaN = false) (hb : b.isNaN = false) :
    ∃ o, a.compare b = some o ∧ b.compare a = some o.swap := by
  cases a with
  | notANumber => cases ha
  | infinity s =>
    cases b with
    | notANumber => cases hb
    | infinity s' => cases s <;> cases s' <;> exact ⟨_, rfl, rfl⟩
    | zero s' => cases s <;> exact ⟨_, rfl, rfl⟩
    | finite s' m' e' hm' => cases s <;> cases s' <;> exact ⟨_, rfl, rfl⟩
  | zero s =>
    cases b with
    | notANumber => cases hb
    | infinity s' => cases s' <;> exact ⟨_, rfl, rfl⟩
    | zero s' => exact ⟨_, rfl, rfl⟩
    | finite s' m' e' hm' => cases s' <;> exact ⟨_, rfl, rfl⟩
  | finite s m e hm =>
    cases b with
    | notANumber => cases hb
    | infinity s' => cases s <;> cases s' <;> exact ⟨_, rfl, rfl⟩
    | zero s' => cases s <;> exact ⟨_, rfl, rfl⟩
    | finite s' m' e' hm' =>
      have hswap : (compare e' e).then (compare m' m) =
          ((compare e e').then (compare m m')).swap := by
        rw [Ordering.swap_then, Int.compare_swap, Nat.compare_swap]
      cases s with
      | negative =>
        cases s' with
        | negative => exact ⟨_, rfl, congrArg (fun o : Ordering => some o.swap) hswap⟩
        | positive => exact ⟨_, rfl, rfl⟩
      | positive =>
        cases s' with
        | negative => exact ⟨_, rfl, rfl⟩
        | positive => exact ⟨_, rfl, congrArg some hswap⟩

variable {x y : Float}

theorem lt_iff_unpack_lt (x y : Float) :
    x < y ↔ UnpackedFloat.lt x.toModel.unpack y.toModel.unpack = true :=
  ⟨of_decide_eq_true, decide_eq_true⟩

/-- Doubles that are no NaN are ordered. -/
theorem not_lt_iff_le (hx : x.isNaN = false) (hy : y.isNaN = false) : ¬ y < x ↔ x ≤ y := by
  obtain ⟨o, hxy, hyx⟩ := compare_swap (a := x.toModel.unpack) (b := y.toModel.unpack) hx hy
  rw [lt_iff_unpack_lt, le_iff_unpack_le, UnpackedFloat.lt, UnpackedFloat.le, hxy, hyx]
  cases o <;> decide

theorem unpack_of_isNaN (h : x.isNaN = true) : x.toModel.unpack = .notANumber := by
  have hnan : x.toModel.unpack.isNaN = true := h
  cases hu : x.toModel.unpack with
  | notANumber => rfl
  | _ =>
    rw [hu] at hnan
    cases hnan

/-- What is less than something is no NaN, and neither is that. -/
theorem isNaN_of_lt (h : x < y) : x.isNaN = false ∧ y.isNaN = false := by
  rw [lt_iff_unpack_lt, UnpackedFloat.lt] at h
  refine ⟨Bool.eq_false_of_not_eq_true fun hnan => ?_, Bool.eq_false_of_not_eq_true fun hnan => ?_⟩
  · rw [unpack_of_isNaN hnan] at h
    cases h
  · rw [unpack_of_isNaN hnan] at h
    cases hu : x.toModel.unpack <;> rw [hu] at h <;> cases h

theorem isNaN_of_le (h : x ≤ y) : x.isNaN = false ∧ y.isNaN = false := by
  rw [le_iff_unpack_le, UnpackedFloat.le] at h
  refine ⟨Bool.eq_false_of_not_eq_true fun hnan => ?_, Bool.eq_false_of_not_eq_true fun hnan => ?_⟩
  · rw [unpack_of_isNaN hnan] at h
    cases h
  · rw [unpack_of_isNaN hnan] at h
    cases hu : x.toModel.unpack <;> rw [hu] at h <;> cases h

/-- Whatever is compared with a NaN is not less. -/
theorem not_lt_of_isNaN (hy : y.isNaN = true) : ¬ x < y := fun hlt => by
  cases hy.symm.trans (isNaN_of_lt hlt).2

/-- The larger of a double and zero is the double where that is more than zero. -/
theorem maximum_zero (x : Float) : maximum x 0 = if x > 0 then x else 0 := by
  unfold maximum
  cases hx : x.isNaN with
  | true => rw [Bool.true_or, if_pos rfl, if_neg (not_lt_of_isNaN hx)]
  | false =>
    have hiff : ¬ 0 < x ↔ x ≤ 0 := not_lt_iff_le hx rfl
    by_cases hpos : 0 < x
    · simp [hpos, mt hiff.mpr (not_not_intro hpos)]
    · simp [hpos, hiff.mp hpos]

/-! ## Squares and their sums -/

/-- A number or an infinity that is not negative. -/
def Nonnegative : UnpackedFloat → Prop
  | .notANumber => False
  | .infinity s => s = .positive
  | .zero _ => True
  | .finite s _ _ _ => s = .positive

/-- A number or an infinity that has no minus sign, not even before a zero. -/
def Unsigned : UnpackedFloat → Prop
  | .notANumber => False
  | .infinity s => s = .positive
  | .zero s => s = .positive
  | .finite s _ _ _ => s = .positive

variable {a b : UnpackedFloat}

theorem Unsigned.cases (h : Unsigned a) : a = .zero .positive ∨ a = .infinity .positive ∨
    ∃ mantissa exponent hm, a = .finite .positive mantissa exponent hm := by
  cases a with
  | notANumber => cases h
  | zero s => exact Or.inl (congrArg UnpackedFloat.zero h)
  | infinity s => exact Or.inr (Or.inl (congrArg UnpackedFloat.infinity h))
  | finite s m e hm =>
    obtain rfl : s = .positive := h
    exact Or.inr (Or.inr ⟨m, e, hm, rfl⟩)

theorem Unsigned.nonnegative (h : Unsigned a) : Nonnegative a := by
  cases a with
  | zero s => trivial
  | _ => exact h

theorem Unsigned.isNaN (h : Unsigned a) : a.isNaN = false := by
  cases a with
  | notANumber => cases h
  | _ => rfl

theorem isNaN_unpack_pack (ha : Canonical a) (h : a.isNaN = false) :
    (Float.Model.pack a).unpack.isNaN = false := by
  rw [unpack_pack ha]
  cases a with
  | notANumber => cases h
  | finite s m e hm =>
    unfold capped
    dsimp only
    split_ifs <;> rfl
  | _ => rfl

theorem Unsigned.unpack_pack (h : Unsigned a) (ha : Canonical a) :
    Unsigned (Float.Model.pack a).unpack := by
  rw [Number.unpack_pack ha]
  cases a with
  | finite s m e hm =>
    unfold capped
    dsimp only
    split_ifs <;> exact h
  | _ => exact h

theorem isNaN_of_isFinite (h : a.isFinite = true) : a.isNaN = false := by
  cases a with
  | notANumber => cases h
  | _ => rfl

theorem unsigned_carried (mantissa : Nat) (exponent : Int) :
    Unsigned (carried .positive mantissa exponent) := by
  unfold carried
  split_ifs <;> rfl

/-- A square has no minus sign. -/
theorem unsigned_mul_self (ha : Canonical a) (h : a.isNaN = false) :
    Unsigned (UnpackedFloat.mul Format.binary64 a a) ∧
      Canonical (UnpackedFloat.mul Format.binary64 a a) := by
  cases a with
  | notANumber => cases h
  | infinity s => cases s <;> exact ⟨rfl, trivial⟩
  | zero s => cases s <;> exact ⟨rfl, trivial⟩
  | finite s m e hm =>
    refine ⟨?_, (mul_near ha ha rfl rfl).canonical⟩
    have hsign : s * s = .positive := by cases s <;> rfl
    obtain ⟨rounded, -, heq⟩ :=
      roundWithAccuracy_eq .positive (m * m) (e + e) .exact (le_target_mul ha ha hm hm)
    change Unsigned (roundWithAccuracy Format.binary64 (s * s) (m * m) (e + e) .exact)
    rw [hsign, heq]
    exact unsigned_carried _ _

/-- A sum of what is not negative is a number or infinite. -/
theorem isNaN_add (ha : Canonical a) (hb : Canonical b) (hna : Nonnegative a)
    (hnb : Nonnegative b) : (UnpackedFloat.add Format.binary64 a b).isNaN = false ∧
      Canonical (UnpackedFloat.add Format.binary64 a b) := by
  by_cases hfinite : a.isFinite = true ∧ b.isFinite = true
  · have hnear := add_near ha hb hfinite.1 hfinite.2
    exact ⟨isNaN_of_isFinite hnear.finite, hnear.canonical⟩
  · cases a with
    | notANumber => cases hna
    | infinity s =>
      cases b with
      | notANumber => cases hnb
      | infinity s' =>
        obtain rfl : s = .positive := hna
        obtain rfl : s' = .positive := hnb
        exact ⟨rfl, trivial⟩
      | _ => exact ⟨rfl, trivial⟩
    | _ =>
      cases b with
      | notANumber => cases hnb
      | infinity s' => exact ⟨rfl, trivial⟩
      | _ => exact absurd ⟨rfl, rfl⟩ hfinite

/-- A double that is no NaN has a square. -/
theorem unsigned_square (hx : x.isNaN = false) : Unsigned (x * x).toModel.unpack := by
  obtain ⟨hunsigned, hcanonical⟩ := unsigned_mul_self (unpack_canonical x.toModel) hx
  exact hunsigned.unpack_pack hcanonical

theorem isNaN_mul_self (hx : x.isNaN = false) : (x * x).isNaN = false :=
  (unsigned_square hx).isNaN

theorem isNaN_sub (hx : x.isFinite = true) (hy : y.isFinite = true) : (x - y).isNaN = false := by
  have hnear := sub_near (unpack_canonical x.toModel) (unpack_canonical y.toModel) hx hy
  exact isNaN_unpack_pack hnear.canonical (isNaN_of_isFinite hnear.finite)

theorem isNaN_add_squares (hx : x.isNaN = false) (hy : y.isNaN = false) :
    (x * x + y * y).isNaN = false := by
  obtain ⟨hnumber, hsum⟩ := isNaN_add (unpack_canonical _) (unpack_canonical _)
    (unsigned_square hx).nonnegative (unsigned_square hy).nonnegative
  exact isNaN_unpack_pack hsum hnumber

end SceneLogic.Number

namespace SceneLogic.Point

/-- The distance of places that are given by numbers is comparable. -/
theorem isNaN_distanceSq {p q : Point} (hp : p.x.isFinite = true ∧ p.y.isFinite = true)
    (hq : q.x.isFinite = true ∧ q.y.isFinite = true) : (p.distanceSq q).isNaN = false :=
  Number.isNaN_add_squares (Number.isNaN_sub hp.1 hq.1) (Number.isNaN_sub hp.2 hq.2)

end SceneLogic.Point
