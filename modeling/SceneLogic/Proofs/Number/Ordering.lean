import Mathlib.Data.EReal.Basic
import SceneLogic.Proofs.Number.Comparing

/-!
# The order of doubles

Doubles that are no NaN stand for numbers or for one of two infinities, and they compare as these
do. So what holds of numbers and two infinities holds of doubles: they are totally ordered, but for
the NaNs.

* `extended` — what a double stands for
* `le_iff_extended_le`, `lt_iff_extended_lt` — doubles compare as what they stand for
-/

namespace SceneLogic.Number

open Float.Model Float.Model.UnpackedFloat

/-- What an unpacked double stands for; a NaN stands for nothing, which is written as zero. -/
noncomputable def extendedValue : UnpackedFloat → EReal
  | .infinity .positive => ⊤
  | .infinity .negative => ⊥
  | a => value a

variable {a b : UnpackedFloat}

theorem extendedValue_of_isFinite (h : a.isFinite = true) : extendedValue a = value a := by
  cases a with
  | infinity s => cases h
  | _ => rfl

theorem isFinite_or_infinity (h : a.isNaN = false) : a.isFinite = true ∨ ∃ s, a = .infinity s := by
  cases a with
  | notANumber => cases h
  | infinity s => exact .inr ⟨s, rfl⟩
  | _ => exact .inl rfl

/-! ## Infinities -/

theorem infinity_le_iff (ha : a.isNaN = false) (s : Sign) :
    UnpackedFloat.le (.infinity s) a = true ↔ extendedValue (.infinity s) ≤ extendedValue a := by
  cases s with
  | negative =>
    refine iff_of_true ?_ bot_le
    cases a with
    | notANumber => cases ha
    | infinity s' => cases s' <;> rfl
    | _ => rfl
  | positive =>
    rcases isFinite_or_infinity ha with hfinite | ⟨s', rfl⟩
    · rw [extendedValue_of_isFinite hfinite]
      refine iff_of_false ?_ (EReal.coe_lt_top _).not_ge
      cases a with
      | notANumber => cases ha
      | infinity s' => cases hfinite
      | _ => exact Bool.false_ne_true
    · cases s' with
      | negative => exact iff_of_false Bool.false_ne_true (bot_lt_top (α := EReal)).not_ge
      | positive => exact iff_of_true rfl le_rfl

theorem le_infinity_iff (ha : a.isFinite = true) (s : Sign) :
    UnpackedFloat.le a (.infinity s) = true ↔ extendedValue a ≤ extendedValue (.infinity s) := by
  rw [extendedValue_of_isFinite ha]
  cases s with
  | negative =>
    refine iff_of_false ?_ (EReal.bot_lt_coe _).not_ge
    cases a with
    | notANumber => cases ha
    | infinity s' => cases ha
    | zero s' => exact Bool.false_ne_true
    | finite s' m e hm => cases s' <;> exact Bool.false_ne_true
  | positive =>
    refine iff_of_true ?_ le_top
    cases a with
    | notANumber => cases ha
    | infinity s' => cases ha
    | zero s' => rfl
    | finite s' m e hm => cases s' <;> rfl

theorem unpack_le_iff (ha : Canonical a) (hb : Canonical b) (hna : a.isNaN = false)
    (hnb : b.isNaN = false) :
    UnpackedFloat.le a b = true ↔ extendedValue a ≤ extendedValue b := by
  rcases isFinite_or_infinity hna with hfa | ⟨s, rfl⟩
  · rcases isFinite_or_infinity hnb with hfb | ⟨s, rfl⟩
    · rw [extendedValue_of_isFinite hfa, extendedValue_of_isFinite hfb, EReal.coe_le_coe_iff,
        UnpackedFloat.le, compare_value ha hb hfa hfb]
      exact Ordering.ne_gt_iff_isLE.symm.trans compare_le_iff_le
    · exact le_infinity_iff hfa s
  · exact infinity_le_iff hnb s

/-! ## Doubles -/

/-- What a double stands for. -/
noncomputable def extended (x : Float) : EReal :=
  extendedValue x.toModel.unpack

variable {x y : Float}

theorem le_iff_extended_le (hx : x.isNaN = false) (hy : y.isNaN = false) :
    x ≤ y ↔ extended x ≤ extended y :=
  (le_iff_unpack_le x y).trans (unpack_le_iff (unpack_canonical _) (unpack_canonical _) hx hy)

theorem lt_iff_extended_lt (hx : x.isNaN = false) (hy : y.isNaN = false) :
    x < y ↔ extended x < extended y := by
  rw [← not_le, ← le_iff_extended_le hy hx, ← not_lt_iff_le hy hx, not_not]

theorem lt_le_trans {z : Float} (h : x < y) (h' : y ≤ z) : x < z := by
  obtain ⟨hx, hy⟩ := isNaN_of_lt h
  obtain ⟨-, hz⟩ := isNaN_of_le h'
  rw [lt_iff_extended_lt hx hy] at h
  rw [le_iff_extended_le hy hz] at h'
  exact (lt_iff_extended_lt hx hz).mpr (h.trans_le h')

theorem le_lt_trans {z : Float} (h : x ≤ y) (h' : y < z) : x < z := by
  obtain ⟨hx, hy⟩ := isNaN_of_le h
  obtain ⟨-, hz⟩ := isNaN_of_lt h'
  rw [le_iff_extended_le hx hy] at h
  rw [lt_iff_extended_lt hy hz] at h'
  exact (lt_iff_extended_lt hx hz).mpr (h.trans_lt h')

theorem not_gt_of_lt (h : x < y) : ¬ y < x := by
  obtain ⟨hx, hy⟩ := isNaN_of_lt h
  rw [lt_iff_extended_lt hx hy] at h
  rw [lt_iff_extended_lt hy hx]
  exact h.asymm

end SceneLogic.Number
