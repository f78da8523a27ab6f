import SceneLogic.Proofs.Number.Comparing
import SceneLogic.Proofs.Number.Squares

/-!
# Equal doubles

Equality of doubles is nearly that of the logic. A NaN equals nothing, not even itself, and the two
zeros are equal although they are written differently. Everything else equals itself alone.

* `equal_iff` — which doubles are equal
* `equal_comm`, `equal_trans` — equality is symmetric and transitive
* `sub_abs_swap`, `equal_sub` — distances between doubles
-/

open Float.Model Float.Model.UnpackedFloat

namespace SceneLogic.Number

theorem compare_eq_iff {a b : UnpackedFloat} : a.compare b = some .eq ↔
    (a = b ∧ a.isNaN = false) ∨ ((∃ s, a = .zero s) ∧ ∃ s, b = .zero s) := by
  cases a with
  | notANumber => simp [UnpackedFloat.compare, UnpackedFloat.isNaN]
  | infinity s =>
    cases b with
    | infinity s' =>
      cases s <;> cases s' <;> simp [UnpackedFloat.compare, UnpackedFloat.isNaN] <;> decide
    | _ => cases s <;> simp [UnpackedFloat.compare]
  | zero s =>
    cases b with
    | infinity s' => cases s' <;> simp [UnpackedFloat.compare]
    | finite s' m' e' hm' => cases s' <;> simp [UnpackedFloat.compare]
    | _ => simp [UnpackedFloat.compare]
  | finite s m e hm =>
    cases b with
    | infinity s' => cases s <;> cases s' <;> simp [UnpackedFloat.compare]
    | finite s' m' e' hm' =>
      cases s <;> cases s' <;>
        simp [UnpackedFloat.compare, UnpackedFloat.isNaN, Ordering.then_eq_eq, and_comm]
    | _ => cases s <;> simp [UnpackedFloat.compare]

variable {x y z : Float}

/-- Doubles are equal if they are one double that is no NaN, or both zeros. -/
theorem equal_iff : (x == y) = true ↔ (x = y ∧ x.isNaN = false) ∨ (IsZero x ∧ IsZero y) := by
  change (x.toModel.unpack.compare y.toModel.unpack == some .eq) = true ↔ _
  rw [beq_iff_eq, compare_eq_iff]
  have hunpack : x.toModel.unpack = y.toModel.unpack ↔ x = y :=
    ⟨eq_of_unpack, fun h => h ▸ rfl⟩
  rw [hunpack]
  rfl

theorem IsZero.isNaN (h : IsZero x) : x.isNaN = false := by
  obtain ⟨s, hs⟩ := h
  change x.toModel.unpack.isNaN = false
  rw [hs]
  rfl

theorem equal_self_iff : (x == x) = true ↔ x.isNaN = false := by
  rw [equal_iff]
  refine ⟨?_, fun h => Or.inl ⟨rfl, h⟩⟩
  rintro (⟨-, h⟩ | ⟨h, -⟩)
  · exact h
  · exact h.isNaN

theorem equal_symm (h : (x == y) = true) : (y == x) = true := by
  rw [equal_iff] at h ⊢
  rcases h with ⟨rfl, h⟩ | ⟨hx, hy⟩
  · exact Or.inl ⟨rfl, h⟩
  · exact Or.inr ⟨hy, hx⟩

theorem equal_comm (x y : Float) : (x == y) = (y == x) :=
  Bool.eq_iff_iff.mpr ⟨equal_symm, equal_symm⟩

theorem equal_trans (hxy : (x == y) = true) (hyz : (y == z) = true) : (x == z) = true := by
  rw [equal_iff] at hxy hyz ⊢
  rcases hxy with ⟨rfl, -⟩ | ⟨hx, hy⟩
  · exact hyz
  · rcases hyz with ⟨rfl, -⟩ | ⟨-, hz⟩
    · exact Or.inr ⟨hx, hy⟩
    · exact Or.inr ⟨hx, hz⟩

/-! ## Distances -/

/-- The distance between two doubles does not depend on which of them is taken away. -/
theorem sub_abs_swap (x y : Float) : (x - y).abs = (y - x).abs := by
  have hx := unpack_canonical x.toModel
  have hy := unpack_canonical y.toModel
  have habs := abs_unpack_pack (sub_canonical hx hy) (sub_canonical hy hx) (abs_sub_swap _ _)
  exact congrArg (fun u => Float.ofModel (.pack u)) habs

theorem sub_self_finite {a : UnpackedFloat} (h : a.isFinite = true) :
    UnpackedFloat.sub Format.binary64 a a = .zero .positive := by
  cases a with
  | notANumber => cases h
  | infinity s => cases h
  | zero s => cases s <;> rfl
  | finite s m e hm =>
    unfold UnpackedFloat.sub
    dsimp only
    rw [Int.sub_self]
    rfl

/-- Equal doubles that are finite have no distance. -/
theorem isZero_sub_of_equal (h : (x == y) = true) (hx : x.isFinite = true) : IsZero (x - y) := by
  refine isZero_of_pack (u := UnpackedFloat.sub Format.binary64 _ _) ?_
  rcases equal_iff.mp h with ⟨rfl, -⟩ | ⟨⟨s, hs⟩, s', hs'⟩
  · exact ⟨_, sub_self_finite hx⟩
  · rw [hs, hs']
    cases s <;> cases s' <;> exact ⟨_, rfl⟩

/-- Equal doubles that are infinite have a distance that is no number. -/
theorem isNaN_sub_of_equal (h : (x == y) = true) (hx : x.isFinite = false) :
    (x - y).isNaN = true := by
  change (Float.Model.pack (UnpackedFloat.sub Format.binary64 _ _)).unpack.isNaN = true
  have hinfinite : x.toModel.unpack.isFinite = false := hx
  rcases equal_iff.mp h with ⟨rfl, hnumber⟩ | ⟨⟨s, hs⟩, -⟩
  · have hnumber : x.toModel.unpack.isNaN = false := hnumber
    generalize x.toModel.unpack = u at hinfinite hnumber
    cases u with
    | notANumber => cases hnumber
    | infinity s => cases s <;> rfl
    | _ => cases hinfinite
  · rw [hs] at hinfinite
    cases hinfinite

theorem IsZero.abs_lt (hx : IsZero x) (hy : 0 < y) : x.abs < y := by
  obtain ⟨s, hs⟩ := hx
  have habs : x.abs = 0 := by
    change Float.ofModel (.pack x.toModel.unpack.abs) = 0
    rw [hs]
    rfl
  rw [habs]
  exact hy

theorem not_abs_lt_of_isNaN (hx : x.isNaN = true) : ¬ x.abs < y := by
  have habs : x.abs.toModel.unpack = .notANumber := by
    have hnan : x.toModel.unpack.isNaN = true := hx
    change (Float.Model.pack x.toModel.unpack.abs).unpack = .notANumber
    cases hu : x.toModel.unpack with
    | notANumber => exact unpack_pack (u := .notANumber) trivial
    | _ =>
      rw [hu] at hnan
      cases hnan
  rw [lt_iff_unpack_lt, habs]
  exact Bool.false_ne_true

end SceneLogic.Number
