import SceneLogic.Proofs.Number.Magnitudes
import SceneLogic.Proofs.Number.Ordering

/-!
# Bit patterns in order

Doubles without a minus sign are ordered as their bit patterns are, read as natural numbers: the
exponent comes first in the pattern, and of two mantissas that fill their bits the one with the
larger exponent is the larger number. Squares of distances are such doubles. So the rank of a
distance, which is a bit pattern, orders the places as their distances do.

* `le_iff_toBits_le` — doubles compare as their patterns
* `Point.ordersDistances` — places compare as their distances
-/

namespace SceneLogic.Number

open Float.Model Float.Model.UnpackedFloat

/-! ## Patterns -/

theorem toNat_shiftRight_63 (bits : UInt64) : (bits >>> 63).toNat = bits.toNat / 2 ^ 63 :=
  (UInt64.toNat_shiftRight bits 63).trans (Nat.shiftRight_eq_div_pow _ 63)

/-- A pattern is made of the sign, the field of the exponent and the fraction. -/
theorem toNat_eq_fields (bits : UInt64) : bits.toNat =
    (bits >>> 63).toNat * 2 ^ 63 + exponentField bits * 2 ^ 52 + fractionField bits := by
  have hsign := toNat_shiftRight_63 bits
  have hexponent : exponentField bits = bits.toNat / 2 ^ 52 % 2 ^ 11 := by
    rw [exponentField_eq]
    exact congrArg (· % 2 ^ 11) (Nat.shiftRight_eq_div_pow _ 52)
  have hfraction : fractionField bits = bits.toNat % 2 ^ 52 := fractionField_eq bits
  have hlt := bits.toNat_lt
  omega

theorem shiftRight_of_positive {bits : UInt64}
    (h : Sign.ofBitVec (@unpackSign Format.binary64 bits.toBitVec) = .positive) :
    (bits >>> 63).toNat = 0 := by
  have hne : bits >>> 63 ≠ 1 := by
    rw [Ne, shiftRight_eq_one_iff, h]
    exact Sign.noConfusion
  have hsign := toNat_shiftRight_63 bits
  have hlt := bits.toNat_lt
  have hne' : (bits >>> 63).toNat ≠ 1 := fun heq => hne (UInt64.toNat_inj.mp heq)
  omega

/-- The pattern of an unpacked double without a minus sign. -/
def pattern : UnpackedFloat → Nat
  | .finite _ mantissa exponent _ => (exponent + 1074).toNat * 2 ^ 52 + mantissa
  | .infinity _ => 2047 * 2 ^ 52
  | _ => 0

variable {a b : UnpackedFloat} {x y : Float}

theorem toBits_eq_pattern (h : Unsigned x.toModel.unpack) :
    x.toBits.toNat = pattern x.toModel.unpack := by
  have hfields := toNat_eq_fields x.toBits
  rw [exponentField_eq, fractionField_eq] at hfields
  revert h
  change Unsigned (UnpackedFloat.unpack Format.binary64 x.toBits.toBitVec) →
    x.toBits.toNat = pattern (UnpackedFloat.unpack Format.binary64 x.toBits.toBitVec)
  fun_cases UnpackedFloat.unpack Format.binary64 x.toBits.toBitVec with
  | case1 fraction field _ sign hones hnone =>
    intro h
    have hfield : field.toNat = 2047 := congrArg BitVec.toNat hones
    have hfraction : fraction.toNat = 0 := congrArg BitVec.toNat hnone
    rw [hfields, shiftRight_of_positive h]
    change 0 * 2 ^ 63 + field.toNat * 2 ^ 52 + fraction.toNat = 2047 * 2 ^ 52
    omega
  | case2 => exact False.elim
  | case3 fraction field _ sign _ hzeros hnone =>
    intro h
    have hfield : field.toNat = 0 := congrArg BitVec.toNat hzeros
    have hfraction : fraction.toNat = 0 := congrArg BitVec.toNat hnone
    rw [hfields, shiftRight_of_positive h]
    change 0 * 2 ^ 63 + field.toNat * 2 ^ 52 + fraction.toNat = 0
    omega
  | case4 fraction field exponent _ sign _ hzeros hsome =>
    intro h
    have hfield : field.toNat = 0 := congrArg BitVec.toNat hzeros
    have hexponent : exponent = (field.toNat : Int) - 1075 := rfl
    rw [hfields, shiftRight_of_positive h, pattern]
    change _ + field.toNat * 2 ^ 52 + fraction.toNat = _ + fraction.toNat
    omega
  | case5 fraction field exponent _ sign _ hzeros =>
    intro h
    have hexponent : exponent = (field.toNat : Int) - 1075 := rfl
    have hpos : 0 < field.toNat := Nat.pos_of_ne_zero fun h => hzeros (BitVec.eq_of_toNat_eq h)
    have hmantissa := toNat_append_one fraction
    rw [hfields, shiftRight_of_positive h, pattern]
    change _ + field.toNat * 2 ^ 52 + fraction.toNat = _ + (1#1 ++ fraction).toNat
    omega

theorem Fits.pattern_lt {m m' : Nat} {e e' : Int} (h : Fits m e) (h' : Fits m' e') (hlt : e < e') :
    (e + 1074).toNat * 2 ^ 52 + m < (e' + 1074).toNat * 2 ^ 52 + m' := by
  have hbottom := h.bottom
  have hnarrow := h.narrow
  have hfull : 2 ^ 52 ≤ m' := h'.full.resolve_right (by omega)
  omega

theorem Fits.compare_pattern {m m' : Nat} {e e' : Int} (h : Fits m e) (h' : Fits m' e') :
    (compare e e').then (compare m m') =
      compare ((e + 1074).toNat * 2 ^ 52 + m) ((e' + 1074).toNat * 2 ^ 52 + m') := by
  rcases lt_trichotomy e e' with hlt | rfl | hgt
  · rw [compare_lt_iff_lt.mpr hlt, compare_lt_iff_lt.mpr (h.pattern_lt h' hlt)]
    rfl
  · rw [compare_eq_iff_eq.mpr (rfl : e = e)]
    change compare m m' = _
    rcases lt_trichotomy m m' with hlt | rfl | hgt
    · rw [compare_lt_iff_lt.mpr hlt, compare_lt_iff_lt.mpr (by omega)]
    · rw [compare_eq_iff_eq.mpr rfl, compare_eq_iff_eq.mpr rfl]
    · rw [compare_gt_iff_gt.mpr hgt, compare_gt_iff_gt.mpr (by omega)]
  · rw [compare_gt_iff_gt.mpr hgt, compare_gt_iff_gt.mpr (h'.pattern_lt h hgt)]
    rfl

theorem pattern_pos {m : Nat} {e : Int} (hm : 0 < m) : 0 < (e + 1074).toNat * 2 ^ 52 + m := by
  omega

theorem pattern_lt_infinity {m : Nat} {e : Int} (h : Fits m e) (htop : e ≤ 971) :
    (e + 1074).toNat * 2 ^ 52 + m < 2047 * 2 ^ 52 := by
  have hnarrow := h.narrow
  omega

/-- Doubles without a minus sign compare as their patterns do. -/
theorem compare_pattern (hx : Unsigned x.toModel.unpack) (hy : Unsigned y.toModel.unpack) :
    x.toModel.unpack.compare y.toModel.unpack =
      some (compare (pattern x.toModel.unpack) (pattern y.toModel.unpack)) := by
  rcases hx.cases with hux | hux | ⟨m, e, hm, hux⟩
  · rcases hy.cases with huy | huy | ⟨m', e', hm', huy⟩
    · rw [hux, huy]
      exact congrArg some (compare_eq_iff_eq.mpr rfl).symm
    · rw [hux, huy]
      exact congrArg some (compare_lt_iff_lt.mpr (by decide : 0 < 2047 * 2 ^ 52)).symm
    · rw [hux, huy]
      exact congrArg some (compare_lt_iff_lt.mpr (pattern_pos hm')).symm
  · rcases hy.cases with huy | huy | ⟨m', e', hm', huy⟩
    · rw [hux, huy]
      exact congrArg some (compare_gt_iff_gt.mpr (by decide : 0 < 2047 * 2 ^ 52)).symm
    · rw [hux, huy]
      exact congrArg some (compare_eq_iff_eq.mpr rfl).symm
    · have hlt := pattern_lt_infinity (fits_of_unpack huy) (exponent_le_of_unpack huy)
      rw [hux, huy]
      exact congrArg some (compare_gt_iff_gt.mpr hlt).symm
  · rcases hy.cases with huy | huy | ⟨m', e', hm', huy⟩
    · rw [hux, huy]
      exact congrArg some (compare_gt_iff_gt.mpr (pattern_pos hm)).symm
    · have hlt := pattern_lt_infinity (fits_of_unpack hux) (exponent_le_of_unpack hux)
      rw [hux, huy]
      exact congrArg some (compare_lt_iff_lt.mpr hlt).symm
    · have hsame := (fits_of_unpack hux).compare_pattern (fits_of_unpack huy)
      rw [hux, huy]
      exact congrArg some hsame

/-- Doubles without a minus sign are ordered as their patterns are. -/
theorem le_iff_toBits_le (hx : Unsigned x.toModel.unpack) (hy : Unsigned y.toModel.unpack) :
    x ≤ y ↔ x.toBits.toNat ≤ y.toBits.toNat := by
  rw [le_iff_unpack_le, UnpackedFloat.le, compare_pattern hx hy, toBits_eq_pattern hx,
    toBits_eq_pattern hy]
  exact Ordering.ne_gt_iff_isLE.symm.trans compare_le_iff_le

/-! ## Squares of distances -/

theorem unsigned_normalize {mantissa : Int} (h : 0 < mantissa) (exponent : Int) (zeroSign : Sign) :
    Unsigned (UnpackedFloat.normalize Format.binary64 mantissa exponent zeroSign) := by
  obtain ⟨rounded, -, heq⟩ := roundWithAccuracy_eq .positive _ _ .exact
    (le_target_padding (by omega : 0 < mantissa.toNat) exponent)
  unfold UnpackedFloat.normalize
  rw [Int.compare_eq_gt.mpr h]
  change Unsigned (UnpackedFloat.round Format.binary64 .positive mantissa.toNat exponent)
  rw [round_eq, heq]
  exact unsigned_carried _ _

/-- A sum has no minus sign if there is none in it. -/
theorem Unsigned.add (ha : Unsigned a) (hb : Unsigned b) :
    Unsigned (UnpackedFloat.add Format.binary64 a b) := by
  rcases ha.cases with rfl | rfl | ⟨m, e, hm, rfl⟩
  · rcases hb.cases with rfl | rfl | ⟨m', e', hm', rfl⟩ <;> exact hb
  · rcases hb.cases with rfl | rfl | ⟨m', e', hm', rfl⟩ <;> exact ha
  · rcases hb.cases with rfl | rfl | ⟨m', e', hm', rfl⟩
    · exact ha
    · exact hb
    · have hpos : 0 < (decreaseExponent m e (min e e')).1 := by
        rw [decreaseExponent, Nat.shiftLeft_eq]
        positivity
      exact unsigned_normalize (by omega : (0 : Int) < (decreaseExponent m e (min e e')).1 +
        (decreaseExponent m' e' (min e e')).1) _ _

/-- The sum of two squares has no minus sign. -/
theorem unsigned_add_squares (hx : x.isNaN = false) (hy : y.isNaN = false) :
    Unsigned (x * x + y * y).toModel.unpack := by
  have hsum := isNaN_add (unpack_canonical _) (unpack_canonical _)
    (unsigned_square hx).nonnegative (unsigned_square hy).nonnegative
  exact ((unsigned_square hx).add (unsigned_square hy)).unpack_pack hsum.2

/-! ## What a NaN spoils -/

theorem isNaN_of_unpacked {u : UnpackedFloat} (h : u = .notANumber) :
    (Float.ofModel (.pack u)).isNaN = true := by
  subst h
  exact congrArg UnpackedFloat.isNaN (unpack_pack (u := .notANumber) trivial)

theorem isNaN_sub_of_isNaN (h : x.isNaN = true ∨ y.isNaN = true) : (x - y).isNaN = true := by
  refine isNaN_of_unpacked (u := UnpackedFloat.sub Format.binary64 _ _) ?_
  rcases h with h | h <;> rw [unpack_of_isNaN h]
  · rfl
  · cases x.toModel.unpack <;> rfl

theorem isNaN_add_of_isNaN (h : x.isNaN = true ∨ y.isNaN = true) : (x + y).isNaN = true := by
  refine isNaN_of_unpacked (u := UnpackedFloat.add Format.binary64 _ _) ?_
  rcases h with h | h <;> rw [unpack_of_isNaN h]
  · rfl
  · cases x.toModel.unpack <;> rfl

theorem isNaN_square_of_isNaN (h : x.isNaN = true) : (x * x).isNaN = true := by
  refine isNaN_of_unpacked (u := UnpackedFloat.mul Format.binary64 _ _) ?_
  rw [unpack_of_isNaN h]
  rfl

end SceneLogic.Number

namespace SceneLogic.Point

open Number

/-- The ranks of places order them as their distances from the start do: distances that are
numbers, or infinite, have the ranks of patterns, and those that are no numbers stand before all of
them or after all of them. -/
structure OrdersDistances (start : Point) : Prop where
  defined : ∀ p, (start.distanceSq p).isNaN = false ↔
    0 ≤ start.distanceRank p ∧ start.distanceRank p < UInt64.size
  ordered : ∀ p q, (start.distanceSq p).isNaN = false → (start.distanceSq q).isNaN = false →
    (start.distanceRank p ≤ start.distanceRank q ↔ start.distanceSq p ≤ start.distanceSq q)

theorem isNaN_of_undefinedRank?_eq_none {a b : Float} (h : undefinedRank? a b = none) :
    (a - b).isNaN = false := by
  unfold undefinedRank? at h
  split_ifs at h with hone htwo
  simpa using htwo

theorem isNaN_of_undefinedRank?_eq_some {a b : Float} {r : Int} (h : undefinedRank? a b = some r) :
    (a - b).isNaN = true ∧ ¬ (0 ≤ r ∧ r < UInt64.size) := by
  unfold undefinedRank? at h
  split_ifs at h with hone htwo
  · cases h
    exact ⟨isNaN_sub_of_isNaN (by simpa using hone), by decide⟩
  · cases h
    exact ⟨htwo, by decide⟩

/-- A distance has the rank of its pattern, or is no number and has a rank beyond all patterns. -/
theorem distanceRank_cases (start p : Point) :
    (Unsigned (start.distanceSq p).toModel.unpack ∧
      start.distanceRank p = (start.distanceSq p).toBits.toNat) ∨
    ((start.distanceSq p).isNaN = true ∧
      ¬ (0 ≤ start.distanceRank p ∧ start.distanceRank p < UInt64.size)) := by
  unfold distanceRank
  cases hx : undefinedRank? start.x p.x with
  | some r =>
    obtain ⟨hnan, hrank⟩ := isNaN_of_undefinedRank?_eq_some hx
    exact Or.inr ⟨isNaN_add_of_isNaN (Or.inl (isNaN_square_of_isNaN hnan)), hrank⟩
  | none =>
    cases hy : undefinedRank? start.y p.y with
    | some r =>
      obtain ⟨hnan, hrank⟩ := isNaN_of_undefinedRank?_eq_some hy
      exact Or.inr ⟨isNaN_add_of_isNaN (Or.inr (isNaN_square_of_isNaN hnan)), hrank⟩
    | none =>
      exact Or.inl ⟨unsigned_add_squares (isNaN_of_undefinedRank?_eq_none hx)
        (isNaN_of_undefinedRank?_eq_none hy), rfl⟩

/-- Places are ranked by their distances. -/
theorem ordersDistances (start : Point) : start.OrdersDistances where
  defined p := by
    rcases distanceRank_cases start p with ⟨hunsigned, hrank⟩ | ⟨hnan, hrank⟩
    · refine iff_of_true hunsigned.isNaN ?_
      have hlt := (start.distanceSq p).toBits.toNat_lt
      rw [hrank]
      exact ⟨Int.natCast_nonneg _, Int.ofNat_lt.mpr hlt⟩
    · exact iff_of_false (by rw [hnan]; exact Bool.noConfusion) hrank
  ordered p q hp hq := by
    rcases distanceRank_cases start p with ⟨hunsigned, hrank⟩ | ⟨hnan, -⟩
    · rcases distanceRank_cases start q with ⟨hunsigned', hrank'⟩ | ⟨hnan', -⟩
      · rw [hrank, hrank', Int.ofNat_le]
        exact (le_iff_toBits_le hunsigned hunsigned').symm
      · cases hq.symm.trans hnan'
    · cases hp.symm.trans hnan

end SceneLogic.Point
