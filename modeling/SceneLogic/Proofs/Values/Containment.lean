import SceneLogic.Proofs.Number.NaN
import SceneLogic.Proofs.Values.Nesting
import SceneLogic.Proofs.Values.Switching

/-!
# Permissive equality and strict equality

What equals strictly should do so permissively, and nearly always it does. Two things are in the
way. Permissive equality takes numbers for equal when their distance is small, and infinities have
none. And a switch compares texts that are numbers by number, among them the names of NaN, which is
not equal to itself.

* `Bounded` — the value holds no infinity at any depth
* `strict_equality_contained` — values that are strictly equal agree just where they are bounded,
  and a value that equals itself selects itself just where it is no name of NaN
-/

namespace SceneLogic.Value

/-- No double in the value, at any depth, is infinite. -/
inductive Bounded : Value → Prop
  | null : Bounded .null
  | bool (b : Bool) : Bounded (.bool b)
  | int (i : Int64) : Bounded (.int i)
  | float {x : Float} (hfinite : x.isFinite = true) : Bounded (.float x)
  | text (s : String) : Bounded (.text s)
  | point (p : Point) : Bounded (.point p)
  | list {items : List Value} (hitems : ∀ v ∈ items, Bounded v) : Bounded (.list items)
  | map {fields : Params} (hfields : ∀ f ∈ fields, Bounded f.2) : Bounded (.map fields)

theorem bounded_float_iff {x : Float} : (Value.float x).Bounded ↔ x.isFinite = true := by
  refine ⟨fun h => ?_, .float⟩
  cases h with
  | float hfinite => exact hfinite

theorem bounded_list_iff {items : List Value} :
    (Value.list items).Bounded ↔ ∀ v ∈ items, v.Bounded := by
  refine ⟨fun h => ?_, .list⟩
  cases h with
  | list hitems => exact hitems

theorem bounded_map_iff {fields : Params} :
    (Value.map fields).Bounded ↔ ∀ f ∈ fields, f.2.Bounded := by
  refine ⟨fun h => ?_, .map⟩
  cases h with
  | map hfields => exact hfields

/-! ## Permissive equality -/

theorem closeNumbers_of_equal {a b : Value} {x y : Float} (ha : a.number? = some x)
    (hb : b.number? = some y) (h : (x == y) = true) :
    closeNumbers a b = true ↔ x.isFinite = true := by
  have hclose : closeNumbers a b = decide ((x - y).abs < tolerance) := by
    rw [closeNumbers, ha, hb]
  rw [hclose, decide_eq_true_iff]
  cases hfinite : x.isFinite with
  | true =>
    have htolerance : 0 < tolerance := by decide +kernel
    exact iff_of_true ((Number.isZero_sub_of_equal h hfinite).abs_lt htolerance) rfl
  | false =>
    exact iff_of_false (Number.not_abs_lt_of_isNaN (Number.isNaN_sub_of_equal h hfinite))
      Bool.false_ne_true

/-- Lists of equal values agree where their values are bounded. -/
theorem agreeItems_iff_bounded {as bs : List Value} (h : sameItems as bs = true)
    (ih : ∀ a ∈ as, ∀ b : Value, a.same b = true → (a.agrees b = true ↔ a.Bounded)) :
    agreeItems as bs = true ↔ ∀ a ∈ as, a.Bounded := by
  rw [agreeItems_iff]
  rw [sameItems_iff] at h
  induction h with
  | nil => simp
  | @cons a b as bs hab _ ihitems =>
    rw [List.forall₂_cons, List.forall_mem_cons, ih a List.mem_cons_self b hab,
      ihitems fun a' ha' => ih a' (List.mem_cons_of_mem _ ha')]

theorem agreeFields_iff_bounded {as bs : Params} (h : sameFields as bs = true)
    (ih : ∀ f ∈ as, ∀ b : Value, f.2.same b = true → (f.2.agrees b = true ↔ f.2.Bounded)) :
    agreeFields as bs = true ↔ ∀ f ∈ as, f.2.Bounded := by
  rw [agreeFields_iff]
  refine forall₂_congr fun f hf => ?_
  obtain ⟨b, hget, hsame⟩ := sameFields_iff.mp h f hf
  rw [← ih f hf b hsame, hget]
  constructor
  · rintro ⟨b', heq, hagrees⟩
    obtain rfl := Option.some.inj heq
    exact hagrees
  · exact fun hagrees => ⟨b, rfl, hagrees⟩

/-- Each integer is bounded as a number, and agrees with itself. -/
theorem agrees_int_self (i : Int64) : (Value.int i).agrees (.int i) = true := by
  have hfinite := (Number.whole_ofInt64 i).finite
  have hequal := Number.equal_self_iff.mpr (Number.not_isNaN_of_isFinite hfinite)
  have hagrees : (Value.int i).agrees (.int i) = closeNumbers (.int i) (.int i) := by
    simp only [agrees]
  rw [hagrees]
  exact (closeNumbers_of_equal rfl rfl hequal).mpr hfinite

theorem agrees_float_iff_bounded {x y : Float} (hequal : (x == y) = true) :
    (Value.float x).agrees (.float y) = true ↔ (Value.float x).Bounded := by
  have hx := Number.equal_self_iff.mp (Number.equal_trans hequal (Number.equal_symm hequal))
  have hy := Number.equal_self_iff.mp (Number.equal_trans (Number.equal_symm hequal) hequal)
  have hagrees : (Value.float x).agrees (.float y) = closeNumbers (.float x) (.float y) := by
    simp only [agrees]
  rw [hagrees, bounded_float_iff]
  refine closeNumbers_of_equal ?_ ?_ hequal
  · rw [number?, hx]
    rfl
  · rw [number?, hy]
    rfl

/-- Values that are equal agree just where they are bounded. -/
theorem agrees_iff_bounded {a b : Value} (h : a.same b = true) : a.agrees b = true ↔ a.Bounded := by
  induction a using Value.nested generalizing b with
  | null =>
    cases b with
    | null => exact iff_of_true rfl .null
    | _ => cases h
  | bool x =>
    cases b with
    | bool y => exact iff_of_true h (.bool x)
    | _ => cases h
  | int i =>
    cases b with
    | int j =>
      obtain rfl : i = j := beq_iff_eq.mp h
      exact iff_of_true (agrees_int_self i) (.int i)
    | _ => cases h
  | float x =>
    cases b with
    | float y => exact agrees_float_iff_bounded h
    | _ => cases h
  | text s =>
    cases b with
    | text t => exact iff_of_true h (.text s)
    | _ => cases h
  | point p =>
    cases b with
    | point q => exact iff_of_true h (.point p)
    | _ => cases h
  | list as ih =>
    cases b with
    | list bs =>
      have hitems : sameItems as bs = true := h
      exact (agreeItems_iff_bounded hitems fun a ha _ => ih a ha).trans bounded_list_iff.symm
    | _ => cases h
  | map as ih =>
    cases b with
    | map bs =>
      have hsame : (as.length == bs.length && sameFields as bs) = true := h
      rw [Bool.and_eq_true] at hsame
      have hagrees : (Value.map as).agrees (.map bs) =
          (as.length == bs.length && agreeFields as bs) := by
        simp only [agrees]
      rw [hagrees, hsame.1, Bool.true_and, bounded_map_iff]
      exact agreeFields_iff_bounded hsame.2 fun f hf _ => ih f hf
    | _ => cases h

/-! ## Switch cases -/

theorem SwitchKey.same_self_iff {k : SwitchKey} :
    k.same k = true ↔ ∀ x, k = .number x → x.isNaN = false := by
  cases k with
  | number x =>
    refine Number.equal_self_iff.trans ⟨?_, fun h => h x rfl⟩
    rintro hx _ ⟨⟩
    exact hx
  | flag b => exact iff_of_true (beq_self_eq_true b) fun x h => SwitchKey.noConfusion h
  | word s => exact iff_of_true (beq_self_eq_true s) fun x h => SwitchKey.noConfusion h

/-- What equals itself selects itself, if it is no text that is read as a NaN. -/
theorem selects_self_iff {a : Value} (h : a.same a = true) :
    a.selects a = true ↔ ∀ s, a = .text s → Number.namesNaN (Text.trim s) = false := by
  have hkey : a.selects a = true ↔ ∀ x, a.switchNumber? = some x → x.isNaN = false := by
    rw [selects_eq_same, SwitchKey.same_self_iff]
    exact forall_congr' fun x => by rw [switchKey_eq_number_iff]
  rw [hkey]
  cases a with
  | text s =>
    have hnames := Number.namesNaN_iff (s := Text.trim s)
    constructor
    · rintro hnumber _ ⟨⟩
      rw [Bool.eq_false_iff, ne_eq, hnames]
      rintro ⟨x, hread, hnan⟩
      rw [hnumber x hread] at hnan
      cases hnan
    · intro hword x hread
      rw [Number.isNaN_of_read? hread, hword s rfl]
  | int i =>
    refine iff_of_true ?_ fun s hs => Value.noConfusion hs
    rintro _ ⟨⟩
    exact Number.not_isNaN_of_isFinite (Number.whole_ofInt64 i).finite
  | float x =>
    refine iff_of_true ?_ fun s hs => Value.noConfusion hs
    rintro _ ⟨⟩
    exact Number.equal_self_iff.mp h
  | _ => exact iff_of_true (fun x hx => by cases hx) fun s hs => Value.noConfusion hs

/-- Values that are strictly equal agree just where no infinity is in them, and a value that equals
itself selects itself just where it is no text that is read as a NaN. -/
theorem strict_equality_contained (a b : Value) :
    ((a == b) = true → (a.agrees b = true ↔ a.Bounded)) ∧
      ((a == a) = true →
        (a.selects a = true ↔ ∀ s, a = .text s → Number.namesNaN (Text.trim s) = false)) :=
  ⟨agrees_iff_bounded, selects_self_iff⟩

/-- A list of coins agrees with itself, and a coin is a case of its own. -/
theorem coins_are_themselves :
    (Value.list [.int 5, .float 0.5, .text "5"]).agrees
        (.list [.int 5, .float 0.5, .text "5"]) = true ∧
      (Value.text "5").selects (.text "5") = true := by
  constructor
  · refine ((strict_equality_contained _ _).1 ?_).mpr (.list ?_)
    · decide +kernel
    · simp only [List.forall_mem_cons]
      exact ⟨.int 5, .float rfl, .text "5", fun v hv => absurd hv List.not_mem_nil⟩
  · refine ((strict_equality_contained (.text "5") .null).2 (by decide +kernel)).mpr ?_
    rintro _ ⟨⟩
    decide +kernel

/-- An infinity does not agree with itself, and the name of NaN does not select itself. -/
theorem not_always_contained :
    (¬ ∀ a b : Value, (a == b) = true → a.agrees b = true) ∧
      ¬ ∀ a : Value, (a == a) = true → a.selects a = true := by
  constructor
  · intro h
    have hagrees := h (.float (1 / 0)) (.float (1 / 0)) (by decide +kernel)
    exact absurd hagrees (by decide +kernel)
  · intro h
    have hselects := h (.text "nan") (by decide +kernel)
    exact absurd hselects (by decide +kernel)

end SceneLogic.Value
