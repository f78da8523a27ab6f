import SceneLogic.Proofs.Agreeing
import SceneLogic.Proofs.Number.Integers
import SceneLogic.Proofs.Number.Ordering

/-!
# Values in order

A condition node and the condition `Compare` put values in order by the numbers that they read as. A
value without a numeric reading counts as zero, so that any two values can be compared; and no
value reads as a NaN, which would be neither less nor more than anything.

* `Value.isNaN_numberOrZero` — what a value counts as is no NaN
* `Comparison.Preordered` — four comparisons are those of one total preorder
* `values_are_preordered` — both ways to compare are one, and that is such
-/

namespace SceneLogic

/-! ## Numeric readings -/

namespace Value

theorem isNaN_of_number? {v : Value} {x : Float} (h : v.number? = some x) : x.isNaN = false := by
  cases v with
  | null =>
    obtain rfl := Option.some.inj h
    rfl
  | bool b =>
    obtain rfl := Option.some.inj h
    cases b <;> rfl
  | int i =>
    obtain rfl := Option.some.inj h
    exact Number.not_isNaN_of_isFinite (Number.whole_ofInt64 i).finite
  | float y =>
    rw [number?] at h
    split at h
    · cases h
    · next hy =>
      obtain rfl := Option.some.inj h
      exact Bool.eq_false_iff.mpr hy
  | text s =>
    rw [number?] at h
    split at h
    · obtain rfl := Option.some.inj h
      rfl
    · simpa using (Option.filter_eq_some_iff.mp h).2
  | _ => cases h

/-- What a value counts as where a number is asked for is no NaN. -/
theorem isNaN_numberOrZero (v : Value) : v.numberOrZero.isNaN = false := by
  unfold numberOrZero
  cases h : v.number? with
  | none => rfl
  | some x => exact isNaN_of_number? h

/-- What a value counts as, as a number or an infinity. -/
noncomputable def magnitude (v : Value) : EReal :=
  Number.extended v.numberOrZero

theorem numberOrZero_lt_iff (a b : Value) :
    a.numberOrZero < b.numberOrZero ↔ a.magnitude < b.magnitude :=
  Number.lt_iff_extended_lt a.isNaN_numberOrZero b.isNaN_numberOrZero

theorem numberOrZero_le_iff (a b : Value) :
    a.numberOrZero ≤ b.numberOrZero ↔ a.magnitude ≤ b.magnitude :=
  Number.le_iff_extended_le a.isNaN_numberOrZero b.isNaN_numberOrZero

end Value

/-! ## Comparisons -/

/-- The comparisons that go by order. -/
inductive Comparison where
  | less
  | greater
  | atMost
  | atLeast

namespace Comparison

/-- The test of a condition node that compares so. -/
def test : Comparison → Test
  | less => .lessThan
  | greater => .greaterThan
  | atMost => .lessOrEqual
  | atLeast => .greaterOrEqual

/-- The operator of `Compare` that compares so. -/
def operator : Comparison → String
  | less => "<"
  | greater => ">"
  | atMost => "<="
  | atLeast => ">="

/-- Values compare as what they count as. -/
def holds : Comparison → Value → Value → Bool
  | less, a, b => a.numberOrZero < b.numberOrZero
  | greater, a, b => a.numberOrZero > b.numberOrZero
  | atMost, a, b => a.numberOrZero ≤ b.numberOrZero
  | atLeast, a, b => a.numberOrZero ≥ b.numberOrZero

/-- One of three holds and the other two do not. -/
def OneOf (p q r : Prop) : Prop :=
  (p ∧ ¬ q ∧ ¬ r) ∨ (¬ p ∧ q ∧ ¬ r) ∨ (¬ p ∧ ¬ q ∧ r)

/-- The four comparisons are those of one total preorder. -/
structure Preordered (holds : Comparison → Value → Value → Bool) : Prop where
  atLeast_iff : ∀ a b, holds atLeast a b = true ↔ ¬ holds less a b = true
  atMost_iff : ∀ a b, holds atMost a b = true ↔ ¬ holds greater a b = true
  greater_iff : ∀ a b, holds greater a b = true ↔ holds less b a = true
  oneOf : ∀ a b, OneOf (holds less a b = true) (holds greater a b = true)
    (holds atMost a b = true ∧ holds atLeast a b = true)
  trans : ∀ a b c, holds atMost a b = true → holds atMost b c = true → holds atMost a c = true

variable (a b : Value)

@[simp] theorem holds_less : holds less a b = true ↔ a.magnitude < b.magnitude :=
  decide_eq_true_iff.trans (a.numberOrZero_lt_iff b)

@[simp] theorem holds_greater : holds greater a b = true ↔ b.magnitude < a.magnitude :=
  decide_eq_true_iff.trans (b.numberOrZero_lt_iff a)

@[simp] theorem holds_atMost : holds atMost a b = true ↔ a.magnitude ≤ b.magnitude :=
  decide_eq_true_iff.trans (a.numberOrZero_le_iff b)

@[simp] theorem holds_atLeast : holds atLeast a b = true ↔ b.magnitude ≤ a.magnitude :=
  decide_eq_true_iff.trans (b.numberOrZero_le_iff a)

theorem preordered_holds : Preordered holds where
  atLeast_iff a b := by simp
  atMost_iff a b := by simp
  greater_iff a b := by simp
  oneOf a b := by
    simp only [holds_less, holds_greater, holds_atMost, holds_atLeast]
    rcases lt_trichotomy a.magnitude b.magnitude with h | h | h
    · exact .inl ⟨h, h.not_gt, fun hle => h.not_ge hle.2⟩
    · exact .inr (.inr ⟨h.not_lt, h.not_gt, h.le, h.ge⟩)
    · exact .inr (.inl ⟨h.not_gt, h, fun hle => h.not_ge hle.1⟩)
  trans a b c := by
    simp only [holds_atMost]
    exact le_trans

/-! ## Two ways to compare -/

theorem outcome_test (c : Comparison) (e : Evidence) (a b : Value) :
    e.outcome? c.test a b = some (c.holds a b) := by
  cases c <;> rfl

theorem comparison?_operator (c : Comparison) (a b : Value) :
    Conditions.comparison? c.operator a b = some (c.holds a b) := by
  cases c <;> simp [Conditions.comparison?, operator, holds]

end Comparison

/-- A condition node and the condition `Compare` find the same of two values: whether one is less
or more than the other, or at most or at least as much. Values of any type are totally preordered
by that. -/
theorem values_are_preordered :
    Comparison.Preordered Comparison.holds ∧
      (∀ (c : Comparison) (i : Instance) (g : Graph) (node : NodeId) (left right : Option Operand)
        (e : Evidence), i.evaluate g node left right c.test e =
          (c.holds (e.lookup.operand g node "left" left) (e.lookup.operand g node "right" right),
            i)) ∧
      ∀ (c : Comparison) (registry m : Machine) (service : Service) (s : Situation)
        (params : Params) (name : String), params.text? "name" = some name →
        params.text? "op" = some c.operator →
        ∃ condition, Dict.get? registry.withDefaultConditions.conditions "Compare" =
            some condition ∧
          (condition s params).run service m = some
            (.ok (c.holds (Conditions.valueOf m.world s name) (params.valueOf "value")), m) := by
  refine ⟨Comparison.preordered_holds, fun c i g node left right e => ?_,
    fun c registry m service s params name hname hop => ?_⟩
  · exact Instance.evaluate_of_outcome (c.outcome_test e _ _)
  · have hrequired : Conditions.requiredText params "name" = .ok name := by
      rw [Conditions.requiredText, hname]
    have hcompare : Conditions.compare m.world s params =
        .ok (c.holds (Conditions.valueOf m.world s name) (params.valueOf "value")) := by
      refine Conditions.compare_eq hrequired ?_
      rw [hop, Option.getD_some]
      exact c.comparison?_operator _ _
    refine ⟨_, registry.get?_withDefaultConditions
      (c := ("Compare", Conditions.pureCondition Conditions.compare))
      (by simp [Conditions.conditions]), ?_⟩
    simp only [Conditions.pureCondition, Script.run, hcompare]

namespace Weighing

/-- A hero whose ammunition is no number. -/
def machine : Machine :=
  { world :=
      { store :=
          Store.empty.insert { id := ⟨"hero"⟩, vars := [.ofValue "ammo" (.float (0 / 0))] } } }

/-- Is there as much of it as of nothing, or less? -/
def params : Params :=
  [("name", .text " ammo"), ("op", .text "<="), ("value", .list [])]

end Weighing

/-- What is no number and what has no numeric reading weigh the same. -/
theorem hero_has_at_most_nothing :
    (∃ condition, Dict.get? Asking.machine.withDefaultConditions.conditions "Compare" =
        some condition ∧
      (condition Asking.situation Weighing.params).run Service.exhausted Weighing.machine =
        some (.ok true, Weighing.machine)) ∧
    Asking.module.evaluate Asking.graph "armed" (some (.variable "ammo"))
        (some (.literal (.list []))) .lessOrEqual
        (Asking.module.evidence Weighing.machine.world Asking.situation) =
      (true, Asking.module) ∧
    Comparison.holds .atLeast (.float (0 / 0)) (.list []) = true := by
  obtain ⟨hpreordered, hnode, hcondition⟩ := values_are_preordered
  refine ⟨?_, ?_, ?_⟩
  · obtain ⟨condition, hget, hrun⟩ := hcondition .atMost Asking.machine Weighing.machine
      Service.exhausted Asking.situation Weighing.params "ammo" (by decide) (by decide)
    exact ⟨condition, hget, hrun⟩
  · exact hnode .atMost Asking.module Asking.graph "armed" _ _ _
  · exact (hpreordered.atLeast_iff _ _).mpr (by decide +kernel)

end SceneLogic
