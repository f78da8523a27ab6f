import Mathlib.Data.List.Forall2
import SceneLogic.Proofs.Dict
import SceneLogic.Value.Equality

/-!
# Values inside of values

A list and a map hold values, to any depth. What holds of a list or a map whenever it holds of the
values in it holds of every value: `Value.nested`.

Both equalities go through lists and maps in the same way. Two lists are compared item by item; of
two maps, each field of the first looks for its namesake in the second.

* `Keyed` — no map in the value has a key twice
* `sameItems_iff`, `agreeItems_iff` — when lists are equal
* `sameFields_iff`, `agreeFields_iff` — when the fields of a map are found in another
-/

namespace SceneLogic.Value

/-- Induction on the depth of a value. -/
theorem nested {motive : Value → Prop} (null : motive .null) (bool : ∀ b, motive (.bool b))
    (int : ∀ i, motive (.int i)) (float : ∀ x, motive (.float x)) (text : ∀ s, motive (.text s))
    (point : ∀ p, motive (.point p))
    (list : ∀ items, (∀ v ∈ items, motive v) → motive (.list items))
    (map : ∀ fields : List (String × Value), (∀ f ∈ fields, motive f.2) → motive (.map fields)) :
    ∀ v, motive v
  | .null => null
  | .bool b => bool b
  | .int i => int i
  | .float x => float x
  | .text s => text s
  | .point p => point p
  | .list items => list items fun v _ => nested null bool int float text point list map v
  | .map fields => map fields fun f _ => nested null bool int float text point list map f.2
termination_by v => sizeOf v
decreasing_by
  all_goals
    have hmem := List.sizeOf_lt_of_mem ‹_›
    simp_wf
  · omega
  · have hfield : sizeOf f = 1 + sizeOf f.1 + sizeOf f.2 := rfl
    omega

/-- No map in the value, at any depth, has a key twice. -/
inductive Keyed : Value → Prop
  | null : Keyed .null
  | bool (b : Bool) : Keyed (.bool b)
  | int (i : Int64) : Keyed (.int i)
  | float (x : Float) : Keyed (.float x)
  | text (s : String) : Keyed (.text s)
  | point (p : Point) : Keyed (.point p)
  | list {items : List Value} (hitems : ∀ v ∈ items, Keyed v) : Keyed (.list items)
  | map {fields : Params} (hunique : Dict.Unique fields) (hfields : ∀ f ∈ fields, Keyed f.2) :
      Keyed (.map fields)

/-! ## Lists -/

theorem sameItems_iff {as bs : List Value} :
    sameItems as bs = true ↔ List.Forall₂ (fun a b => a.same b = true) as bs := by
  induction as generalizing bs with
  | nil => cases bs <;> simp [sameItems]
  | cons a as ih => cases bs <;> simp [sameItems, ih]

theorem agreeItems_iff {as bs : List Value} :
    agreeItems as bs = true ↔ List.Forall₂ (fun a b => a.agrees b = true) as bs := by
  induction as generalizing bs with
  | nil => cases bs <;> simp [agreeItems]
  | cons a as ih => cases bs <;> simp [agreeItems, ih]

/-! ## Maps -/

theorem sameFields_iff {as bs : Params} :
    sameFields as bs = true ↔ ∀ f ∈ as, ∃ b, Dict.get? bs f.1 = some b ∧ f.2.same b = true := by
  induction as with
  | nil => simp [sameFields]
  | cons f as ih => cases hget : Dict.get? bs f.1 <;> simp [sameFields, hget, ih]

theorem agreeFields_iff {as bs : Params} :
    agreeFields as bs = true ↔
      ∀ f ∈ as, ∃ b, Dict.get? bs f.1 = some b ∧ f.2.agrees b = true := by
  induction as with
  | nil => simp [agreeFields]
  | cons f as ih => cases hget : Dict.get? bs f.1 <;> simp [agreeFields, hget, ih]

end SceneLogic.Value
