import SceneLogic.Value

/-!
# Deciding whether two values are built alike

Equality of values in the logic is decidable. It is what tells two requests of an action apart
(`SceneLogic.Frame`).
-/

namespace SceneLogic.Value

mutual

/-- Whether two values are built alike. -/
def alike : Value → Value → Bool
  | .null, .null => true
  | .bool a, .bool b => a == b
  | .int a, .int b => a == b
  | .float a, .float b => decide (a = b)
  | .text a, .text b => a == b
  | .point a, .point b => decide (a = b)
  | .list a, .list b => alikeItems a b
  | .map a, .map b => alikeFields a b
  | _, _ => false

/-- Whether two lists hold values that are built alike. -/
def alikeItems : List Value → List Value → Bool
  | [], [] => true
  | a :: as, b :: bs => a.alike b && alikeItems as bs
  | _, _ => false

/-- Whether two lists hold fields with the same names and values that are built alike. -/
def alikeFields : List (String × Value) → List (String × Value) → Bool
  | [], [] => true
  | (k, a) :: as, (l, b) :: bs => k == l && a.alike b && alikeFields as bs
  | _, _ => false

end

mutual

theorem alike_iff : (a b : Value) → (a.alike b = true ↔ a = b)
  | .null, b => by cases b <;> simp [alike]
  | .bool _, b => by cases b <;> simp [alike]
  | .int _, b => by cases b <;> simp [alike]
  | .float _, b => by cases b <;> simp [alike]
  | .text _, b => by cases b <;> simp [alike]
  | .point _, b => by cases b <;> simp [alike]
  | .list as, b => by cases b <;> simp [alike, alikeItems_iff as]
  | .map as, b => by cases b <;> simp [alike, alikeFields_iff as]

theorem alikeItems_iff : (as bs : List Value) → (alikeItems as bs = true ↔ as = bs)
  | [], bs => by cases bs <;> simp [alikeItems]
  | a :: as, bs => by cases bs <;> simp [alikeItems, alike_iff a, alikeItems_iff as]

theorem alikeFields_iff :
    (as bs : List (String × Value)) → (alikeFields as bs = true ↔ as = bs)
  | [], bs => by cases bs <;> simp [alikeFields]
  | (k, a) :: as, bs => by
    cases bs with
    | nil => simp [alikeFields]
    | cons b bs =>
      obtain ⟨l, b⟩ := b
      simp [alikeFields, alike_iff a, alikeFields_iff as]

end

instance : DecidableEq Value := fun a b =>
  decidable_of_iff (a.alike b = true) (alike_iff a b)

end SceneLogic.Value
