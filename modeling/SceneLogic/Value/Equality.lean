import SceneLogic.Value.Reading

/-!
# Strict and permissive equality

* `Value.same`, written `==` — equality of content: doubles compare as doubles, so a NaN differs
  from itself, and the order of a map's fields does not matter
* `Value.agrees` — permissive equality, under which a number agrees with its text and a flag
  with its word
* `Value.selects` — the equality by which a switch picks a case
-/

namespace SceneLogic.Value

mutual

/-- Equality of content. -/
def same : Value → Value → Bool
  | .null, .null => true
  | .bool a, .bool b => a == b
  | .int a, .int b => a == b
  | .float a, .float b => a == b
  | .text a, .text b => a == b
  | .point a, .point b => a == b
  | .list a, .list b => sameItems a b
  | .map a, .map b => a.length == b.length && sameFields a b
  | _, _ => false

/-- Equality of content, item by item. -/
def sameItems : List Value → List Value → Bool
  | [], [] => true
  | a :: as, b :: bs => a.same b && sameItems as bs
  | _, _ => false

/-- Every field has a namesake of the same content among the other fields. -/
def sameFields : List (String × Value) → List (String × Value) → Bool
  | [], _ => true
  | (k, a) :: as, bs =>
    (match Dict.get? bs k with
      | some b => a.same b
      | none => false) && sameFields as bs

end

instance : BEq Value := ⟨same⟩

/-- The truth value that a text spells. -/
def truthWord? (s : String) : Option Bool :=
  if Text.sameIgnoringCase s "true" then some true
  else if Text.sameIgnoringCase s "false" then some false
  else none

/-- The distance between `1` and the next larger double. Numbers that are closer agree. -/
def tolerance : Float := Float.ofBits 0x3CB0000000000000

/-- Both values have numeric readings and these differ by less than the tolerance. -/
def closeNumbers (a b : Value) : Bool :=
  match a.number?, b.number? with
  | some x, some y => (x - y).abs < tolerance
  | _, _ => false

/-- A flag agrees with the word for it, and with any other text through their numbers. -/
def flagAgrees (b : Bool) (s : String) : Bool :=
  match truthWord? s with
  | some b' => b' == b
  | none => closeNumbers (.bool b) (.text s)

mutual

/-- Permissive equality. Null agrees with null alone; texts and points compare by content, lists
and maps item by item, a flag with a text by `flagAgrees`, all else by number. -/
def agrees : Value → Value → Bool
  | .null, .null => true
  | .null, _ => false
  | _, .null => false
  | .text a, .text b => a == b
  | .bool a, .bool b => a == b
  | .bool a, .text s => flagAgrees a s
  | .text s, .bool b => flagAgrees b s
  | .point a, .point b => a == b
  | .list a, .list b => agreeItems a b
  | .map a, .map b => a.length == b.length && agreeFields a b
  | a, b => closeNumbers a b

/-- Permissive equality, item by item. -/
def agreeItems : List Value → List Value → Bool
  | [], [] => true
  | a :: as, b :: bs => a.agrees b && agreeItems as bs
  | _, _ => false

/-- Every field has a namesake among the other fields that agrees with it. -/
def agreeFields : List (String × Value) → List (String × Value) → Bool
  | [], _ => true
  | (k, a) :: as, bs =>
    (match Dict.get? bs k with
      | some b => a.agrees b
      | none => false) && agreeFields as bs

end

/-! ## Switch cases -/

/-- The number that a numeric value or a text stands for in a switch. -/
def switchNumber? : Value → Option Float
  | .int i => some (Number.ofInt64 i)
  | .float x => some x
  | .text s => textNumber? s
  | _ => none

/-- The truth value that a flag or its word stands for in a switch. -/
def switchFlag? : Value → Option Bool
  | .bool b => some b
  | .text s => truthWord? s
  | _ => none

/-- Whether a value selects a case: by number if both have one, else by truth value if both have
one, else by bare text. -/
def selects (actual case : Value) : Bool :=
  match switchNumber? actual, switchNumber? case with
  | some x, some y => x == y
  | _, _ =>
    match switchFlag? actual, switchFlag? case with
    | some a, some b => a == b
    | _, _ => actual.plainText == case.plainText

end SceneLogic.Value
