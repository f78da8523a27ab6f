import SceneLogic.Dict
import SceneLogic.Point

/-!
# Values written by designers

Parameters, entity variables and module variables all hold values of one dynamic type. This
module has the type, the exact readings of a value (`float?`, `text?`, …) and its printed text.
The permissive readings are in `SceneLogic.Value.Reading`, the equalities in
`SceneLogic.Value.Equality`.

Two values are equal in the logic (`=`) exactly when they are built alike: an integer differs
from the double of the same size, `0.0` from `-0.0`, a NaN equals a NaN, and the entries of a
map are in the same order.
-/

namespace SceneLogic

/-- A dynamically typed value. -/
inductive Value where
  | null
  | bool (b : Bool)
  | int (i : Int64)
  | float (x : Float)
  | text (s : String)
  | point (p : Point)
  | list (items : List Value)
  | map (fields : List (String × Value))

/-- Named values: the parameters of an action, the data of an event, the fields of a map. -/
abbrev Params := Dict String Value

namespace Value

instance : Inhabited Value := ⟨.null⟩

/-! ## Exact readings -/

/-- The value is the null value. -/
def isNull : Value → Bool
  | .null => true
  | _ => false

/-- The truth value that a boolean holds. -/
def bool? : Value → Option Bool
  | .bool b => some b
  | _ => none

/-- The number that an integer holds. -/
def int? : Value → Option Int64
  | .int i => some i
  | _ => none

/-- The number that a numeric value holds, as a double. -/
def float? : Value → Option Float
  | .float x => some x
  | .int i => some (Number.ofInt64 i)
  | _ => none

/-- The characters that a text holds. -/
def text? : Value → Option String
  | .text s => some s
  | _ => none

/-- The point that a value holds. -/
def point? : Value → Option Point
  | .point p => some p
  | _ => none

/-- The items that a list holds. -/
def list? : Value → Option (List Value)
  | .list items => some items
  | _ => none

/-- The fields that a map holds. -/
def map? : Value → Option Params
  | .map fields => some fields
  | _ => none

/-- The value is an integer or a double. -/
def isNumber : Value → Bool
  | .int _ => true
  | .float _ => true
  | _ => false

/-- The name of the value's type, as designers see it. -/
def typeName : Value → String
  | .null => "null"
  | .bool _ => "bool"
  | .int _ => "int"
  | .float _ => "float"
  | .text _ => "string"
  | .point _ => "vector2"
  | .list _ => "list"
  | .map _ => "map"

/-! ## Printed text -/

mutual

/-- The printed text of a value. A text stands between quotes and is not escaped. -/
def render : Value → String
  | .null => "null"
  | .bool b => if b then "true" else "false"
  | .int i => toString i.toInt
  | .float x => Number.render x
  | .text s => "\"" ++ s ++ "\""
  | .point p => p.render
  | .list items => "[" ++ renderItems items ++ "]"
  | .map fields => "\x7b" ++ renderFields fields ++ "\x7d"

/-- The printed items of a list, with commas between them. -/
def renderItems : List Value → String
  | [] => ""
  | [v] => v.render
  | v :: rest => v.render ++ ", " ++ renderItems rest

/-- The printed fields of a map, with commas between them. -/
def renderFields : List (String × Value) → String
  | [] => ""
  | [(k, v)] => k ++ ": " ++ v.render
  | (k, v) :: rest => k ++ ": " ++ v.render ++ ", " ++ renderFields rest

end

/-- The bare text of a value: a text stands without quotes and null is empty. -/
def plainText : Value → String
  | .text s => s
  | .null => ""
  | v => v.render

end Value

end SceneLogic
