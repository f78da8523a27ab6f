import SceneLogic.Number.Reading
import SceneLogic.Text.Blank
import SceneLogic.Value

/-!
# Permissive readings of values

Designers write a number as a text, a flag as a number, and leave things out. A reading says
what a value counts as where a number, a truth value or a name is asked for.

No numeric reading is a NaN: a value that would read as one has no numeric reading.
-/

namespace SceneLogic

namespace Value

/-- The number in a text, apart from the blanks around it. -/
def textNumber? (s : String) : Option Float :=
  Number.read? (Text.trim s)

/-- What a value counts as where a number is asked for. Null counts as zero, and so does a
blank text; points, lists and maps count as nothing. -/
def number? : Value → Option Float
  | .null => some 0
  | .bool b => some (if b then 1 else 0)
  | .int i => some (Number.ofInt64 i)
  | .float x => if x.isNaN then none else some x
  | .text s =>
    if (Text.trim s).isEmpty then some 0
    else (textNumber? s).filter fun x => !x.isNaN
  | .point _ => none
  | .list _ => none
  | .map _ => none

/-- The numeric reading, or zero without one. -/
def numberOrZero (v : Value) : Float :=
  v.number?.getD 0

/-- Whether a value counts as present and non-zero. -/
def isTruthy : Value → Bool
  | .null => false
  | .bool b => b
  | .int i => i != 0
  | .float x => x != 0 && !x.isNaN
  | .text s => !s.isEmpty
  | .point _ => true
  | .list _ => true
  | .map _ => true

/-- What a value counts as where a flag is asked for. It is `isTruthy`, except that of the texts
only the word `true` counts. -/
def flag : Value → Bool
  | .text s => Text.sameIgnoringCase s "true"
  | v => v.isTruthy

end Value

namespace Params

/-- The numeric reading of a parameter that is there and not null. -/
def number? (p : Params) (key : String) : Option Float :=
  ((Dict.get? p key).filter fun v => !v.isNull).bind Value.number?

/-- The text of a parameter without the blanks around it, unless that is empty. -/
def text? (p : Params) (key : String) : Option String :=
  (((Dict.get? p key).bind Value.text?).map Text.trim).filter fun s => !s.isEmpty

/-- The flag of a parameter that is there and not null. -/
def flag? (p : Params) (key : String) : Option Bool :=
  ((Dict.get? p key).filter fun v => !v.isNull).map Value.flag

/-- The value of a parameter, null if it is not there. -/
def valueOf (p : Params) (key : String) : Value :=
  (Dict.get? p key).getD .null

end Params

end SceneLogic
