import SceneLogic.Names
import SceneLogic.Value.Reading

/-!
# Arithmetic on variables

A modifier combines the current value of a variable with an operand. Points combine coordinate
by coordinate. Two integers stay an integer except under division; the result is worked out in
doubles and brought back into the 64-bit range. All other values combine by their numeric
readings.
-/

namespace SceneLogic

/-- What a modification does with the current value and the operand. -/
inductive Modifier where
  | set
  | add
  | sub
  | mul
  | div
  | min
  | max
deriving DecidableEq, Repr, Inhabited

namespace Modifier

instance : Named Modifier where
  names :=
    [ ("Set", .set), ("set", .set), ("=", .set),
      ("Add", .add), ("add", .add), ("+", .add),
      ("Sub", .sub), ("Subtract", .sub), ("sub", .sub), ("subtract", .sub), ("-", .sub),
      ("Mul", .mul), ("Multiply", .mul), ("mul", .mul), ("multiply", .mul), ("*", .mul),
      ("Div", .div), ("Divide", .div), ("div", .div), ("divide", .div), ("/", .div),
      ("Min", .min), ("min", .min),
      ("Max", .max), ("max", .max) ]

/-- The modifier of a name. -/
def ofName? (name : String) : Option Modifier :=
  Named.names.find? name

/-- Combines two numbers. Dividing by zero keeps the current number. -/
def apply (m : Modifier) (current operand : Float) : Float :=
  match m with
  | .set => operand
  | .add => current + operand
  | .sub => current - operand
  | .mul => current * operand
  | .div => if operand != 0 then current / operand else current
  | .min => Number.minimum current operand
  | .max => Number.maximum current operand

/-- Combines the numeric readings of two values. -/
def applyNumbers (m : Modifier) (current operand : Value) : Value :=
  .float (m.apply current.numberOrZero operand.numberOrZero)

/-- Combines two values. -/
def applyValue (m : Modifier) (current operand : Value) : Value :=
  match m, current, operand with
  | .set, _, v => v
  | m, .point a, .point b => .point ⟨m.apply a.x b.x, m.apply a.y b.y⟩
  | m, .point a, v => .point ⟨m.apply a.x v.numberOrZero, m.apply a.y v.numberOrZero⟩
  | .div, a, b => applyNumbers .div a b
  | m, .int a, .int b =>
    .int (Number.saturate (m.apply (Number.ofInt64 a) (Number.ofInt64 b)))
  | m, a, b => m.applyNumbers a b

end Modifier

end SceneLogic
