import SceneLogic.Action.Basic

/-!
# Conditions of rules

The conditions that every scene has. Apart from `onEventSignal`, which consumes the signal that
it finds, they only look at the world.
-/

namespace SceneLogic.Conditions

/-- A condition that only looks at the world. -/
def pureCondition (found : World → Situation → Params → Except Failure Bool) : Condition :=
  fun s params => .read fun w => .done (found w s params)

/-- A text parameter that must be there. -/
def requiredText (params : Params) (key : String) : Except Failure String :=
  match params.text? key with
  | some text => .ok text
  | none => .error (.missingParameter key)

/-- The value of a name: a variable of the acting entity, or else of the module that asks. -/
def valueOf (w : World) (s : Situation) (name : String) : Value :=
  match w.entityValue? s name with
  | some v => v
  | none => (s.scope.bind fun vars => Dict.get? vars name).getD .null

/-- A variable agrees with a value. -/
def variableEquals (w : World) (s : Situation) (params : Params) : Except Failure Bool := do
  let name ← requiredText params "name"
  return (valueOf w s name).agrees (params.valueOf "value")

/-- The comparison that an operator stands for. -/
def comparison? (op : String) (left right : Value) : Option Bool :=
  if op = "==" ∨ op = "=" then some (left.agrees right)
  else if op = "!=" then some (!left.agrees right)
  else if op = ">" then some (left.numberOrZero > right.numberOrZero)
  else if op = "<" then some (left.numberOrZero < right.numberOrZero)
  else if op = ">=" then some (left.numberOrZero ≥ right.numberOrZero)
  else if op = "<=" then some (left.numberOrZero ≤ right.numberOrZero)
  else none

/-- A variable compares with a value as an operator asks. -/
def compare (w : World) (s : Situation) (params : Params) : Except Failure Bool := do
  let name ← requiredText params "name"
  let op := (params.text? "op").getD "=="
  match comparison? op (valueOf w s name) (params.valueOf "value") with
  | some b => return b
  | none => .error (.invalidParameter "op" ("unknown comparison '" ++ op ++ "'"))

/-- What the acting entity senses has a property. -/
def sensed (w : World) (s : Situation) (p : Awareness → Bool) : Bool :=
  match w.awareness? s with
  | some a => p a
  | none => false

/-- The acting entity stands on ground. -/
def isGrounded (w : World) (s : Situation) (_ : Params) : Except Failure Bool :=
  .ok (sensed w s (·.grounded))

/-- The acting entity is in the store and alive. -/
def isAlive (w : World) (s : Situation) (_ : Params) : Except Failure Bool :=
  .ok (((w.store.get? s.entity).map (·.isAlive)).getD false)

/-- The acting entity has hit points, and fewer than a limit. -/
def hpBelow (w : World) (s : Situation) (params : Params) : Except Failure Bool :=
  .ok (match (w.store.get? s.entity).bind (·.hp?) with
    | some hp => hp < (params.number? "value").getD 0
    | none => false)

/-- A key is held down. -/
def keyPressed (_ : World) (s : Situation) (params : Params) : Except Failure Bool := do
  let key ← requiredText params "key"
  return (s.input.map (·.isDown key)).getD false

/-- A signal waits. It is consumed. -/
def onEventSignal : Condition := fun _ params =>
  Script.withText params "signal" fun signal =>
    .read fun w =>
      let (found, w) := w.seekSignal signal
      .write w (.done (.ok found))

/-- A signal of the acting entity is raised, and carries the value that is asked for. -/
def signalFlag (w : World) (s : Situation) (params : Params) : Except Failure Bool := do
  let key ← requiredText params "key"
  return sensed w s fun a =>
    a.isSet key && ((params.valueOf "value").isNull || a.signalAgrees key (params.valueOf "value"))

/-- A scene flag is as asked for. -/
def ifSceneFlag (w : World) (_ : Situation) (params : Params) : Except Failure Bool := do
  let flag ← requiredText params "flag"
  return w.flags.get flag == (params.flag? "value").getD true

/-- The conditions with their names. -/
def conditions : List (String × Condition) :=
  [ ("Always", pureCondition fun _ _ _ => .ok true),
    ("VariableEquals", pureCondition variableEquals),
    ("Compare", pureCondition compare),
    ("IsGrounded", pureCondition isGrounded),
    ("IsAlive", pureCondition isAlive),
    ("HpBelow", pureCondition hpBelow),
    ("KeyPressed", pureCondition keyPressed),
    ("OnEventSignal", onEventSignal),
    ("SignalFlag", pureCondition signalFlag),
    ("IF_SCENE_FLAG", pureCondition ifSceneFlag) ]

end SceneLogic.Conditions
