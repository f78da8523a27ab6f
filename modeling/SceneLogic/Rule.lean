import SceneLogic.Names
import SceneLogic.Value.Equality

/-!
# Rules

A rule reacts to an event: it tests its conditions and requests the actions that its logic
selects. This module holds the rules as designers write them, and the two tests that need no
scene: whether a trigger answers to a type of event, and whether the event's data has what the
rule asks for.
-/

namespace SceneLogic

/-- A requested action: its name and its parameters. -/
structure ActionCall where
  kind : String
  params : Params := []

/-- A condition of a rule, with the actions that it selects under branching logic. -/
structure ConditionCall where
  kind : String
  params : Params := []
  consequence : List ActionCall := []

/-- How the outcomes of a rule's conditions select its actions. -/
inductive ConditionLogic where
  /-- All conditions hold. -/
  | all
  /-- Some condition holds, or there is none. -/
  | any
  /-- The first condition that holds brings its own actions. -/
  | branch
deriving DecidableEq, Repr, Inhabited

instance : Named ConditionLogic where
  names := [("And", .all), ("Or", .any), ("Branch", .branch)]

/-- A reaction to a type of event. -/
structure Rule where
  event : String
  /-- What the event's data must contain. -/
  eventParams : Option Params := none
  conditions : List ConditionCall := []
  logic : ConditionLogic := .all
  actions : List ActionCall := []
  otherwise : List ActionCall := []

/-- A rule attached to an entity. -/
structure Component where
  id : String
  enabled : Bool := true
  rule : Rule

/-- The event that a component answers to. -/
def Component.trigger (c : Component) : String :=
  c.rule.event

/-! ## Triggers -/

namespace EventType

def tick := "TICK"
def keyDown := "KEY_DOWN"
def keyUp := "KEY_UP"
def collisionEnter := "COLLISION_ENTER"
def collisionStay := "COLLISION_STAY"
def collisionExit := "COLLISION_EXIT"
def entityDied := "ENTITY_DIED"
def eventSignal := "EVENT_SIGNAL"
def hpChanged := "HP_CHANGED"
def spawnProjectile := "SPAWN_PROJECTILE"
def entityEnabled := "ENTITY_ENABLED"
def entityDisabled := "ENTITY_DISABLED"
def sceneChanging := "SCENE_CHANGING"
def dialogueShow := "DIALOGUE_SHOW"
def playSound := "PLAY_SOUND"
def onStart := "OnStart"
def onUpdate := "OnUpdate"
def onClick := "OnClick"

/-- The trigger names that an event type also answers to. -/
def aliases (type : String) : List String :=
  if type = tick then [onUpdate]
  else if type = keyDown then ["OnKeyDown", "OnSignalReceive"]
  else if type = keyUp then ["OnKeyUp"]
  else if type = collisionEnter then ["OnCollision", "OnCollisionEnter"]
  else if type = collisionStay then ["OnCollision", "OnCollisionStay"]
  else if type = collisionExit then ["OnCollisionExit"]
  else if type = entityDied then ["OnDestroy", "OnDeath"]
  else if type = eventSignal then ["OnEventSignal", "OnSignalReceive"]
  else []

/-- A trigger answers to the event type itself and to its aliases. -/
def answers (trigger type : String) : Bool :=
  trigger == type || (aliases type).contains trigger

end EventType

/-! ## Event parameters -/

/-- A demanded value against the value that the event has: numbers compare by size, everything
else by content. -/
def demandMet (expected actual : Value) : Bool :=
  match expected, actual with
  | .int a, .float b => Number.ofInt64 a == b
  | .float a, .int b => Number.ofInt64 b == a
  | a, b => a == b

/-- The data has every value that the rule demands. -/
def Rule.accepts (r : Rule) (data : Params) : Bool :=
  match r.eventParams with
  | none => true
  | some demands =>
    demands.all fun (key, expected) =>
      match Dict.get? data key with
      | some actual => demandMet expected actual
      | none => false

/-- The rule reacts to events of the type with the data. -/
def Rule.reactsTo (r : Rule) (type : String) (data : Params) : Bool :=
  EventType.answers r.event type && r.accepts data

end SceneLogic
