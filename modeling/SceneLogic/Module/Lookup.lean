import SceneLogic.Host
import SceneLogic.Module.Instance
import SceneLogic.Senses

/-!
# What a module reads

The inputs of a node are looked up in the scene: variables, properties of entities, the mouse.
A lookup never fails; what is not there is null. Variables of the entity hide those of the
module, and the two names `Mouse` and `Time` hide both.
-/

namespace SceneLogic

/-- Where an instance looks things up. -/
structure Lookup where
  entity : EntityId
  store : Store
  canvas : Option Canvas := none
  input : Option Input := none
  time : Float := 0
  moduleVars : Option Params := none

namespace Lookup

/-- The value of a variable. -/
def valueOf (l : Lookup) (name : String) : Value :=
  if name = "Mouse" then (l.input.map fun i => Value.point i.mouse).getD .null
  else if name = "Time" then .float l.time
  else
    match (l.store.get? l.entity).bind (·.value? name) with
    | some v => v
    | none => (l.moduleVars.bind fun vars => Dict.get? vars name).getD .null

/-- Where an entity is: where it is drawn, or else where the store has it. -/
def positionOf? (l : Lookup) (id : EntityId) : Option Point :=
  match (l.canvas.bind (·.get? id)).map (·.position) with
  | some p => some p
  | none => (l.store.get? id).map (·.position)

/-- The entity that a property is read from; `self` and nothing mean the own one. -/
def target (l : Lookup) (name : String) : EntityId :=
  if name = "" ∨ name = "self" then l.entity else ⟨name⟩

/-- The mouse in one of its measures. -/
def mousePoint (l : Lookup) (i : Input) : MouseMeasure → Point
  | .absolute => i.mouse
  | .screen => i.screen
  | .relative => i.mouse - (l.positionOf? l.entity).getD Point.origin

/-- The value of a source. -/
def source (l : Lookup) : Source → Value
  | .literal v => v
  | .variable name => l.valueOf name
  | .property target property =>
    let id := l.target target
    if property = "position" then ((l.positionOf? id).map Value.point).getD .null
    else ((l.store.get? id).bind (·.property? property)).getD .null
  | .mouse axis mode =>
    match l.input with
    | none => .null
    | some i =>
      let p := l.mousePoint i mode
      match axis with
      | some .x => .float p.x
      | some .y => .float p.y
      | none => .point p

/-- The value at a port of a node: what is fed into it, or else the parameter of its name. -/
def port (l : Lookup) (g : Graph) (node : NodeId) (params : Params) (name : String) : Value :=
  match g.feed? node name with
  | some s => l.source s
  | none => Params.valueOf params name

/-- The values at all ports of a node: those that have parameters, in the order of these, and
then the others that are fed, in the order of the edges. -/
def ports (l : Lookup) (g : Graph) (node : NodeId) (params : Params) : Params :=
  let given : Params := params.map fun (name, _) => (name, l.port g node params name)
  (g.fedPorts node).foldl
    (fun all name =>
      if Dict.contains all name then all
      else Dict.insert all name (l.port g node params name))
    given

/-- The value of one side of a comparison. -/
def operand (l : Lookup) (g : Graph) (node : NodeId) (port : String) (o : Option Operand) :
    Value :=
  match g.feed? node port with
  | some s => l.source s
  | none =>
    match o with
    | some (.variable name) => l.valueOf name
    | some (.literal v) => v
    | none => .null

/-- The square of the distance to an entity, if both have a place. -/
def distanceSq? (l : Lookup) (target : String) : Option Float :=
  match l.positionOf? l.entity, l.positionOf? ⟨target⟩ with
  | some a, some b => some (a.distanceSq b)
  | _, _ => none

end Lookup

/-! ## Conditions -/

/-- What a condition node may consult. -/
structure Evidence where
  lookup : Lookup
  eventData : Params := []
  awareness : Option Awareness := none

namespace Evidence

/-- What the entity senses has a property; without awareness it has none. -/
def senses (e : Evidence) (p : Awareness → Bool) : Bool :=
  match e.awareness with
  | some a => p a
  | none => false

/-- The event or a current contact brings the tag. -/
def hasTag (e : Evidence) (tag : String) : Bool :=
  ((Dict.get? e.eventData "otherTag").bind Value.text? == some tag) ||
    e.senses fun a => a.current.any fun c => c.otherTag == some tag

/-- A signal is raised, and if a value is expected of it, carries one that agrees. -/
def hasSignal (e : Evidence) (key : String) (expected : Value) : Bool :=
  e.senses fun a => a.isSet key && (expected.isNull || a.signalAgrees key expected)

/-- The outcome of a test on two operands. The test for a change has no outcome here, for it
looks at the value that it saw last. -/
def outcome? (e : Evidence) (test : Test) (left right : Value) : Option Bool :=
  match test with
  | .equals => some (left.agrees right)
  | .notEquals => some (!left.agrees right)
  | .greaterThan => some (left.numberOrZero > right.numberOrZero)
  | .lessThan => some (left.numberOrZero < right.numberOrZero)
  | .greaterOrEqual => some (left.numberOrZero ≥ right.numberOrZero)
  | .lessOrEqual => some (left.numberOrZero ≤ right.numberOrZero)
  | .changed => none
  | .inputKey key => some ((e.lookup.input.map (·.isDown key)).getD false)
  | .compareTag tag => some (e.hasTag tag)
  | .signalKey key => some (e.hasSignal key right)
  | .isGrounded => some (e.senses (·.grounded))
  | .isAlive => some (((e.lookup.store.get? e.lookup.entity).map (·.isAlive)).getD false)
  | .distanceLessThan target distance =>
    some (match e.lookup.distanceSq? target with
      | some d => d < distance * distance
      | none => false)
  | .distanceGreaterThan target distance =>
    some (match e.lookup.distanceSq? target with
      | some d => d > distance * distance
      | none => false)

end Evidence

/-- The name under which a condition node remembers its left operand. -/
def snapshotKey (node : NodeId) : String :=
  node ++ ":left"

/-- Evaluates a condition node of an instance. A test for a change holds if the left operand
differs from the one seen last, and not the first time. -/
def Instance.evaluate (i : Instance) (g : Graph) (node : NodeId) (left right : Option Operand)
    (test : Test) (e : Evidence) : Bool × Instance :=
  let l := e.lookup.operand g node "left" left
  let r := e.lookup.operand g node "right" right
  match e.outcome? test l r with
  | some passed => (passed, i)
  | none =>
    let key := snapshotKey node
    let changed :=
      match Dict.get? i.snapshots key with
      | some previous => !(previous == l)
      | none => false
    (changed, { i with snapshots := Dict.insert i.snapshots key l })

end SceneLogic
