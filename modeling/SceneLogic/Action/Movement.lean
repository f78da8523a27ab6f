import SceneLogic.Action.Basic

/-!
# Movement

Moving by a direction, towards a point, and after another entity. The dead do not move.
-/

namespace SceneLogic.Movement

/-- The distance within which an entity has arrived. -/
def arrivalDistance : Float := 5

/-- The place after one step towards a target, or none if the entity has arrived there. -/
def step? (start target : Point) (speed dt : Float) : Option Point :=
  let delta := target - start
  let distance := delta.length
  if distance ≤ arrivalDistance then none
  else some (start + delta.scaleBy (speed * dt / distance))

/-- The world after the acting entity takes a step towards a target. -/
def approach (w : World) (s : Situation) (target : Point) (speed : Float) :
    Except Failure World :=
  match w.positionOf? s.entity with
  | none => .error (.unknownEntity s.entity.name)
  | some start =>
    match step? start target speed s.dt with
    | none => .ok w
    | some place => .ok (w.place s.entity place)

/-- Ends with a step towards a target. -/
def finishStep (w : World) (s : Situation) (target : Point) (speed : Float) :
    Script (Except Failure Unit) :=
  match approach w s target speed with
  | .ok w => .finish w
  | .error e => .fail e

/-- Moves the entity along a direction. -/
def move : Action := fun s params =>
  .read fun w =>
    if !w.isAlive s.entity then .succeed
    else
      match w.positionOf? s.entity with
      | none => .fail (.unknownEntity s.entity.name)
      | some start =>
        let direction : Point :=
          ⟨(params.number? "x").getD 0, (params.number? "y").getD 0⟩
        .finish (w.place s.entity
          (start + direction.scaleBy (w.speed s params 200 * s.dt)))

/-- Leaves a jump to the physics of the host. -/
def jump : Action := fun _ _ => .succeed

/-- Moves the entity towards a point. -/
def moveToward : Action := fun s params =>
  .read fun w =>
    if !w.isAlive s.entity then .succeed
    else
      match params.number? "x", params.number? "y" with
      | none, _ => .fail (.missingParameter "x")
      | some _, none => .fail (.missingParameter "y")
      | some x, some y => finishStep w s ⟨x, y⟩ (w.speed s params 100)

/-- The entity to be chased: the one that is named, if it is known, or else the nearest of a
role. -/
def quarry? (w : World) (s : Situation) (params : Params) : Option EntityId :=
  match ((params.text? "targetId").map EntityId.mk).filter w.knows with
  | some id => some id
  | none =>
    (params.text? "targetRole").bind fun role =>
      (w.positionOf? s.entity).bind fun start =>
        (w.store.nearest? start role (some s.entity)).map (·.id)

/-- Moves the entity towards another one. -/
def chaseTarget : Action := fun s params =>
  .read fun w =>
    if !w.isAlive s.entity then .succeed
    else
      match (quarry? w s params).bind w.positionOf? with
      | none => .succeed
      | some goal => finishStep w s goal (w.speed s params 100)

/-- The actions of this module with their names. -/
def actions : List (String × Action) :=
  [("Move", move), ("Jump", jump), ("MoveToward", moveToward), ("ChaseTarget", chaseTarget)]

end SceneLogic.Movement
