import SceneLogic.Action.Basic
import SceneLogic.Modifier

/-!
# Control

Setting variables, switching entities on and off, spawning, and starting modules.
-/

namespace SceneLogic.Control

/-- The value that a modification of a variable leads to. A variable that is not there counts as
the integer zero. -/
def modified (e : Entity) (name : String) (params : Params) : Except Failure Value :=
  let operand := params.valueOf "value"
  match params.text? "operation" with
  | none => .ok operand
  | some op =>
    match Modifier.ofName? op with
    | none => .error (.invalidParameter "operation" ("unknown operation '" ++ op ++ "'"))
    | some m => .ok (m.applyValue ((e.value? name).getD (.int 0)) operand)

/-- Sets or modifies a variable of the acting entity. -/
def setVar : Action := fun s params =>
  Script.withText params "name" fun name =>
    .read fun w =>
      match w.store.get? s.entity with
      | none => .fail (.unknownEntity s.entity.name)
      | some e =>
        match modified e name params with
        | .error f => .fail f
        | .ok v => .finish (w.modifyEntity s.entity (·.assign name v))

/-- Switches an entity on or off, on the canvas and in the store. -/
def setActive (w : World) (id : EntityId) (active : Bool) : World :=
  (w.modifySprite id ({ · with visible := active })).modifyEntity id ({ · with active })

/-- Switches an entity on, or off if so asked, and announces it. -/
def enable : Action := fun s params =>
  .read fun w =>
    let target := s.subject params
    let enabled := (params.flag? "enabled").getD true
    if w.knows target then
      .write (setActive w target enabled)
        (.emit (if enabled then EventType.entityEnabled else EventType.entityDisabled)
          [("entityId", .text target.name)] none .succeed)
    else .fail (.unknownEntity target.name)

/-- Takes the acting entity out of play: the spawner removes it, and without a spawner it is
switched off. -/
def disable : Action := fun s _ =>
  .read fun w =>
    match w.despawn s.entity with
    | some (_, w) => .finish w
    | none => .finish (setActive w s.entity false)

/-- What the parameters of a spawn ask for. -/
def spawnOrder (w : World) (s : Situation) (params : Params) : SpawnOrder :=
  let here := (w.positionOf? s.entity).getD Point.origin
  { template := params.text? "template"
    position := ⟨(params.number? "x").getD here.x, (params.number? "y").getD here.y⟩
    role := params.text? "role"
    owner := some s.entity
    vars := ((Dict.get? params "variables").bind Value.map?).getD [] }

/-- Has the spawner create an entity. -/
def spawnEntity : Action := fun s params =>
  .read fun w =>
    match w.spawn (spawnOrder w s params) with
    | none => .fail (.unavailable "game core")
    | some (_, w) => .finish w

/-- Has the spawner start a module. -/
def startModule : Action := fun s params =>
  Script.withText params "moduleId" fun moduleId =>
    .read fun w =>
      let overrides := ((Dict.get? params "overrides").bind Value.map?).getD []
      match w.startBySpawner (s.subject params) moduleId overrides with
      | none => .fail (.unavailable "game core")
      | some (true, w) => .finish w
      | some (false, w) =>
        .write w (.fail (.action ("module '" ++ moduleId ++ "' could not be started")))

/-- The actions of this module with their names. -/
def actions : List (String × Action) :=
  [("SetVar", setVar), ("Enable", enable), ("Disable", disable), ("SpawnEntity", spawnEntity),
    ("StartModule", startModule)]

end SceneLogic.Control
