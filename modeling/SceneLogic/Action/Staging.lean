import SceneLogic.Action.Basic

/-!
# Scenes and signals

Changing the scene and its flags, sending signals and lowering them.
-/

namespace SceneLogic.Staging

/-- Announces the change to a scene and then starts it. -/
def changeScene (target : String) (params : Params) : Script (Except Failure Unit) :=
  .read fun w =>
    match w.stage with
    | none => .fail (.unavailable "scene control")
    | some stage =>
      .emit EventType.sceneChanging [("from", .text stage.current), ("to", .text target)] none
        (.read fun w =>
          .finish { w with stage := w.stage.map (·.start target (params.valueOf "data")) })

/-- Changes to the scene that a parameter names. -/
def changeSceneBy (key : String) : Action := fun _ params =>
  Script.withText params key fun target => changeScene target params

/-- Sets a scene flag. -/
def setSceneFlag : Action := fun _ params =>
  Script.withText params "flag" fun flag =>
    .read fun w =>
      .finish { w with flags := w.flags.set flag ((params.flag? "value").getD true) }

/-- Sends a signal to everyone. -/
def emitEventSignal : Action := fun s params =>
  Script.withText params "signal" fun signal =>
    .emit EventType.eventSignal
      [("signal", .text signal), ("sourceEntityId", .text s.entity.name)] none .succeed

/-- Lowers a signal of the acting entity and drops its value. -/
def clearSignal : Action := fun s params =>
  Script.withText params "key" fun key =>
    .read fun w =>
      match s.awareness with
      | none => .succeed
      | some cell =>
        .finish { w with
          senses := w.senses.modifyCell cell fun a => (a.setFlag key false).setValue key .null }

/-- The actions of this module with their names. -/
def actions : List (String × Action) :=
  [("ChangeScene", changeSceneBy "sceneName"), ("CHANGE_SCENE", changeSceneBy "sceneId"),
    ("SET_SCENE_FLAG", setSceneFlag), ("EmitEventSignal", emitEventSignal),
    ("ClearSignal", clearSignal)]

end SceneLogic.Staging
