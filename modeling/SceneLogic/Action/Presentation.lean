import SceneLogic.Action.Basic

/-!
# Presentation

Turning and pulsing of the drawn entity, dialogue and sound.
-/

namespace SceneLogic.Presentation

/-- One degree in radians. -/
def degree : Float := 3.141592653589793 / 180

/-- Turns the entity, with a speed in degrees per second. The store's rotation leads; without a
stored entity the drawn one does. -/
def rotate : Action := fun s params =>
  .read fun w =>
    let delta := ((params.number? "speed").getD 90 * s.dt) * degree
    let current :=
      match w.store.get? s.entity with
      | some e => some e.rotation
      | none => (w.sprite? s.entity).map (·.rotation)
    match current with
    | none => .fail (.unknownEntity s.entity.name)
    | some r =>
      .finish ((w.modifyEntity s.entity ({ · with rotation := r + delta })).modifySprite s.entity
        ({ · with rotation := r + delta }))

/-- The size of a pulsing entity at a reading of the clock. -/
def pulseScale (clock speed least greatest : Float) : Float :=
  let t := Float.sin (clock * 0.001 * speed) * 0.5 + 0.5
  least + (greatest - least) * t

/-- Scales the entity in a rhythm. -/
def pulse : Action := fun s params =>
  .read fun w =>
    let scale := pulseScale w.clock ((params.number? "speed").getD 2)
      ((params.number? "minScale").getD 0.8) ((params.number? "maxScale").getD 1.2)
    .finish ((w.modifySprite s.entity ({ · with scaleX := scale, scaleY := scale })).modifyEntity
      s.entity ({ · with scaleX := scale, scaleY := scale }))

/-- Announces a line of dialogue. -/
def showDialogue : Action := fun s params =>
  Script.withText params "text" fun text =>
    .emit EventType.dialogueShow [("entityId", .text s.entity.name), ("text", .text text)] none
      .succeed

/-- Announces a sound. -/
def playSound : Action := fun s params =>
  Script.withText params "soundKey" fun key =>
    .emit EventType.playSound
      [("entityId", .text s.entity.name), ("soundKey", .text key),
        ("volume", .float ((params.number? "volume").getD 1))]
      none .succeed

/-- The actions of this module with their names. -/
def actions : List (String × Action) :=
  [("Rotate", rotate), ("Pulse", pulse), ("ShowDialogue", showDialogue),
    ("PlaySound", playSound)]

end SceneLogic.Presentation
