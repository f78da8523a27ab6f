import SceneLogic.Machine
import SceneLogic.Module.Start

/-!
# What actions share

Required parameters, the entity that an action is about, and the numbers that an entity's own
variables bring in before the parameters do.
-/

namespace SceneLogic

namespace Script

/-- Ends well. -/
def succeed : Script (Except Failure Unit) :=
  .done (.ok ())

/-- Ends with a failure. -/
def fail {α : Type} (f : Failure) : Script (Except Failure α) :=
  .done (.error f)

/-- Ends well with a changed world. -/
def finish (w : World) : Script (Except Failure Unit) :=
  .write w succeed

/-- Goes on with a text parameter that must be there. -/
def withText {α : Type} (params : Params) (key : String)
    (next : String → Script (Except Failure α)) : Script (Except Failure α) :=
  match params.text? key with
  | some text => next text
  | none => fail (.missingParameter key)

end Script

/-- The entity that an action is about: the one it names, or else the acting one. -/
def Situation.subject (s : Situation) (params : Params) : EntityId :=
  match params.text? "targetId" with
  | some name => ⟨name⟩
  | none => s.entity

namespace World

/-- The first of several variables of the acting entity that holds a number. -/
def actorNumber? (w : World) (s : Situation) (names : List String) : Option Float :=
  (w.store.get? s.entity).bind (·.firstNumber? names)

/-- A number from the entity's variables, or else from a parameter, or else a default. -/
def numberFor (w : World) (s : Situation) (names : List String) (params : Params) (key : String)
    (default : Float) : Float :=
  ((w.actorNumber? s names) <|> params.number? key).getD default

/-- The speed of the acting entity. -/
def speed (w : World) (s : Situation) (params : Params) (default : Float) : Float :=
  w.numberFor s ["speed", "maxSpeed"] params "speed" default

end World

end SceneLogic
