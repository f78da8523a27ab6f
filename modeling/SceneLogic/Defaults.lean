import SceneLogic.Action.Combat
import SceneLogic.Action.Control
import SceneLogic.Action.Movement
import SceneLogic.Action.Presentation
import SceneLogic.Action.Staging
import SceneLogic.Conditions

/-!
# The default actions and conditions
-/

namespace SceneLogic

/-- The default actions, in the order in which they are registered. -/
def defaultActions : List (String × Action) :=
  Movement.actions ++ Combat.actions ++ Control.actions ++ Presentation.actions ++
    Staging.actions

namespace Machine

/-- Registers the default actions. -/
def withDefaultActions (m : Machine) : Machine :=
  defaultActions.foldl (fun m a => m.registerAction a.1 a.2) m

/-- Registers the default conditions. -/
def withDefaultConditions (m : Machine) : Machine :=
  Conditions.conditions.foldl (fun m c => m.registerCondition c.1 c.2) m

end Machine

end SceneLogic
