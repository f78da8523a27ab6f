import SceneLogic.Machine

/-!
# Short texts for developers

What identities and the larger parts of a scene look like in logs: a label for the number of an
instance or of a subscription, and one line each for the listeners and for the world.
-/

namespace SceneLogic

/-- The label of an instance. -/
def InstanceId.label (id : InstanceId) : String :=
  "instance:" ++ toString id

/-- The label of a subscription. -/
def SubscriptionId.label (id : SubscriptionId) : String :=
  "sub:" ++ toString id

namespace Summary

/-- The text of a truth value. -/
def flag (b : Bool) : String :=
  if b then "true" else "false"

/-- One line for a thing with named properties. -/
def line (name : String) (properties : List (String × String)) : String :=
  let items := properties.map fun (key, text) => key ++ ": " ++ text
  name ++ " \x7b " ++ ", ".intercalate items ++ " \x7d"

end Summary

/-- The listeners in one line. -/
def Machine.eventSummary (m : Machine) : String :=
  Summary.line "EventBus"
    [ ("handlers", toString m.listenerCount), ("debug", Summary.flag m.world.debugEvents) ]

/-- The world in one line: how many entities there are, and which parts the host provides. -/
def World.summary (w : World) : String :=
  Summary.line "Globals"
    [ ("entities", toString w.store.size),
      ("renderer", Summary.flag w.canvas.isSome),
      ("game_core", Summary.flag w.spawner.isSome),
      ("scene", Summary.flag w.stage.isSome) ]

end SceneLogic
