import SceneLogic.Script

/-!
# Carrying scripts out

A machine is a world together with its behaviour: the listeners, in the order in which they
subscribed, and the registered actions and conditions. `Machine.run` carries out a script.

* An event goes to the listeners that are subscribed when it is announced, one after the other,
  all with the same event. A listener that fails does not keep the others from hearing of it.
* An action that is not registered does nothing, and one that fails is over.
* A condition that is not registered holds, and one that fails does not hold.

## Why it stops

Each script is finite, but scripts can set each other off for ever. The depth to which they may
is limited by `cascadeDepth`; beyond it the run has no result. A run with a result has the same
result under every greater limit.
-/

namespace SceneLogic

/-- A world with its behaviour. -/
structure Machine where
  world : World := {}
  /-- The listeners, in the order of their subscriptions. -/
  listeners : List (SubscriptionId × Listener) := []
  nextSubscription : SubscriptionId := 1
  actions : Dict String Action := []
  conditions : Dict String Condition := []

/-- How the requests of a script are answered. Without an answer the run has no result. -/
structure Service where
  deliver : Event → Machine → Option Machine
  perform : String → Situation → Params → Machine → Option Machine
  check : String → Situation → Params → Machine → Option (Bool × Machine)

namespace Machine

/-- The number of listeners. -/
def listenerCount (m : Machine) : Nat :=
  m.listeners.length

/-- Subscribes a listener under the next number. -/
def subscribe (m : Machine) (listener : Listener) : SubscriptionId × Machine :=
  (m.nextSubscription,
    { m with
      listeners := m.listeners ++ [(m.nextSubscription, listener)]
      nextSubscription := m.nextSubscription + 1 })

/-- Ends a subscription. The answer says whether there was one. -/
def unsubscribe (m : Machine) (id : SubscriptionId) : Bool × Machine :=
  (m.listeners.any (·.1 = id), { m with listeners := m.listeners.filter (·.1 ≠ id) })

/-- Registers an action, in the place of the one of the same name. -/
def registerAction (m : Machine) (name : String) (action : Action) : Machine :=
  { m with actions := Dict.insert m.actions name action }

/-- Registers a condition, in the place of the one of the same name. -/
def registerCondition (m : Machine) (name : String) (condition : Condition) : Machine :=
  { m with conditions := Dict.insert m.conditions name condition }

/-- The event that an announcement makes. -/
def event (m : Machine) (type : String) (data : Params) (target : Option EntityId) : Event :=
  { type, target, data, timestamp := m.world.clock }

/-- Adds an entry to the journal. -/
def record (m : Machine) (h : Happening) : Machine :=
  { m with world := m.world.record h }

end Machine

/-- Carries out a script whose requests are answered by a service. -/
def Script.run {α : Type} (service : Service) : Script α → Machine → Option (α × Machine)
  | .done a, m => some (a, m)
  | .read k, m => (k m.world).run service m
  | .write w k, m => k.run service { m with world := w }
  | .emit type data target k, m =>
    let e := m.event type data target
    (service.deliver e (m.record (.emitted e))).bind fun m => k.run service m
  | .perform name s params k, m =>
    (service.perform name s params m).bind fun m => k.run service m
  | .check name s params k, m =>
    (service.check name s params m).bind fun (b, m) => (k b).run service m
  | .subscribe listener k, m =>
    let (id, m) := m.subscribe listener
    (k id).run service m
  | .unsubscribe id k, m =>
    let (b, m) := m.unsubscribe id
    (k b).run service m
  | .registerAction name action k, m => k.run service (m.registerAction name action)
  | .registerCondition name condition k, m =>
    k.run service (m.registerCondition name condition)

namespace Service

/-- Gives an event to listeners, one after the other. -/
def deliverTo (service : Service) (e : Event) : List Listener → Machine → Option Machine
  | [], m => some m
  | listener :: rest, m =>
    ((listener e).run service m).bind fun (_, m) => deliverTo service e rest m

/-- The service whose answers may in turn make requests of another service. -/
def above (service : Service) : Service where
  deliver e m := deliverTo service e (m.listeners.map (·.2)) m
  perform name s params m :=
    match Dict.get? m.actions name with
    | none => some m
    | some action => ((action s params).run service m).map (·.2)
  check name s params m :=
    match Dict.get? m.conditions name with
    | none => some (true, m)
    | some condition =>
      ((condition s params).run service m).map fun (found, m) =>
        (match found with
          | .ok b => b
          | .error _ => false, m)

/-- The service without answers. -/
def exhausted : Service where
  deliver _ _ := none
  perform _ _ _ _ := none
  check _ _ _ _ := none

/-- The service for cascades up to a depth. -/
def atDepth : Nat → Service
  | 0 => exhausted
  | depth + 1 =>
    { deliver := fun e m => (above (atDepth depth)).deliver e m
      perform := fun name s params m => (above (atDepth depth)).perform name s params m
      check := fun name s params m => (above (atDepth depth)).check name s params m }

end Service

namespace Machine

/-- The depth to which scripts may set each other off. -/
def cascadeDepth : Nat := 100000

/-- Carries out a script. There is no result if scripts set each other off too deep. -/
def run {α : Type} (m : Machine) (s : Script α) : Option (α × Machine) :=
  s.run (Service.atDepth cascadeDepth) m

end Machine

/-- Carrying out two scripts in a row is carrying out one and then the other. -/
theorem Script.run_bind {α β : Type} (service : Service) (s : Script α) (f : α → Script β)
    (m : Machine) :
    (s.bind f).run service m =
      (s.run service m).bind fun (a, m) => (f a).run service m := by
  induction s generalizing m with
  | done a => rfl
  | read k ih => simp only [Script.bind, Script.run, ih]
  | write w k ih => simp only [Script.bind, Script.run, ih]
  | emit type data target k ih => simp only [Script.bind, Script.run, ih, Option.bind_assoc]
  | perform name s params k ih => simp only [Script.bind, Script.run, ih, Option.bind_assoc]
  | check name s params k ih => simp only [Script.bind, Script.run, ih, Option.bind_assoc]
  | subscribe listener k _ ih => simp only [Script.bind, Script.run, ih]
  | unsubscribe id k ih => simp only [Script.bind, Script.run, ih]
  | registerAction name action k _ ih => simp only [Script.bind, Script.run, ih]
  | registerCondition name condition k _ ih => simp only [Script.bind, Script.run, ih]

end SceneLogic
