import SceneLogic.Definitions.Install

/-!
# Setting a scene up

What a scene is made of before it starts: its entities, the parts that the host provides, who
runs its modules, and what is loaded into it. `Setup.world` is the world before anyone listens;
`Setup.install` brings in the director and the relays, and then loads definitions, modules and
rules in this order.
-/

namespace SceneLogic

/-- Passes events of one type on: what tells of an entity is aimed at it, under another type. -/
structure Relay where
  type : String
  passedOnAs : String

/-- A relay as a listener. -/
def Relay.listener (r : Relay) : Listener := fun e =>
  match (e.entity? "entityId").filter fun _ => e.type = r.type with
  | some id => .emit r.passedOnAs e.data (some id) (.done (.ok ()))
  | none => .done (.ok ())

/-- Who runs the modules of a scene. -/
inductive Engine where
  | director (settings : Settings)
  /-- Modules run on their own, at most so many nodes in one update. -/
  | alone (stepBound : Nat)

/-- There is a director. -/
def Engine.isDirector : Engine → Bool
  | .director _ => true
  | .alone _ => false

/-- What a scene is made of. -/
structure Setup where
  store : Store := {}
  clock : Float := 0
  /-- Entities are drawn. -/
  drawn : Bool := false
  spawner : Option SpawnerKind := none
  /-- The scene that the stage shows first. -/
  stage : Option String := none
  engine : Engine := .director {}
  relays : List Relay := []
  definitions : Option Definitions := none
  modules : List Graph := []
  rules : Option (List Rule) := none

namespace Setup

/-- The world before anyone listens. -/
def world (s : Setup) : World where
  store := s.store
  clock := s.clock
  canvas := if s.drawn then some (({} : Canvas).drawAll s.store) else none
  spawner := s.spawner.map fun kind => { kind, attached := s.engine.isDirector }
  stage := s.stage.map fun current => { current }

/-- Loads definitions and draws the entities anew. -/
def loadDefinitions (s : Setup) (w : World) : World :=
  match s.definitions with
  | none => w
  | some d =>
    let w := d.install w
    { w with canvas := w.canvas.map (·.drawAll w.store) }

/-- Loads all that the scene starts with. -/
def load (s : Setup) (w : World) : World :=
  let w := s.loadDefinitions w
  let w := { w with library := s.modules.foldl Library.insert w.library }
  match s.rules with
  | none => w
  | some rules => w.replaceRules rules

/-- Brings in who runs the modules. -/
def installEngine (s : Setup) : Script Unit :=
  match s.engine with
  | .director settings => Director.install settings
  | .alone stepBound =>
    Script.modifyWorld fun w => { w with pool := { stepBound := max stepBound 1 } }

/-- Sets the scene up. -/
def install (s : Setup) : Script Unit :=
  s.installEngine.bind fun _ =>
    (Script.forEach s.relays fun r => .subscribe r.listener fun _ => .done ()).bind fun _ =>
      Script.modifyWorld s.load

end Setup

end SceneLogic
