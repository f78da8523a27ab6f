import SceneLogic.Frame
import SceneLogic.Module.Pool
import SceneLogic.Settings
import SceneLogic.Signals

/-!
# The state of a scene

`World` is all that changes while a scene runs, apart from who listens to events and which
actions are registered: these are behaviour and belong to the `Machine`.

The journal lists what happened, the latest first. It is what an observer sees of a run; nothing
in the scene depends on it.
-/

namespace SceneLogic

/-- Something that happened and was announced. -/
structure Event where
  type : String
  target : Option EntityId
  data : Params
  /-- The reading of the clock when it was announced. -/
  timestamp : Float

/-- The value of a name in an event's data. -/
def Event.get? (e : Event) (key : String) : Option Value :=
  Dict.get? e.data key

/-- The text of a name in an event's data. -/
def Event.text? (e : Event) (key : String) : Option String :=
  (e.get? key).bind Value.text?

/-- The entity of a name in an event's data. -/
def Event.entity? (e : Event) (key : String) : Option EntityId :=
  (e.text? key).map EntityId.mk

/-- The number of a subscription. -/
abbrev SubscriptionId := Nat

/-- What became of the running modules of a scene. -/
inductive PoolEvent where
  /-- An instance was started for an entity. -/
  | started (instanceId : InstanceId) (entity : EntityId) (graph : GraphRef)
  /-- The modules of an entity were cancelled. -/
  | cancelled (entity : EntityId)
  /-- All modules were dropped. -/
  | cleared
  /-- An update began. -/
  | opened
  /-- An update ended, with these reports. -/
  | closed (reports : List ModuleReport)

/-- What an instance did at a node. -/
inductive NodeEvent where
  /-- The node was run. -/
  | entered (node : NodeId)
  /-- The timer of a wait was set. -/
  | armed (node : NodeId)
  /-- The node was left by a port. -/
  | left (node : NodeId) (port : String)
deriving DecidableEq

/-- An attack that is not resting, as one call of it makes it. -/
structure Blow where
  /-- The number of the attack. Attacks of different numbers cool down apart from each other. -/
  weapon : Nat
  attacker : EntityId
  cooldown : Float
  /-- The reading of the clock when the call began. -/
  time : Float

/-- What became of a blow. -/
inductive BlowEvent where
  /-- The attacker goes for the targets. -/
  | raised (blow : Blow)
  /-- The call is over, and it hit a target. -/
  | landed (blow : Blow)

/-- What became of the start logic of an entity. -/
inductive StartEvent where
  /-- A start event came to a component, and had it claim its start logic or not. -/
  | heard (event : Event) (entity : EntityId) (component : Component) (granted : Bool)
  /-- The entity was forgotten, so that its start logic may run anew. -/
  | forgotten (entity : EntityId)

/-- What became of a signal. -/
inductive SignalEvent where
  /-- The director heard of an event that sends signals, while the scene was played. -/
  | heard (event : Event)
  /-- A signal was sent without an event. -/
  | sent (signal : String)
  /-- A condition asked for a signal, and consumed it if it waited. -/
  | sought (signal : String) (found : Bool)

/-- An entry of the journal. -/
inductive Happening where
  /-- An event was announced. -/
  | emitted (event : Event)
  /-- A module variable was written. -/
  | wrote (instanceId : InstanceId) (entity : EntityId) (graph : GraphRef) (name : String)
    (value : Value)
  /-- An instance was given the variables that it starts with. -/
  | seeded (instanceId : InstanceId) (vars : Params)
  /-- Something became of the running modules. -/
  | ofPool (event : PoolEvent)
  /-- An instance did something at a node. -/
  | atNode (instanceId : InstanceId) (event : NodeEvent)
  /-- The evaluation of a rule began for an entity. -/
  | evaluated (entity : EntityId) (rule : Rule)
  /-- The director opened a new frame. -/
  | frameBegan
  /-- A component had its turn in an update, and its rule is run. -/
  | updated (entity : EntityId) (component : String)
  /-- A rule of the director requested an action. -/
  | requested (request : Request) (granted : Bool)
  /-- The director heard of a collision of two entities, and had it claim the pair or not. -/
  | met (event : Event) (first second : EntityId) (granted : Bool)
  /-- Something became of a blow. -/
  | ofBlow (event : BlowEvent)
  /-- Something became of the start logic of an entity. -/
  | ofStart (event : StartEvent)
  /-- Something became of a signal. -/
  | ofSignal (event : SignalEvent)
  /-- The spawner created an entity. -/
  | spawned (entity : EntityId)
  /-- A note of the host. -/
  | noted (note : Value)

/-- Whether the scene is played or edited. -/
inductive Mode where
  | playing
  | editing
deriving DecidableEq, Repr, Inhabited

instance : Named Mode where
  names := [("Runtime", .playing), ("Editor", .editing)]

/-- What the director of a scene remembers. -/
structure Director where
  settings : Settings := {}
  mode : Mode := .playing
  input : Option Input := none
  /-- The rules of the scene itself. -/
  rules : List Rule := []
  frame : Frame := {}
  /-- The components that claimed their start logic. -/
  started : List (EntityId × String) := []
  subscription : Option SubscriptionId := none

/-- All that changes while a scene runs. -/
structure World where
  store : Store := {}
  /-- The reading of the clock, in milliseconds. -/
  clock : Float := 0
  signals : PendingSignals := {}
  flags : SceneFlags := {}
  canvas : Option Canvas := none
  spawner : Option Spawner := none
  stage : Option Stage := none
  senses : Senses := {}
  library : Library := {}
  pool : Pool := {}
  /-- The director, unless modules run on their own. -/
  director : Option Director := none
  /-- When each attacker last hit, for each of the attacks that are told apart by number. -/
  lastHits : Dict (Nat × EntityId) Float := []
  /-- Events are to be shown in the log. -/
  debugEvents : Bool := false
  /-- Values that the host keeps for its own actions. -/
  board : Dict String Value := []
  /-- What happened, the latest first. -/
  journal : List Happening := []

/-- What an action or a condition is told about the occasion. -/
structure Situation where
  entity : EntityId
  eventData : Params := []
  input : Option Input := none
  /-- What the entity senses, in the cell that it had when the situation arose. -/
  awareness : Option AwarenessRef := none
  /-- The variables of the module that asks. -/
  scope : Option Params := none

/-- The time step of the occasion, in seconds. -/
def Situation.dt (s : Situation) : Float :=
  ((Dict.get? s.eventData "dt").bind Value.number?).getD 0.016

namespace World

/-- Adds an entry to the journal. -/
def record (w : World) (h : Happening) : World :=
  { w with journal := h :: w.journal }

/-- Empties the journal and gives what was in it, the earliest first. -/
def takeJournal (w : World) : List Happening × World :=
  (w.journal.reverse, { w with journal := [] })

/-- Cancels the modules of an entity. -/
def cancelModules (w : World) (id : EntityId) : World :=
  { w with pool := w.pool.cancel id }.record (.ofPool (.cancelled id))

/-- Drops all modules. -/
def clearModules (w : World) : World :=
  { w with pool := w.pool.clear }.record (.ofPool .cleared)

/-- Pins a value to the board. -/
def pin (w : World) (key : String) (v : Value) : World :=
  { w with board := Dict.insert w.board key v }

/-- The value that is pinned to the board, null if there is none. -/
def pinned (w : World) (key : String) : Value :=
  (Dict.get? w.board key).getD .null

/-- Changes the store. -/
def modifyStore (w : World) (f : Store → Store) : World :=
  { w with store := f w.store }

/-- Changes an entity of the store, if it is there. -/
def modifyEntity (w : World) (id : EntityId) (f : Entity → Entity) : World :=
  { w with store := w.store.modify id f }

/-- Changes the drawn object of an entity, if there is one. -/
def modifySprite (w : World) (id : EntityId) (f : Sprite → Sprite) : World :=
  { w with canvas := w.canvas.map (·.modify id f) }

/-- Changes the director. -/
def modifyDirector (w : World) (f : Director → Director) : World :=
  { w with director := w.director.map f }

/-- No entity that is in the store under this name is dead. -/
def isAlive (w : World) (id : EntityId) : Bool :=
  match w.store.get? id with
  | some e => e.isAlive
  | none => true

/-- The entity is in the store, active and alive. -/
def isLive (w : World) (id : EntityId) : Bool :=
  match w.store.get? id with
  | some e => e.isLive
  | none => false

/-- Takes down that a blow is raised. -/
def raise (w : World) (b : Blow) : World :=
  w.record (.ofBlow (.raised b))

/-- Has the attacker cool down after a blow, and takes down that it landed. -/
def land (w : World) (b : Blow) : World :=
  { w with lastHits := Dict.insert w.lastHits (b.weapon, b.attacker) b.time }.record
    (.ofBlow (.landed b))

/-- Sends a signal without an event. -/
def sendSignal (w : World) (signal : String) : World :=
  { w with signals := w.signals.push signal }.record (.ofSignal (.sent signal))

/-- Consumes a signal, if it waits, and takes down that it was asked for. -/
def seekSignal (w : World) (signal : String) : Bool × World :=
  let (found, signals) := w.signals.consume signal
  (found, { w with signals }.record (.ofSignal (.sought signal found)))

/-- The drawn object of an entity. -/
def sprite? (w : World) (id : EntityId) : Option Sprite :=
  w.canvas.bind (·.get? id)

/-- The entity is drawn or in the store. -/
def knows (w : World) (id : EntityId) : Bool :=
  (w.sprite? id).isSome || w.store.contains id

/-- Where an entity is: where it is drawn, or else where the store has it. -/
def positionOf? (w : World) (id : EntityId) : Option Point :=
  match w.sprite? id with
  | some s => some s.position
  | none => (w.store.get? id).map (·.position)

/-- Moves an entity, on the canvas and in the store. -/
def place (w : World) (id : EntityId) (p : Point) : World :=
  (w.modifySprite id ({ · with position := p })).modifyEntity id (·.moveTo p)

/-- The variable of the acting entity. -/
def entityValue? (w : World) (s : Situation) (name : String) : Option Value :=
  (w.store.get? s.entity).bind (·.value? name)

/-- What the acting entity senses. -/
def awareness? (w : World) (s : Situation) : Option Awareness :=
  s.awareness.map w.senses.read

end World

end SceneLogic
