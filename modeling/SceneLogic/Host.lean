import SceneLogic.Store

/-!
# The host's side of a scene

What surrounds a scene and is kept by its host: the input devices, the drawn objects, the spawner
that creates and removes entities, and the stage that changes scenes. All but the input may be
missing.
-/

namespace SceneLogic

/-! ## Input -/

/-- A snapshot of the input devices. -/
structure Input where
  /-- The keys that are held down, each once. -/
  keys : List String := []
  mouse : Point := Point.origin
  screen : Point := Point.origin

/-- A snapshot with the keys of a list, whatever repetitions that has. -/
def Input.ofKeys (keys : List String) (mouse screen : Point) : Input :=
  ⟨keys.eraseDups, mouse, screen⟩

/-- The key is held down. -/
def Input.isDown (i : Input) (key : String) : Bool :=
  i.keys.contains key

/-! ## Drawn objects -/

/-- An object as it is drawn. -/
structure Sprite where
  position : Point
  rotation : Float := 0
  scaleX : Float := 1
  scaleY : Float := 1
  visible : Bool := true
deriving DecidableEq

/-- The drawn objects, by the entity that each stands for. -/
structure Canvas where
  sprites : Dict EntityId Sprite := []

namespace Canvas

/-- The object of an entity. -/
def get? (c : Canvas) (id : EntityId) : Option Sprite :=
  Dict.get? c.sprites id

/-- Draws a fresh object for an entity, in the place of the one that it replaces. -/
def draw (c : Canvas) (id : EntityId) (p : Point) : Canvas :=
  ⟨Dict.insert c.sprites id { position := p }⟩

/-- Draws fresh objects for all entities of a store. -/
def drawAll (c : Canvas) (s : Store) : Canvas :=
  s.toList.foldl (fun c e => c.draw e.id e.position) c

/-- Takes an object off the canvas. -/
def erase (c : Canvas) (id : EntityId) : Canvas :=
  ⟨Dict.erase c.sprites id⟩

/-- Changes the object of an entity, if there is one. -/
def modify (c : Canvas) (id : EntityId) (f : Sprite → Sprite) : Canvas :=
  ⟨Dict.modify c.sprites id f⟩

/-- The entities that have objects, in order. -/
def ids (c : Canvas) : List EntityId :=
  Dict.keys c.sprites

end Canvas

/-! ## Spawning -/

/-- What is to be spawned. -/
structure SpawnOrder where
  template : Option String
  position : Point
  role : Option String
  owner : Option EntityId
  vars : Params

/-- The entity that a request asks for. -/
def SpawnOrder.entity (r : SpawnOrder) (id : EntityId) : Entity :=
  r.vars.foldl (fun e v => e.assign v.1 v.2)
    { id, x := r.position.x, y := r.position.y, role := r.role }

/-- A request to start a module, as a spawner takes it down. -/
structure StartOrder where
  entity : EntityId
  moduleId : String
  overrides : Params

/-- How a spawner names entities and what it does about modules. -/
inductive SpawnerKind where
  /-- Names entities by a number alone, takes down all requests, and starts no module. -/
  | recording
  /-- Names entities after their template and passes module starts on to the director. -/
  | passing
deriving DecidableEq, Repr

/-- The part of a host that creates and removes entities. -/
structure Spawner where
  kind : SpawnerKind
  /-- The number of the next entity. -/
  next : Nat := 1
  /-- The director that module starts are passed on to is there. -/
  attached : Bool := false
  spawned : List SpawnOrder := []
  removed : List EntityId := []
  started : List StartOrder := []

namespace Spawner

/-- The name of the next entity. -/
def nextId (s : Spawner) (r : SpawnOrder) : EntityId :=
  let stem :=
    match s.kind with
    | .recording => "spawn"
    | .passing => r.template.getD "spawn"
  ⟨stem ++ "-" ++ toString s.next⟩

end Spawner

/-! ## Scene changes -/

/-- The part of a host that changes scenes. -/
structure Stage where
  current : String
  /-- The scenes that were started, with their data, oldest first. -/
  history : List (String × Value) := []

/-- Starts a scene. -/
def Stage.start (s : Stage) (name : String) (data : Value) : Stage :=
  ⟨name, s.history ++ [(name, data)]⟩

end SceneLogic
