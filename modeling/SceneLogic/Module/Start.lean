import SceneLogic.Error
import SceneLogic.World

/-!
# Starting modules

A module starts if its graph has an entry node. The new instance takes the next number, in any
case; if its graph has a cycle it is failed from the start and never runs. A refused start
changes nothing.
-/

namespace SceneLogic

/-- A new instance of a graph for an entity. -/
def Instance.ofGraph (id : InstanceId) (entity : EntityId) (cell : GraphRef) (g : Graph)
    (vars : Params) : Instance where
  id
  entity
  moduleId := g.id
  graph := cell
  cursor := g.entry
  status := if g.hasCycle then .failed ⟨.cycleDetected, g.entry⟩ else .running
  vars

namespace World

/-- Starts the graph in a cell for an entity. -/
def startGraph (w : World) (entity : EntityId) (cell : GraphRef) (overrides : Params) :
    Except ModuleFailure InstanceId × World :=
  let g := w.library.read cell
  match g.entryNode? with
  | none => (.error (.missingEntry g.id g.entry), w)
  | some _ =>
    let vars := startingVars g.defaults overrides (w.store.get? entity)
    let i := Instance.ofGraph w.pool.nextId entity cell g vars
    (.ok i.id,
      ({ w with pool := { w.pool.add i with nextId := w.pool.nextId + 1 } }.record
        (.seeded i.id vars)).record (.ofPool (.started i.id entity cell)))

/-- Starts a module of the library for an entity. -/
def startFromLibrary (w : World) (entity : EntityId) (moduleId : String) (overrides : Params) :
    Except ModuleFailure InstanceId × World :=
  match Dict.get? w.library.cellOf moduleId with
  | none => (.error (.unknownModule moduleId), w)
  | some cell => w.startGraph entity cell overrides

/-- Starts a module of the library for an entity that must be in the store. -/
def startModule (w : World) (entity : EntityId) (moduleId : String) (overrides : Params) :
    Except StartFailure InstanceId × World :=
  if w.store.contains entity then
    match w.startFromLibrary entity moduleId overrides with
    | (.ok id, w) => (.ok id, w)
    | (.error e, w) => (.error (.flow e), w)
  else (.error (.unknownEntity entity.name), w)

/-! ## What spawners do -/

/-- Creates an entity as its spawner names it, and takes that down. There is none without a
spawner. -/
def spawn (w : World) (request : SpawnOrder) : Option (EntityId × World) :=
  w.spawner.map fun s =>
    let id := s.nextId request
    let spawned :=
      match s.kind with
      | .recording => s.spawned ++ [request]
      | .passing => s.spawned
    (id,
      { w with
        store := w.store.insert (request.entity id)
        spawner := some { s with next := s.next + 1, spawned } }.record (.spawned id))

/-- Has the spawner remove an entity. The answer says whether it was there. -/
def despawn (w : World) (id : EntityId) : Option (Bool × World) :=
  w.spawner.map fun s =>
    let removed :=
      match s.kind with
      | .recording => s.removed ++ [id]
      | .passing => s.removed
    (w.store.contains id,
      { w with store := w.store.erase id, spawner := some { s with removed } })

/-- Has the spawner start a module. The answer says whether it agreed. -/
def startBySpawner (w : World) (entity : EntityId) (moduleId : String) (overrides : Params) :
    Option (Bool × World) :=
  w.spawner.map fun s =>
    match s.kind with
    | .recording =>
      let started := s.started ++ [⟨entity, moduleId, overrides⟩]
      (true, { w with spawner := some { s with started } })
    | .passing =>
      if s.attached then
        match w.startModule entity moduleId overrides with
        | (.ok _, w) => (true, w)
        | (.error _, w) => (false, w)
      else (false, w)

end World

end SceneLogic
