import SceneLogic.Module.Lookup

/-!
# The pool of running modules

The pool holds the instances between updates. During an update it is empty: the instances at work
are in the hands of the update, what is started meanwhile waits in `pending`, and the entities
whose modules are cancelled meanwhile are listed in `removed`. `Pool.settle` puts all of it
together again.
-/

namespace SceneLogic

/-- The running modules of a scene. -/
structure Pool where
  instances : List Instance := []
  /-- What was started during the present update. -/
  pending : List Instance := []
  /-- The entities whose modules were cancelled during the present update. -/
  removed : List EntityId := []
  updating : Bool := false
  nextId : InstanceId := 1
  /-- The time that modules read. -/
  time : Float := 0
  /-- The number of nodes that an instance passes at most in one update. -/
  stepBound : Nat := 64

namespace Pool

/-- All instances that the pool knows at the moment. -/
def known (p : Pool) : List Instance :=
  p.instances ++ p.pending

/-- The instance of a number. -/
def find? (p : Pool) (id : InstanceId) : Option Instance :=
  p.known.find? fun i => i.id = id

/-- The status of an instance. -/
def status? (p : Pool) (id : InstanceId) : Option Status :=
  (p.find? id).map (·.status)

/-- A variable of an instance. -/
def valueOf? (p : Pool) (id : InstanceId) (name : String) : Option Value :=
  (p.find? id).bind fun i => Dict.get? i.vars name

/-- The instances of an entity. -/
def instancesFor (p : Pool) (entity : EntityId) : List InstanceId :=
  (p.known.filter fun i => i.entity = entity).map (·.id)

/-- The number of instances. -/
def count (p : Pool) : Nat :=
  p.instances.length + p.pending.length

/-- Takes in a new instance. -/
def add (p : Pool) (i : Instance) : Pool :=
  if p.updating then { p with pending := p.pending ++ [i] }
  else { p with instances := p.instances ++ [i] }

/-- Changes the first instance of a number. -/
def modifyFirst (id : InstanceId) (f : Instance → Instance) : List Instance → List Instance
  | [] => []
  | i :: rest => if i.id = id then f i :: rest else i :: modifyFirst id f rest

/-- Changes the instance of a number. -/
def modify (p : Pool) (id : InstanceId) (f : Instance → Instance) : Pool :=
  { p with
    instances := modifyFirst id f p.instances
    pending := if p.instances.any (·.id = id) then p.pending else modifyFirst id f p.pending }

/-- The instances of other entities. -/
def without (entity : EntityId) (instances : List Instance) : List Instance :=
  instances.filter fun i => i.entity ≠ entity

/-- Cancels the modules of an entity. -/
def cancel (p : Pool) (entity : EntityId) : Pool :=
  { p with
    removed := if p.updating then entity :: p.removed else p.removed
    instances := without entity p.instances
    pending := without entity p.pending }

/-- Drops all instances that the pool knows at the moment. -/
def clear (p : Pool) : Pool :=
  { p with instances := [], pending := [] }

/-- Opens an update: the clock of the modules moves on and the instances are taken out. A
positive time sets the clock; otherwise the time step is added to it. -/
def begin (p : Pool) (time dt : Float) : List Instance × Pool :=
  (p.instances,
    { p with
      time := if time > 0 then time else p.time + dt
      updating := true
      instances := [] })

/-- Closes an update with the instances that are to be kept. -/
def settle (p : Pool) (kept : List Instance) : Pool :=
  let present (i : Instance) : Bool := !p.removed.contains i.entity
  { p with
    instances := kept.filter present ++ p.pending.filter present
    pending := []
    removed := []
    updating := false }

end Pool

end SceneLogic
