import SceneLogic.Module.Library

/-!
# Running modules

An instance is a module at work for one entity: the node it stands on, the timers of a block that
waits, and its own variables.
-/

namespace SceneLogic

/-- The number of an instance. -/
abbrev InstanceId := Nat

/-- Why a running module failed. -/
inductive FaultCode where
  | cycleDetected
  | nodeNotFound
  | invalidNode
  | flowFailed
  /-- A code that the designer gave to a stop node. -/
  | designer (code : String)
deriving DecidableEq, Repr

/-- The text of a code. -/
def FaultCode.text : FaultCode → String
  | .cycleDetected => "CycleDetected"
  | .nodeNotFound => "NodeNotFound"
  | .invalidNode => "InvalidNode"
  | .flowFailed => "FlowFailed"
  | .designer code => code

/-- A failure of a running module, and the node that caused it. -/
structure Fault where
  code : FaultCode
  node : NodeId
deriving DecidableEq, Repr

/-- How far an instance is. -/
inductive Status where
  | running
  | success
  | failed (error : Fault)
deriving DecidableEq, Repr

/-- The name of a status. -/
def Status.name : Status → String
  | .running => "Running"
  | .success => "Success"
  | .failed _ => "Failed"

/-- Nothing more happens in this status. -/
def Status.isTerminal : Status → Bool
  | .running => false
  | _ => true

/-- The end of an instance, as it is reported. -/
structure ModuleReport where
  instanceId : InstanceId
  entity : EntityId
  moduleId : String
  /-- The failure, unless the module succeeded. -/
  error : Option Fault
deriving DecidableEq, Repr

/-- What a block that waits remembers. -/
inductive BlockState where
  /-- The seconds that remain. -/
  | wait (remaining : Float)
  /-- The reading of the clock at which it began. -/
  | animation (startedAt : Float)

/-- A module at work for an entity. -/
structure Instance where
  id : InstanceId
  entity : EntityId
  moduleId : String
  graph : GraphRef
  /-- The node to run next. -/
  cursor : NodeId
  status : Status := .running
  /-- The state of the blocks that wait. -/
  blocks : Dict NodeId BlockState := []
  /-- The values that change tests saw last. -/
  snapshots : Params := []
  vars : Params

namespace Instance

/-- The report of an instance that came to an end. -/
def report (i : Instance) (error : Option Fault) : ModuleReport :=
  ⟨i.id, i.entity, i.moduleId, error⟩

/-- The report of an instance in a terminal status. -/
def terminalResult? (i : Instance) : Option ModuleReport :=
  match i.status with
  | .running => none
  | .success => some (i.report none)
  | .failed e => some (i.report (some e))

/-- The instance has a variable of the name. -/
def hasVariable (i : Instance) (name : String) : Bool :=
  Dict.contains i.vars name

end Instance

/-- The variables that a new instance starts with: for each declared name the override, else the
entity's variable, else the default; then the other overrides. -/
def startingVars (defaults overrides : Params) (entity : Option Entity) : Params :=
  let declared : Params := defaults.map fun (name, default) =>
    (name, (Dict.get? overrides name <|> entity.bind (·.value? name)).getD default)
  overrides.foldl
    (fun vars v => if Dict.contains vars v.1 then vars else Dict.insert vars v.1 v.2) declared

end SceneLogic
