import SceneLogic.Machine
import SceneLogic.Modifier
import SceneLogic.Module.Start

/-!
# Running modules

An update lets every instance of the pool go on, one after the other. An instance runs nodes
until it ends, a block waits, or the step bound is reached. Blocks other than the built-in ones
are registered actions.

Actions may start and cancel modules while an update is under way. `Pool` says what becomes of
those; here they are only taken into account in that an instance whose entity was cancelled does
not go on.
-/

namespace SceneLogic

/-- The situation of an entity. A director brings in what the entity senses and the input. -/
def World.situationFor (w : World) (entity : EntityId) (data : Params) : Situation × World :=
  match w.director with
  | none => ({ entity, eventData := data }, w)
  | some d =>
    let (cell, senses) := w.senses.attend entity
    ({ entity, eventData := data, input := d.input, awareness := some cell }, { w with senses })

namespace Instance

/-- Where the instance looks things up. -/
def lookup (i : Instance) (w : World) (s : Situation) : Lookup where
  entity := i.entity
  store := w.store
  canvas := w.canvas
  input := s.input
  time := w.pool.time
  moduleVars := some i.vars

/-- What the condition nodes of the instance consult. -/
def evidence (i : Instance) (w : World) (s : Situation) : Evidence where
  lookup := i.lookup w s
  eventData := s.eventData
  awareness := w.awareness? s

/-- Has an action performed for the instance. -/
def perform (i : Instance) (s : Situation) (name : String) (params : Params) : Script Unit :=
  Script.act name { s with scope := some i.vars } params

/-! ## Variables -/

/-- The entity of the instance has a variable of the name. -/
def entityHas (i : Instance) (w : World) (name : String) : Bool :=
  ((w.store.get? i.entity).map (·.hasVariable name)).getD false

/-- The instance, and not its entity, has a variable of the name. -/
def owns (i : Instance) (w : World) (name : String) : Bool :=
  !i.entityHas w name && i.hasVariable name

end Instance

/-- What the world takes over of a write to a module variable: the default of its graph, and an
entry in the journal. -/
def World.publishWrite (w : World) (id : InstanceId) (entity : EntityId) (graph : GraphRef)
    (name : String) (v : Value) : World :=
  { w with library := w.library.modifyCell graph (·.setDefault name v) }.record
    (.wrote id entity graph name v)

namespace Instance

/-- Writes a variable of the instance. -/
def write (i : Instance) (name : String) (v : Value) : Script Instance :=
  .read fun w =>
    .write (w.publishWrite i.id i.entity i.graph name v)
      (.done { i with vars := Dict.insert i.vars name v })

/-- Assigns a variable: the instance's own, if its entity has none of the name, and else the
entity's, which is created if need be. Without the entity it becomes the instance's. -/
def assign (i : Instance) (name : String) (v : Value) : Script Instance :=
  .read fun w =>
    if i.owns w name then i.write name v
    else if w.store.contains i.entity then
      .write (w.modifyEntity i.entity (·.assign name v)) (.done i)
    else i.write name v

/-- An operand: a text that names a variable stands for its value. -/
def operandValue (l : Lookup) (v : Value) : Value :=
  match v with
  | .text name => if (l.valueOf name).isNull then v else l.valueOf name
  | _ => v

/-- The value that a modification of a variable leads to. -/
def modifiedValue (l : Lookup) (name : String) (params : Params) : Value :=
  match (params.text? "operation").bind Modifier.ofName? with
  | none => params.valueOf "value"
  | some m =>
    let a :=
      match (Dict.get? params "operand1").filter fun v => !v.isNull with
      | some v => operandValue l v
      | none => l.valueOf name
    let b :=
      ((Dict.get? params "operand2" <|> Dict.get? params "value").map (operandValue l)).getD
        .null
    m.applyValue a b

/-- The parameters of a plain assignment that stands for a modification. -/
def plainAssignment (params : Params) (v : Value) : Params :=
  Dict.insert (Dict.erase (Dict.erase (Dict.erase params "operation") "operand1") "operand2")
    "value" v

/-- Sets or modifies a variable: the instance's own, or else the entity's by way of the
registered action. -/
def setVar (i : Instance) (s : Situation) (params : Params) : Script Instance :=
  match params.text? "name" with
  | none => (i.perform s "SetVar" params).bind fun _ => .done i
  | some name =>
    .read fun w =>
      let v := modifiedValue (i.lookup w s) name params
      if i.owns w name then i.write name v
      else (i.perform s "SetVar" (plainAssignment params v)).bind fun _ => .done i

end Instance

/-! ## Blocks -/

/-- What comes of running a node. -/
inductive NodeOutcome where
  /-- The node is left by a port. -/
  | leave (port : String)
  /-- The instance waits at the node. -/
  | stay
  /-- The instance ends. -/
  | finish (error : Option FaultCode)

namespace Instance

/-- Runs an instant block. Its name counts without the blanks around it. -/
def runInstant (i : Instance) (s : Situation) (block : String) (params : Params) :
    Script (NodeOutcome × Instance) :=
  let name := Text.trim block
  if name = "" then .done (.finish (some .flowFailed), i)
  else if name = "SetVariable" then
    match params.text? "target" with
    | none => .done (.finish (some .flowFailed), i)
    | some target =>
      (i.assign target (params.valueOf "value")).bind fun i => .done (.leave "out", i)
  else if name = "SetVar" then (i.setVar s params).bind fun i => .done (.leave "out", i)
  else (i.perform s name params).bind fun _ => .done (.leave "out", i)

/-- The seconds that a wait asks for. -/
def waitSeconds (params : Params) : Float :=
  (params.number? "seconds" <|> params.number? "duration" <|> params.number? "time").getD 0

/-- A wait that runs sets its timer: it has none yet, and there is something to wait for. -/
def armsWait (i : Instance) (node : NodeId) (params : Params) : Bool :=
  match Dict.get? i.blocks node with
  | some (.wait _) => false
  | _ => !(waitSeconds params ≤ 0)

/-- Runs a wait. The seconds are read when it begins; from then on the time steps count. -/
def runWait (i : Instance) (node : NodeId) (params : Params) (dt : Float) :
    NodeOutcome × Instance :=
  match Dict.get? i.blocks node with
  | some (.wait remaining) =>
    let remaining := remaining - dt
    if remaining ≤ 0 then (.leave "out", { i with blocks := Dict.erase i.blocks node })
    else (.stay, { i with blocks := Dict.insert i.blocks node (.wait remaining) })
  | _ =>
    let seconds := waitSeconds params
    if seconds ≤ 0 then (.leave "out", i)
    else (.stay, { i with blocks := Dict.insert i.blocks node (.wait seconds) })

/-- Plays an animation: waits until the clock has gone on by its duration. -/
def runAnimation (i : Instance) (node : NodeId) (params : Params) (now : Float) :
    NodeOutcome × Instance :=
  let (started, i) :=
    match Dict.get? i.blocks node with
    | some (.animation startedAt) => (startedAt, i)
    | _ => (now, { i with blocks := Dict.insert i.blocks node (.animation now) })
  let seconds := (params.number? "seconds" <|> params.number? "duration").getD 0.5
  if (now - started) / 1000 ≥ seconds then
    (.leave "out", { i with blocks := Dict.erase i.blocks node })
  else (.stay, i)

/-- The square of the distance within which a walk is over. -/
def arrivalSq : Float := 25

/-- Walks the entity to a point, one step in each update, until the store has it there. -/
def runMoveTo (i : Instance) (s : Situation) (params : Params) :
    Script (NodeOutcome × Instance) :=
  let goal : Point := ⟨(params.number? "x").getD 0, (params.number? "y").getD 0⟩
  let speed := (params.number? "speed").getD 100
  .read fun w =>
    if !w.store.contains i.entity then .done (.finish (some .flowFailed), i)
    else
      (i.perform s "MoveToward"
          [("x", .float goal.x), ("y", .float goal.y), ("speed", .float speed)]).bind fun _ =>
        .read fun w =>
          match w.store.get? i.entity with
          | none => .done (.finish (some .flowFailed), i)
          | some e =>
            .done (if e.position.distanceSq goal ≤ arrivalSq then .leave "out" else .stay, i)

/-- Runs a block that may wait. -/
def runAsync (i : Instance) (s : Situation) (node : NodeId) (block : String) (params : Params)
    (dt : Float) : Script (NodeOutcome × Instance) :=
  if block = "Wait" then
    (if i.armsWait node params then Script.record (.atNode i.id (.armed node)) else .done ()).bind
      fun _ => .done (i.runWait node params dt)
  else if block = "MoveTo" then i.runMoveTo s params
  else if block = "PlayAnimation" then
    .read fun w => .done (i.runAnimation node params w.clock)
  else .done (.finish (some .flowFailed), i)

/-! ## Nodes -/

/-- The port by which a switch is left: the one of the first case that the value selects. -/
def chosenPort (v : Value) (cases : List SwitchCase) : String :=
  match cases.find? fun c => v.selects c.value with
  | some c => c.port
  | none => "default"

/-- The code of a stop node that fails its module. -/
def stopCode (errorCode : Option String) : FaultCode :=
  .designer ((errorCode.filter fun c => !c.isEmpty).getD "Failed")

/-- Runs a node. -/
def runNode (i : Instance) (s : Situation) (dt : Float) (g : Graph) (node : Node) :
    Script (NodeOutcome × Instance) :=
  match node.kind with
  | .entry => .done (.leave "out", i)
  | .merge => .done (.leave "out", i)
  | .stop .success _ => .done (.finish none, i)
  | .stop .failed code => .done (.finish (some (stopCode code)), i)
  | .condition left right test =>
    .read fun w =>
      let (passed, i) := i.evaluate g node.id left right test (i.evidence w s)
      .done (.leave (if passed then "true" else "false"), i)
  | .switch name cases =>
    .read fun w =>
      let l := i.lookup w s
      let v :=
        match g.feed? node.id "value" with
        | some source => l.source source
        | none => l.valueOf name
      .done (.leave (chosenPort v cases), i)
  | .flow mode block params =>
    .read fun w =>
      let inputs := (i.lookup w s).ports g node.id params
      match mode.effective block with
      | .instant => i.runInstant s block inputs
      | .async => i.runAsync s node.id block inputs dt
  | .value _ => .done (.finish (some .invalidNode), i)

/-- Runs the node that the instance stands on, and takes that down. -/
def visit (i : Instance) (s : Situation) (dt : Float) (g : Graph) (node : Node) :
    Script (NodeOutcome × Instance) :=
  (Script.record (.atNode i.id (.entered node.id))).bind fun _ =>
    (i.runNode s dt g node).bind fun (outcome, i) =>
      match outcome with
      | .leave port =>
        (Script.record (.atNode i.id (.left node.id port))).bind fun _ => .done (outcome, i)
      | _ => .done (outcome, i)

/-- Runs nodes until the instance ends, waits, or has run so many. The answer has the report of
an instance that ended. -/
def runSteps (s : Situation) (dt : Float) : Nat → Instance →
    Script (Option ModuleReport × Instance)
  | 0, i => .done (none, i)
  | steps + 1, i =>
    .read fun w =>
      let g := w.library.read i.graph
      match g.find? i.cursor with
      | none => .done (some (i.report (some ⟨.nodeNotFound, i.cursor⟩)), i)
      | some node =>
        (i.visit s dt g node).bind fun (outcome, i) =>
          match outcome with
          | .stay => .done (none, i)
          | .finish error => .done (some (i.report (error.map (⟨·, node.id⟩))), i)
          | .leave port =>
            match g.next? node.id port with
            | none => .done (some (i.report none), i)
            | some next => runSteps s dt steps { i with cursor := next }

/-- Lets an instance go on for one update. -/
def step (i : Instance) (dt : Float) : Script (Option ModuleReport × Instance) :=
  .read fun w =>
    let (s, w) := w.situationFor i.entity [("dt", .float dt)]
    .write w (runSteps s dt w.pool.stepBound i)

end Instance

/-! ## Updates -/

/-- Lets instances go on, one after the other. Gives the reports of those that ended and the
instances that did not. -/
def stepAll (dt : Float) : List Instance → Script (List ModuleReport × List Instance)
  | [] => .done ([], [])
  | i :: rest =>
    .read fun w =>
      if w.pool.removed.contains i.entity then stepAll dt rest
      else
        match i.terminalResult? with
        | some result => (stepAll dt rest).bind fun (results, kept) =>
            .done (result :: results, kept)
        | none =>
          (i.step dt).bind fun (ended, i) =>
            (stepAll dt rest).bind fun (results, kept) =>
              match ended with
              | some result => .done (result :: results, kept)
              | none => .done (results, i :: kept)

/-- Updates all modules and gives the reports of those that ended. -/
def updateModules (time dt : Float) : Script (List ModuleReport) :=
  .read fun w =>
    let (current, pool) := w.pool.begin time dt
    .write ({ w with pool }.record (.ofPool .opened))
      ((stepAll dt current).bind fun (results, kept) =>
        .read fun w =>
          .write ({ w with pool := w.pool.settle kept }.record (.ofPool (.closed results)))
            (.done results))

/-- Writes a variable of an instance from outside. The answer says whether it was found. -/
def World.setModuleVariable (w : World) (id : InstanceId) (name : String) (v : Value) :
    Bool × World :=
  match w.pool.find? id with
  | none => (false, w)
  | some i =>
    let pool := w.pool.modify id fun i => { i with vars := Dict.insert i.vars name v }
    (true, ({ w with pool }).publishWrite id i.entity i.graph name v)

end SceneLogic
