import SceneLogic.Error
import SceneLogic.Module.Graph
import SceneLogic.Ron.Document
import SceneLogic.Settings

/-!
# Definitions of a scene

Rules, modules and entities are written in RON. This module reads each of them, and collects what
several texts define. Ids of modules and of entities must not clash, within a text or between
texts.
-/

namespace SceneLogic

namespace Definitions

open Ron Reader

/-- Reads the name of an alternative. -/
def named {α : Type} [Named α] : Reader α :=
  choice fun name => (Named.names.find? name).map pure

/-! ## Values -/

/-- Reads a point. -/
def point : Reader Point :=
  record "Vec2" ["x", "y"] Point.origin fun name =>
    if name = "x" then into float fun p x => { p with x }
    else if name = "y" then into float fun p y => { p with y }
    else none

/-- Reads a value. The number bounds its nesting. -/
def valueWithin : Nat → Reader Value
  | 0 => refuse
  | n + 1 => choice fun name =>
    if name = "Null" then some (return .null)
    else if name = "Bool" then some (return .bool (← payload bool))
    else if name = "Int" then some (return .int (← payload int64))
    else if name = "Float" then some (return .float (← payload float))
    else if name = "String" then some (return .text (← payload text))
    else if name = "Vec2" then some (return .point (← payload point))
    else if name = "List" then some (return .list (← payload (list (valueWithin n))))
    else if name = "Map" then
      some (return .map (Dict.ofList (← payload (map text (valueWithin n)))))
    else none

/-- Reads a value. -/
def value : Reader Value := valueWithin (nestingLimit + 1)

/-- Reads parameters. Of a name that comes twice the later value counts, in the first place. -/
def params : Reader Params := return Dict.ofList (← map text value)

/-! ## Rules -/

/-- The second name that the kind of an action or a condition has. -/
def kindAlias : List (String × String) :=
  [("type", "kind")]

/-- Reads a requested action. -/
def actionCall : Reader ActionCall :=
  aliasedRecord kindAlias "RuleAction" ["kind"] { kind := "" } fun name =>
    if name = "kind" then into text fun a kind => { a with kind }
    else if name = "params" then into params fun a params => { a with params }
    else none

/-- Reads a condition of a rule. -/
def conditionCall : Reader ConditionCall :=
  aliasedRecord kindAlias "RuleCondition" ["kind"] { kind := "" } fun name =>
    if name = "kind" then into text fun c kind => { c with kind }
    else if name = "params" then into params fun c params => { c with params }
    else if name = "then" then
      into (list actionCall) fun c consequence => { c with consequence }
    else none

/-- Reads a rule. -/
def rule : Reader Rule :=
  record "Rule" ["event"] { event := "" } fun name =>
    if name = "event" then into text fun r event => { r with event }
    else if name = "event_params" then
      into (option params) fun r eventParams => { r with eventParams }
    else if name = "conditions" then
      into (list conditionCall) fun r conditions => { r with conditions }
    else if name = "condition_logic" then into named fun r logic => { r with logic }
    else if name = "actions" then into (list actionCall) fun r actions => { r with actions }
    else if name = "else_actions" then
      into (list actionCall) fun r otherwise => { r with otherwise }
    else none

/-- Reads a component. -/
def component : Reader Component :=
  record "LogicComponent" ["id", "rule"] { id := "", rule := { event := "" } } fun name =>
    if name = "id" then into text fun c id => { c with id }
    else if name = "enabled" then into bool fun c enabled => { c with enabled }
    else if name = "rule" then into rule fun c rule => { c with rule }
    else none

/-! ## Entities -/

/-- Reads a variable. Its value is taken as it is, whether it fits the kind or not. -/
def variableDef : Reader Variable :=
  record "Variable" ["name", "value", "kind"] ⟨"", .null, .text⟩ fun name =>
    if name = "name" then into text fun x name => { x with name }
    else if name = "value" then into value fun x value => { x with value }
    else if name = "kind" then into named fun x kind => { x with kind }
    else none

/-- Reads an entity. -/
def entity : Reader Entity :=
  record "Entity" ["id"] { id := ⟨""⟩, name := "" } fun name =>
    if name = "id" then into text fun e id => { e with id := ⟨id⟩ }
    else if name = "name" then into text fun e name => { e with name }
    else if name = "x" then into float fun e x => { e with x }
    else if name = "y" then into float fun e y => { e with y }
    else if name = "z" then into float fun e z => { e with z }
    else if name = "rotation" then into float fun e rotation => { e with rotation }
    else if name = "scale_x" then into float fun e scaleX => { e with scaleX }
    else if name = "scale_y" then into float fun e scaleY => { e with scaleY }
    else if name = "role" then into (option text) fun e role => { e with role }
    else if name = "tag" then into (option text) fun e tag => { e with tag }
    else if name = "active" then into bool fun e active => { e with active }
    else if name = "variables" then
      into (list variableDef) fun e vars => { e with vars }
    else if name = "components" then
      into (list component) fun e components => { e with components }
    else none

/-! ## Modules -/

/-- Reads one side of a comparison. -/
def operand : Reader Operand :=
  choice fun name =>
    if name = "Variable" then some (return .variable (← payload text))
    else if name = "Literal" then some (return .literal (← payload value))
    else none

/-- Reads the target and the distance of a distance test. -/
def distanceTest : Reader (String × Float) :=
  variantRecord ["target_id", "distance"] ("", 0) fun name =>
    if name = "target_id" then into text fun t target => (target, t.2)
    else if name = "distance" then into float fun t distance => (t.1, distance)
    else none

/-- Reads a record that has a single text. -/
def singleText (key : String) : Reader String :=
  variantRecord [key] "" fun name => if name = key then into text fun _ t => t else none

/-- Reads the test of a condition node. -/
def test : Reader Test :=
  choice fun name =>
    if name = "InputKey" then some (return .inputKey (← singleText "key"))
    else if name = "CompareTag" then some (return .compareTag (← singleText "tag"))
    else if name = "SignalKey" then some (return .signalKey (← singleText "key"))
    else if name = "DistanceLessThan" then
      some do
        let (target, distance) ← distanceTest
        return .distanceLessThan target distance
    else if name = "DistanceGreaterThan" then
      some do
        let (target, distance) ← distanceTest
        return .distanceGreaterThan target distance
    else (Test.plainNames.find? name).map pure

/-- Reads a condition node. -/
def conditionNode : Reader NodeKind := do
  let (left, right, test) ←
    record "ConditionNode" ["condition"]
      ((none, none, .equals) : Option Operand × Option Operand × Test) fun name =>
      if name = "left" then into (option operand) fun c left => (left, c.2)
      else if name = "right" then into (option operand) fun c right => (c.1, right, c.2.2)
      else if name = "condition" then into test fun c test => (c.1, c.2.1, test)
      else none
  return .condition left right test

/-- Reads a case of a switch. -/
def switchCase : Reader SwitchCase :=
  record "SwitchCase" ["value", "id"] ⟨.null, ""⟩ fun name =>
    if name = "value" then into value fun c value => { c with value }
    else if name = "id" then into text fun c port => { c with port }
    else none

/-- Reads a switch node. -/
def switchNode : Reader NodeKind := do
  let (name, cases) ←
    record "SwitchNode" ["variable_name"] (("", []) : String × List SwitchCase) fun name =>
      if name = "variable_name" then into text fun s name => (name, s.2)
      else if name = "cases" then into (list switchCase) fun s cases => (s.1, cases)
      else none
  return .switch name cases

/-- Reads a flow node. -/
def flowNode : Reader NodeKind := do
  let (mode, block, inputs) ←
    record "FlowNode" ["block_type"] ((.instant, "", []) : FlowMode × String × Params) fun name =>
      if name = "flow_type" then into named fun f mode => (mode, f.2)
      else if name = "block_type" then into text fun f block => (f.1, block, f.2.2)
      else if name = "params" then into params fun f inputs => (f.1, f.2.1, inputs)
      else none
  return .flow mode block inputs

/-- Reads the source of a value node. -/
def source : Reader Source :=
  choice fun name =>
    if name = "Literal" then some (return .literal (← payload value))
    else if name = "Variable" then some (return .variable (← singleText "name"))
    else if name = "Property" then
      some do
        let (target, property) ←
          variantRecord ["property"] ("self", "") fun name =>
            if name = "target_id" then into text fun p target => (target, p.2)
            else if name = "property" then into text fun p property => (p.1, property)
            else none
        return .property target property
    else if name = "Mouse" then
      some do
        let (axis, mode) ←
          variantRecord [] ((none, .absolute) : Option Axis × MouseMeasure) fun name =>
            if name = "axis" then into (option named) fun m axis => (axis, m.2)
            else if name = "mode" then into named fun m mode => (m.1, mode)
            else none
        return .mouse axis mode
    else none

/-- Reads what a node does. -/
def nodeKind : Reader NodeKind :=
  choice fun name =>
    if name = "Entry" then some (return .entry)
    else if name = "Merge" then some (return .merge)
    else if name = "Stop" then
      some do
        let (result, errorCode) ←
          variantRecord [] ((.success, none) : Ending × Option String) fun name =>
            if name = "result" then into named fun s result => (result, s.2)
            else if name = "error_code" then into (option text) fun s code => (s.1, code)
            else none
        return .stop result errorCode
    else if name = "Condition" then some (payload conditionNode)
    else if name = "Switch" then some (payload switchNode)
    else if name = "Flow" then some (payload flowNode)
    else if name = "Value" then some (return .value (← payload source))
    else none

/-- Reads a node. -/
def node : Reader Node :=
  record "Node" ["id", "kind"] ⟨"", .entry⟩ fun name =>
    if name = "id" then into text fun n id => { n with id }
    else if name = "kind" then into nodeKind fun n kind => { n with kind }
    else none

/-- Reads an edge. -/
def edge : Reader Edge :=
  choice fun name =>
    if name = "Flow" then
      some do
        let (source, port, target, targetPort) ←
          variantRecord ["from_node_id", "from_port", "to_node_id"] ("", "", "", "in") fun name =>
            if name = "from_node_id" then into text fun e v => (v, e.2)
            else if name = "from_port" then into text fun e v => (e.1, v, e.2.2)
            else if name = "to_node_id" then into text fun e v => (e.1, e.2.1, v, e.2.2.2)
            else if name = "to_port" then into text fun e v => (e.1, e.2.1, e.2.2.1, v)
            else none
        return .flow source port target targetPort
    else if name = "Value" then
      some do
        let (source, target, targetPort) ←
          variantRecord ["from_node_id", "to_node_id", "to_port"] ("", "", "") fun name =>
            if name = "from_node_id" then into text fun e v => (v, e.2)
            else if name = "to_node_id" then into text fun e v => (e.1, v, e.2.2)
            else if name = "to_port" then into text fun e v => (e.1, e.2.1, v)
            else none
        return .value source target targetPort
    else none

/-- Reads a declared variable of a module. -/
def moduleVariable : Reader (String × Value) :=
  record "ModuleVariable" ["name"] ("", .null) fun name =>
    if name = "name" then into text fun v name => (name, v.2)
    else if name = "value" then into value fun v value => (v.1, value)
    else none

/-- Reads a module. -/
def graph : Reader Graph :=
  record "ModuleGraph" ["id", "entry_node_id"] default fun name =>
    if name = "id" then into text fun g id => { g with id }
    else if name = "entry_node_id" then into text fun g entry => { g with entry }
    else if name = "nodes" then into (list node) fun g nodes => { g with nodes }
    else if name = "edges" then into (list edge) fun g edges => { g with edges }
    else if name = "variables" then
      into (list moduleVariable) fun g vars => { g with vars }
    else none

/-! ## Settings -/

/-- Reads the settings of a director. -/
def settings : Reader Settings :=
  record "LogicConfig" [] {} fun name =>
    if name = "frame_threshold_ms" then
      into float fun s frameThreshold => { s with frameThreshold }
    else if name = "max_steps_per_tick" then into natural fun s maxSteps => { s with maxSteps }
    else if name = "log_module_failures" then
      into bool fun s logFailures => { s with logFailures }
    else if name = "debug_events" then into bool fun s debugEvents => { s with debugEvents }
    else if name = "ground_tags" then
      into (list text) fun s groundTags => { s with groundTags }
    else none

end Definitions

/-- Reads the settings in a text. -/
def Settings.ofText? (text : String) : Except LoadFailure Settings :=
  match Ron.Reader.whole Definitions.settings text with
  | some s => .ok s
  | none => .error .malformed

/-! ## Collecting -/

/-- The definitions of a scene. -/
structure Definitions where
  rules : List Rule := []
  modules : Dict String Graph := []
  entities : Dict EntityId Entity := []

namespace Definitions

/-- What one text defines, in its order. -/
structure Sheet where
  rules : List Rule := []
  modules : List Graph := []
  entities : List Entity := []

/-- Reads all that a text defines. -/
def sheet : Ron.Reader Sheet :=
  Ron.Reader.record "SceneFile" [] {} fun name =>
    if name = "rules" then Ron.Reader.into (Ron.Reader.list rule) fun s rules => { s with rules }
    else if name = "modules" then
      Ron.Reader.into (Ron.Reader.list graph) fun s modules => { s with modules }
    else if name = "entities" then
      Ron.Reader.into (Ron.Reader.list entity) fun s entities => { s with entities }
    else none

end Definitions

/-- Takes over definitions, step by step. What is taken over when a step fails stays. -/
abbrev Loading := ExceptT LoadFailure (StateM Definitions)

namespace Definitions

/-! The items of a text come with what they are called, `id`, and with the failure that a name
causes that is called twice. -/

section

variable {α β κ : Type} [DecidableEq κ]

/-- Refuses items whose ids are taken. -/
def refuseTaken (taken : Dict κ β) (id : α → κ) (clash : κ → LoadFailure) :
    List α → Except LoadFailure Unit
  | [] => .ok ()
  | a :: rest =>
    if Dict.contains taken (id a) then .error (clash (id a))
    else refuseTaken taken id clash rest

/-- Adds items to those that are gathered already, and refuses an id that comes twice. -/
def gatherInto (id : α → κ) (clash : κ → LoadFailure) (gathered : Dict κ α) :
    List α → Except LoadFailure (Dict κ α)
  | [] => .ok gathered
  | a :: rest =>
    if Dict.contains gathered (id a) then .error (clash (id a))
    else gatherInto id clash (Dict.insert gathered (id a) a) rest

/-- Puts gathered items to the others. -/
def putAll (d : Dict κ α) (gathered : Dict κ α) : Dict κ α :=
  gathered.foldl (fun d e => Dict.insert d e.1 e.2) d

end

/-- The clash of two entities. -/
def entityClash (id : EntityId) : LoadFailure :=
  .duplicateEntity id.name

/-- Takes over a sheet. Ids are compared with those that are defined already, modules before
entities, and then with each other; only after that is anything added. -/
def addSheet (s : Sheet) : Loading Unit := do
  let d ← get
  refuseTaken d.modules Graph.id .duplicateModule s.modules
  refuseTaken d.entities Entity.id entityClash s.entities
  let modules ← gatherInto Graph.id .duplicateModule [] s.modules
  let entities ← gatherInto Entity.id entityClash [] s.entities
  modify fun d => { d with rules := d.rules ++ s.rules }
  modify fun d => { d with modules := putAll d.modules modules }
  modify fun d => { d with entities := putAll d.entities entities }

/-- Takes over a text. -/
def load (text : String) : Loading Unit :=
  match Ron.Reader.whole sheet text with
  | none => throw .malformed
  | some s => addSheet s

/-- The graphs of all modules, in order. -/
def graphs (d : Definitions) : List Graph :=
  Dict.values d.modules

end Definitions

end SceneLogic
