import SceneLogic.Entity

/-!
# Module graphs

A module is a graph of nodes. Flow edges lead from a port of one node to the next node to run;
value edges feed a port of a node from a value node. Nodes are told apart by their ids; where an
id or an edge occurs twice, the first one counts.

The declared variables of a graph have defaults. Running instances of the graph write their
variables back to the defaults, so a graph is more than its text: `Library` keeps graphs in cells
that its instances share.
-/

namespace SceneLogic

/-- The id of a node, unique only by custom. -/
abbrev NodeId := String

/-- How a stop node ends its module. -/
inductive Ending where
  | success
  | failed
deriving DecidableEq, Repr, Inhabited

instance : Named Ending where
  names := [("Success", .success), ("Failed", .failed)]

/-- Whether a flow block ends at once or may wait. -/
inductive FlowMode where
  | instant
  | async
deriving DecidableEq, Repr, Inhabited

instance : Named FlowMode where
  names := [("Instant", .instant), ("Async", .async)]

/-- One side of a comparison. -/
inductive Operand where
  | variable (name : String)
  | literal (v : Value)

/-- What a condition node tests. -/
inductive Test where
  | equals
  | notEquals
  | greaterThan
  | lessThan
  | greaterOrEqual
  | lessOrEqual
  | changed
  | inputKey (key : String)
  | compareTag (tag : String)
  | signalKey (key : String)
  | isGrounded
  | isAlive
  | distanceLessThan (target : String) (distance : Float)
  | distanceGreaterThan (target : String) (distance : Float)
deriving DecidableEq

/-- The names of the tests that have no arguments. -/
def Test.plainNames : Names Test :=
  [ ("Equals", .equals), ("IfVariableEquals", .equals),
    ("NotEquals", .notEquals),
    ("GreaterThan", .greaterThan), ("IfVariableGreaterThan", .greaterThan),
    ("LessThan", .lessThan), ("IfVariableLessThan", .lessThan),
    ("GreaterOrEqual", .greaterOrEqual),
    ("LessOrEqual", .lessOrEqual),
    ("Changed", .changed), ("IfVariableChanged", .changed),
    ("IsGrounded", .isGrounded),
    ("IsAlive", .isAlive) ]

/-- A case of a switch node: the value that selects it and the port it leaves by. -/
structure SwitchCase where
  value : Value
  port : String

/-- How a mouse position is measured. -/
inductive MouseMeasure where
  /-- In the coordinates of the scene. -/
  | absolute
  /-- From the entity's place. -/
  | relative
  /-- In the coordinates of the screen. -/
  | screen
deriving DecidableEq, Repr, Inhabited

instance : Named MouseMeasure where
  names := [("Absolute", .absolute), ("Relative", .relative), ("Screen", .screen)]

/-- A coordinate of a point. -/
inductive Axis where
  | x
  | y
deriving DecidableEq, Repr, Inhabited

instance : Named Axis where
  names := [("X", .x), ("Y", .y)]

/-- Where a value node takes its value from. -/
inductive Source where
  | literal (v : Value)
  | variable (name : String)
  | property (target property : String)
  | mouse (axis : Option Axis) (mode : MouseMeasure)

/-- What a node does. -/
inductive NodeKind where
  | entry
  | merge
  | stop (result : Ending) (errorCode : Option String)
  | condition (left right : Option Operand) (test : Test)
  | switch (name : String) (cases : List SwitchCase)
  | flow (mode : FlowMode) (block : String) (params : Params)
  | value (source : Source)

/-- The mode in which a flow block runs: a wait is never instant. -/
def FlowMode.effective (mode : FlowMode) (block : String) : FlowMode :=
  if block = "Wait" then .async else mode

/-- A node of a graph. -/
structure Node where
  id : NodeId
  kind : NodeKind

/-- An edge of a graph. -/
inductive Edge where
  | flow (source : NodeId) (port : String) (target : NodeId) (targetPort : String)
  | value (source target : NodeId) (targetPort : String)
deriving DecidableEq, Repr

/-- A module as it was designed. -/
structure Graph where
  id : String
  entry : NodeId
  nodes : List Node := []
  edges : List Edge := []
  /-- The declared variables with their defaults; a name may be declared more than once. -/
  vars : List (String × Value) := []

instance : Inhabited Graph := ⟨{ id := "", entry := "" }⟩

/-- The node is where a module begins. -/
def Node.isEntry (n : Node) : Bool :=
  match n.kind with
  | .entry => true
  | _ => false

/-- The source of a value node. -/
def Node.source? (n : Node) : Option Source :=
  match n.kind with
  | .value source => some source
  | _ => none

namespace Edge

/-- The node that a flow edge leads to from a node's port. -/
def follow? (id : NodeId) (port : String) : Edge → Option NodeId
  | .flow source p target _ => if source = id ∧ p = port then some target else none
  | .value .. => none

/-- The node that feeds a port through a value edge. -/
def feeder? (id : NodeId) (port : String) : Edge → Option NodeId
  | .value source target p => if target = id ∧ p = port then some source else none
  | .flow .. => none

/-- The node that a flow edge leads to from a node, by any port. -/
def flowTarget? (id : NodeId) : Edge → Option NodeId
  | .flow source _ target _ => if source = id then some target else none
  | .value .. => none

/-- The port of a node that a value edge leads into. -/
def fedPort? (id : NodeId) : Edge → Option String
  | .value _ target p => if target = id then some p else none
  | .flow .. => none

end Edge

namespace Graph

/-- The ids of the nodes, in order. -/
def nodeIds (g : Graph) : List NodeId :=
  g.nodes.map (·.id)

/-- The node of an id. -/
def find? (g : Graph) (id : NodeId) : Option Node :=
  g.nodes.find? fun n => n.id = id

/-- The entry node, if the entry id belongs to one. -/
def entryNode? (g : Graph) : Option Node :=
  (g.find? g.entry).filter Node.isEntry

/-- The node that follows when a node is left by a port. -/
def next? (g : Graph) (id : NodeId) (port : String) : Option NodeId :=
  g.edges.findSome? (Edge.follow? id port)

/-- The source that feeds a port of a node. The first value edge into the port decides; if it
does not start at a value node, nothing feeds the port. -/
def feed? (g : Graph) (id : NodeId) (port : String) : Option Source :=
  ((g.edges.findSome? (Edge.feeder? id port)).bind g.find?).bind Node.source?

/-- The ports of a node that value edges lead into, in the order of the edges. -/
def fedPorts (g : Graph) (id : NodeId) : List String :=
  g.edges.filterMap (Edge.fedPort? id)

/-- The defaults of the declared variables: the last declaration of a name gives its value and
the first one its place. -/
def defaults (g : Graph) : Params :=
  Dict.ofList g.vars

/-- The graph declares a variable of the name. -/
def declares (g : Graph) (name : String) : Bool :=
  g.vars.any fun d => d.1 = name

/-- Changes the default in the first declaration of a name. -/
def setDefault (g : Graph) (name : String) (v : Value) : Graph :=
  { g with vars := Dict.modify g.vars name fun _ => v }

end Graph

end SceneLogic
