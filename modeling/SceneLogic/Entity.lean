import SceneLogic.Rule

/-!
# Entities and their variables

An entity has a place, a look, typed variables and components. A variable has a kind, and what
is assigned to it is brought to that kind: `Kind.Fits` is the rule that every assignment
establishes (`Variable.assign_fits`).
-/

namespace SceneLogic

/-- The name that tells an entity from the others. -/
structure EntityId where
  name : String
deriving DecidableEq, Repr

instance : Inhabited EntityId := ⟨⟨""⟩⟩

/-- The kind of value that a variable holds. -/
inductive Kind where
  | int
  | float
  | bool
  | text
  | point
deriving DecidableEq, Repr, Inhabited

namespace Kind

instance : Named Kind where
  names :=
    [("Int", .int), ("Float", .float), ("Bool", .bool), ("String", .text), ("Vector2", .point)]

/-- The kind of a new variable with this value. A text that spells a truth value or a number
has the kind of what it spells. -/
def infer : Value → Kind
  | .bool _ => .bool
  | .point _ => .point
  | .int _ => .int
  | .float _ => .float
  | .text s =>
    if s = "true" ∨ s = "false" then .bool
    else if (Value.textNumber? s).isSome then .float
    else .text
  | _ => .text

/-- The kind holds numbers. -/
def isNumeric : Kind → Bool
  | .int => true
  | .float => true
  | _ => false

/-- The value belongs to the kind. The two numeric kinds hold each other's numbers. -/
def Fits : Kind → Value → Prop
  | .int, v => v.isNumber = true
  | .float, v => v.isNumber = true
  | .bool, v => ∃ b, v = .bool b
  | .text, v => ∃ s, v = .text s
  | .point, v => ∃ p, v = .point p

/-- Brings a value to a numeric kind. -/
def toNumber (v : Value) : Value :=
  if v.isNumber then v else .float v.numberOrZero

/-- Brings a value to a kind. A value meant for the point kind is left as it is. -/
def coerce : Kind → Value → Value
  | .int, v => toNumber v
  | .float, v => toNumber v
  | .bool, v => .bool v.flag
  | .text, v => .text v.plainText
  | .point, v => v

end Kind

/-- A named, typed value of an entity. -/
structure Variable where
  name : String
  value : Value
  kind : Kind

namespace Variable

/-- A new variable, of the kind that its value suggests. -/
def ofValue (name : String) (v : Value) : Variable :=
  let kind := Kind.infer v
  ⟨name, kind.coerce v, kind⟩

/-- The kind that a variable has after a value is assigned: a number variable takes points when
given one, and a point variable takes whatever it is given. -/
def kindAfter (kind : Kind) (v : Value) : Kind :=
  match kind, v with
  | .int, .point _ => .point
  | .float, .point _ => .point
  | .point, v => Kind.infer v
  | k, _ => k

/-- Assigns a value. -/
def assign (x : Variable) (v : Value) : Variable :=
  let kind := kindAfter x.kind v
  ⟨x.name, kind.coerce v, kind⟩

end Variable

/-- An actor or a thing of the scene. -/
structure Entity where
  id : EntityId
  name : String := id.name
  x : Float := 0
  y : Float := 0
  z : Float := 0
  rotation : Float := 0
  scaleX : Float := 1
  scaleY : Float := 1
  role : Option String := none
  tag : Option String := none
  active : Bool := true
  vars : List Variable := []
  components : List Component := []

namespace Entity

/-- The place of an entity. -/
def position (e : Entity) : Point :=
  ⟨e.x, e.y⟩

/-- The entity at another place. -/
def moveTo (e : Entity) (p : Point) : Entity :=
  { e with x := p.x, y := p.y }

/-- The first variable of a name. -/
def lookup? (e : Entity) (name : String) : Option Variable :=
  e.vars.find? fun x => x.name = name

/-- The value of a variable. -/
def value? (e : Entity) (name : String) : Option Value :=
  (e.lookup? name).map (·.value)

/-- The entity has a variable of the name. -/
def hasVariable (e : Entity) (name : String) : Bool :=
  (e.lookup? name).isSome

/-- The value of a variable that holds a number. -/
def number? (e : Entity) (name : String) : Option Float :=
  (e.value? name).bind Value.float?

/-- The first of several variables that holds a number. -/
def firstNumber? (e : Entity) (names : List String) : Option Float :=
  names.findSome? e.number?

/-- Assigns to the first variable of a name, or adds one at the end. -/
def assignIn (name : String) (v : Value) : List Variable → List Variable
  | [] => [Variable.ofValue name v]
  | x :: rest => if x.name = name then x.assign v :: rest else x :: assignIn name v rest

/-- Assigns a value to a variable, which is created where there is none. -/
def assign (e : Entity) (name : String) (v : Value) : Entity :=
  { e with vars := assignIn name v e.vars }

/-- The hit points, where the entity has any. -/
def hp? (e : Entity) : Option Float :=
  e.number? "hp"

/-- An entity is alive unless its hit points are spent. -/
def isAlive (e : Entity) : Bool :=
  match e.hp? with
  | none => true
  | some hp => hp > 0

/-- The entity takes part in the scene: it is active and alive. -/
def isLive (e : Entity) : Bool :=
  e.active && e.isAlive

/-- A property by name; names that are none of the built-in ones are variables. -/
def property? (e : Entity) (name : String) : Option Value :=
  if name = "position" then some (.point e.position)
  else if name = "x" then some (.float e.x)
  else if name = "y" then some (.float e.y)
  else if name = "z" then some (.float e.z)
  else if name = "rotation" then some (.float e.rotation)
  else if name = "scaleX" ∨ name = "scale_x" then some (.float e.scaleX)
  else if name = "scaleY" ∨ name = "scale_y" then some (.float e.scaleY)
  else if name = "active" then some (.bool e.active)
  else e.value? name

end Entity

end SceneLogic
