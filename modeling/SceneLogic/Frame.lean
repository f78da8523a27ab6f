import SceneLogic.Entity
import SceneLogic.Value.Decidable

/-!
# What has been done in a frame

Updates that follow each other closer than a threshold belong to one frame. Within a frame each
collision of a pair, each component's update and each requested action is granted at most once;
a new frame forgets what was granted.

Two requests of an action are the same if entity, action and parameters are equal values. A
request whose parameters do not fit into `Request.levels` levels of nesting, counted as they are
written in order, has no identity and is always granted.
-/

namespace SceneLogic

namespace Value

mutual

/-- The levels that are left when a value has been written where so many were left, or nothing if
it does not fit. A null takes no level. Other values take one while they are written, a point one
more; when a point, a list or a map is finished it gives back one more than it took. -/
def levelsAfter? : Value → Nat → Option Nat
  | .null, n => some n
  | _, 0 => none
  | .bool _, n + 1 => some (n + 1)
  | .int _, n + 1 => some (n + 1)
  | .float _, n + 1 => some (n + 1)
  | .text _, n + 1 => some (n + 1)
  | .point _, 1 => none
  | .point _, n + 2 => some (n + 3)
  | .list items, n + 1 => (levelsAfterItems? items n).map (· + 2)
  | .map fields, n + 1 => (levelsAfterFields? fields n).map (· + 2)

/-- The levels that are left after the items of a list. Each takes one while it is written. -/
def levelsAfterItems? : List Value → Nat → Option Nat
  | [], n => some n
  | _ :: _, 0 => none
  | v :: rest, n + 1 => (v.levelsAfter? n).bind fun m => levelsAfterItems? rest (m + 1)

/-- The levels that are left after the fields of a map. Each takes one while it is written. -/
def levelsAfterFields? : List (String × Value) → Nat → Option Nat
  | [], n => some n
  | _ :: _, 0 => none
  | (_, v) :: rest, n + 1 => (v.levelsAfter? n).bind fun m => levelsAfterFields? rest (m + 1)

end

end Value

/-- A requested action: who asks, for which action, with which parameters. -/
structure Request where
  entity : EntityId
  action : String
  params : Params
deriving DecidableEq

/-- The levels of nesting that the parameters of a request may take. -/
def Request.levels : Nat := 127

/-- The request nests too deep to be told apart from others. -/
def Request.tooDeep (r : Request) : Bool :=
  (Value.levelsAfterFields? r.params levels).isNone

/-- What the present frame has granted. -/
structure Frame where
  lastUpdate : Option Float := none
  count : Nat := 0
  collisions : List (EntityId × EntityId × String) := []
  components : List (EntityId × String) := []
  requests : List Request := []

namespace Frame

/-- Reports an update at a reading of the clock. The answer says whether it opens a new frame,
which it does unless it follows the last update closer than the threshold. -/
def begin (f : Frame) (now threshold : Float) : Bool × Frame :=
  let repeated : Bool :=
    match f.lastUpdate with
    | some last => decide (now - last < threshold)
    | none => false
  if repeated then (false, { f with lastUpdate := some now })
  else (true, { lastUpdate := some now, count := f.count + 1 })

/-- Grants an item if it is not among those granted before. -/
def grant {α : Type} [DecidableEq α] (earlier : List α) (a : α) : Bool × List α :=
  if a ∈ earlier then (false, earlier) else (true, a :: earlier)

/-- The pair in the order of their names, so that both orders are the same. -/
def orderedPair (a b : EntityId) : EntityId × EntityId :=
  if b.name < a.name then (b, a) else (a, b)

/-- Grants a kind of collision to a pair of entities. -/
def grantCollision (f : Frame) (a b : EntityId) (kind : String) : Bool × Frame :=
  let (first, second) := orderedPair a b
  let (granted, all) := grant f.collisions (first, second, kind)
  (granted, { f with collisions := all })

/-- Grants a component its update. -/
def grantComponent (f : Frame) (entity : EntityId) (component : String) : Bool × Frame :=
  let (granted, all) := grant f.components (entity, component)
  (granted, { f with components := all })

/-- Grants a request. -/
def grantRequest (f : Frame) (r : Request) : Bool × Frame :=
  if r.tooDeep then (true, f)
  else
    let (granted, all) := grant f.requests r
    (granted, { f with requests := all })

end Frame

end SceneLogic
