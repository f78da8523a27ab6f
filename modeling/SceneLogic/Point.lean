import SceneLogic.Number.Shortest

/-!
# Points of the plane

A point is a pair of doubles; it also serves as a displacement. Equality (`==`) compares the
coordinates as doubles, so a point with a NaN coordinate differs from itself.
-/

namespace SceneLogic

/-- A point of the plane, or the displacement between two of them. -/
structure Point where
  x : Float
  y : Float
deriving DecidableEq

namespace Point

/-- The point with both coordinates zero. -/
def origin : Point := ⟨0, 0⟩

instance : Inhabited Point := ⟨origin⟩

instance : BEq Point := ⟨fun a b => a.x == b.x && a.y == b.y⟩

instance : Add Point := ⟨fun a b => ⟨a.x + b.x, a.y + b.y⟩⟩

instance : Sub Point := ⟨fun a b => ⟨a.x - b.x, a.y - b.y⟩⟩

/-- The displacement stretched by a factor. -/
def scaleBy (a : Point) (k : Float) : Point :=
  ⟨a.x * k, a.y * k⟩

/-- The square of the length of a displacement. -/
def lengthSq (a : Point) : Float :=
  a.x * a.x + a.y * a.y

/-- The length of a displacement. -/
def length (a : Point) : Float :=
  a.lengthSq.sqrt

/-- The square of the distance between two points. -/
def distanceSq (a b : Point) : Float :=
  (a - b).lengthSq

/-- The text of a point: both coordinates in parentheses. -/
def render (a : Point) : String :=
  "(" ++ Number.render a.x ++ ", " ++ Number.render a.y ++ ")"

/-! ## The order of distances -/

/-- Where an undefined coordinate difference puts a point among the distances: a difference of
two equal infinities comes before every number, and a coordinate that is no number after. -/
def undefinedRank? (a b : Float) : Option Int :=
  if a.isNaN || b.isNaN then some UInt64.size
  else if (a - b).isNaN then some (-1)
  else none

/-- The rank of the distance between two points. It orders the squares of the distances, which
are never negative, by their bit patterns; undefined distances have ranks outside that range. -/
def distanceRank (a b : Point) : Int :=
  match undefinedRank? a.x b.x with
  | some r => r
  | none =>
    match undefinedRank? a.y b.y with
    | some r => r
    | none => (a.distanceSq b).toBits.toNat

end Point

end SceneLogic
