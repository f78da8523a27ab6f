import SceneLogic.Entity

/-!
# The entities of a scene

The store keeps entities in the order in which their names first came in. Replacing an entity
keeps its place; removing one closes the gap.
-/

namespace SceneLogic

/-- The entities of a scene, in order. -/
structure Store where
  entries : Dict EntityId Entity := []

namespace Store

/-- The store without entities. -/
def empty : Store := {}

/-- The entity of a name. -/
def get? (s : Store) (id : EntityId) : Option Entity :=
  Dict.get? s.entries id

/-- The store has an entity of the name. -/
def contains (s : Store) (id : EntityId) : Bool :=
  Dict.contains s.entries id

/-- Puts an entity under its name, in the place of the one that it replaces. -/
def insert (s : Store) (e : Entity) : Store :=
  ⟨Dict.insert s.entries e.id e⟩

/-- Removes the entity of a name. -/
def erase (s : Store) (id : EntityId) : Store :=
  ⟨Dict.erase s.entries id⟩

/-- Changes the entity of a name, if there is one. -/
def modify (s : Store) (id : EntityId) (f : Entity → Entity) : Store :=
  ⟨Dict.modify s.entries id f⟩

/-- The names, in order. -/
def ids (s : Store) : List EntityId :=
  Dict.keys s.entries

/-- The entities, in order. -/
def toList (s : Store) : List Entity :=
  Dict.values s.entries

/-- The number of entities. -/
def size (s : Store) : Nat :=
  s.entries.length

/-- The entities of a role, in order. -/
def byRole (s : Store) (role : String) : List Entity :=
  s.toList.filter fun e => e.role = some role

/-- The first entity of least rank. -/
def leastBy (rank : Entity → Int) : List Entity → Option Entity
  | [] => none
  | e :: rest =>
    match leastBy rank rest with
    | none => some e
    | some best => some (if rank best < rank e then best else e)

/-- The active entity of a role that is nearest to a point, the first of several equally near.
One name may be left out. -/
def nearest? (s : Store) (start : Point) (role : String) (excluded : Option EntityId) :
    Option Entity :=
  leastBy (fun e => start.distanceRank e.position)
    (s.toList.filter fun e => e.active && e.role = some role && some e.id ≠ excluded)

end Store

end SceneLogic
