import SceneLogic.Entity

/-!
# What entities sense

Each entity has an awareness: the contacts it is in, the contacts that began or ended since the
last frame, whether it stands on ground, and its signals. `Senses` keeps one awareness per
entity, made when first asked for.

## Why awareness has handles

An action that runs keeps the awareness it was started with, even when the entity is forgotten
meanwhile and senses anew. So awarenesses live in numbered cells; forgetting an entity drops its
number and not the cell, and later sensing of the same entity takes a new cell.
-/

namespace SceneLogic

/-- A contact with another entity, as one side sees it. -/
structure Contact where
  other : EntityId
  otherTag : Option String := none
  selfTag : Option String := none
deriving DecidableEq, Repr

/-- What one entity senses. -/
structure Awareness where
  current : List Contact := []
  entered : List Contact := []
  exited : List Contact := []
  grounded : Bool := false
  signalFlags : Dict String Bool := []
  signalValues : Params := []

instance : Inhabited Awareness := ⟨{}⟩

namespace Contact

/-- Takes over the tags that a newer contact report has. -/
def merge (old new : Contact) : Contact :=
  { old with otherTag := new.otherTag <|> old.otherTag, selfTag := new.selfTag <|> old.selfTag }

/-- Merges a contact into the one with the same entity, or adds it at the end. -/
def upsert (c : Contact) : List Contact → List Contact
  | [] => [c]
  | d :: rest => if d.other = c.other then d.merge c :: rest else d :: upsert c rest

/-- Takes out the contact with an entity. -/
def takeOut (other : EntityId) : List Contact → Option Contact × List Contact
  | [] => (none, [])
  | d :: rest =>
    if d.other = other then (some d, rest)
    else
      let (found, rest) := takeOut other rest
      (found, d :: rest)

end Contact

namespace Awareness

/-- Some current contact is with a thing that has a ground tag. -/
def touchesGround (a : Awareness) (groundTags : List String) : Bool :=
  a.current.any fun c =>
    match c.otherTag with
    | some tag => groundTags.contains tag
    | none => false

/-- Brings the ground flag up to date. -/
def refreshGrounded (a : Awareness) (groundTags : List String) : Awareness :=
  { a with grounded := a.touchesGround groundTags }

/-- A contact begins. -/
def enter (a : Awareness) (groundTags : List String) (c : Contact) : Awareness :=
  refreshGrounded { a with current := c.upsert a.current, entered := a.entered ++ [c] } groundTags

/-- A contact lasts. -/
def stay (a : Awareness) (groundTags : List String) (c : Contact) : Awareness :=
  refreshGrounded { a with current := c.upsert a.current } groundTags

/-- A contact ends. The report has the contact as it was last known. -/
def exit (a : Awareness) (groundTags : List String) (other : EntityId) : Awareness :=
  let (found, rest) := Contact.takeOut other a.current
  refreshGrounded
    { a with current := rest, exited := a.exited ++ [found.getD { other }] } groundTags

/-- Forgets which contacts began and ended. -/
def beginFrame (a : Awareness) : Awareness :=
  { a with entered := [], exited := [] }

/-- A signal is raised. -/
def isSet (a : Awareness) (key : String) : Bool :=
  (Dict.get? a.signalFlags key).getD false

/-- Raises or lowers a signal and leaves its value. -/
def setFlag (a : Awareness) (key : String) (up : Bool) : Awareness :=
  { a with signalFlags := Dict.insert a.signalFlags key up }

/-- Puts down the value of a signal. -/
def setValue (a : Awareness) (key : String) (v : Value) : Awareness :=
  { a with signalValues := Dict.insert a.signalValues key v }

/-- Raises a signal with a value. -/
def setSignal (a : Awareness) (key : String) (v : Value) : Awareness :=
  (a.setFlag key true).setValue key v

/-- A raised signal carries a value that agrees with the expected one. -/
def signalAgrees (a : Awareness) (key : String) (expected : Value) : Bool :=
  match Dict.get? a.signalValues key with
  | some v => v.agrees expected
  | none => false

end Awareness

/-- The number of an awareness cell. -/
abbrev AwarenessRef := Nat

/-- The awarenesses of all entities. -/
structure Senses where
  /-- The cell of each entity that senses at present. -/
  cellOf : Dict EntityId AwarenessRef := []
  /-- All cells ever taken, the forgotten ones included. -/
  cells : List Awareness := []
  /-- The tags of things that count as ground. -/
  groundTags : List String := ["Wall"]

namespace Senses

/-- The awareness in a cell. -/
def read (s : Senses) (cell : AwarenessRef) : Awareness :=
  s.cells.getD cell {}

/-- Changes the awareness in a cell. -/
def modifyCell (s : Senses) (cell : AwarenessRef) (f : Awareness → Awareness) : Senses :=
  { s with cells := s.cells.modify cell f }

/-- The cell of an entity, taken anew if it has none. -/
def attend (s : Senses) (id : EntityId) : AwarenessRef × Senses :=
  match Dict.get? s.cellOf id with
  | some cell => (cell, s)
  | none =>
    (s.cells.length,
      { s with cellOf := Dict.insert s.cellOf id s.cells.length, cells := s.cells ++ [{}] })

/-- Changes what an entity senses. -/
def modify (s : Senses) (id : EntityId) (f : Awareness → Awareness) : Senses :=
  let (cell, s) := s.attend id
  s.modifyCell cell f

/-- Forgets an entity: it senses anew when next asked for. -/
def forget (s : Senses) (id : EntityId) : Senses :=
  { s with cellOf := Dict.erase s.cellOf id }

/-- Replaces the tags of things that count as ground. Whoever stands on something is not judged
anew. -/
def setGroundTags (s : Senses) (tags : List String) : Senses :=
  { s with groundTags := tags }

/-- A contact of an entity begins. -/
def enter (s : Senses) (id : EntityId) (c : Contact) : Senses :=
  s.modify id (·.enter s.groundTags c)

/-- A contact of an entity lasts. -/
def stay (s : Senses) (id : EntityId) (c : Contact) : Senses :=
  s.modify id (·.stay s.groundTags c)

/-- A contact of an entity ends. -/
def exit (s : Senses) (id other : EntityId) : Senses :=
  s.modify id (·.exit s.groundTags other)

/-- A signal of an entity is raised with a value. -/
def setSignal (s : Senses) (id : EntityId) (key : String) (v : Value) : Senses :=
  s.modify id (·.setSignal key v)

/-- A signal of an entity is lowered; its value stays. -/
def clearSignal (s : Senses) (id : EntityId) (key : String) : Senses :=
  s.modify id (·.setFlag key false)

/-- A new frame begins for all entities that sense at present. -/
def beginFrame (s : Senses) : Senses :=
  (Dict.values s.cellOf).foldl (fun s cell => s.modifyCell cell Awareness.beginFrame) s

end Senses

end SceneLogic
