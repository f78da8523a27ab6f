import SceneLogic.Module.Cycle

/-!
# The library of modules

Graphs live in numbered cells. The library finds the cell of a module by its id. A graph that is
replaced loses its place in the library and keeps its cell, for instances of it may still run.
-/

namespace SceneLogic

/-- The number of a graph's cell. -/
abbrev GraphRef := Nat

/-- Modules by id. -/
structure Library where
  /-- The cell of each module, in the order in which the ids first came. -/
  cellOf : Dict String GraphRef := []
  /-- All graphs ever taken in, the replaced ones included. -/
  cells : List Graph := []

namespace Library

/-- The graph in a cell. -/
def read (l : Library) (cell : GraphRef) : Graph :=
  l.cells.getD cell default

/-- Changes the graph in a cell. -/
def modifyCell (l : Library) (cell : GraphRef) (f : Graph → Graph) : Library :=
  { l with cells := l.cells.modify cell f }

/-- The graph of a module. -/
def get? (l : Library) (id : String) : Option Graph :=
  (Dict.get? l.cellOf id).map l.read

/-- Takes in a graph under its id, in the place of the one that it replaces. -/
def insert (l : Library) (g : Graph) : Library :=
  { cellOf := Dict.insert l.cellOf g.id l.cells.length, cells := l.cells ++ [g] }

/-- The library has a module of the id. -/
def contains (l : Library) (id : String) : Bool :=
  Dict.contains l.cellOf id

/-- The ids of the modules, in order. -/
def ids (l : Library) : List String :=
  Dict.keys l.cellOf

/-- The library of some graphs, without forgetting the cells that are there. -/
def replaceAll (l : Library) (graphs : List Graph) : Library :=
  graphs.foldl insert { l with cellOf := [] }

/-- The library of some graphs. -/
def ofList (graphs : List Graph) : Library :=
  replaceAll {} graphs

end Library

end SceneLogic
