import SceneLogic.Definitions
import SceneLogic.Director

/-!
# Installing definitions

Definitions are handed over to a world with a director: its rules and its library are replaced,
and the entities are put into the store, in the place of those of the same names.
-/

namespace SceneLogic

/-- Replaces the library. Instances that run keep their graphs. -/
def World.loadLibrary (w : World) (graphs : List Graph) : World :=
  { w with library := w.library.replaceAll graphs }

/-- Takes a module into the library, and gives the defaults of the one that it replaces. -/
def World.register (w : World) (g : Graph) : Option Params × World :=
  ((w.library.get? g.id).map Graph.defaults, { w with library := w.library.insert g })

/-- Puts entities into the store, one after the other. -/
def World.insertAll (w : World) (entities : List Entity) : World :=
  entities.foldl (fun w e => w.modifyStore (·.insert e)) w

/-- Hands definitions over to a world. -/
def Definitions.install (d : Definitions) (w : World) : World :=
  ((w.replaceRules d.rules).loadLibrary d.graphs).insertAll (Dict.values d.entities)

end SceneLogic
