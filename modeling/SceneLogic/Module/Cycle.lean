import SceneLogic.Module.Graph

/-!
# Cycles of a module

A module must not run in circles. `Graph.hasCycle` decides whether a circle of flow edges can be
reached from the entry; edges to ids that no node has lead nowhere.

## How it decides

The search goes from node to node, depth first. It keeps the nodes on its way from the entry, and
those that it is done with: from these no circle can be reached. Coming by a node of the way again
closes a circle.

## Why it stops

The nodes on the way are known and all different, so there are never more of them than there are
nodes. That is the depth that the search is given.
-/

namespace SceneLogic.Graph

/-- The nodes, known or not, that flow edges lead to from a node, in the order of the edges. -/
def targets (g : Graph) (id : NodeId) : List NodeId :=
  g.edges.filterMap (Edge.flowTarget? id)

/-- Searches on from a node that was come by on a way. Gives the nodes that the search is done
with, or nothing if it closes a circle. -/
def search (g : Graph) : Nat → List NodeId → List NodeId → NodeId → Option (List NodeId)
  | 0, _, _, _ => none
  | depth + 1, way, visited, id =>
    if !g.nodeIds.contains id || visited.contains id then some visited
    else if way.contains id then none
    else
      ((g.targets id).foldlM (fun visited v => search g depth (id :: way) visited v) visited).map
        (id :: ·)

/-- A circle of flow edges can be reached from the entry. -/
def hasCycle (g : Graph) : Bool :=
  (g.search (g.nodes.length + 1) [] [] g.entry).isNone

end SceneLogic.Graph
