import Mathlib.Logic.Relation
import SceneLogic.Module.Run
import SceneLogic.Proofs.Conduct

/-!
# What can be done about modules from outside

Hosts, actions and listeners reach the running modules by a few calls only: they start them,
cancel those of an entity, and assign to their variables. `ModuleCall` has these calls, and
whatever leaves the modules alone. `Conduct.modules` is the conduct of behaviours that use no
others, and `Machine.Plays` a run in which the host carries out such scripts and updates.

The journal tells what came of it: `World.history` of the pool as a whole, `World.trail` of one
instance.
-/

namespace SceneLogic

/-! ## Reading the journal -/

/-- The entry as an event of the pool. -/
def Happening.poolEvent? : Happening → Option PoolEvent
  | .ofPool e => some e
  | _ => none

/-- The entry as an event of an instance at a node. -/
def Happening.nodeEvent? (id : InstanceId) : Happening → Option NodeEvent
  | .atNode i e => if i = id then some e else none
  | _ => none

/-- The nodes and edges of a graph, without the defaults of its variables. -/
def Graph.skeleton (g : Graph) : Graph :=
  { g with vars := [] }

namespace World

/-- What became of the modules, the latest first. -/
def history (w : World) : List PoolEvent :=
  w.journal.filterMap Happening.poolEvent?

/-- What an instance did at nodes, the latest first. -/
def trail (w : World) (id : InstanceId) : List NodeEvent :=
  w.journal.filterMap (Happening.nodeEvent? id)

/-- Graphs that were ever taken in stay, apart from the defaults of their variables. -/
def KeepsGraphs (w w' : World) : Prop :=
  ∀ cell < w.library.cells.length, cell < w'.library.cells.length ∧
    (w'.library.read cell).skeleton = (w.library.read cell).skeleton

/-- The modules are left alone. -/
structure SameModules (w w' : World) : Prop where
  pool : w'.pool = w.pool
  history : w'.history = w.history
  trail : ∀ id, w'.trail id = w.trail id
  graphs : w.KeepsGraphs w'

theorem KeepsGraphs.refl (w : World) : w.KeepsGraphs w :=
  fun _ h => ⟨h, rfl⟩

theorem KeepsGraphs.trans {u v w : World} (h : u.KeepsGraphs v) (h' : v.KeepsGraphs w) :
    u.KeepsGraphs w := by
  intro cell hcell
  obtain ⟨hv, heq⟩ := h cell hcell
  obtain ⟨hw, heq'⟩ := h' cell hv
  exact ⟨hw, heq'.trans heq⟩

@[simp] theorem history_ofPool (w : World) (e : PoolEvent) :
    (w.record (.ofPool e)).history = e :: w.history := rfl

@[simp] theorem trail_ofPool (w : World) (e : PoolEvent) (id : InstanceId) :
    (w.record (.ofPool e)).trail id = w.trail id := rfl

@[simp] theorem history_atNode (w : World) (id : InstanceId) (e : NodeEvent) :
    (w.record (.atNode id e)).history = w.history := rfl

@[simp] theorem trail_atNode_self (w : World) (id : InstanceId) (e : NodeEvent) :
    (w.record (.atNode id e)).trail id = e :: w.trail id := by
  simp [trail, record, Happening.nodeEvent?]

theorem trail_atNode_of_ne (w : World) {id id' : InstanceId} (e : NodeEvent) (h : id ≠ id') :
    (w.record (.atNode id e)).trail id' = w.trail id' := by
  simp [trail, record, Happening.nodeEvent?, h]

@[simp] theorem history_publishWrite (w : World) (id : InstanceId) (entity : EntityId)
    (graph : GraphRef) (name : String) (v : Value) :
    (w.publishWrite id entity graph name v).history = w.history := rfl

@[simp] theorem trail_publishWrite (w : World) (id id' : InstanceId) (entity : EntityId)
    (graph : GraphRef) (name : String) (v : Value) :
    (w.publishWrite id entity graph name v).trail id' = w.trail id' := rfl

theorem keepsGraphs_of_library {w w' : World} (h : w'.library = w.library) : w.KeepsGraphs w' := by
  intro cell hcell
  rw [h]
  exact ⟨hcell, rfl⟩

/-- A write to a variable changes no more of a graph than a default. -/
theorem keepsGraphs_publishWrite (w : World) (id : InstanceId) (entity : EntityId)
    (graph : GraphRef) (name : String) (v : Value) :
    w.KeepsGraphs (w.publishWrite id entity graph name v) := by
  intro cell hcell
  have hcells : (w.publishWrite id entity graph name v).library.cells
      = w.library.cells.modify graph (·.setDefault name v) := rfl
  refine ⟨by rw [hcells, List.length_modify]; exact hcell, ?_⟩
  unfold Library.read
  rw [hcells, List.getD_eq_getElem?_getD, List.getD_eq_getElem?_getD, List.getElem?_modify,
    List.getElem?_eq_getElem hcell]
  by_cases hc : graph = cell
  · simp [hc, Graph.skeleton, Graph.setDefault]
  · simp [hc]

end World

/-! ## Calls -/

/-- The calls by which behaviours reach the modules, and whatever leaves them alone. -/
inductive ModuleCall : World → World → Prop
  | start (w : World) (entity : EntityId) (cell : GraphRef) (overrides : Params) :
      ModuleCall w (w.startGraph entity cell overrides).2
  | cancel (w : World) (entity : EntityId) : ModuleCall w (w.cancelModules entity)
  | assign (w : World) (id : InstanceId) (name : String) (v : Value) :
      ModuleCall w (w.setModuleVariable id name v).2
  | other {w w' : World} : w.SameModules w' → ModuleCall w w'

/-- Behaviours that reach the modules by calls only, and run no update themselves. -/
def Conduct.modules : Conduct where
  step := Relation.ReflTransGen ModuleCall

/-- A run: the host carries out scripts that are allowed, and updates, of which it gets the reports,
here the latest first. -/
inductive Machine.Plays (c : Conduct) (m : Machine) : List (List ModuleReport) → Machine → Prop
  | refl : Plays c m [] m
  | script {m₁ m₂ : Machine} {updates : List (List ModuleReport)} {depth : Nat} {α : Type}
      {s : Script α} {a : α} : Plays c m updates m₁ → s.Obeys c m₁.world →
      s.run (Service.atDepth depth) m₁ = some (a, m₂) → Plays c m updates m₂
  | update {m₁ m₂ : Machine} {updates : List (List ModuleReport)} {depth : Nat}
      {time dt : Float} {reports : List ModuleReport} : Plays c m updates m₁ →
      (updateModules time dt).run (Service.atDepth depth) m₁ = some (reports, m₂) →
      Plays c m (reports :: updates) m₂

/-- Nothing has been started yet. -/
structure World.NoModulesYet (w : World) : Prop where
  instances : w.pool.instances = []
  pending : w.pool.pending = []
  removed : w.pool.removed = []
  updating : w.pool.updating = false
  history : w.history = []
  trail : ∀ id, w.trail id = []

theorem World.NoModulesYet.known {w : World} (h : w.NoModulesYet) : w.pool.known = [] := by
  rw [Pool.known, h.instances, h.pending, List.append_nil]

/-! ## What a call changes -/

namespace World

variable {w : World} {entity : EntityId} {cell : GraphRef} {overrides : Params}

/-- Only a cell that was filled has nodes. -/
theorem cell_of_find? {l : Library} {cell : GraphRef} {id : NodeId} {node : Node}
    (h : (l.read cell).find? id = some node) : cell < l.cells.length := by
  rcases Nat.lt_or_ge cell l.cells.length with hcell | hcell
  · exact hcell
  · have hdefault : l.read cell = default := by
      unfold Library.read
      rw [List.getD_eq_getElem?_getD, List.getElem?_eq_none hcell]
      rfl
    rw [hdefault] at h
    cases h

/-- Only a cell that was filled has an entry node. -/
theorem cell_of_entryNode {l : Library} {cell : GraphRef} {node : Node}
    (h : (l.read cell).entryNode? = some node) : cell < l.cells.length :=
  cell_of_find? (Option.filter_eq_some_iff.mp h).1

/-- A start is refused, and changes nothing, or the instance takes the next number. -/
theorem startGraph_cases (w : World) (entity : EntityId) (cell : GraphRef) (overrides : Params) :
    (∃ e, (w.startGraph entity cell overrides).1 = .error e ∧
      (w.startGraph entity cell overrides).2 = w) ∨
    ∃ vars, cell < w.library.cells.length ∧
      (w.startGraph entity cell overrides).1 = .ok w.pool.nextId ∧
      (w.startGraph entity cell overrides).2 =
        ({ w with
          pool := { w.pool.add
            (Instance.ofGraph w.pool.nextId entity cell (w.library.read cell) vars) with
            nextId := w.pool.nextId + 1 } }.record (.seeded w.pool.nextId vars)).record
          (.ofPool (.started w.pool.nextId entity cell)) := by
  unfold startGraph
  dsimp only
  split
  · exact Or.inl ⟨_, rfl, rfl⟩
  · next hentry => exact Or.inr ⟨_, cell_of_entryNode hentry, rfl, rfl⟩

/-- A write to a variable from outside is lost, or reaches an instance of the pool. -/
theorem setModuleVariable_cases (w : World) (id : InstanceId) (name : String) (v : Value) :
    (w.setModuleVariable id name v).2 = w ∨
    ∃ i, w.pool.find? id = some i ∧
      (w.setModuleVariable id name v).2 =
        { w with
          pool := w.pool.modify id fun i =>
            { i with vars := Dict.insert i.vars name v } }.publishWrite id i.entity i.graph name
          v := by
  unfold setModuleVariable
  split
  · exact Or.inl rfl
  · next i hfind => exact Or.inr ⟨i, hfind, rfl⟩

theorem situationFor_sameModules (w : World) (entity : EntityId) (data : Params) :
    w.SameModules (w.situationFor entity data).2 := by
  unfold situationFor
  split
  · exact ⟨rfl, rfl, fun _ => rfl, .refl w⟩
  · exact ⟨rfl, rfl, fun _ => rfl, .refl w⟩

theorem SameModules.emitted (w : World) (e : Event) : w.SameModules (w.record (.emitted e)) :=
  ⟨rfl, rfl, fun _ => rfl, .refl w⟩

end World

end SceneLogic
