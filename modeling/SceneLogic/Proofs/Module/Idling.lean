import SceneLogic.Proofs.Module.Enrolment
import SceneLogic.Proofs.Module.Resting

/-!
# Instances that nobody runs

What behaviours do by calls changes at most the variables of the instances in the pool, or removes
them. Where an instance stands, and what the block there remembers, stays as it is until its turn
comes again.

* `World.Rests` — an instance remembers at most a state of the block on which it stands, and has
  come there before
* `World.Lasts` — what nothing takes back: trails, histories, and graphs but for their defaults
* `World.Renews` — calls bring no instances but new ones, and no others change but in variables
* `World.Preserves` — what calls do to the instances of the pool
* `World.Passes` — the same, apart from instances that are at work
-/

namespace SceneLogic

namespace World

/-- An instance remembers no state of a block, or that of the node on which it stands, to which it
has come before. -/
def Rests (w : World) (i : Instance) : Prop :=
  i.blocks = [] ∨ i.graph < w.library.cells.length ∧ ∃ node,
    (w.skeletonOf i.graph).find? i.cursor = some node ∧ i.Suspended node ∧
      .entered node.id ∈ w.trail i.id

/-- All instances that the pool knows rest. -/
def AllRest (w : World) : Prop :=
  ∀ i ∈ w.pool.known, w.Rests i

/-- What lasts from one world to another: trails and history only grow, and graphs keep their
nodes and edges. -/
structure Lasts (u v : World) : Prop where
  trail : ∀ id, u.trail id <:+ v.trail id
  history : u.history <:+ v.history
  graphs : u.KeepsGraphs v

/-- Each instance that the pool knows was known before, apart from its variables, or it is new and
remembers nothing. -/
def Renews (u v : World) : Prop :=
  ∀ i ∈ v.pool.known, (i.blocks = [] ∧ i.snapshots = []) ∨
    ∃ j ∈ u.pool.known, ∃ vars, i = { j with vars }

/-- From one world to another the modules of an entity were cancelled, or all modules dropped. -/
def Removes (u v : World) (entity : EntityId) : Prop :=
  ∃ new, v.history = new ++ u.history ∧ (.cancelled entity ∈ new ∨ .cleared ∈ new)

/-- The instances of the pool stay as they are but for their variables, unless they are removed. -/
structure Preserves (u v : World) : Prop extends Lasts u v where
  rests : u.AllRest → v.AllRest
  removed : ∀ e ∈ v.pool.removed, e ∈ u.pool.removed ∨ u.Removes v e
  kept : ∀ i ∈ u.pool.instances,
    (∃ vars, { i with vars } ∈ v.pool.instances) ∨ u.Removes v i.entity

variable {u v w : World} {i : Instance} {node : Node} {entity : EntityId}

namespace Rests

/-- Variables do not matter. -/
theorem assign (h : w.Rests i) (vars : Params) : w.Rests { i with vars } :=
  h

theorem mono (h : u.Rests i) (huv : u.Lasts v) : v.Rests i := by
  rcases h with hnil | ⟨hcell, node, hnode, hsuspended, hentered⟩
  · exact Or.inl hnil
  · obtain ⟨hcell', hgraph⟩ := huv.graphs _ hcell
    refine Or.inr ⟨hcell', node, ?_, hsuspended, (huv.trail i.id).subset hentered⟩
    rw [skeletonOf, hgraph]
    exact hnode

theorem suspended (h : w.Rests i)
    (hnode : (w.library.read i.graph).find? i.cursor = some node) : i.Suspended node := by
  rcases h with hnil | ⟨-, node', hnode', hsuspended, -⟩
  · exact Or.inl hnil
  · have heq : some node = some node' := hnode.symm.trans hnode'
    exact Option.some.inj heq ▸ hsuspended

/-- Where an instance comes for the first time, it remembers nothing. -/
theorem fresh (h : w.Rests i) (hnode : (w.library.read i.graph).find? i.cursor = some node)
    (hnew : .entered node.id ∉ w.trail i.id) : i.blocks = [] := by
  rcases h with hnil | ⟨-, node', hnode', -, hentered⟩
  · exact hnil
  · have heq : some node = some node' := hnode.symm.trans hnode'
    exact absurd (Option.some.inj heq ▸ hentered) hnew

end Rests

/-! ## What lasts -/

namespace Lasts

theorem refl (w : World) : w.Lasts w :=
  ⟨fun _ => List.suffix_refl _, List.suffix_refl _, .refl w⟩

theorem trans (h : u.Lasts v) (h' : v.Lasts w) : u.Lasts w where
  trail id := (h.trail id).trans (h'.trail id)
  history := h.history.trans h'.history
  graphs := h.graphs.trans h'.graphs

/-- Nodes stay where they are. -/
theorem find? (h : u.Lasts v) {cell : GraphRef} {id : NodeId}
    (hnode : (u.library.read cell).find? id = some node) :
    (v.library.read cell).find? id = some node := by
  have hgraph := (h.graphs cell (cell_of_find? hnode)).2
  have hnodes : (v.library.read cell).nodes = (u.library.read cell).nodes :=
    (congrArg Graph.nodes hgraph :)
  unfold Graph.find? at hnode ⊢
  rw [hnodes]
  exact hnode

/-- What was removed from a world on was removed from an earlier one on. -/
theorem removes (h : u.Lasts v) (hgone : v.Removes w entity) : u.Removes w entity := by
  obtain ⟨earlier, hearlier⟩ := h.history
  obtain ⟨new, hnew, hmem⟩ := hgone
  refine ⟨new ++ earlier, by rw [hnew, ← hearlier, List.append_assoc], ?_⟩
  exact hmem.imp (List.mem_append_left _) (List.mem_append_left _)

end Lasts

/-- What was removed by a world was removed by a later one. -/
theorem Removes.mono (h : u.Removes v entity) (hvw : v.Lasts w) : u.Removes w entity := by
  obtain ⟨later, hlater⟩ := hvw.history
  obtain ⟨new, hnew, hmem⟩ := h
  refine ⟨later ++ new, by rw [← hlater, hnew, List.append_assoc], ?_⟩
  exact hmem.imp (List.mem_append_right _) (List.mem_append_right _)

/-- What an instance writes by itself leaves the modules alone. -/
theorem sameModules_of_writes (h : i.Writes u v) : u.SameModules v := by
  cases h with
  | publish name x => exact ⟨rfl, rfl, fun _ => rfl, u.keepsGraphs_publishWrite _ _ _ _ _⟩
  | assign name x => exact ⟨rfl, rfl, fun _ => rfl, .refl u⟩

/-! ## Which instances there are after a call -/

namespace Renews

theorem of_pool (h : v.pool = u.pool) : u.Renews v :=
  fun i hi => Or.inr ⟨i, h ▸ hi, i.vars, rfl⟩

theorem of_start (w : World) (entity : EntityId) (cell : GraphRef) (overrides : Params) :
    w.Renews (w.startGraph entity cell overrides).2 := by
  rcases w.startGraph_cases entity cell overrides with ⟨_, _, hsame⟩ | ⟨vars, _, _, hstart⟩
  · rw [hsame]
    exact of_pool rfl
  rw [hstart]
  generalize hi : Instance.ofGraph w.pool.nextId entity cell (w.library.read cell) vars = i
  intro j hj
  rcases Pool.mem_known_add.mp hj with rfl | hj
  · exact Or.inl (hi ▸ ⟨rfl, rfl⟩)
  · exact Or.inr ⟨j, hj, j.vars, rfl⟩

theorem of_cancel (w : World) (entity : EntityId) : w.Renews (w.cancelModules entity) := by
  intro i hi
  refine Or.inr ⟨i, ?_, i.vars, rfl⟩
  rcases List.mem_append.mp hi with hi | hi
  · exact List.mem_append_left _ (List.mem_filter.mp hi).1
  · exact List.mem_append_right _ (List.mem_filter.mp hi).1

theorem of_clear (w : World) : w.Renews w.clearModules :=
  nofun

theorem of_assign (w : World) (id : InstanceId) (name : String) (v : Value) :
    w.Renews (w.setModuleVariable id name v).2 := by
  rcases w.setModuleVariable_cases id name v with hsame | ⟨i, -, hassign⟩
  · rw [hsame]
    exact of_pool rfl
  rw [hassign]
  intro j hj
  rcases Pool.mem_known_modify hj with hj | ⟨k, hk, rfl⟩
  · exact Or.inr ⟨j, hj, j.vars, rfl⟩
  · exact Or.inr ⟨k, hk, _, rfl⟩

end Renews

/-! ## What calls preserve -/

namespace Preserves

theorem rests_of_known (huv : u.Lasts v) (hknown : u.Renews v) (hu : u.AllRest) : v.AllRest := by
  intro i hi
  rcases hknown i hi with ⟨hnil, -⟩ | ⟨j, hj, vars, rfl⟩
  · exact Or.inl hnil
  · exact ((hu j hj).mono huv).assign vars

/-- The pool stays as it is. -/
theorem of_pool (huv : u.Lasts v) (hpool : v.pool = u.pool) : u.Preserves v where
  toLasts := huv
  rests hu := rests_of_known huv (.of_pool hpool) hu
  removed _ he := Or.inl (hpool ▸ he)
  kept i hi := Or.inl ⟨i.vars, hpool.symm ▸ hi⟩

theorem steady : Steady Preserves where
  refl w := of_pool (.refl w) rfl
  trans := by
    intro u v w h h'
    exact
      { toLasts := h.toLasts.trans h'.toLasts
        rests := fun hu => h'.rests (h.rests hu)
        removed := by
          intro e he
          rcases h'.removed e he with he | hgone
          · exact (h.removed e he).imp id (·.mono h'.toLasts)
          · exact Or.inr (h.toLasts.removes hgone)
        kept := by
          intro i hi
          rcases h.kept i hi with ⟨vars, hi'⟩ | hgone
          · rcases h'.kept _ hi' with ⟨vars', hi''⟩ | hgone
            · exact Or.inl ⟨vars', hi''⟩
            · exact Or.inr (h.toLasts.removes hgone)
          · exact Or.inr (hgone.mono h'.toLasts) }

theorem of_same (h : u.SameModules v) : u.Preserves v :=
  of_pool ⟨fun id => (h.trail id).symm ▸ List.suffix_refl _, h.history ▸ List.suffix_refl _,
    h.graphs⟩ h.pool

/-- An instance notes something about itself. -/
theorem of_note (w : World) (id : InstanceId) (e : NodeEvent) :
    w.Preserves (w.record (.atNode id e)) := by
  refine of_pool ⟨fun id' => ?_, List.suffix_refl _, .refl w⟩ rfl
  by_cases hid : id = id'
  · rw [hid, trail_atNode_self]
    exact List.suffix_cons _ _
  · simp only [trail_atNode_of_ne w e hid, List.suffix_refl]

/-- An event of the pool leaves trails and graphs as they are. -/
theorem lasts_ofPool {p : Pool} (e : PoolEvent) :
    w.Lasts ({ w with pool := p }.record (.ofPool e)) :=
  ⟨fun _ => List.suffix_refl _, List.suffix_cons _ _, .refl w⟩

theorem of_start (w : World) (entity : EntityId) (cell : GraphRef) (overrides : Params) :
    w.Preserves (w.startGraph entity cell overrides).2 := by
  have hknown := Renews.of_start w entity cell overrides
  rcases w.startGraph_cases entity cell overrides with ⟨_, _, hsame⟩ | ⟨vars, _, _, hstart⟩
  · rw [hsame]
    exact steady.refl w
  rw [hstart] at hknown ⊢
  generalize Instance.ofGraph w.pool.nextId entity cell (w.library.read cell) vars = i at hknown ⊢
  obtain ⟨-, hremoved, -, hinstances, -⟩ := w.pool.add_same i
  have hlasts : w.Lasts (({ w with
      pool := { w.pool.add i with nextId := w.pool.nextId + 1 } }.record
        (.seeded w.pool.nextId vars)).record (.ofPool (.started w.pool.nextId entity cell))) :=
    ⟨fun _ => List.suffix_refl _, List.suffix_cons _ _, .refl w⟩
  exact ⟨hlasts, rests_of_known hlasts hknown, fun e he => Or.inl (hremoved ▸ he),
    fun j hj => Or.inl ⟨j.vars, hinstances hj⟩⟩

theorem of_cancel (w : World) (entity : EntityId) : w.Preserves (w.cancelModules entity) := by
  have hgone : w.Removes (w.cancelModules entity) entity :=
    ⟨[.cancelled entity], rfl, Or.inl List.mem_cons_self⟩
  refine ⟨lasts_ofPool _, rests_of_known (lasts_ofPool _) (.of_cancel w entity), fun e he => ?_,
    fun i hi => ?_⟩
  · change e ∈ if w.pool.updating then entity :: w.pool.removed else w.pool.removed at he
    split at he
    · rcases List.mem_cons.mp he with rfl | he
      · exact Or.inr hgone
      · exact Or.inl he
    · exact Or.inl he
  · by_cases hi' : i.entity = entity
    · exact Or.inr (hi' ▸ hgone)
    · exact Or.inl ⟨i.vars, List.mem_filter.mpr ⟨hi, decide_eq_true hi'⟩⟩

theorem of_clear (w : World) : w.Preserves w.clearModules where
  toLasts := lasts_ofPool _
  rests _ := nofun
  removed _ he := Or.inl he
  kept _ _ := Or.inr ⟨[.cleared], rfl, Or.inr List.mem_cons_self⟩

theorem of_assign (w : World) (id : InstanceId) (name : String) (v : Value) :
    w.Preserves (w.setModuleVariable id name v).2 := by
  have hknown := Renews.of_assign w id name v
  rcases w.setModuleVariable_cases id name v with hsame | ⟨i, -, hassign⟩
  · rw [hsame]
    exact steady.refl w
  rw [hassign] at hknown ⊢
  have hlasts : w.Lasts ({ w with
      pool := w.pool.modify id fun i =>
        { i with vars := Dict.insert i.vars name v } }.publishWrite id i.entity i.graph name v) :=
    ⟨fun _ => List.suffix_refl _, List.suffix_refl _,
      w.keepsGraphs_publishWrite id i.entity i.graph name v⟩
  refine ⟨hlasts, rests_of_known hlasts hknown, fun e he => Or.inl he, fun j hj => Or.inl ?_⟩
  rcases Pool.mem_modifyFirst_of_mem id (fun i => { i with vars := Dict.insert i.vars name v }) hj
    with hj | hj
  · exact ⟨j.vars, hj⟩
  · exact ⟨_, hj⟩

theorem of_call (h : PoolCall u v) : u.Preserves v := by
  cases h with
  | start entity cell overrides => exact of_start u entity cell overrides
  | cancel entity => exact of_cancel u entity
  | clear => exact of_clear u
  | assign id name v => exact of_assign u id name v
  | aside h => exact of_same h.same

end Preserves

/-- What goes on beside instances at work is apart from them, and preserves those of the pool. -/
structure Passes (busy : List InstanceId) (u v : World) : Prop where
  apart : Apart busy u v
  preserves : u.Preserves v

namespace Passes

variable {busy : List InstanceId}

theorem steady (busy : List InstanceId) : Steady (Passes busy) where
  refl w := ⟨.refl w, Preserves.steady.refl w⟩
  trans h h' := ⟨h.apart.trans h'.apart, Preserves.steady.trans h.preserves h'.preserves⟩

theorem of_same (h : u.SameModules v) : Passes busy u v :=
  ⟨(Apart.of_same h).mono (List.nil_subset _), .of_same h⟩

theorem of_note (w : World) (id : InstanceId) (e : NodeEvent) :
    Passes [id] w (w.record (.atNode id e)) :=
  ⟨.of_note w id e, .of_note w id e⟩

theorem beside (h : Passes [] u v) : Passes busy u v :=
  ⟨h.apart.mono (List.nil_subset _), h.preserves⟩

theorem of_call (h : PoolCall u v) : Passes [] u v where
  apart := by
    cases h with
    | start entity cell overrides => exact .of_start u entity cell overrides
    | cancel entity => exact .of_cancel u entity
    | clear => exact .of_clear u
    | assign id name v => exact .of_assign u id name v
    | aside h => exact .of_same h.same
  preserves := .of_call h

end Passes

end World

theorem Conduct.pooling_keeps_passes : Conduct.pooling.Keeps (World.Passes []) :=
  pooling_keeps (World.Passes.steady []) World.Passes.of_call

end SceneLogic
