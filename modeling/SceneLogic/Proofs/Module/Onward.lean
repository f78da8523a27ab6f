import SceneLogic.Proofs.Module.Calls
import SceneLogic.Proofs.Module.Settling
import SceneLogic.Proofs.Module.Trail

/-!
# What goes on beside an instance

While an instance is at work the pool does not know it. Its actions may do anything with the
modules that can be done from outside, updates included, and yet its own trail stays as it is:
numbers are never given twice, and only the instances of the pool are set to work.

* `World.Sane` — pool, journal and trails agree
* `Onward` — what becomes of a sane world while some instances are at work
* `Apart` — a change that leads onward from every sane world, whose single cases are in
  `SceneLogic.Proofs.Module.Outside`
-/

namespace SceneLogic

namespace World

/-- The nodes and edges of the graph in a cell. -/
def skeletonOf (w : World) (cell : GraphRef) : Graph :=
  (w.library.read cell).skeleton

/-- The numbers of the instances that the pool knows. -/
def knownIds (w : World) : List InstanceId :=
  w.pool.known.map (·.id)

/-- An instance agrees with its trail. -/
structure Fit (w : World) (i : Instance) : Prop where
  cell : i.graph < w.library.cells.length
  started : ∀ entity cell, .started i.id entity cell ∈ w.history → cell = i.graph
  way : (i.status = .running ∧ OnWay (w.skeletonOf i.graph) i (w.trail i.id)) ∨
    Refused (w.skeletonOf i.graph) i (w.trail i.id)

/-- The graph of an instance is known, and if it has a circle the instance has done nothing. -/
def Barred (w : World) (id : InstanceId) (cell : GraphRef) : Prop :=
  cell < w.library.cells.length ∧ ((w.skeletonOf cell).hasCycle = true → w.trail id = [])

/-- The trail of an instance comes by no node twice, and by none at all if its graph has a
circle. -/
def Right (w : World) (id : InstanceId) : Prop :=
  ∀ entity cell, .started id entity cell ∈ w.history →
    w.Barred id cell ∧ NoRevisit (w.skeletonOf cell) (w.trail id)

/-- Pool, journal and trails agree. -/
structure Sane (w : World) : Prop where
  ids : w.knownIds.Nodup
  below : ∀ id ∈ w.knownIds, id < w.pool.nextId
  unused : ∀ id, w.pool.nextId ≤ id → w.trail id = [] ∧
    ∀ entity cell, .started id entity cell ∉ w.history
  fit : ∀ i ∈ w.pool.known, w.Fit i
  updating : w.pool.updating = true → w.pool.instances = []
  removed : w.pool.updating = false → w.pool.removed = []

/-- The world is sane, and these instances are not in the pool. -/
structure Held (busy : List InstanceId) (w : World) : Prop extends w.Sane where
  away : ∀ id ∈ busy, id < w.pool.nextId ∧ id ∉ w.knownIds

variable {w w' : World} {i : Instance} {id : InstanceId}

theorem skeletonOf_keep (h : w.KeepsGraphs w') {cell : GraphRef}
    (hcell : cell < w.library.cells.length) : w'.skeletonOf cell = w.skeletonOf cell :=
  (h cell hcell).2

/-- An instance still agrees with its trail if both stay as they are. -/
theorem Fit.carry (h : w.Fit i) (hgraphs : w.KeepsGraphs w')
    (htrail : w'.trail i.id = w.trail i.id)
    (hstarted : ∀ entity cell, .started i.id entity cell ∈ w'.history →
      .started i.id entity cell ∈ w.history) : w'.Fit i where
  cell := (hgraphs _ h.cell).1
  started := fun entity cell hmem => h.started entity cell (hstarted entity cell hmem)
  way := by
    rw [htrail, skeletonOf_keep hgraphs h.cell]
    exact h.way

theorem Right.carry (h : w.Right id) (hgraphs : w.KeepsGraphs w')
    (htrail : w'.trail id = w.trail id)
    (hstarted : ∀ entity cell, .started id entity cell ∈ w'.history →
      .started id entity cell ∈ w.history) : w'.Right id := by
  intro entity cell hmem
  obtain ⟨⟨hcell, hcircle⟩, hright⟩ := h entity cell (hstarted entity cell hmem)
  rw [Barred, htrail, skeletonOf_keep hgraphs hcell]
  exact ⟨⟨(hgraphs _ hcell).1, hcircle⟩, hright⟩

theorem Fit.right (h : w.Fit i) : w.Right i.id := by
  intro entity cell hmem
  rw [h.started entity cell hmem]
  rcases h.way with ⟨_, hway⟩ | hrefused
  · refine ⟨⟨h.cell, fun hcircle => ?_⟩, hway.toNoRevisit⟩
    rw [hway.acyclic] at hcircle
    cases hcircle
  · refine ⟨⟨h.cell, fun _ => hrefused.trail⟩, ?_⟩
    rw [hrefused.trail]
    exact .nil _

/-- Variables do not matter. -/
theorem Fit.assign (h : w.Fit i) (vars : Params) : w.Fit { i with vars } where
  cell := h.cell
  started := h.started
  way := by
    rcases h.way with ⟨hstatus, hway⟩ | hrefused
    · refine Or.inl ⟨hstatus, ?_⟩
      exact ⟨hway.toNoRevisit, hway.acyclic, hway.cursor, hway.walk, hway.behind, hway.seen,
        hway.again, hway.waits, hway.timed, hway.snapshots⟩
    · exact Or.inr ⟨hrefused.circle, hrefused.status, hrefused.trail⟩

theorem mem_knownIds (h : i ∈ w.pool.known) : i.id ∈ w.knownIds :=
  List.mem_map.mpr ⟨i, h, rfl⟩

theorem Sane.right_known (h : w.Sane) (hid : id ∈ w.knownIds) : w.Right id := by
  obtain ⟨i, hi, rfl⟩ := List.mem_map.mp hid
  exact (h.fit i hi).right

theorem Sane.right_unused (h : w.Sane) (hid : w.pool.nextId ≤ id) : w.Right id :=
  fun entity cell hmem => absurd hmem ((h.unused id hid).2 entity cell)

end World

/-! ## Going on -/

/-- What became of an instance of the pool. -/
inductive Fared (i : Instance) (w : World) (new : List PoolEvent) (w' : World) : Prop
  | kept {i' : Instance} : i' ∈ w'.pool.instances → i.Same i' →
      w.trail i.id <:+ w'.trail i.id → Fared i w new w'
  | reported {reports : List ModuleReport} {r : ModuleReport} : .closed reports ∈ new →
      r ∈ reports → r.instanceId = i.id → Fared i w new w'
  | cancelled : .cancelled i.entity ∈ new → Fared i w new w'
  | cleared : .cleared ∈ new → Fared i w new w'

/-- What became of a sane world while some instances were at work. -/
structure Onward (busy : List InstanceId) (w : World) (new : List PoolEvent) (w' : World) :
    Prop where
  held : w'.Held busy
  next : w.pool.nextId ≤ w'.pool.nextId
  graphs : w.KeepsGraphs w'
  bound : w'.pool.stepBound = w.pool.stepBound
  /-- Instances that ended, or are at work elsewhere, do nothing. -/
  others : ∀ id < w.pool.nextId, id ∉ w.knownIds → id ∉ busy →
    id ∉ w'.knownIds ∧ w'.trail id = w.trail id
  right : ∀ id, id ∈ w.knownIds ∨ w.pool.nextId ≤ id → w'.Right id
  history : w'.history = new ++ w.history
  started : ∀ id entity cell, .started id entity cell ∈ new → w.pool.nextId ≤ id
  removed : ∀ entity ∈ w'.pool.removed, entity ∈ w.pool.removed ∨ .cancelled entity ∈ new
  fared : ∀ i ∈ w.pool.instances, Fared i w new w'

/-- A change that leads onward from every sane world in which these instances are at work. -/
def Apart (busy : List InstanceId) (w w' : World) : Prop :=
  w.Held busy → ∃ new, Onward busy w new w'

namespace Onward

variable {busy : List InstanceId} {new new' : List PoolEvent} {u v w : World} {i : Instance}
  {id : InstanceId}

/-- No number that was given is given again. -/
theorem started_before (h : Onward busy v new w) (hid : id < v.pool.nextId) (entity : EntityId)
    (cell : GraphRef) (hmem : .started id entity cell ∈ w.history) :
    .started id entity cell ∈ v.history := by
  rw [h.history] at hmem
  rcases List.mem_append.mp hmem with hmem | hmem
  · exact absurd (h.started id entity cell hmem) (Nat.not_le_of_lt hid)
  · exact hmem

/-- An instance that is at work elsewhere still agrees with its trail. -/
theorem fit (h : Onward busy v new w) (hi : v.Fit i) (hid : i.id < v.pool.nextId)
    (hout : i.id ∉ v.knownIds) (hbusy : i.id ∉ busy) : w.Fit i :=
  hi.carry h.graphs (h.others _ hid hout hbusy).2 (h.started_before hid)

/-- The trails of all instances but those at work are right if they were. -/
theorem right_all (h : Onward busy v new w) (hbusy : id ∉ busy) (hright : v.Right id) :
    w.Right id := by
  by_cases hknown : id ∈ v.knownIds
  · exact h.right id (Or.inl hknown)
  · rcases Nat.lt_or_ge id v.pool.nextId with hid | hid
    · exact hright.carry h.graphs (h.others id hid hknown hbusy).2 (h.started_before hid)
    · exact h.right id (Or.inr hid)

theorem refl (h : w.Held busy) : Onward busy w [] w where
  held := h
  next := Nat.le_refl _
  graphs := .refl w
  bound := rfl
  others := fun _ _ hout _ => ⟨hout, rfl⟩
  right := by
    rintro id (hid | hid)
    · exact h.right_known hid
    · exact h.right_unused hid
  history := rfl
  started := nofun
  removed := fun _ hmem => Or.inl hmem
  fared := fun i hi => .kept hi (.refl i) (List.suffix_refl _)

end Onward

theorem Fared.trans {i : Instance} {u v w : World} {new new' : List PoolEvent}
    (h : Fared i u new v) (h' : ∀ j ∈ v.pool.instances, Fared j v new' w) :
    Fared i u (new' ++ new) w := by
  cases h with
  | kept hi' hsame hsuffix =>
    cases h' _ hi' with
    | kept hj hsame' hsuffix' =>
      rw [hsame.id] at hsuffix'
      exact .kept hj (hsame.trans hsame') (hsuffix.trans hsuffix')
    | reported hmem hr hid =>
      exact .reported (List.mem_append_left _ hmem) hr (hid.trans hsame.id)
    | cancelled hmem =>
      rw [hsame.entity] at hmem
      exact .cancelled (List.mem_append_left _ hmem)
    | cleared hmem => exact .cleared (List.mem_append_left _ hmem)
  | reported hmem hr hid => exact .reported (List.mem_append_right _ hmem) hr hid
  | cancelled hmem => exact .cancelled (List.mem_append_right _ hmem)
  | cleared hmem => exact .cleared (List.mem_append_right _ hmem)

theorem Onward.trans {busy : List InstanceId} {u v w : World} {new new' : List PoolEvent}
    (hu : u.Held busy) (h : Onward busy u new v) (h' : Onward busy v new' w) :
    Onward busy u (new' ++ new) w where
  held := h'.held
  next := Nat.le_trans h.next h'.next
  graphs := h.graphs.trans h'.graphs
  bound := h'.bound.trans h.bound
  others := by
    intro id hid hout hbusy
    obtain ⟨hout', htrail⟩ := h.others id hid hout hbusy
    obtain ⟨hout'', htrail'⟩ := h'.others id (Nat.lt_of_lt_of_le hid h.next) hout' hbusy
    exact ⟨hout'', htrail'.trans htrail⟩
  right := by
    intro id hid
    refine h'.right_all (fun hbusy => ?_) (h.right id hid)
    obtain ⟨hlt, hout⟩ := hu.away id hbusy
    rcases hid with hknown | hge
    · exact hout hknown
    · exact Nat.not_le_of_lt hlt hge
  history := by rw [h'.history, h.history, List.append_assoc]
  started := by
    intro id entity cell hmem
    rcases List.mem_append.mp hmem with hmem | hmem
    · exact Nat.le_trans h.next (h'.started id entity cell hmem)
    · exact h.started id entity cell hmem
  removed := by
    intro entity hmem
    rcases h'.removed entity hmem with hmem | hmem
    · rcases h.removed entity hmem with hmem | hmem
      · exact Or.inl hmem
      · exact Or.inr (List.mem_append_right _ hmem)
    · exact Or.inr (List.mem_append_left _ hmem)
  fared := fun i hi => (h.fared i hi).trans h'.fared

namespace Apart

variable {busy busy' : List InstanceId} {u v w : World}

theorem refl (w : World) : Apart busy w w :=
  fun h => ⟨[], .refl h⟩

theorem trans (h : Apart busy u v) (h' : Apart busy v w) : Apart busy u w := by
  intro hu
  obtain ⟨new, hv⟩ := h hu
  obtain ⟨new', hw⟩ := h' hv.held
  exact ⟨_, hv.trans hu hw⟩

theorem steady (busy : List InstanceId) : Steady (Apart busy) :=
  ⟨refl, trans⟩

/-- With more instances at work less is promised. -/
theorem mono (hsub : busy ⊆ busy') (h : Apart busy v w) : Apart busy' v w := by
  intro hv
  obtain ⟨new, hw⟩ := h ⟨hv.toSane, fun id hid => hv.away id (hsub hid)⟩
  refine ⟨new, { hw with held := ⟨hw.held.toSane, fun id hid => ?_⟩, others := ?_ }⟩
  · obtain ⟨hlt, hout⟩ := hv.away id hid
    refine ⟨Nat.lt_of_lt_of_le hlt hw.next, ?_⟩
    by_cases hbusy : id ∈ busy
    · exact (hw.held.away id hbusy).2
    · exact (hw.others id hlt hout hbusy).1
  · exact fun id hid hout hbusy => hw.others id hid hout fun hmem => hbusy (hsub hmem)

end Apart

end SceneLogic
