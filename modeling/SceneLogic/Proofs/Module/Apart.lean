import SceneLogic.Proofs.Module.Writing
import SceneLogic.Proofs.Senses.Cells

/-!
# Modules that do not look at an entity

A module may be designed such that nothing in it looks at some other entity: no value comes from a
property of it, and no distance to it is tested. Then it does not matter to the module what that
entity is like.

Two worlds may be the same but for an entity and the variables of a graph: `World.AgreesBut`. That
is an equivalence, and worlds that are the same but for one entity and graph, and the same but for
another entity and another graph, are the same (`World.AgreesBut.both`).

* `Graph.Avoids` — nothing in the graph looks at the entity, and it only has variables set, or waits
* `Lookup.source_inStore` and others — what is looked up in a store with another such entity
* `World.Agrees` — worlds with the same entities, graphs and senses, where the same was observed of
  each entity
-/

namespace SceneLogic

/-! ## What a graph looks at -/

/-- The source is no property of the entity, unless it is one of whoever looks. -/
def Source.Avoids (other : EntityId) : Source → Prop
  | .property target _ => target = "" ∨ target = "self" ∨ (⟨target⟩ : EntityId) ≠ other
  | _ => True

/-- The test is none of the distance to the entity. -/
def Test.Avoids (other : EntityId) : Test → Prop
  | .distanceLessThan target _ => (⟨target⟩ : EntityId) ≠ other
  | .distanceGreaterThan target _ => (⟨target⟩ : EntityId) ≠ other
  | _ => True

/-- The blocks that set variables, and those that wait without having an action performed. -/
def quietBlocks : List String :=
  ["SetVariable", "SetVar", "Wait", "PlayAnimation"]

/-- The node does not look at the entity, and if it runs a block then a quiet one. -/
def NodeKind.Avoids (other : EntityId) : NodeKind → Prop
  | .condition _ _ test => test.Avoids other
  | .flow _ block _ => Text.trim block ∈ quietBlocks
  | .value source => source.Avoids other
  | _ => True

/-- Nothing in the graph looks at the entity, and all its blocks are quiet. -/
def Graph.Avoids (other : EntityId) (g : Graph) : Prop :=
  ∀ node ∈ g.nodes, node.kind.Avoids other

theorem Graph.Avoids.feed {other : EntityId} {g : Graph} (hg : g.Avoids other) {node : NodeId}
    {port : String} {source : Source} (h : g.feed? node port = some source) :
    source.Avoids other := by
  obtain ⟨n, hn, hsource⟩ := Option.bind_eq_some_iff.mp h
  obtain ⟨id, -, hfind⟩ := Option.bind_eq_some_iff.mp hn
  have hmem := hg n (List.mem_of_find?_eq_some hfind)
  unfold Node.source? at hsource
  split at hsource
  · next hkind =>
    cases hsource
    rw [hkind] at hmem
    exact hmem
  · cases hsource

/-! ## Looking things up in another store -/

/-- The lookup in another store. -/
def Lookup.inStore (l : Lookup) (s : Store) : Lookup :=
  { l with store := s }

/-- The evidence in another store. -/
def Evidence.inStore (e : Evidence) (s : Store) : Evidence :=
  { e with lookup := e.lookup.inStore s }

namespace Lookup

variable {l : Lookup} {s : Store} {other : EntityId} {g : Graph}

section Past

variable (hown : l.entity ≠ other) (hs : ∀ id ≠ other, s.get? id = l.store.get? id)
include hown hs

theorem valueOf_inStore (name : String) : (l.inStore s).valueOf name = l.valueOf name := by
  simp only [valueOf, inStore, hs _ hown]

omit hown in
theorem positionOf?_inStore {id : EntityId} (hid : id ≠ other) :
    (l.inStore s).positionOf? id = l.positionOf? id := by
  simp only [positionOf?, inStore, hs _ hid]

theorem source_inStore {source : Source} (hsource : source.Avoids other) :
    (l.inStore s).source source = l.source source := by
  match source, hsource with
  | .literal v, _ => rfl
  | .variable name, _ => exact valueOf_inStore hown hs name
  | .property target property, hsource =>
    have htarget : l.target target ≠ other := by
      unfold Lookup.target
      split
      · exact hown
      · next hnot =>
        rw [not_or] at hnot
        exact (hsource.resolve_left hnot.1).resolve_left hnot.2
    have hplace := positionOf?_inStore hs htarget
    show (if property = "position" then
        (((l.inStore s).positionOf? (l.target target)).map Value.point).getD .null
      else ((s.get? (l.target target)).bind (·.property? property)).getD .null) = _
    rw [hplace, hs _ htarget]
    rfl
  | .mouse axis mode, _ =>
    have hplace : (l.inStore s).positionOf? (l.inStore s).entity = l.positionOf? l.entity :=
      positionOf?_inStore hs hown
    have hpoint : (l.inStore s).mousePoint = l.mousePoint := by
      funext i mode
      unfold mousePoint
      rw [hplace]
    unfold Lookup.source
    rw [hpoint]
    rfl

theorem port_inStore (hg : g.Avoids other) (node : NodeId) (params : Params) (name : String) :
    (l.inStore s).port g node params name = l.port g node params name := by
  unfold port
  split
  · next hfeed => exact source_inStore hown hs (hg.feed hfeed)
  · rfl

theorem ports_inStore (hg : g.Avoids other) (node : NodeId) (params : Params) :
    (l.inStore s).ports g node params = l.ports g node params := by
  have hport : (l.inStore s).port g node params = l.port g node params :=
    funext fun name => port_inStore hown hs hg node params name
  unfold ports
  rw [hport]

theorem operand_inStore (hg : g.Avoids other) (node : NodeId) (port : String) (o : Option Operand) :
    (l.inStore s).operand g node port o = l.operand g node port o := by
  unfold operand
  split
  · next hfeed => exact source_inStore hown hs (hg.feed hfeed)
  · split
    · exact valueOf_inStore hown hs _
    · rfl
    · rfl

theorem distanceSq?_inStore {target : String} (htarget : (⟨target⟩ : EntityId) ≠ other) :
    (l.inStore s).distanceSq? target = l.distanceSq? target := by
  have hhere : (l.inStore s).positionOf? (l.inStore s).entity = l.positionOf? l.entity :=
    positionOf?_inStore hs hown
  unfold distanceSq?
  rw [hhere, positionOf?_inStore hs htarget]

end Past

end Lookup

/-- What a test finds does not depend on an entity that it avoids. -/
theorem Evidence.outcome?_inStore {e : Evidence} {s : Store} {other : EntityId}
    (hown : e.lookup.entity ≠ other) (hs : ∀ id ≠ other, s.get? id = e.lookup.store.get? id)
    {test : Test} (htest : test.Avoids other) (left right : Value) :
    (e.inStore s).outcome? test left right = e.outcome? test left right := by
  cases test with
  | isAlive =>
    show some (((s.get? e.lookup.entity).map (·.isAlive)).getD false) = _
    rw [hs _ hown]
    rfl
  | distanceLessThan target distance =>
    have hdistance : (e.inStore s).lookup.distanceSq? target = e.lookup.distanceSq? target :=
      Lookup.distanceSq?_inStore hown hs htest
    unfold outcome?
    dsimp only
    rw [hdistance]
  | distanceGreaterThan target distance =>
    have hdistance : (e.inStore s).lookup.distanceSq? target = e.lookup.distanceSq? target :=
      Lookup.distanceSq?_inStore hown hs htest
    unfold outcome?
    dsimp only
    rw [hdistance]
  | _ => rfl

theorem Instance.evaluate_inStore (i : Instance) {e : Evidence} {s : Store} {other : EntityId}
    {g : Graph} (hown : e.lookup.entity ≠ other)
    (hs : ∀ id ≠ other, s.get? id = e.lookup.store.get? id) (hg : g.Avoids other) (node : NodeId)
    (left right : Option Operand) {test : Test} (htest : test.Avoids other) :
    i.evaluate g node left right test (e.inStore s) = i.evaluate g node left right test e := by
  have hoperand : (e.inStore s).lookup.operand g node = e.lookup.operand g node :=
    funext fun port => funext fun o => Lookup.operand_inStore hown hs hg node port o
  unfold evaluate
  dsimp only
  rw [hoperand, Evidence.outcome?_inStore hown hs htest]

theorem Instance.modifiedValue_inStore {l : Lookup} {s : Store} {other : EntityId}
    (hown : l.entity ≠ other) (hs : ∀ id ≠ other, s.get? id = l.store.get? id) (name : String)
    (params : Params) : modifiedValue (l.inStore s) name params = modifiedValue l name params := by
  have hvalue : (l.inStore s).valueOf = l.valueOf := funext (Lookup.valueOf_inStore hown hs)
  have hoperand : operandValue (l.inStore s) = operandValue l := by
    funext v
    unfold operandValue
    rw [hvalue]
  unfold modifiedValue
  rw [hvalue, hoperand]

/-! ## The same but for an entity and the variables of a graph -/

/-- Two lists that are the same but for what is at one place, and but for what is at another, are
the same. -/
theorem eq_of_modify_eq {α : Type} {l l' : List α} {i j : Nat} (h : i ≠ j) {f : α → α}
    (hi : l.modify i f = l'.modify i f) (hj : l.modify j f = l'.modify j f) : l = l' := by
  refine List.ext_getElem? fun k => ?_
  by_cases hk : i = k
  · have hj := congrArg (·[k]?) hj
    simpa [List.getElem?_modify, hk ▸ Ne.symm h] using hj
  · have hi := congrArg (·[k]?) hi
    simpa [List.getElem?_modify, hk] using hi

theorem Library.modifyCell_comm (l : Library) {cell cell' : GraphRef} (h : cell ≠ cell')
    (f f' : Graph → Graph) :
    (l.modifyCell cell f).modifyCell cell' f' = (l.modifyCell cell' f').modifyCell cell f := by
  unfold modifyCell
  dsimp only
  congr 1
  refine List.ext_getElem? fun k => ?_
  simp only [List.getElem?_modify]
  grind

/-- The write under another number. -/
def VariableWrite.renumbered (x : VariableWrite) (n : InstanceId) : VariableWrite :=
  { x with instanceId := n }

namespace World

/-- What was observed of the instances of an entity, whatever their numbers, the latest first. -/
def heardOf (w : World) (id : EntityId) : List VariableWrite :=
  (w.writes.filter fun x => x.entity = id).map (·.renumbered 0)

/-- The world without what senses, instances and journal are like inside. -/
def plain (w : World) : World :=
  { w with senses := {}, pool := { w.pool with instances := [] }, journal := [] }

/-- The same without an entity and without the defaults of a graph. -/
def masked (w : World) (entity : EntityId) (graph : GraphRef) : World :=
  { w.plain with
    store := w.store.modify entity fun _ => { id := entity }
    library := w.library.modifyCell graph Graph.skeleton }

/-- The worlds are the same, and of each entity the same was observed. Instances are not looked at,
and the senses only as entities have them. -/
structure Agrees (w w' : World) : Prop where
  plain : w'.plain = w.plain
  awareness : ∀ id, w'.senses.awareness id = w.senses.awareness id
  heard : ∀ id, w'.heardOf id = w.heardOf id

/-- The worlds are the same but for an entity, what was observed of it, and the defaults of a
graph. -/
structure AgreesBut (entity : EntityId) (graph : GraphRef) (w w' : World) : Prop where
  masked : w'.masked entity graph = w.masked entity graph
  awareness : ∀ id, w'.senses.awareness id = w.senses.awareness id
  heard : ∀ id ≠ entity, w'.heardOf id = w.heardOf id

variable {u v w w' : World} {entity other : EntityId} {graph cell : GraphRef}

theorem Agrees.but (h : w.Agrees w') (entity : EntityId) (graph : GraphRef) :
    AgreesBut entity graph w w' where
  masked := by
    have hplain : w'.plain.masked entity graph = w.plain.masked entity graph := by rw [h.plain]
    exact hplain
  awareness := h.awareness
  heard id _ := h.heard id

namespace AgreesBut

theorem refl (entity : EntityId) (graph : GraphRef) (w : World) : AgreesBut entity graph w w :=
  ⟨rfl, fun _ => rfl, fun _ _ => rfl⟩

theorem symm (h : AgreesBut entity graph u v) : AgreesBut entity graph v u :=
  ⟨h.masked.symm, fun id => (h.awareness id).symm, fun id hid => (h.heard id hid).symm⟩

theorem trans (h : AgreesBut entity graph u v) (h' : AgreesBut entity graph v w) :
    AgreesBut entity graph u w :=
  ⟨h'.masked.trans h.masked, fun id => (h'.awareness id).trans (h.awareness id),
    fun id hid => (h'.heard id hid).trans (h.heard id hid)⟩

/-- Worlds that are the same in two ways are the same. -/
theorem both (h : AgreesBut entity graph w w') (h' : AgreesBut other cell w w')
    (hentity : entity ≠ other) (hgraph : graph ≠ cell) : w.Agrees w' where
  plain := by
    have hstore : w'.store = w.store := by
      have hentries := Dict.eq_of_modify_eq hentity
        (congrArg (fun w => w.store.entries) h.masked)
        (congrArg (fun w => w.store.entries) h'.masked)
      show (⟨w'.store.entries⟩ : Store) = w.store
      rw [hentries]
    have hlibrary : w'.library = w.library := by
      have hcells := eq_of_modify_eq hgraph (congrArg (fun w => w.library.cells) h.masked)
        (congrArg (fun w => w.library.cells) h'.masked)
      have hcellOf : w'.library.cellOf = w.library.cellOf :=
        congrArg (fun w => w.library.cellOf) h.masked
      show (⟨w'.library.cellOf, w'.library.cells⟩ : Library) = w.library
      rw [hcells, hcellOf]
    -- Whatever is not masked is the same anyway.
    have hrest : ∀ w : World, w.plain =
        { w.masked entity graph with store := w.store, library := w.library } := fun _ => rfl
    rw [hrest, hrest w, h.masked, hstore, hlibrary]
  awareness := h.awareness
  heard id := by
    by_cases hid : id = entity
    · exact h'.heard id (hid ▸ hentity)
    · exact h.heard id hid

theorem get? (h : AgreesBut entity graph w w') {id : EntityId} (hid : id ≠ entity) :
    w'.store.get? id = w.store.get? id := by
  have hstore := congrArg (fun w => w.store.get? id) h.masked
  simpa [World.masked, Store.get?, Store.modify, Dict.get?_modify, Ne.symm hid] using hstore

theorem read (h : AgreesBut entity graph w w') (hcell : cell ≠ graph) :
    w'.library.read cell = w.library.read cell := by
  have hlibrary := congrArg (fun w => w.library.read cell) h.masked
  simpa only [World.masked, Library.read_modifyCell _ (f := Graph.skeleton) rfl, if_neg hcell]
    using hlibrary

theorem pool (h : AgreesBut entity graph w w') :
    { w'.pool with instances := [] } = { w.pool with instances := [] } :=
  (congrArg World.pool h.masked :)

theorem nodes (h : AgreesBut entity graph w w') (cell : GraphRef) :
    (w'.library.read cell).nodes = (w.library.read cell).nodes := by
  have hlibrary := congrArg (fun w => (w.library.read cell).nodes) h.masked
  simp only [World.masked, Library.read_modifyCell _ (f := Graph.skeleton) rfl] at hlibrary
  split at hlibrary
  · exact hlibrary
  · exact hlibrary

end AgreesBut

/-! ## What a module does to the world -/

/-- Entries that are no writes are not looked at. -/
theorem agrees_record (w : World) {x : Happening} (hx : x.write? = none) :
    w.Agrees (w.record x) where
  plain := rfl
  awareness _ := rfl
  heard id := by
    unfold heardOf writes record
    rw [List.filterMap_cons_none hx]

theorem agrees_situationFor (w : World) (entity : EntityId) (data : Params) :
    w.Agrees (w.situationFor entity data).2 := by
  unfold situationFor
  split
  · exact ⟨rfl, fun _ => rfl, fun _ => rfl⟩
  · exact ⟨rfl, w.senses.awareness_attend entity, fun _ => rfl⟩

theorem heardOf_publishWrite (w : World) (i : InstanceId) (entity : EntityId) (graph : GraphRef)
    (name : String) (v : Value) (id : EntityId) :
    (w.publishWrite i entity graph name v).heardOf id =
      if entity = id then ⟨0, entity, graph, name, v⟩ :: w.heardOf id else w.heardOf id := by
  unfold heardOf
  rw [writes_publishWrite]
  by_cases hid : entity = id
  · simp [hid, VariableWrite.renumbered]
  · simp [hid]

namespace AgreesBut

/-- A write to a module variable is a matter of its entity and graph. -/
theorem published (w : World) (i : InstanceId) (entity : EntityId) (graph : GraphRef)
    (name : String) (v : Value) :
    AgreesBut entity graph w (w.publishWrite i entity graph name v) where
  masked := by
    have hlibrary : (w.library.modifyCell graph (·.setDefault name v)).modifyCell graph
        Graph.skeleton = w.library.modifyCell graph Graph.skeleton := by
      simp only [Library.modifyCell, List.modify_modify_eq]
      rfl
    exact congrArg (fun l => { w.masked entity graph with library := l }) hlibrary
  awareness _ := rfl
  heard id hid := by
    rw [heardOf_publishWrite, if_neg (Ne.symm hid)]

/-- The same write is made to other entities and graphs. -/
theorem publish (h : AgreesBut other cell w w') (hgraph : graph ≠ cell) (i j : InstanceId)
    (name : String) (v : Value) :
    AgreesBut other cell (w.publishWrite i entity graph name v)
      (w'.publishWrite j entity graph name v) where
  masked := by
    have hmasked : ∀ (w : World) i, (w.publishWrite i entity graph name v).masked other cell =
        { w.masked other cell with
          library := (w.masked other cell).library.modifyCell graph (·.setDefault name v) } :=
      fun w _ => congrArg (fun l => { w.masked other cell with library := l })
        (w.library.modifyCell_comm hgraph _ _)
    rw [hmasked, hmasked, h.masked]
  awareness := h.awareness
  heard id hid := by
    rw [heardOf_publishWrite, heardOf_publishWrite, h.heard id hid]

/-- The change of an entity is a matter of that entity. -/
theorem modified (w : World) (entity : EntityId) (graph : GraphRef) (f : Entity → Entity) :
    AgreesBut entity graph w (w.modifyEntity entity f) where
  masked := by
    have hstore : (w.store.modify entity f).modify entity (fun _ => { id := entity }) =
        w.store.modify entity fun _ => { id := entity } :=
      congrArg Store.mk (Dict.modify_modify_self ..)
    exact congrArg (fun s => { w.masked entity graph with store := s }) hstore
  awareness _ := rfl
  heard _ _ := rfl

/-- The same change is made to another entity. -/
theorem modify (h : AgreesBut other cell w w') (hentity : entity ≠ other) (f : Entity → Entity) :
    AgreesBut other cell (w.modifyEntity entity f) (w'.modifyEntity entity f) where
  masked := by
    have hmasked : ∀ w : World, (w.modifyEntity entity f).masked other cell =
        { w.masked other cell with store := (w.masked other cell).store.modify entity f } :=
      fun w => congrArg (fun s => { w.masked other cell with store := ⟨s⟩ })
        (Dict.modify_comm w.store.entries hentity _ _)
    rw [hmasked, hmasked, h.masked]
  awareness := h.awareness
  heard := h.heard

end AgreesBut

end World

end SceneLogic
