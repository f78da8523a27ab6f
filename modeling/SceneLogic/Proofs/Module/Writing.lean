import SceneLogic.Proofs.Module.Calls

/-!
# Writes to module variables

A write to a variable of an instance also changes the default of its graph, and the journal has it.
Nothing else changes a default: `WriteCall` lists what there is. So the declarations of a name stay
as they are from one write to a variable of the name up to the next one, whatever else is done with
the graphs and the modules: `World.Spares`.
-/

namespace SceneLogic

/-- A write to a module variable, as the journal has it. -/
structure VariableWrite where
  instanceId : InstanceId
  entity : EntityId
  graph : GraphRef
  name : String
  value : Value

/-- The entry as a write to a module variable. -/
def Happening.write? : Happening → Option VariableWrite
  | .wrote id entity graph name v => some ⟨id, entity, graph, name, v⟩
  | _ => none

/-- The entry as the variables that an instance starts with. -/
def Happening.seed? (id : InstanceId) : Happening → Option Params
  | .seeded i vars => if i = id then some vars else none
  | _ => none

/-- The declarations of a name, in order. -/
def Graph.declarations (g : Graph) (name : String) : List (String × Value) :=
  g.vars.filter fun d => d.1 = name

/-- The change of a cell is one of its graph. An empty cell reads as a graph of its own, which must
not change. -/
theorem Library.read_modifyCell (l : Library) {f : Graph → Graph} (hf : f default = default)
    (graph cell : GraphRef) : (l.modifyCell graph f).read cell =
      if cell = graph then f (l.read cell) else l.read cell := by
  simp only [read, modifyCell, List.getD_eq_getElem?_getD, List.getElem?_modify]
  by_cases hgraph : graph = cell
  · subst hgraph
    cases l.cells[graph]? with
    | none => simp [hf]
    | some g => simp
  · simp [hgraph, Ne.symm hgraph]

namespace World

/-- The writes to module variables, the latest first. -/
def writes (w : World) : List VariableWrite :=
  w.journal.filterMap Happening.write?

/-- The writes to a module variable of the instances of a graph, the latest first. -/
def writesTo (w : World) (graph : GraphRef) (name : String) : List VariableWrite :=
  w.writes.filter fun x => x.graph = graph ∧ x.name = name

/-- The variables that an instance was given when it was started. -/
def seed? (w : World) (id : InstanceId) : Option Params :=
  w.journal.findSome? (Happening.seed? id)

/-- No instance comes, goes or has its variables changed, and the journal tells of nothing of the
kind. -/
structure SameVariables (w w' : World) : Prop where
  pool : w'.pool = w.pool
  writes : w'.writes = w.writes
  seeds : ∀ id, w'.seed? id = w.seed? id

/-- No module variable is written, and the graphs stay with their defaults. -/
structure SameWrites (w w' : World) : Prop where
  writes : w'.writes = w.writes
  graphs : ∀ cell < w.library.cells.length, cell < w'.library.cells.length ∧
    w'.library.read cell = w.library.read cell

/-- A module variable is written, or neither that nor a default changes. -/
inductive WriteCall : World → World → Prop
  | publish (w : World) (id : InstanceId) (entity : EntityId) (graph : GraphRef) (name : String)
      (v : Value) : WriteCall w (w.publishWrite id entity graph name v)
  | other {w w' : World} : w.SameWrites w' → WriteCall w w'

/-- The graphs stay, and so do the declarations of a name in one of them until a module variable of
the name is written by an instance of it. -/
structure Spares (graph : GraphRef) (name : String) (w w' : World) : Prop where
  graphs : w.KeepsGraphs w'
  grown : w.writesTo graph name <:+ w'.writesTo graph name
  kept : w'.writesTo graph name = w.writesTo graph name → graph < w.library.cells.length →
    (w'.library.read graph).declarations name = (w.library.read graph).declarations name

variable {w w' : World}

theorem SameWrites.refl (w : World) : w.SameWrites w :=
  ⟨rfl, fun _ h => ⟨h, rfl⟩⟩

theorem SameVariables.refl (w : World) : w.SameVariables w :=
  ⟨rfl, rfl, fun _ => rfl⟩

theorem sameVariables_of_journal (hpool : w'.pool = w.pool) (hjournal : w'.journal = w.journal) :
    w.SameVariables w' :=
  ⟨hpool, by rw [writes, hjournal, writes], fun id => by rw [seed?, hjournal, seed?]⟩

theorem SameVariables.record (h : w.SameVariables w') {x : Happening} (hwrite : x.write? = none)
    (hseed : ∀ id, x.seed? id = none) : w.SameVariables (w'.record x) where
  pool := h.pool
  writes := (List.filterMap_cons_none hwrite).trans h.writes
  seeds id := by
    rw [← h.seeds id]
    unfold seed? World.record
    rw [List.findSome?_cons, hseed]

/-- The entry of a start is about its own number only. -/
theorem seed?_seeded (w : World) (id id' : InstanceId) (vars : Params) :
    (w.record (.seeded id vars)).seed? id' = if id = id' then some vars else w.seed? id' := by
  unfold seed? World.record
  rw [List.findSome?_cons, Happening.seed?]
  by_cases hid : id = id'
  · simp only [if_pos hid]
  · simp only [if_neg hid]

theorem sameWrites_of_library (hwrites : w'.writes = w.writes) (hlibrary : w'.library = w.library) :
    w.SameWrites w' := by
  refine ⟨hwrites, fun cell hcell => ?_⟩
  rw [hlibrary]
  exact ⟨hcell, rfl⟩

theorem SameWrites.keepsGraphs (h : w.SameWrites w') : w.KeepsGraphs w' := by
  intro cell hcell
  obtain ⟨hcell', heq⟩ := h.graphs cell hcell
  exact ⟨hcell', by rw [heq]⟩

theorem sameWrites_startGraph (w : World) (entity : EntityId) (cell : GraphRef)
    (overrides : Params) : w.SameWrites (w.startGraph entity cell overrides).2 := by
  rcases w.startGraph_cases entity cell overrides with ⟨e, -, heq⟩ | ⟨vars, -, -, heq⟩
  · rw [heq]
    exact .refl w
  · rw [heq]
    exact sameWrites_of_library rfl rfl

/-! ## Until the next write -/

theorem Spares.refl (graph : GraphRef) (name : String) (w : World) : Spares graph name w w :=
  ⟨.refl w, List.suffix_rfl, fun _ _ => rfl⟩

theorem Spares.trans {graph : GraphRef} {name : String} {u v w : World} (h : Spares graph name u v)
    (h' : Spares graph name v w) : Spares graph name u w where
  graphs := h.graphs.trans h'.graphs
  grown := h.grown.trans h'.grown
  kept := by
    intro heq hgraph
    -- What is not written over the whole way is not written on either part of it.
    have hfirst : v.writesTo graph name = u.writesTo graph name :=
      (h.grown.eq_of_length_le (heq ▸ h'.grown.length_le)).symm
    have hsecond : w.writesTo graph name = v.writesTo graph name := heq.trans hfirst.symm
    rw [h'.kept hsecond (h.graphs graph hgraph).1, h.kept hfirst hgraph]

theorem SameWrites.spares (h : w.SameWrites w') (graph : GraphRef) (name : String) :
    Spares graph name w w' where
  graphs := h.keepsGraphs
  grown := by
    have hlog : w'.writesTo graph name = w.writesTo graph name := by
      unfold writesTo
      rw [h.writes]
    exact hlog ▸ List.suffix_rfl
  kept := fun _ hgraph => by rw [(h.graphs graph hgraph).2]

theorem writes_publishWrite (w : World) (id : InstanceId) (entity : EntityId) (graph : GraphRef)
    (name : String) (v : Value) :
    (w.publishWrite id entity graph name v).writes =
      ⟨id, entity, graph, name, v⟩ :: w.writes := rfl

/-- A write changes a default of its graph, and no other graph. -/
theorem read_publishWrite (w : World) (id : InstanceId) (entity : EntityId) (graph : GraphRef)
    (name : String) (v : Value) (cell : GraphRef) :
    (w.publishWrite id entity graph name v).library.read cell =
      if cell = graph then (w.library.read cell).setDefault name v else w.library.read cell := by
  exact w.library.read_modifyCell rfl graph cell

theorem spares_publishWrite (w : World) (id : InstanceId) (entity : EntityId)
    (graph written : GraphRef) (name writtenName : String) (v : Value) :
    Spares graph name w (w.publishWrite id entity written writtenName v) := by
  by_cases hsame : written = graph ∧ writtenName = name
  · -- The journal has the write, so nothing is said of the declarations.
    have hlog : (w.publishWrite id entity written writtenName v).writesTo graph name =
        ⟨id, entity, written, writtenName, v⟩ :: w.writesTo graph name := by
      simp [writesTo, writes_publishWrite, hsame]
    refine ⟨w.keepsGraphs_publishWrite id entity written writtenName v, ?_, fun heq => ?_⟩
    · rw [hlog]
      exact List.suffix_cons _ _
    · exact absurd (hlog.symm.trans heq) (List.cons_ne_self _ _)
  · have hlog : (w.publishWrite id entity written writtenName v).writesTo graph name =
        w.writesTo graph name := by
      simp [writesTo, writes_publishWrite, hsame]
    refine ⟨w.keepsGraphs_publishWrite id entity written writtenName v, ?_, fun _ _ => ?_⟩
    · exact hlog ▸ List.suffix_rfl
    · rw [read_publishWrite]
      split
      · next hgraph => exact Dict.filter_modify_of_ne _ _ fun hname => hsame ⟨hgraph.symm, hname⟩
      · rfl

theorem WriteCall.spares (h : WriteCall w w') (graph : GraphRef) (name : String) :
    Spares graph name w w' := by
  cases h with
  | publish id entity written writtenName v =>
    exact w.spares_publishWrite id entity graph written name writtenName v
  | other h => exact h.spares graph name

end World

/-! ## Behaviours -/

/-- Behaviours that change defaults by writes to module variables only. -/
def Conduct.writing : Conduct where
  step := Relation.ReflTransGen World.WriteCall

theorem Conduct.writing_keeps (graph : GraphRef) (name : String) :
    Conduct.writing.Keeps (World.Spares graph name) where
  refl := .refl graph name
  trans := .trans
  step h := by
    induction h with
    | refl => exact .refl graph name _
    | tail _ hcall ih => exact ih.trans (hcall.spares graph name)
  rely _ := trivial
  emitted w e :=
    have hsame : w.SameWrites (w.record (.emitted e)) := World.sameWrites_of_library rfl rfl
    hsame.spares graph name
  part := nofun

end SceneLogic
