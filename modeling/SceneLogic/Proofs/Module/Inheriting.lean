import SceneLogic.Proofs.Module.Seeding
import SceneLogic.Proofs.Standard
import SceneLogic.Proofs.Upholding

/-!
# What becomes of a write to a module variable

An instance that writes a variable of its own has the value from then on, and so have the instances
that are started of the same graph later: the value becomes the default of the variable. Others
that run already do not notice, and nothing else changes. That is so whether a block of the
instance writes the variable or the host does. The instances that an update has in hand are no part
of the world; of those a block gets its own only.

There is one exception. A graph may declare a name twice, and then a write changes the first
declaration and a start reads the last one. The instance has what was written, but the default
stays, and later starts do not get it.

* `ModuleWrite` — the ways to write a module variable
* `World.SameOutside` — the world is the same but for an instance and the defaults of a graph
* `written_value_is_default_if_declared_once` — what has the written value and what is as before
* `not_always_inherited` — a variable that is declared twice
-/

namespace SceneLogic

/-- A write to a variable, as a block of an instance or the host asks for it. -/
inductive ModuleWrite where
  | block (i : Instance) (s : Situation) (block : String) (params : Params)
  | host (id : InstanceId) (name : String) (v : Value)

namespace ModuleWrite

/-- Carries out the write. The answer is the instance as it is afterwards. -/
def carryOut : ModuleWrite → Script (Option Instance)
  | block i s name params => (i.runInstant s name params).bind fun r => .done (some r.2)
  | host id name v =>
    .read fun w => .write (w.setModuleVariable id name v).2 (.read fun w => .done (w.pool.find? id))

/-- The write is one of a value to a module variable of an instance: not to a variable of its
entity, and not to nothing. -/
inductive Reaches (w : World) (i : Instance) (name : String) (v : Value) : ModuleWrite → Prop
  | setVariable {s : Situation} {block : String} {params : Params} :
      Text.trim block = "SetVariable" → params.text? "target" = some name →
      params.valueOf "value" = v →
      i.owns w name = true ∨ w.store.contains i.entity = false →
      Reaches w i name v (.block i s block params)
  | setVar {s : Situation} {block : String} {params : Params} :
      Text.trim block = "SetVar" → params.text? "name" = some name →
      Instance.modifiedValue (i.lookup w s) name params = v → i.owns w name = true →
      Reaches w i name v (.block i s block params)
  | host {id : InstanceId} : w.pool.find? id = some i → Reaches w i name v (.host id name v)

end ModuleWrite

/-! ## What is as before -/

/-- The pool is the same but for the instances of a number. -/
structure Pool.SameOthers (id : InstanceId) (p p' : Pool) : Prop where
  instances : p'.instances.filter (fun i => i.id ≠ id) = p.instances.filter fun i => i.id ≠ id
  pending : p'.pending.filter (fun i => i.id ≠ id) = p.pending.filter fun i => i.id ≠ id
  rest : p' = { p with instances := p'.instances, pending := p'.pending }

/-- The world is the same but for an instance of the pool, the defaults of a graph, and the
journal. -/
structure World.SameOutside (id : InstanceId) (graph : GraphRef) (w w' : World) : Prop where
  others : w.pool.SameOthers id w'.pool
  modules : w'.library.cellOf = w.library.cellOf
  size : w'.library.cells.length = w.library.cells.length
  graphs : ∀ cell ≠ graph, w'.library.read cell = w.library.read cell
  skeleton : (w'.library.read graph).skeleton = (w.library.read graph).skeleton
  rest : w' = { w with pool := w'.pool, library := w'.library, journal := w'.journal }

namespace Pool

theorem SameOthers.refl (id : InstanceId) (p : Pool) : p.SameOthers id p :=
  ⟨rfl, rfl, rfl⟩

theorem filter_modifyFirst (id : InstanceId) {f : Instance → Instance}
    (hf : ∀ i, (f i).id = i.id) (instances : List Instance) :
    (modifyFirst id f instances).filter (fun i => i.id ≠ id) =
      instances.filter fun i => i.id ≠ id := by
  induction instances with
  | nil => rfl
  | cons i rest ih =>
    by_cases hid : i.id = id
    · simp [modifyFirst, hid, hf]
    · rw [modifyFirst, if_neg hid, List.filter_cons, List.filter_cons, ih]

theorem sameOthers_modify (p : Pool) (id : InstanceId) {f : Instance → Instance}
    (hf : ∀ i, (f i).id = i.id) : p.SameOthers id (p.modify id f) where
  instances := filter_modifyFirst id hf p.instances
  pending := by
    unfold modify
    dsimp only
    split
    · rfl
    · exact filter_modifyFirst id hf p.pending
  rest := rfl

end Pool

/-- A write to a variable of an instance reaches nobody else. -/
theorem World.sameOutside_publishWrite (w : World) {p : Pool} (id : InstanceId) (entity : EntityId)
    (graph : GraphRef) (name : String) (v : Value) (hpool : w.pool.SameOthers id p) :
    w.SameOutside id graph ({ w with pool := p }.publishWrite id entity graph name v) where
  others := hpool
  modules := rfl
  size := List.length_modify ..
  graphs cell hcell := by
    rw [read_publishWrite, if_neg hcell]
  skeleton := by
    rw [read_publishWrite, if_pos rfl]
    rfl
  rest := rfl

/-! ## Carrying out a write -/

/-- The instance with a value under a name. -/
def Instance.withValue (i : Instance) (name : String) (v : Value) : Instance :=
  { i with vars := Dict.insert i.vars name v }

namespace ModuleWrite

variable {service : Service} {m : Machine} {i : Instance} {name : String} {v : Value}

theorem write_run : (i.write name v).run service m = some
    (i.withValue name v, { m with world := m.world.publishWrite i.id i.entity i.graph name v }) :=
  rfl

theorem assign_run (h : i.owns m.world name = true ∨ m.world.store.contains i.entity = false) :
    (i.assign name v).run service m = (i.write name v).run service m := by
  rw [Instance.assign, Script.run]
  split
  · rfl
  · next howns => rw [if_neg (Bool.eq_false_iff.mp (h.resolve_left howns))]

/-- A write is carried out: the instance has the value, and so has the default of its graph. -/
theorem Reaches.run (service : Service) {r : ModuleWrite} (h : r.Reaches m.world i name v) :
    ∃ p w, m.world.pool.SameOthers i.id p ∧
      w = { m.world with pool := p }.publishWrite i.id i.entity i.graph name v ∧
      r.carryOut.run service m = some (some (i.withValue name v), { m with world := w }) := by
  cases h with
  | @setVariable s block params hblock htarget hvalue howns =>
    refine ⟨m.world.pool, _, .refl i.id _, rfl, ?_⟩
    have hrun : i.runInstant s block params =
        (i.assign name v).bind fun i => .done (.leave "out", i) := by
      unfold Instance.runInstant
      simp [hblock, htarget, hvalue]
    rw [carryOut, hrun, Script.run_bind, Script.run_bind, assign_run howns, write_run]
    rfl
  | @setVar s block params hblock hname hvalue howns =>
    refine ⟨m.world.pool, _, .refl i.id _, rfl, ?_⟩
    have hrun : i.runInstant s block params =
        (i.setVar s params).bind fun i => .done (.leave "out", i) := by
      unfold Instance.runInstant
      simp [hblock]
    have hset : (i.setVar s params).run service m = (i.write name v).run service m := by
      unfold Instance.setVar
      simp only [hname, Script.run, hvalue, howns, if_true]
    rw [carryOut, hrun, Script.run_bind, Script.run_bind, hset, write_run]
    rfl
  | @host id hfind =>
    have hid : i.id = id := of_decide_eq_true
      (List.find?_some (p := fun j : Instance => decide (j.id = id)) hfind)
    subst hid
    have hmodify := m.world.pool.find?_modify i.id (f := (·.withValue name v)) fun _ => rfl
    rw [hfind] at hmodify
    have hothers := m.world.pool.sameOthers_modify i.id (f := (·.withValue name v)) fun _ => rfl
    refine ⟨_, _, hothers, rfl, ?_⟩
    simp only [carryOut, Script.run, World.setModuleVariable, hfind]
    exact congrArg (fun j => some (j, _)) hmodify

end ModuleWrite

/-! ## Behaviours that write to module variables only -/

namespace World

theorem SameWrites.record {w w' : World} (h : w.SameWrites w') {x : Happening}
    (hx : x.write? = none) : w.SameWrites (w'.record x) :=
  ⟨(List.filterMap_cons_none hx).trans h.writes, h.graphs⟩

theorem sameWrites_grant (w : World) (f : Frame → Bool × Frame) : w.SameWrites (w.grant f).2 :=
  sameWrites_of_library (by rw [writes, w.journal_grant, writes]) (w.library_grant f)

theorem sameWrites_judge (w : World) (r : Request) : w.SameWrites (w.judge r).2 :=
  (w.sameWrites_grant (·.grantRequest r)).record rfl

theorem sameWrites_openFrame (w : World) (now threshold : Float) :
    w.SameWrites (w.openFrame now threshold).2 := by
  have hgrant := w.sameWrites_grant (·.begin now threshold)
  unfold openFrame
  dsimp only
  split
  · exact hgrant.record rfl
  · exact hgrant

theorem SameWrites.writing {w w' : World} (h : w.SameWrites w') : Conduct.writing.step w w' :=
  .single (.other h)

/-- Starts are allowed, too: they change no default. -/
theorem writing_startGraph (w : World) (entity : EntityId) (cell : GraphRef) (overrides : Params) :
    Conduct.writing.step w (w.startGraph entity cell overrides).2 :=
  (w.sameWrites_startGraph entity cell overrides).writing

/-- What the host writes is a write to a module variable as any other. -/
theorem writing_setModuleVariable (w : World) (id : InstanceId) (name : String) (v : Value) :
    Conduct.writing.step w (w.setModuleVariable id name v).2 := by
  rcases w.setModuleVariable_cases id name v with heq | ⟨i, -, heq⟩
  · rw [heq]
    exact .refl
  · rw [heq]
    exact (Relation.ReflTransGen.single (.other (sameWrites_of_library rfl rfl))).tail
      (.publish _ id i.entity i.graph name v)

end World

/-- The director, the default behaviours and updates change defaults by writes to module variables
only. -/
theorem Conduct.writing_roomy : Conduct.writing.Roomy where
  tame htame _ := htame.writes
  opens w now threshold := (w.sameWrites_openFrame now threshold).writing
  requests := part_directing (fun w r => (w.sameWrites_judge r).writing) trivial
  announces _ := trivial
  performs := trivial
  checks := trivial
  rely _ _ := trivial

/-- At every moment of a run a graph declares a name as it did, unless it was written. -/
theorem Machine.Visits.spares {m : Machine} {w : World} (hm : m.Obeys .writing)
    (h : m.Visits .writing w) (graph : GraphRef) (name : String) :
    World.Spares graph name m.world w := by
  have hkeeps := Conduct.writing_keeps graph name
  exact h.holds (fun hstep hspares => hspares.trans (hkeeps.step hstep))
    (fun u e hspares => hspares.trans (hkeeps.emitted u e)) id (fun _ _ => trivial) hm (.refl _ _ _)

/-- A write that reaches a module variable is carried out. The instance has the value and is
otherwise as before. Nobody else's variables change, no other graph, and of the instance's graph
nothing but a default: the value is the default of the variable if that is declared once, and if it
is declared more often all defaults are as before. From any moment on at which no instance of the
graph has written the variable again, an instance that is started of the graph has that default if
there is no override for it and its entity has no variable of the name. -/
theorem written_value_is_default_if_declared_once (service : Service) {m : Machine}
    {r : ModuleWrite} {i : Instance} {name : String} {v : Value} (hm : m.Obeys .writing)
    (hreaches : r.Reaches m.world i name v) :
    ∃ i' m', r.carryOut.run service m = some (some i', m') ∧
      let g := m.world.library.read i.graph
      let g' := m'.world.library.read i.graph
      (Dict.get? i'.vars name = some v ∧
        (∀ k ≠ name, Dict.get? i'.vars k = Dict.get? i.vars k) ∧ i' = { i with vars := i'.vars }) ∧
      (m' = { m with world := m'.world } ∧ m.world.SameOutside i.id i.graph m'.world) ∧
      Dict.get? g'.defaults name =
        (if (g.declarations name).length = 1 then some v else Dict.get? g.defaults name) ∧
      (∀ k ≠ name, Dict.get? g'.defaults k = Dict.get? g.defaults k) ∧
      ∀ w, m'.Visits .writing w →
        w.writesTo i.graph name = m'.world.writesTo i.graph name →
        ∀ (entity : EntityId) (overrides : Params), g.entryNode? ≠ none →
          Dict.get? overrides name = none → (w.store.get? entity).bind (·.value? name) = none →
          ∃ j : Instance, (w.startGraph entity i.graph overrides).1 = .ok j.id ∧
            j ∈ (w.startGraph entity i.graph overrides).2.pool.known ∧ j.entity = entity ∧
            j.graph = i.graph ∧ Dict.get? j.vars name = Dict.get? g'.defaults name := by
  obtain ⟨p, w, hpool, rfl, hrun⟩ := hreaches.run service
  refine ⟨_, _, hrun, ?_⟩
  intro g g'
  have houtside := m.world.sameOutside_publishWrite i.id i.entity i.graph name v hpool
  have hgraph : g' = g.setDefault name v :=
    (World.read_publishWrite _ i.id i.entity i.graph name v i.graph).trans (if_pos rfl)
  refine ⟨⟨Dict.get?_insert_self _ _ _, fun k hk => ?_, rfl⟩, ⟨rfl, houtside⟩, ?_, ?_, ?_⟩
  · exact Dict.get?_insert_of_ne _ _ hk.symm
  · rw [hgraph, Graph.get?_defaults_setDefault]
    simp
  · intro k hk
    rw [hgraph, Graph.get?_defaults_setDefault, if_neg fun h => hk h.1]
  · intro w hvisits hunwritten entity overrides hentry hoverride hentity
    have hspares := hvisits.spares (hm.withWorld _) i.graph name
    obtain ⟨node, hnode⟩ := Option.ne_none_iff_exists'.mp hentry
    have hcell : i.graph < m.world.library.cells.length := World.cell_of_entryNode hnode
    have hcell' := houtside.size.symm ▸ hcell
    -- The nodes are still there, and so are the declarations of the name.
    have hentry' : (w.library.read i.graph).entryNode? ≠ none := by
      have hskeleton := ((hspares.graphs _ hcell').2.trans houtside.skeleton)
      have hsame := congrArg Graph.entryNode? hskeleton
      exact hsame.trans_ne hentry
    have hdefault : Dict.get? (w.library.read i.graph).defaults name = Dict.get? g'.defaults name :=
      Graph.get?_defaults_of_declarations (hspares.kept hunwritten hcell')
    obtain ⟨j, hstart, hj, hjentity, hjgraph, hvalue⟩ :=
      World.startGraph_seeds hentry' hoverride hentity
    exact ⟨j, hstart, hj, hjentity, hjgraph, hvalue.trans hdefault⟩

/-! ## A variable that is declared twice -/

namespace Redeclared

/-- A graph that declares one variable once and another one twice. -/
def graph : Graph where
  id := "counts"
  entry := "a"
  nodes := [⟨"a", .entry⟩]
  vars := [("once", .int 1), ("twice", .int 1), ("twice", .int 2)]

/-- The director and the default behaviours; an instance of the graph was started. -/
def machine : Machine :=
  let w : World := { Director.appoint {} {} with library := .ofList [graph] }
  let m : Machine :=
    { world := (w.startGraph ⟨"one"⟩ 0 []).2, listeners := [(1, Director.listener)] }
  m.withDefaultActions.withDefaultConditions

theorem machine_obeys : machine.Obeys .writing :=
  have hstandard : machine.Standard := Machine.standard_withDefaults rfl rfl rfl
  hstandard.obeys_roomy Conduct.writing_roomy

theorem reaches (name : String) (v : Value) : ∃ i : Instance, i.graph = 0 ∧
    ModuleWrite.Reaches machine.world i name v (.host 1 name v) :=
  ⟨_, rfl, .host rfl⟩

/-- The host writes the variable that is declared once, and then has the modules updated. -/
theorem updates : ∃ i' m' reports m'',
    (ModuleWrite.carryOut (.host 1 "once" (.int 5))).run (Service.atDepth 0) machine =
      some (i', m') ∧
    (updateModules 0 0).run (Service.atDepth 1) m' = some (reports, m'') ∧
    m''.world.writesTo 0 "once" = m'.world.writesTo 0 "once" ∧
    m''.world.store.get? ⟨"two"⟩ = none :=
  ⟨_, _, _, _, rfl, rfl, rfl, rfl⟩

end Redeclared

/-- What the host wrote to the variable that is declared once is what an instance starts with after
the next update. -/
theorem second_instance_starts_with_written_value : ∃ (i i' j : Instance) (m' m'' : Machine),
    Redeclared.machine.Obeys .writing ∧
    ModuleWrite.Reaches Redeclared.machine.world i "once" (.int 5) (.host 1 "once" (.int 5)) ∧
    (ModuleWrite.carryOut (.host 1 "once" (.int 5))).run (Service.atDepth 0) Redeclared.machine =
      some (some i', m') ∧
    Dict.get? i'.vars "once" = some (.int 5) ∧ m'.Runs .writing m'' ∧
    j ∈ (m''.world.startGraph ⟨"two"⟩ 0 []).2.pool.known ∧ j.entity = ⟨"two"⟩ ∧
    Dict.get? j.vars "once" = some (.int 5) := by
  obtain ⟨i, hgraph, hreaches⟩ := Redeclared.reaches "once" (.int 5)
  obtain ⟨i', m', hrun, ⟨hvalue, -⟩, -, hdefault, -, hnext⟩ :=
    written_value_is_default_if_declared_once (Service.atDepth 0) Redeclared.machine_obeys hreaches
  obtain ⟨_, _, reports, m'', hrun', hupdate, hunwritten, hstore⟩ := Redeclared.updates
  cases hrun.symm.trans hrun'
  rw [hgraph] at hnext hdefault
  have hobeys := updateModules_obeys_roomy Conduct.writing_roomy 0 0 m'.world
  have hruns : m'.Runs .writing m'' := .script .refl hobeys hupdate
  obtain ⟨j, -, hj, hentity, -, hstarts⟩ := hnext m''.world hruns.visits hunwritten ⟨"two"⟩ []
    (by decide) rfl (by rw [hstore]; rfl)
  exact ⟨i, i', j, m', m'', Redeclared.machine_obeys, hreaches, hrun, hvalue, hruns, hj, hentity,
    hstarts.trans hdefault⟩

/-- What is written to a variable that the graph declares does not always become its default. -/
theorem not_always_inherited : ¬ ∀ (m m' : Machine) (r : ModuleWrite) (i : Instance)
    (name : String) (v : Value) (i' : Option Instance), m.Obeys .writing →
      r.Reaches m.world i name v → (m.world.library.read i.graph).declares name = true →
      r.carryOut.run (Service.atDepth 0) m = some (i', m') →
      Dict.get? (m'.world.library.read i.graph).defaults name = some v := by
  intro h
  obtain ⟨i, hgraph, hreaches⟩ := Redeclared.reaches "twice" (.int 5)
  have hdefault := h _ _ _ i "twice" (.int 5) _ Redeclared.machine_obeys hreaches
    (by rw [hgraph]; decide) rfl
  rw [hgraph] at hdefault
  -- A start still reads the second declaration.
  have hlast : some (Value.int 2) = some (.int 5) := hdefault
  cases hlast

end SceneLogic
