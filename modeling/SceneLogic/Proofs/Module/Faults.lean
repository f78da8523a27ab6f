import SceneLogic.Proofs.Module.Termination

/-!
# Where a module fails

Each failure that is reported names the node that caused it. An instance only comes to ids that
flow edges lead to from its entry, so the node of a failure is one that the graph gives rise to:
there is no node of the id, or the node is of the kind that fails with this code.

* `Graph.Attains` — the ids that an instance can come to stand on
* `Node.FailsWith` — the codes with which nodes of each kind fail
* `Instance.visit_gives` — nodes fail with no other codes
* `Graph.Causes` — what can cause a failure in a graph
* `Attributing` — a change of the world that leaves all failures attributed
* `failures_are_attributed` — hence all reports of a run are
-/

namespace SceneLogic

/-! ## Ids that instances come to -/

namespace Graph

variable {g : Graph} {u v : NodeId} {node : Node} {port : String}

/-- An instance can come to stand on the id: it is the entry, or a flow edge leads to it from a
node that can be reached. -/
def Attains (g : Graph) (v : NodeId) : Prop :=
  v = g.entry ∨ ∃ u ∈ g.nodeIds, g.Reaches g.entry u ∧ v ∈ g.targets u

/-- All flow edges of nodes that can be reached lead to nodes that can be run. -/
def LeadsOn (g : Graph) : Prop :=
  ∀ u ∈ g.nodeIds, g.Reaches g.entry u → ∀ v ∈ g.targets u,
    ∃ node, g.find? v = some node ∧ node.source? = none

/-- A node on which an instance can stand can be reached. -/
theorem Attains.reaches (h : g.Attains u) (hu : u ∈ g.nodeIds) : g.Reaches g.entry u := by
  rcases h with rfl | ⟨t, _, hreach, htarget⟩
  · exact .refl
  · exact hreach.tail ⟨htarget, hu⟩

/-- An instance that leaves a node goes on to an id of this kind. -/
theorem Attains.next (h : g.Attains u) (hnode : g.find? u = some node)
    (hnext : g.next? node.id port = some v) : g.Attains v := by
  have hu := mem_nodeIds_of_find? hnode
  rw [find?_id hnode] at hnext
  exact Or.inr ⟨u, hu, h.reaches hu, next?_mem_targets hnext⟩

/-- The entry of a module that starts is a node where a module begins. -/
theorem exists_entry (h : g.entryNode?.isSome) :
    ∃ node, g.find? g.entry = some node ∧ node.isEntry = true := by
  obtain ⟨node, hnode⟩ := Option.isSome_iff_exists.mp h
  obtain ⟨hfind, hentry⟩ := Option.filter_eq_some_iff.mp hnode
  exact ⟨node, hfind, hentry⟩

theorem mem_targets_iff : v ∈ g.targets u ↔
    ∃ port targetPort, Edge.flow u port v targetPort ∈ g.edges := by
  constructor
  · intro h
    obtain ⟨e, he, htarget⟩ := List.mem_filterMap.mp h
    cases e with
    | value => cases htarget
    | flow source port target targetPort =>
      simp only [Edge.flowTarget?] at htarget
      split at htarget
      · next hsource =>
        rw [← hsource, ← Option.some.inj htarget]
        exact ⟨port, targetPort, he⟩
      · cases htarget
  · rintro ⟨port, targetPort, he⟩
    exact List.mem_filterMap.mpr ⟨_, he, if_pos rfl⟩

end Graph

/-! ## Nodes that fail -/

/-- A node fails its module with the code. -/
inductive Node.FailsWith (node : Node) : FaultCode → Prop
  | value {source : Source} : node.kind = .value source → FailsWith node .invalidNode
  | flow {mode : FlowMode} {block : String} {params : Params} :
      node.kind = .flow mode block params → FailsWith node .flowFailed
  | stop {errorCode : Option String} : node.kind = .stop .failed errorCode →
      FailsWith node (Instance.stopCode errorCode)

namespace Script

variable {α β : Type} {P Q : α → Prop}

/-- The result of the script is of this kind, whatever its requests lead to. -/
def Gives (s : Script α) (P : α → Prop) : Prop :=
  ∀ (service : Service) (m : Machine) (a : α) (m' : Machine), s.run service m = some (a, m') → P a

theorem Gives.done {a : α} (h : P a) : (Script.done a).Gives P := by
  intro _ _ _ _ hrun
  rw [run] at hrun
  cases hrun
  exact h

theorem Gives.read {k : World → Script α} (h : ∀ w, (k w).Gives P) : (Script.read k).Gives P :=
  fun service m a m' hrun => h m.world service m a m' hrun

theorem Gives.bind {s : Script α} {f : α → Script β} {Q : β → Prop} (hs : s.Gives P)
    (hf : ∀ a, P a → (f a).Gives Q) : (s.bind f).Gives Q := by
  intro _ _ _ _ hrun
  rw [run_bind] at hrun
  obtain ⟨⟨a, m₁⟩, hrun₁, hrun⟩ := Option.bind_eq_some_iff.mp hrun
  exact hf a (hs _ _ _ _ hrun₁) _ _ _ _ hrun

/-- Nothing is asked of the first part. -/
theorem Gives.after {s : Script α} {f : α → Script β} {Q : β → Prop} (hf : ∀ a, (f a).Gives Q) :
    (s.bind f).Gives Q :=
  Gives.bind (P := fun _ => True) (fun _ _ _ _ _ => trivial) fun a _ => hf a

theorem Gives.mono {s : Script α} (h : s.Gives P) (hPQ : ∀ a, P a → Q a) : s.Gives Q :=
  fun service m a m' hrun => hPQ a (h service m a m' hrun)

theorem Gives.ite {p : Prop} [Decidable p] {a b : Script α} (ha : a.Gives P) (hb : b.Gives P) :
    (if p then a else b).Gives P := by
  by_cases hp : p
  · rw [if_pos hp]
    exact ha
  · rw [if_neg hp]
    exact hb

/-- What a script leads to, and the kind of its result. -/
theorem Yields.gives {service : Service} {c : Conduct} {H : World → World → Prop} {s : Script α}
    {w : World} {R : α → World → Prop} (h : s.Yields service c H w R) (he : s.Gives P) :
    s.Yields service c H w fun a w' => R a w' ∧ P a := by
  intro m hw hm a m' hrun
  obtain ⟨hlead, hpost⟩ := h m hw hm hrun
  exact ⟨hlead, hpost, he _ _ _ _ hrun⟩

end Script

namespace Instance

variable {i : Instance} {s : Situation} {dt : Float} {g : Graph} {node : Node}

/-- If the module ends here in a failure, then with one of these codes. -/
def FailsOnly (P : FaultCode → Prop) (r : NodeOutcome × Instance) : Prop :=
  ∀ code, r.1 = .finish (some code) → P code

theorem flowFailed_gives (i : Instance) :
    (Script.done (NodeOutcome.finish (some .flowFailed), i)).Gives
      (FailsOnly (· = .flowFailed)) := by
  refine .done fun code hcode => ?_
  cases hcode
  rfl

theorem runInstant_gives (block : String) (params : Params) :
    (i.runInstant s block params).Gives (FailsOnly (· = .flowFailed)) := by
  unfold runInstant
  dsimp only
  refine .ite (flowFailed_gives i) (.ite ?_ (.ite ?_ ?_))
  · split
    · exact flowFailed_gives i
    · exact .after fun i' => .done nofun
  · exact .after fun i' => .done nofun
  · exact .after fun _ => .done nofun

theorem runWait_fails (id : NodeId) (params : Params) :
    FailsOnly (· = .flowFailed) (i.runWait id params dt) := by
  intro code hcode
  unfold runWait at hcode
  split at hcode
  · dsimp only at hcode
    split at hcode <;> cases hcode
  · dsimp only at hcode
    split at hcode <;> cases hcode

theorem runAnimation_fails (id : NodeId) (params : Params) (now : Float) :
    FailsOnly (· = .flowFailed) (i.runAnimation id params now) := by
  intro code hcode
  unfold runAnimation at hcode
  split at hcode
  next started i₁ _ =>
  dsimp only at hcode
  split at hcode <;> cases hcode

theorem runMoveTo_gives (params : Params) :
    (i.runMoveTo s params).Gives (FailsOnly (· = .flowFailed)) := by
  refine .read fun w => ?_
  dsimp only
  refine .ite (flowFailed_gives i) (.after fun _ => .read fun w' => ?_)
  split
  · exact flowFailed_gives i
  · refine .done fun code hcode => ?_
    dsimp only at hcode
    split at hcode <;> cases hcode

theorem runAsync_gives (id : NodeId) (block : String) (params : Params) :
    (i.runAsync s id block params dt).Gives (FailsOnly (· = .flowFailed)) := by
  unfold runAsync
  refine .ite ?_ (.ite (runMoveTo_gives params) (.ite ?_ ?_))
  · exact .after fun _ => .done (runWait_fails id params)
  · exact .read fun w => .done (runAnimation_fails id params w.clock)
  · exact flowFailed_gives i

theorem runNode_gives : (i.runNode s dt g node).Gives (FailsOnly node.FailsWith) := by
  have hflow : ∀ {mode block params}, node.kind = .flow mode block params →
      ∀ r, FailsOnly (· = .flowFailed) r → FailsOnly node.FailsWith r := by
    intro mode block params hk r hr code hcode
    rw [hr code hcode]
    exact .flow hk
  unfold runNode
  split
  · exact .done nofun
  · exact .done nofun
  · exact .done nofun
  · next errorCode hk =>
    refine .done fun code hcode => ?_
    cases hcode
    exact .stop hk
  · exact .read fun _ => .done nofun
  · exact .read fun _ => .done nofun
  · next mode block params hk =>
    refine .read fun w => ?_
    dsimp only
    split
    · exact (runInstant_gives block _).mono (hflow hk)
    · exact (runAsync_gives node.id block _).mono (hflow hk)
  · next source hk =>
    refine .done fun code hcode => ?_
    cases hcode
    exact .value hk

/-- A node that is visited fails its module with its own codes only. -/
theorem visit_gives : (i.visit s dt g node).Gives (FailsOnly node.FailsWith) := by
  refine .after fun _ => .bind runNode_gives fun r hr => ?_
  obtain ⟨outcome, i'⟩ := r
  cases outcome with
  | leave port => exact .after fun _ => .done nofun
  | stay => exact .done nofun
  | finish error => exact .done hr

end Instance

/-! ## Causes -/

namespace Graph

/-- The failure is caused by the node that it names. -/
inductive Causes (g : Graph) : Fault → Prop
  | nowhere {v : NodeId} : g.Attains v → g.find? v = none → Causes g ⟨.nodeNotFound, v⟩
  | node {node : Node} {code : FaultCode} : g.Attains node.id → g.find? node.id = some node →
      node.FailsWith code → Causes g ⟨code, node.id⟩
  | circle : g.hasCycle = true → Causes g ⟨.cycleDetected, g.entry⟩

/-- What each code says about the graph and the node that comes with it. -/
structure Blames (g : Graph) (fault : Fault) : Prop where
  nodeNotFound : fault.code = .nodeNotFound → fault.node ∉ g.nodeIds ∧
    ∃ source port targetPort, Edge.flow source port fault.node targetPort ∈ g.edges
  invalidNode : fault.code = .invalidNode → ∃ node source,
    g.find? fault.node = some node ∧ node.kind = .value source
  flowFailed : fault.code = .flowFailed → ∃ node mode block params,
    g.find? fault.node = some node ∧ node.kind = .flow mode block params
  designer : ∀ code, fault.code = .designer code → ∃ node errorCode,
    g.find? fault.node = some node ∧ node.kind = .stop .failed errorCode ∧
      (errorCode = some code ∧ code ≠ "" ∨
        (errorCode = none ∨ errorCode = some "") ∧ code = "Failed")
  cycleDetected : fault.code = .cycleDetected → fault.node = g.entry ∧ g.hasCycle = true

variable {g : Graph} {fault : Fault}

/-- The code of a stop node is the one it declares, or "Failed" if it declares none. -/
theorem stopCode_designer {errorCode : Option String} {code : String}
    (h : Instance.stopCode errorCode = .designer code) :
    errorCode = some code ∧ code ≠ "" ∨
      (errorCode = none ∨ errorCode = some "") ∧ code = "Failed" := by
  have hcode := (FaultCode.designer.inj h).symm
  cases errorCode with
  | none => exact Or.inr ⟨Or.inl rfl, hcode⟩
  | some c =>
    by_cases hempty : c = ""
    · subst hempty
      exact Or.inr ⟨Or.inr rfl, hcode⟩
    · have hfilter : (some c).filter (fun c => !c.isEmpty) = some c := by simp [hempty]
      rw [hfilter] at hcode
      exact Or.inl ⟨congrArg some hcode.symm, by rw [hcode]; exact hempty⟩

/-- In a module that starts, a cause is what the code of the failure says. -/
theorem Causes.blames (h : g.Causes fault) (hentry : g.entryNode?.isSome) : g.Blames fault := by
  cases h with
  | @nowhere v hv hnone =>
    refine ⟨fun _ => ?_, nofun, nofun, nofun, nofun⟩
    have hout : v ∉ g.nodeIds := by
      intro hmem
      obtain ⟨node, hnode, hid⟩ := List.mem_map.mp hmem
      have hne := List.find?_eq_none.mp hnone node hnode
      exact hne (decide_eq_true hid)
    refine ⟨hout, ?_⟩
    rcases hv with rfl | ⟨u, _, _, htarget⟩
    · obtain ⟨node, hfind, _⟩ := exists_entry hentry
      rw [hnone] at hfind
      cases hfind
    · exact ⟨u, mem_targets_iff.mp htarget⟩
  | @node node code _ hfind hfails =>
    cases hfails with
    | value hk => exact ⟨nofun, fun _ => ⟨_, _, hfind, hk⟩, nofun, nofun, nofun⟩
    | flow hk => exact ⟨nofun, nofun, fun _ => ⟨_, _, _, _, hfind, hk⟩, nofun, nofun⟩
    | stop hk =>
      refine ⟨nofun, nofun, nofun, fun code hcode => ?_, nofun⟩
      exact ⟨_, _, hfind, hk, stopCode_designer hcode⟩
  | circle hcircle => exact ⟨nofun, nofun, nofun, nofun, fun _ => ⟨rfl, hcircle⟩⟩

/-- Where all flow edges lead on, an instance stands on nodes that can be run. -/
theorem LeadsOn.runnable (h : g.LeadsOn) (hentry : g.entryNode?.isSome) {v : NodeId}
    (hv : g.Attains v) : ∃ node, g.find? v = some node ∧ node.source? = none := by
  rcases hv with rfl | ⟨u, hu, hreach, htarget⟩
  · obtain ⟨node, hfind, hkind⟩ := exists_entry hentry
    refine ⟨node, hfind, ?_⟩
    unfold Node.isEntry at hkind
    unfold Node.source?
    split at hkind
    · next hk => rw [hk]
    · cases hkind
  · exact h u hu hreach v htarget

/-- Where all flow edges lead on, no failure comes from the structure of the graph. -/
theorem Causes.of_leadsOn (h : g.Causes fault) (hentry : g.entryNode?.isSome) (hon : g.LeadsOn) :
    fault.code ≠ .nodeNotFound ∧ fault.code ≠ .invalidNode := by
  cases h with
  | nowhere hv hnone =>
    obtain ⟨node, hfind, _⟩ := hon.runnable hentry hv
    rw [hnone] at hfind
    cases hfind
  | node hv hfind hfails =>
    obtain ⟨node, hfind', hsource⟩ := hon.runnable hentry hv
    rw [hfind] at hfind'
    cases hfind'
    cases hfails with
    | value hk =>
      unfold Node.source? at hsource
      rw [hk] at hsource
      cases hsource
    | flow => exact ⟨nofun, nofun⟩
    | stop => exact ⟨nofun, nofun⟩
  | circle => exact ⟨nofun, nofun⟩

end Graph

/-! ## Attributed failures -/

namespace World

/-- The instance stands where its graph leads it, and if it has failed there is a cause. -/
structure Stands (w : World) (i : Instance) : Prop where
  started : .started i.id i.entity i.graph ∈ w.history
  cell : i.graph < w.library.cells.length
  entry : (w.skeletonOf i.graph).entryNode?.isSome
  moduleId : i.moduleId = (w.skeletonOf i.graph).id
  cursor : (w.skeletonOf i.graph).Attains i.cursor
  status : ∀ fault, i.status = .failed fault → (w.skeletonOf i.graph).Causes fault

/-- The report is about an instance of the graph in a cell, and if that failed there is a cause. -/
structure Accounts (w : World) (r : ModuleReport) (cell : GraphRef) : Prop where
  started : .started r.instanceId r.entity cell ∈ w.history
  taken : cell < w.library.cells.length
  entry : (w.skeletonOf cell).entryNode?.isSome
  moduleId : r.moduleId = (w.skeletonOf cell).id
  error : ∀ fault, r.error = some fault → (w.skeletonOf cell).Causes fault

/-- All failures have causes, and no number was given twice. -/
structure Attributed (w : World) : Prop where
  stands : ∀ i ∈ w.pool.known, w.Stands i
  accounts : ∀ r ∈ reportsIn w.history, ∃ cell, w.Accounts r cell
  below : ∀ {id entity cell}, .started id entity cell ∈ w.history → id < w.pool.nextId
  once : ∀ {id entity entity' cell cell'}, .started id entity cell ∈ w.history →
    .started id entity' cell' ∈ w.history → cell' = cell

variable {w w' : World} {i : Instance} {r : ModuleReport} {cell : GraphRef}

theorem Stands.carry (h : w.Stands i) (hgraphs : w.KeepsGraphs w')
    (hhistory : w.history ⊆ w'.history) : w'.Stands i := by
  have hkeep := skeletonOf_keep hgraphs h.cell
  exact
    { started := hhistory h.started
      cell := (hgraphs _ h.cell).1
      entry := hkeep ▸ h.entry
      moduleId := hkeep ▸ h.moduleId
      cursor := hkeep ▸ h.cursor
      status := hkeep ▸ h.status }

theorem Accounts.carry (h : w.Accounts r cell) (hgraphs : w.KeepsGraphs w')
    (hhistory : w.history ⊆ w'.history) : w'.Accounts r cell := by
  have hkeep := skeletonOf_keep hgraphs h.taken
  exact
    { started := hhistory h.started
      taken := (hgraphs _ h.taken).1
      entry := hkeep ▸ h.entry
      moduleId := hkeep ▸ h.moduleId
      error := hkeep ▸ h.error }

/-- An instance that is still the same stands as well where its graph leads it. -/
theorem Stands.same {i' : Instance} (h : w.Stands i) (hsame : i.Same i')
    (hcursor : (w.skeletonOf i.graph).Attains i'.cursor) (hstatus : i'.status = i.status) :
    w.Stands i' where
  started := by
    rw [hsame.id, hsame.entity, hsame.graph]
    exact h.started
  cell := hsame.graph ▸ h.cell
  entry := hsame.graph ▸ h.entry
  moduleId := by
    rw [hsame.moduleId, hsame.graph]
    exact h.moduleId
  cursor := hsame.graph ▸ hcursor
  status := by
    rw [hsame.graph, hstatus]
    exact h.status

/-- A new instance is at the entry of its graph, and has failed just if there is a circle. -/
theorem stands_ofGraph (hentry : (w.library.read cell).entryNode?.isSome) {id : InstanceId}
    {entity : EntityId} (hstarted : .started id entity cell ∈ w.history) (vars : Params) :
    w.Stands (.ofGraph id entity cell (w.library.read cell) vars) where
  started := hstarted
  cell := cell_of_entryNode (Option.some_get hentry).symm
  entry := hentry
  moduleId := rfl
  cursor := Or.inl rfl
  status := by
    intro fault hstatus
    unfold Instance.ofGraph at hstatus
    dsimp only at hstatus
    split at hstatus
    · next hcircle =>
      cases hstatus
      exact .circle ((Graph.hasCycle_skeleton _).trans hcircle)
    · cases hstatus

/-- An end that has a cause, if it is a failure, accounts for its report. -/
theorem Stands.report (h : w.Stands i) {error : Option Fault}
    (herror : ∀ fault, error = some fault → (w.skeletonOf i.graph).Causes fault) :
    w.Accounts (i.report error) i.graph :=
  ⟨h.started, h.cell, h.entry, h.moduleId, herror⟩

theorem Stands.terminal (h : w.Stands i) (hr : i.terminalResult? = some r) :
    w.Accounts r i.graph := by
  unfold Instance.terminalResult? at hr
  split at hr
  · cases hr
  · cases hr
    exact h.report nofun
  · next fault hstatus =>
    cases hr
    refine h.report fun fault' heq => ?_
    cases heq
    exact h.status fault hstatus

end World

/-- What became of the world leaves its failures attributed. -/
structure Attribution (w w' : World) : Prop where
  graphs : w.KeepsGraphs w'
  history : w.history ⊆ w'.history
  attributed : w'.Attributed

/-- A change that leaves the failures of a world attributed. -/
def Attributing (w w' : World) : Prop :=
  w.Attributed → Attribution w w'

namespace Attributing

variable {u v w w' : World}

theorem steady : Steady Attributing where
  refl w h := ⟨.refl w, List.Subset.refl _, h⟩
  trans h h' hu := by
    have hv := h hu
    have hw := h' hv.attributed
    exact ⟨hv.graphs.trans hw.graphs, List.Subset.trans hv.history hw.history, hw.attributed⟩

/-- An event that starts nothing and reports nothing wrong, while the pool only loses instances or
sets variables. -/
theorem of_event (new : List PoolEvent) (hgraphs : w.KeepsGraphs w')
    (hhistory : w'.history = new ++ w.history)
    (hnext : w'.pool.nextId = w.pool.nextId)
    (hstarted : ∀ id entity cell, .started id entity cell ∉ new)
    (hknown : w.Attributed → ∀ i ∈ w'.pool.known, w.Stands i)
    (hreports : w.Attributed → ∀ r ∈ reportsIn new, ∃ cell, w.Accounts r cell) :
    Attributing w w' := by
  intro hw
  have hsub : w.history ⊆ w'.history := by
    rw [hhistory]
    exact List.subset_append_right _ _
  have hold : ∀ {id entity cell}, .started id entity cell ∈ w'.history →
      .started id entity cell ∈ w.history := by
    intro id entity cell hmem
    rw [hhistory] at hmem
    exact (List.mem_append.mp hmem).resolve_left (hstarted id entity cell)
  refine ⟨hgraphs, hsub, ?_⟩
  exact
    { stands := fun i hi => (hknown hw i hi).carry hgraphs hsub
      accounts := by
        intro r hr
        rw [hhistory, reportsIn_append] at hr
        rcases List.mem_append.mp hr with hr | hr
        · obtain ⟨cell, haccounts⟩ := hreports hw r hr
          exact ⟨cell, haccounts.carry hgraphs hsub⟩
        · obtain ⟨cell, haccounts⟩ := hw.accounts r hr
          exact ⟨cell, haccounts.carry hgraphs hsub⟩
      below := fun hmem => hnext ▸ hw.below (hold hmem)
      once := fun hmem hmem' => hw.once (hold hmem) (hold hmem') }

/-- A change that neither starts nor reports anything. -/
theorem of_quiet (hgraphs : w.KeepsGraphs w') (hhistory : w'.history = w.history)
    (hnext : w'.pool.nextId = w.pool.nextId)
    (hknown : w.Attributed → ∀ i ∈ w'.pool.known, w.Stands i) : Attributing w w' :=
  of_event [] hgraphs hhistory hnext (fun _ _ _ => List.not_mem_nil) hknown
    fun _ _ hr => absurd hr List.not_mem_nil

theorem of_same (h : w.SameModules w') : Attributing w w' :=
  of_quiet h.graphs h.history (congrArg Pool.nextId h.pool) fun hw i hi =>
    hw.stands i (h.pool ▸ hi)

theorem of_cancel (w : World) (entity : EntityId) : Attributing w (w.cancelModules entity) := by
  refine of_event [.cancelled entity] (.refl w) rfl rfl (fun _ _ _ hmem => ?_)
    (fun hw i hi => hw.stands i ?_) fun _ _ hr => absurd hr List.not_mem_nil
  · cases List.mem_singleton.mp hmem
  · exact (List.Sublist.append List.filter_sublist List.filter_sublist).subset hi

theorem of_clear (w : World) : Attributing w w.clearModules := by
  refine of_event [.cleared] (.refl w) rfl rfl (fun _ _ _ hmem => ?_)
    (fun _ _ hi => absurd hi List.not_mem_nil) fun _ _ hr => absurd hr List.not_mem_nil
  cases List.mem_singleton.mp hmem

theorem of_assign (w : World) (id : InstanceId) (name : String) (v : Value) :
    Attributing w (w.setModuleVariable id name v).2 := by
  rcases w.setModuleVariable_cases id name v with hsame | ⟨i, _, hset⟩
  · rw [hsame]
    exact steady.refl w
  · rw [hset]
    refine of_quiet (World.keepsGraphs_publishWrite _ id i.entity i.graph name v) rfl rfl
      fun hw j hj => ?_
    rcases Pool.mem_known_modify hj with hj | ⟨j', hj', rfl⟩
    · exact hw.stands j hj
    · have hstands := hw.stands j' hj'
      exact hstands.same ⟨rfl, rfl, rfl, rfl⟩ hstands.cursor rfl

theorem of_start (w : World) (entity : EntityId) (cell : GraphRef) (overrides : Params) :
    Attributing w (w.startGraph entity cell overrides).2 := by
  unfold World.startGraph
  dsimp only
  split
  · exact steady.refl w
  next node hentry =>
  intro hw
  generalize hi : Instance.ofGraph w.pool.nextId entity cell (w.library.read cell) _ = i
  have hsub : w.history ⊆ .started w.pool.nextId entity cell :: w.history :=
    List.subset_cons_self _ _
  have hid : i.id = w.pool.nextId := by
    rw [← hi]
    rfl
  have hcases : ∀ {id entity' cell'},
      .started id entity' cell' ∈ PoolEvent.started w.pool.nextId entity cell :: w.history →
      id = w.pool.nextId ∧ cell' = cell ∨ .started id entity' cell' ∈ w.history := by
    intro id entity' cell' hmem
    rcases List.mem_cons.mp hmem with heq | hmem
    · cases heq
      exact Or.inl ⟨rfl, rfl⟩
    · exact Or.inr hmem
  rw [hid]
  refine ⟨.refl w, hsub, ?_⟩
  exact
    { stands := by
        intro j hj
        rcases Pool.mem_known_add.mp hj with rfl | hj
        · rw [← hi]
          refine World.stands_ofGraph ?_ List.mem_cons_self _
          exact Option.isSome_of_eq_some hentry
        · exact (hw.stands j hj).carry (.refl w) hsub
      accounts := by
        intro r hr
        obtain ⟨cell', haccounts⟩ := hw.accounts r hr
        exact ⟨cell', haccounts.carry (.refl w) hsub⟩
      below := by
        intro id entity' cell' hmem
        rcases hcases hmem with ⟨rfl, _⟩ | hmem
        · exact Nat.lt_succ_self _
        · exact Nat.lt_succ_of_lt (hw.below hmem)
      once := by
        -- An old start has a smaller number.
        intro id entity₁ entity₂ cell₁ cell₂ h₁ h₂
        rcases hcases h₁ with ⟨hid₁, hcell₁⟩ | h₁
        · rcases hcases h₂ with ⟨_, hcell₂⟩ | h₂
          · rw [hcell₁, hcell₂]
          · exact absurd (hw.below h₂) (hid₁ ▸ Nat.lt_irrefl _)
        · rcases hcases h₂ with ⟨hid₂, _⟩ | h₂
          · exact absurd (hw.below h₁) (hid₂ ▸ Nat.lt_irrefl _)
          · exact hw.once h₁ h₂ }

theorem of_call (h : ModuleCall w w') : Attributing w w' := by
  cases h with
  | start entity cell overrides => exact of_start w entity cell overrides
  | cancel entity => exact of_cancel w entity
  | assign id name v => exact of_assign w id name v
  | other hsame => exact of_same hsame

theorem of_note (w : World) (id : InstanceId) (e : NodeEvent) :
    Attributing w (w.record (.atNode id e)) :=
  of_quiet (.refl w) rfl rfl fun hw => hw.stands

end Attributing

/-! ## Updates -/

namespace Instance

variable {service : Service} {c : Conduct} {i : Instance} {w : World} {dt : Float}

theorem atWork_attributing (hservice : service.Keeps c Attributing) (i : Instance) :
    i.AtWork service c Attributing Attributing where
  steady := Attributing.steady
  service := hservice
  within := fun h => h
  own := by
    intro u v h
    cases h with
    | publish name x =>
      exact .of_quiet (World.keepsGraphs_publishWrite _ _ _ _ _ _) rfl rfl fun hw => hw.stands
    | assign name x => exact .of_quiet (.refl u) rfl rfl fun hw => hw.stands

/-- An instance that goes on stands where its graph leads it, and what it reports is accounted
for. -/
theorem step_attributes (hservice : service.Keeps c Attributing) (hw : w.Attributed)
    (hi : w.Stands i) : (i.step dt).Yields service c Attributing w fun r w' =>
      w'.Stands r.2 ∧ ∀ report, r.1 = some report → ∃ cell, w'.Accounts report cell := by
  have hsame := w.situationFor_sameModules i.entity [("dt", .float dt)]
  have hset := Attributing.of_same hsame
  refine .read (.write Attributing.steady hset ?_)
  have hset := hset hw
  -- The instance stands well whenever there are steps left.
  refine runSteps_yields Attributing.steady
    (P := fun _ i w => w.Attributed ∧ w.Stands i) ?_ ?_ ?_ _ _ _
    ⟨hset.attributed, hi.carry hset.graphs hset.history⟩
  · exact fun i w h => ⟨h.2, nofun⟩
  · intro _ i w h hlost
    refine ⟨h.2, fun report heq => ?_⟩
    cases heq
    refine ⟨i.graph, h.2.report fun fault heq => ?_⟩
    cases heq
    exact .nowhere h.2.cursor hlost
  · intro _ i w node h hfind
    refine ((visit_yields (atWork_attributing hservice i) Attributing.steady (fun h => h)
      fun u e => .of_note u i.id e).gives visit_gives).mono fun r w' hattr hr => ?_
    obtain ⟨⟨hran, _⟩, hfails⟩ := hr
    have hafter := hattr h.1
    have hstands := h.2.carry hafter.graphs hafter.history
    obtain ⟨hsame, hcursor, hstatus⟩ := hran.stands
    have hgraph := World.skeletonOf_keep hafter.graphs h.2.cell
    have hid := Graph.find?_id hfind
    have hcause : ∀ fault, r.1 = .finish (some fault) →
        (w'.skeletonOf i.graph).Causes ⟨fault, node.id⟩ := by
      intro code hcode
      rw [hgraph]
      exact .node (hid ▸ h.2.cursor) (hid ▸ hfind) (hfails code hcode)
    have hstays := hstands.same hsame (hcursor ▸ hstands.cursor) hstatus
    unfold After
    split
    · exact ⟨hstays, nofun⟩
    · next error hfinish =>
      refine ⟨hstays, fun report heq => ?_⟩
      cases heq
      refine ⟨_, hstays.report fun fault heq => ?_⟩
      obtain ⟨code, rfl, rfl⟩ := Option.map_eq_some_iff.mp heq
      rw [hsame.graph]
      exact hcause code hfinish
    · next port _ =>
      split
      · refine ⟨hstays, fun report heq => ?_⟩
        cases heq
        exact ⟨_, hstays.report nofun⟩
      · next next hnext =>
        have hattains : (w.skeletonOf i.graph).Attains next := h.2.cursor.next hfind hnext
        exact ⟨hafter.attributed, hstands.same (hsame.trans ⟨rfl, rfl, rfl, rfl⟩)
          (hgraph ▸ hattains) hstatus⟩

end Instance

section Update

variable {service : Service} {c : Conduct}

theorem stepAll_attributes (hservice : service.Keeps c Attributing) (dt : Float)
    (instances : List Instance) (w : World) (hw : w.Attributed)
    (hinstances : ∀ i ∈ instances, w.Stands i) :
    (stepAll dt instances).Yields service c Attributing w fun r w' =>
      (∀ report ∈ r.1, ∃ cell, w'.Accounts report cell) ∧ ∀ i ∈ r.2, w'.Stands i := by
  induction instances generalizing w with
  | nil => exact .done Attributing.steady ⟨nofun, nofun⟩
  | cons i rest ih =>
    have hi := hinstances i List.mem_cons_self
    have hrest : ∀ i ∈ rest, w.Stands i := fun j hj => hinstances j (List.mem_cons_of_mem _ hj)
    refine .read ?_
    split
    · exact ih w hw hrest
    · split
      · next result hresult =>
        refine .bind Attributing.steady ((ih w hw hrest).loosen fun h => h) fun r w' _ hr => ?_
        have hafter := hr.1 hw
        refine .done Attributing.steady ⟨fun report hmem => ?_, hr.2.2⟩
        rcases List.mem_cons.mp hmem with rfl | hmem
        · exact ⟨_, (hi.terminal hresult).carry hafter.graphs hafter.history⟩
        · exact hr.2.1 report hmem
      · refine .bind Attributing.steady
          ((i.step_attributes hservice hw hi).loosen fun h => h) fun r w₁ _ hr => ?_
        have hstep := hr.1 hw
        have hrest₁ : ∀ i ∈ rest, w₁.Stands i :=
          fun j hj => (hrest j hj).carry hstep.graphs hstep.history
        refine .bind Attributing.steady
          ((ih w₁ hstep.attributed hrest₁).loosen fun h => h) fun r' w' _ hr' => ?_
        have hafter := hr'.1 hstep.attributed
        dsimp only
        split
        · next result hended =>
          refine .done Attributing.steady ⟨fun report hmem => ?_, hr'.2.2⟩
          rcases List.mem_cons.mp hmem with rfl | hmem
          · obtain ⟨cell, haccounts⟩ := hr.2.2 report hended
            exact ⟨cell, haccounts.carry hafter.graphs hafter.history⟩
          · exact hr'.2.1 report hmem
        · refine .done Attributing.steady ⟨hr'.2.1, fun j hj => ?_⟩
          rcases List.mem_cons.mp hj with rfl | hj
          · exact hr.2.1.carry hafter.graphs hafter.history
          · exact hr'.2.2 j hj

/-- An update leaves the failures attributed, those that it reports included. -/
theorem updateModules_attributes (hservice : service.Keeps c Attributing) {m m' : Machine}
    (hm : m.Obeys c) {time dt : Float} {reports : List ModuleReport}
    (hrun : (updateModules time dt).run service m = some (reports, m')) :
    m.Leads c Attributing m' := by
  refine ⟨updateModules_obeys hservice hm hrun, fun hw => ?_⟩
  obtain ⟨kept, m₁, hall, rfl⟩ := updateModules_run hrun
  have hopen : Attributing m.world (m.world.opened time dt) := by
    refine .of_event [.opened] (.refl _) rfl rfl (fun _ _ _ hmem => ?_)
      (fun hw i hi => hw.stands i (List.mem_append_right _ hi))
      fun _ _ hr => absurd hr List.not_mem_nil
    cases List.mem_singleton.mp hmem
  have hopen := hopen hw
  have hinstances : ∀ i ∈ m.world.pool.instances, (m.world.opened time dt).Stands i :=
    fun i hi => (hw.stands i (List.mem_append_left _ hi)).carry hopen.graphs hopen.history
  obtain ⟨⟨_, hsteps⟩, hreports, hkept⟩ :=
    stepAll_attributes hservice dt _ _ hopen.attributed hinstances _ rfl (hm.withWorld _) hall
  have hclose : Attributing m₁.world (m₁.world.closed (reports, kept)) := by
    refine .of_event [.closed reports] (.refl _) rfl rfl (fun _ _ _ hmem => ?_)
      (fun hw i hi => ?_) fun _ r hr => hreports r (by simpa using hr)
    · cases List.mem_singleton.mp hmem
    · rcases Pool.mem_known_settle hi with hmem | hmem
      · exact hkept i hmem
      · exact hw.stands i hmem
  exact Attributing.steady.trans (fun _ => hopen)
    (Attributing.steady.trans hsteps hclose) hw

end Update

/-! ## Runs -/

theorem Conduct.reentrant_attributes : Conduct.reentrant.Keeps Attributing :=
  reentrant_keeps_of_call Attributing.steady .of_call .of_clear fun hservice hm hrun =>
    (updateModules_attributes hservice hm hrun).2

/-- In a run all failures stay attributed. -/
theorem Machine.Plays.attributes {m m' : Machine} {updates : List (List ModuleReport)}
    (hm : m.Obeys .reentrant) (h : m.Plays .reentrant updates m') :
    m.Leads .reentrant Attributing m' := by
  induction h with
  | refl => exact .refl Attributing.steady hm
  | @script m₁ m₂ updates depth _ _ _ _ hobeys hrun ih =>
    exact ih.trans Attributing.steady (Script.run_obeys Conduct.reentrant_attributes
      (Service.keeps_atDepth Conduct.reentrant_attributes depth) hobeys m₁ rfl ih.1 hrun)
  | @update m₁ m₂ updates depth _ _ _ _ hrun ih =>
    exact ih.trans Attributing.steady (updateModules_attributes
      (Service.keeps_atDepth Conduct.reentrant_attributes depth) ih.1 hrun)

theorem World.NoModulesYet.attributed {w : World} (h : w.NoModulesYet) : w.Attributed where
  stands := by
    rw [h.known]
    exact List.forall_mem_nil _
  accounts := by
    rw [h.history]
    exact List.forall_mem_nil _
  below := by
    rw [h.history]
    exact fun hmem => absurd hmem List.not_mem_nil
  once := by
    rw [h.history]
    exact fun hmem => absurd hmem List.not_mem_nil

/-- The reports that the host gets are in the history. -/
theorem Machine.Plays.reported {m m' : Machine} {updates : List (List ModuleReport)}
    (hm : m.Obeys .reentrant) (hw : m.world.Attributed) (h : m.Plays .reentrant updates m') :
    ∀ reports ∈ updates, .closed reports ∈ m'.world.history := by
  induction h with
  | refl => exact nofun
  | @script m₁ m₂ updates depth _ _ _ hplays hobeys hrun ih =>
    obtain ⟨hm₁, hw₁⟩ := hplays.attributes hm
    have hscript := Script.run_obeys Conduct.reentrant_attributes
      (Service.keeps_atDepth Conduct.reentrant_attributes depth) hobeys m₁ rfl hm₁ hrun
    exact fun reports hmem => (hscript.2 (hw₁ hw).attributed).history (ih reports hmem)
  | @update m₁ m₂ updates depth time dt _ hplays hrun ih =>
    obtain ⟨hm₁, hw₁⟩ := hplays.attributes hm
    have hupdate := updateModules_attributes
      (Service.keeps_atDepth Conduct.reentrant_attributes depth) hm₁ hrun
    intro reports hmem
    rcases List.mem_cons.mp hmem with rfl | hmem
    · obtain ⟨kept, m', _, rfl⟩ := updateModules_run hrun
      exact List.mem_cons_self
    · exact (hupdate.2 (hw₁ hw).attributed).history (ih reports hmem)

/-- **Failures are attributed.** Whatever actions, listeners and hosts do, each report of a run is
about one graph that was started for its instance. If it is a failure, its code says what is the
matter with the node that it names, or that the graph has a circle; and if all flow edges of nodes
that can be reached lead to nodes that can be run, it is neither that a node was not found nor that
a node cannot be run. -/
theorem failures_are_attributed {m m' : Machine} {updates : List (List ModuleReport)}
    (hnew : m.world.NoModulesYet) (hm : m.Obeys .reentrant)
    (h : m.Plays .reentrant updates m') :
    (∀ reports ∈ updates, reports ⊆ reportsIn m'.world.history) ∧
    ∀ r ∈ reportsIn m'.world.history, ∃ cell,
      .started r.instanceId r.entity cell ∈ m'.world.history ∧
      (∀ entity cell', .started r.instanceId entity cell' ∈ m'.world.history → cell' = cell) ∧
      r.moduleId = (m'.world.skeletonOf cell).id ∧
      ∀ fault, r.error = some fault → (m'.world.skeletonOf cell).Blames fault ∧
        ((m'.world.skeletonOf cell).LeadsOn →
          fault.code ≠ .nodeNotFound ∧ fault.code ≠ .invalidNode) := by
  obtain ⟨_, hattr⟩ := h.attributes hm
  have hw := (hattr hnew.attributed).attributed
  refine ⟨fun reports hmem r hr => ?_, fun r hr => ?_⟩
  · exact List.mem_flatMap.mpr ⟨_, h.reported hm hnew.attributed reports hmem, hr⟩
  · obtain ⟨cell, haccounts⟩ := hw.accounts r hr
    refine ⟨cell, haccounts.started, fun _ _ => hw.once haccounts.started, haccounts.moduleId, ?_⟩
    intro fault herror
    have hcause := haccounts.error fault herror
    exact ⟨hcause.blames haccounts.entry, hcause.of_leadsOn haccounts.entry⟩

/-! ## A module that gets lost, and one that gives up -/

namespace Straying

/-- An edge leads to a node that is not there. -/
def lost : Graph where
  id := "lost"
  entry := "a"
  nodes := [⟨"a", .entry⟩]
  edges := [.flow "a" "out" "b" "in"]

/-- All edges lead on, to a node that fails the module. -/
def quitter : Graph where
  id := "quitter"
  entry := "a"
  nodes := [⟨"a", .entry⟩, ⟨"b", .stop .failed none⟩]
  edges := [.flow "a" "out" "b" "in"]

/-- A scene with both graphs. -/
def machine : Machine where
  world := { library := .ofList [lost, quitter] }

/-- Starts both graphs. -/
def start : Script Unit :=
  .read fun w => .write (w.startGraph ⟨"one"⟩ 0 []).2
    (.read fun w => .write (w.startGraph ⟨"one"⟩ 1 []).2 (.done ()))

theorem quitter_leadsOn : quitter.LeadsOn := by
  intro u _ _ v hv
  obtain ⟨port, targetPort, he⟩ := Graph.mem_targets_iff.mp hv
  cases List.mem_singleton.mp he
  exact ⟨_, rfl, rfl⟩

theorem machine_plays : ∃ m, machine.Plays .reentrant
    [[⟨1, ⟨"one"⟩, "lost", some ⟨.nodeNotFound, "b"⟩⟩,
      ⟨2, ⟨"one"⟩, "quitter", some ⟨.designer "Failed", "b"⟩⟩]] m ∧
    m.world.skeletonOf 1 = quitter := by
  have hobeys : start.Obeys .reentrant machine.world :=
    .read (.write (.single (Or.inl (.start _ ⟨"one"⟩ 0 [])))
      (.read (.write (.single (Or.inl (.start _ ⟨"one"⟩ 1 []))) .done)))
  have hrun : ∃ m₁, start.run (Service.atDepth 0) machine = some ((), m₁) ∧
      ∃ m₂, (updateModules 0 0).run (Service.atDepth 0) m₁ =
        some ([⟨1, ⟨"one"⟩, "lost", some ⟨.nodeNotFound, "b"⟩⟩,
          ⟨2, ⟨"one"⟩, "quitter", some ⟨.designer "Failed", "b"⟩⟩], m₂) ∧
        m₂.world.skeletonOf 1 = quitter :=
    ⟨_, rfl, _, rfl, rfl⟩
  obtain ⟨m₁, h₁, m₂, h₂, hgraph⟩ := hrun
  exact ⟨m₂, .update (.script .refl hobeys h₁) h₂, hgraph⟩

end Straying

/-- A node that is not found is where an edge leads; a module whose edges lead on fails by the code
of its stop node. -/
theorem lost_and_quitter_attributed : ∃ m, Straying.machine.world.NoModulesYet ∧
    Straying.machine.Obeys .reentrant ∧
    Straying.machine.Plays .reentrant
      [[⟨1, ⟨"one"⟩, "lost", some ⟨.nodeNotFound, "b"⟩⟩,
        ⟨2, ⟨"one"⟩, "quitter", some ⟨.designer "Failed", "b"⟩⟩]] m ∧
    m.world.skeletonOf 1 = Straying.quitter ∧ Straying.quitter.LeadsOn ∧
    ∀ r ∈ reportsIn m.world.history, ∃ cell, r.moduleId = (m.world.skeletonOf cell).id ∧
      ∀ fault, r.error = some fault → (m.world.skeletonOf cell).Blames fault := by
  obtain ⟨m, hplays, hgraph⟩ := Straying.machine_plays
  have hnew : Straying.machine.world.NoModulesYet := ⟨rfl, rfl, rfl, rfl, rfl, fun _ => rfl⟩
  have hm : Straying.machine.Obeys .reentrant := ⟨nofun, nofun, nofun⟩
  refine ⟨m, hnew, hm, hplays, hgraph, Straying.quitter_leadsOn, fun r hr => ?_⟩
  obtain ⟨cell, _, _, hid, hfaults⟩ := (failures_are_attributed hnew hm hplays).2 r hr
  exact ⟨cell, hid, fun fault herror => (hfaults fault herror).1⟩

end SceneLogic
