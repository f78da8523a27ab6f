import SceneLogic.Proofs.Module.Carrying
import SceneLogic.Proofs.Module.Termination

/-!
# Modules with circles are refused

A graph from whose entry a circle can be reached is started like any other, but the instance has
failed from the start. It does nothing in any run, and the first update that begins after its start
reports it. Only two things can keep it from that: its entity is cancelled, or all modules are
dropped. Where updates are run in the midst of updates, there is a third: what was started in
between may get lost.

* `Fate` — what became of such an instance, read off the history since its start
* `Moment` — between updates every such instance has a fate; scripts and updates keep this
-/

namespace SceneLogic

/-! ## Fates -/

/-- No update that opened in this part of a history has closed in it. -/
def Unfinished (h : List PoolEvent) : Prop :=
  ∀ after reports before, h = after ++ .closed reports :: before → .opened ∉ before

/-- What became of an instance whose graph has a circle. Since its start there was `later`, and
before it `earlier`; the host got these reports from updates. -/
inductive Fate (w : World) (updates : List (List ModuleReport)) (later earlier : List PoolEvent)
    (id : InstanceId) (entity : EntityId) (cell : GraphRef) : Prop
  /-- No update has begun yet, and it is in the pool. -/
  | waits {i : Instance} : .opened ∉ later → i ∈ w.pool.instances → i.id = id →
      i.entity = entity → i.graph = cell → Fate w updates later earlier id entity cell
  /-- The first update that began has reported it. -/
  | reported {after before : List PoolEvent} {reports : List ModuleReport} {r : ModuleReport} :
      later = after ++ .closed reports :: before → .opened ∈ before → Unfinished before →
      reports ∈ updates → r ∈ reports → r.instanceId = id → r.entity = entity →
      r.error = some ⟨.cycleDetected, (w.skeletonOf cell).entry⟩ →
      Fate w updates later earlier id entity cell
  /-- Its entity was cancelled before the first update that began had ended. -/
  | cancelled {after before : List PoolEvent} : later = after ++ before → Unfinished before →
      .cancelled entity ∈ before → Fate w updates later earlier id entity cell
  /-- Its entity had been cancelled in the update in which it was started. -/
  | cancelledBefore : CancelledNow earlier entity → Fate w updates later earlier id entity cell
  /-- All modules were dropped before an update began. -/
  | cleared {after before : List PoolEvent} : later = after ++ before → .opened ∉ before →
      .cleared ∈ before → Fate w updates later earlier id entity cell

theorem Unfinished.of_not_opened {h : List PoolEvent} (hopen : .opened ∉ h) : Unfinished h := by
  intro after reports before heq hmem
  refine hopen ?_
  rw [heq]
  exact List.mem_append_right _ (List.mem_cons_of_mem _ hmem)

/-- An update that began last is unfinished as long as it has not closed. -/
theorem Unfinished.of_opened {during between : List PoolEvent} (hclose : ¬ Closes during)
    (hopen : .opened ∉ between) : Unfinished (during ++ .opened :: between) := by
  intro after reports before heq hmem
  rcases List.append_eq_append_iff.mp heq with ⟨c, _, hrest⟩ | ⟨c, hduring, hrest⟩
  · cases c with
    | nil => cases (List.cons.inj hrest).1
    | cons e c =>
      obtain ⟨_, rfl⟩ := List.cons.inj hrest
      exact hopen (List.mem_append_right _ (List.mem_cons_of_mem _ hmem))
  · cases c with
    | nil => cases (List.cons.inj hrest).1
    | cons e c =>
      obtain ⟨rfl, _⟩ := List.cons.inj hrest
      exact hclose ⟨reports, hduring ▸ List.mem_append_right _ List.mem_cons_self⟩

namespace Fate

variable {w w' : World} {updates updates' : List (List ModuleReport)}
  {new later earlier : List PoolEvent} {id : InstanceId} {entity : EntityId} {cell : GraphRef}

/-- An instance that has lasted, without an update, is in the pool. -/
theorem of_lasts (h : Lasts id entity cell later w.pool) (hopen : .opened ∉ later)
    (hpending : w.pool.pending = []) : Fate w updates later earlier id entity cell := by
  cases h with
  | known hi hid hentity hgraph =>
    rw [Pool.known, hpending, List.append_nil] at hi
    exact .waits hopen hi hid hentity hgraph
  | cancelled hmem => exact .cancelled (List.nil_append _).symm (.of_not_opened hopen) hmem
  | cleared hmem => exact .cleared (List.nil_append _).symm hopen hmem

/-- A fate is for good, except that of an instance that waits. -/
theorem goOn (h : Fate w updates later earlier id entity cell) (new : List PoolEvent)
    (hgraph : w'.skeletonOf cell = w.skeletonOf cell) (hupdates : updates ⊆ updates')
    (hwaits : ∀ i ∈ w.pool.instances, i.id = id → i.entity = entity → i.graph = cell →
      .opened ∉ later → Fate w' updates' (new ++ later) earlier id entity cell) :
    Fate w' updates' (new ++ later) earlier id entity cell := by
  cases h with
  | waits hopen hi hid hentity hcell => exact hwaits _ hi hid hentity hcell hopen
  | reported hlater hopen hunfinished hmem hr hid hentity herror =>
    rw [hlater, ← List.append_assoc]
    exact .reported rfl hopen hunfinished (hupdates hmem) hr hid hentity (hgraph ▸ herror)
  | cancelled hlater hunfinished hmem =>
    rw [hlater, ← List.append_assoc]
    exact .cancelled rfl hunfinished hmem
  | cancelledBefore hnow => exact .cancelledBefore hnow
  | cleared hlater hopen hmem =>
    rw [hlater, ← List.append_assoc]
    exact .cleared rfl hopen hmem

end Fate

/-! ## Moments between updates -/

/-- No update is under way, and every instance whose graph has a circle has its fate. -/
structure Moment (w : World) (updates : List (List ModuleReport)) : Prop where
  idle : w.pool.updating = false
  pending : w.pool.pending = []
  fates : ∀ later id entity cell earlier,
    w.history = later ++ .started id entity cell :: earlier →
    (w.skeletonOf cell).hasCycle = true → Fate w updates later earlier id entity cell

/-- An instance whose graph has a circle has failed. -/
theorem World.Sane.failed {w : World} (hw : w.Sane) {i : Instance} (hi : i ∈ w.pool.known)
    (hcircle : (w.skeletonOf i.graph).hasCycle = true) :
    i.status = .failed ⟨.cycleDetected, (w.skeletonOf i.graph).entry⟩ := by
  rcases (hw.fit i hi).way with ⟨_, hway⟩ | hrefused
  · rw [hway.acyclic] at hcircle
    cases hcircle
  · exact hrefused.status

namespace Moment

variable {w v w' : World} {updates : List (List ModuleReport)} {new during : List PoolEvent}

theorem first (h : w.NoModulesYet) : Moment w [] where
  idle := h.updating
  pending := h.pending
  fates := by
    intro later id entity cell earlier heq
    rw [h.history] at heq
    exact absurd heq Carries.not_started_nil

/-- From one moment to the next without an update. -/
theorem script (h : Moment w updates) (hcarries : Carries w new w')
    (hgraphs : ∀ id entity cell, .started id entity cell ∈ w.history →
      w'.skeletonOf cell = w.skeletonOf cell) : Moment w' updates where
  idle := hcarries.updating.trans h.idle
  pending := hcarries.idle h.idle h.pending
  fates := by
    have hpending := hcarries.idle h.idle h.pending
    intro later id entity cell earlier heq hcircle
    rw [hcarries.history] at heq
    rcases Carries.start_cases heq with ⟨since, rfl, hold⟩ | ⟨before, hnew, _⟩
    · have hgraph := hgraphs id entity cell (by rw [hold]; simp)
      refine (h.fates _ _ _ _ _ hold (hgraph ▸ hcircle)).goOn new hgraph (List.Subset.refl _) ?_
      rintro i hi rfl rfl rfl hopen
      have hopen' : .opened ∉ new ++ since :=
        fun hmem => (List.mem_append.mp hmem).elim hcarries.opens hopen
      have hknown : Lasts i.id i.entity i.graph since w.pool :=
        .known (List.mem_append_left _ hi) rfl rfl rfl
      exact .of_lasts (Carries.lasts hknown hcarries) hopen' hpending
    · refine .of_lasts (hcarries.started _ _ _ _ _ hnew) (fun hmem => hcarries.opens ?_) hpending
      rw [hnew]
      exact List.mem_append_left _ hmem

section Update

variable {time dt : Float} {reports : List ModuleReport} {kept : List Instance}

/-- In an update only those are listed as cancelled who were cancelled in it. -/
theorem cancelled_during (h : Moment w updates) (hw : w.Sane)
    (hcarries : Carries (w.opened time dt) during v) {entity : EntityId}
    (hmem : entity ∈ v.pool.removed) : .cancelled entity ∈ during := by
  have hnone : (w.opened time dt).pool.removed = [] := hw.removed h.idle
  refine (hcarries.cancelled entity hmem).resolve_left fun hmem => ?_
  rw [hnone] at hmem
  exact List.not_mem_nil hmem

/-- An instance that waited for an update is reported by it, or was cancelled meanwhile. -/
theorem fate_waited (h : Moment w updates) (hw : w.Sane)
    (hcarries : Carries (w.opened time dt) during v)
    (hsort : Sorted (· ∈ v.pool.removed) w.pool.instances reports kept)
    {since earlier : List PoolEvent} {i : Instance} (hi : i ∈ w.pool.instances)
    (hopen : .opened ∉ since) (hcircle : (w.skeletonOf i.graph).hasCycle = true)
    (hgraph : w'.skeletonOf i.graph = w.skeletonOf i.graph) :
    Fate w' (reports :: updates) (.closed reports :: (during ++ .opened :: since)) earlier i.id
      i.entity i.graph := by
  have hfailed := hw.failed (List.mem_append_left _ hi) hcircle
  have hunfinished := Unfinished.of_opened hcarries.closes hopen
  have hresult : i.terminalResult? =
      some (i.report (some ⟨.cycleDetected, (w.skeletonOf i.graph).entry⟩)) := by
    rw [Instance.terminalResult?, hfailed]
  rcases hsort.told hi hresult with hgone | hmem
  · have hcancel := h.cancelled_during hw hcarries hgone
    exact .cancelled List.singleton_append.symm hunfinished (List.mem_append_left _ hcancel)
  · refine .reported (List.nil_append _).symm (List.mem_append_right _ List.mem_cons_self) hunfinished
      List.mem_cons_self hmem rfl rfl ?_
    rw [hgraph]
    rfl

/-- An instance that was started in an update waits for the next one. -/
theorem fate_started (h : Moment w updates) (hw : w.Sane)
    (hcarries : Carries (w.opened time dt) during v) {later before : List PoolEvent}
    {id : InstanceId} {entity : EntityId} {cell : GraphRef}
    (hduring : during = later ++ .started id entity cell :: before) :
    Fate (v.closed (reports, kept)) (reports :: updates) (.closed reports :: later)
      (before ++ .opened :: w.history) id entity cell := by
  have hlater : later ⊆ during := by
    rw [hduring]
    exact List.subset_append_left _ _
  have hopen : .opened ∉ later := fun hmem => hcarries.opens (hlater hmem)
  have hunfinished := Unfinished.of_not_opened hopen
  cases hcarries.started _ _ _ _ _ hduring with
  | @known i hi hid hentity hgraph =>
    have hnone : v.pool.instances = [] := hcarries.taken rfl rfl
    have hi : i ∈ v.pool.pending := by rwa [Pool.known, hnone] at hi
    by_cases hgone : entity ∈ v.pool.removed
    · have hcancel := h.cancelled_during hw hcarries hgone
      rw [hduring] at hcancel
      rcases List.mem_append.mp hcancel with hcancel | hcancel
      · exact .cancelled List.singleton_append.symm hunfinished hcancel
      · refine .cancelledBefore ⟨before, w.history, rfl, ?_, ?_⟩
        · exact (List.mem_cons.mp hcancel).resolve_left PoolEvent.noConfusion
        · rintro ⟨r, hr⟩
          refine hcarries.closes ⟨r, ?_⟩
          rw [hduring]
          exact List.mem_append_right _ (List.mem_cons_of_mem _ hr)
    · have hstays : i ∈ (v.closed (reports, kept)).pool.instances := by
        refine List.mem_append_right _ (List.mem_filter.mpr ⟨hi, ?_⟩)
        simpa [hentity] using hgone
      refine .waits (fun hmem => ?_) hstays hid hentity hgraph
      exact hopen ((List.mem_cons.mp hmem).resolve_left PoolEvent.noConfusion)
  | cancelled hmem => exact .cancelled List.singleton_append.symm hunfinished hmem
  | cleared hmem => exact .cleared List.singleton_append.symm hopen hmem

/-- From one moment to the next by an update. -/
theorem update (h : Moment w updates) (hw : w.Sane)
    (hcarries : Carries (w.opened time dt) during v)
    (hsort : Sorted (· ∈ v.pool.removed) w.pool.instances reports kept)
    (hgraphs : ∀ id entity cell, .started id entity cell ∈ w.history →
      (v.closed (reports, kept)).skeletonOf cell = w.skeletonOf cell) :
    Moment (v.closed (reports, kept)) (reports :: updates) where
  idle := rfl
  pending := rfl
  fates := by
    intro later id entity cell earlier heq hcircle
    have hhistory : (v.closed (reports, kept)).history =
        (.closed reports :: (during ++ [.opened])) ++ w.history := by
      show PoolEvent.closed reports :: v.history = _
      rw [hcarries.history, List.cons_append, List.append_assoc]
      rfl
    rw [hhistory] at heq
    rcases Carries.start_cases heq with ⟨since, rfl, hold⟩ | ⟨before, hnew, rfl⟩
    · have hgraph := hgraphs id entity cell (by rw [hold]; simp)
      have hcircle' : (w.skeletonOf cell).hasCycle = true := hgraph ▸ hcircle
      refine (h.fates _ _ _ _ _ hold hcircle').goOn _ hgraph (List.subset_cons_self _ _) ?_
      rintro i hi rfl rfl rfl hopen
      rw [List.cons_append, List.append_assoc]
      exact h.fate_waited hw hcarries hsort hi hopen hcircle' hgraph
    · -- What was started in the update comes after its opening and before its close.
      cases later with
      | nil => cases (List.cons.inj hnew).1
      | cons e later =>
        obtain ⟨rfl, htail⟩ := List.cons.inj hnew
        rcases Carries.start_cases htail with ⟨since, _, hopened⟩ | ⟨before, hduring, rfl⟩
        · have hmem : PoolEvent.started id entity cell ∈ [.opened] := by rw [hopened]; simp
          exact nomatch List.mem_singleton.mp hmem
        · rw [List.append_assoc]
          exact h.fate_started hw hcarries hduring

end Update

end Moment

/-! ## Runs -/

theorem Conduct.reentrant_relies : Conduct.reentrant.Relies where
  refl _ := trivial
  trans _ _ := trivial
  step _ := trivial

theorem Conduct.clearing_within_reentrant : Conduct.clearing.Within .reentrant where
  step h := h
  part := nofun
  announces _ := trivial
  performs _ := trivial
  checks _ := trivial
  registers _ := trivial
  rely _ := trivial

namespace Machine.Plays

variable {m m' : Machine} {updates : List (List ModuleReport)}

theorem mono {c c' : Conduct} (hc : c'.Relies) (hle : c.Within c') (h : m.Plays c updates m') :
    m.Plays c' updates m' := by
  induction h with
  | refl => exact .refl
  | script _ hobeys hrun ih => exact .script ih (hobeys.mono hc hle) hrun
  | update _ hrun ih => exact .update ih hrun

/-- All along a run pool, journal and trails agree. -/
theorem agrees (hnew : m.world.NoModulesYet) (hm : m.Obeys .reentrant)
    (h : m.Plays .reentrant updates m') :
    m'.Obeys .reentrant ∧ m'.world.Sane ∧ ∀ id, m'.world.Right id := by
  obtain ⟨hm', _, hon⟩ := h.onward hm hnew.sane
  refine ⟨hm', hon.held.toSane, fun id => hon.right_all List.not_mem_nil ?_⟩
  rw [World.Right, hnew.history]
  intro entity cell hmem
  cases hmem

/-- What was started from a graph was started from its nodes and edges as they are now. -/
theorem started_graph {w w' : World} (hright : ∀ id, w.Right id) (hgraphs : w.KeepsGraphs w')
    (id : InstanceId) (entity : EntityId) (cell : GraphRef)
    (hmem : .started id entity cell ∈ w.history) : w'.skeletonOf cell = w.skeletonOf cell :=
  World.skeletonOf_keep hgraphs (hright id entity cell hmem).1.1

/-- All along a run every instance whose graph has a circle has its fate. -/
theorem moment (hnew : m.world.NoModulesYet) (hm : m.Obeys .clearing)
    (h : m.Plays .clearing updates m') : m'.Obeys .clearing ∧ Moment m'.world updates := by
  have hreentrant := hm.mono Conduct.reentrant_relies Conduct.clearing_within_reentrant
  induction h with
  | refl => exact ⟨hm, .first hnew⟩
  | @script m₁ m₂ updates depth _ _ _ hplays hobeys hrun ih =>
    obtain ⟨hm₁, hmoment⟩ := ih
    have hplays := hplays.mono Conduct.reentrant_relies Conduct.clearing_within_reentrant
    obtain ⟨hm₁', hsane, hright⟩ := hplays.agrees hnew hreentrant
    obtain ⟨_, hapart⟩ := Script.run_obeys Conduct.reentrant_keeps
      (Service.keeps_atDepth Conduct.reentrant_keeps depth)
      (hobeys.mono Conduct.reentrant_relies Conduct.clearing_within_reentrant) m₁ rfl hm₁' hrun
    obtain ⟨_, hon⟩ := hapart ⟨hsane, nofun⟩
    obtain ⟨hm₂, _, hcarries⟩ := Script.run_obeys Conduct.clearing_keeps
      (Service.keeps_atDepth Conduct.clearing_keeps depth) hobeys m₁ rfl hm₁ hrun
    exact ⟨hm₂, hmoment.script hcarries (started_graph hright hon.graphs)⟩
  | @update m₁ m₂ updates depth time dt reports hplays hrun ih =>
    obtain ⟨hm₁, hmoment⟩ := ih
    have hplays := hplays.mono Conduct.reentrant_relies Conduct.clearing_within_reentrant
    obtain ⟨hm₁', hsane, hright⟩ := hplays.agrees hnew hreentrant
    obtain ⟨_, _, hon, _⟩ := updateModules_advances
      (Service.keeps_atDepth Conduct.reentrant_keeps depth) hm₁' hsane hrun
    obtain ⟨hm₂, v, kept, ⟨_, hcarries⟩, hsort, hw⟩ := Conduct.updateModules_sorts
      Carries.poolSteady (Service.keeps_atDepth Conduct.clearing_keeps depth) hm₁ hrun
    have hgraphs := started_graph hright hon.graphs
    rw [hw] at hgraphs ⊢
    exact ⟨hm₂, hmoment.update hsane hcarries hsort hgraphs⟩

end Machine.Plays

/-! ## Starts and turns -/

/-- A start of a graph with an entry node gives an instance that has failed if and only if the
graph has a circle. -/
theorem World.startGraph_status (w : World) (entity : EntityId) (cell : GraphRef)
    (overrides : Params) (hentry : (w.library.read cell).entryNode?.isSome = true) :
    ∃ i ∈ (w.startGraph entity cell overrides).2.pool.known,
      (w.startGraph entity cell overrides).1 = .ok i.id ∧ i.id = w.pool.nextId ∧
      i.entity = entity ∧ i.graph = cell ∧
      (i.status = .failed ⟨.cycleDetected, (w.library.read cell).entry⟩ ↔
        (w.library.read cell).hasCycle = true) := by
  obtain ⟨node, hnode⟩ := Option.isSome_iff_exists.mp hentry
  generalize hvars : startingVars (w.library.read cell).defaults overrides (w.store.get? entity)
    = vars
  have hstart : w.startGraph entity cell overrides =
      (.ok w.pool.nextId, ({ w with
        pool := { w.pool.add
          (.ofGraph w.pool.nextId entity cell (w.library.read cell) vars) with
          nextId := w.pool.nextId + 1 } }.record (.seeded w.pool.nextId vars)).record
        (.ofPool (.started w.pool.nextId entity cell))) := by
    rw [startGraph, hnode, hvars]
    rfl
  rw [hstart]
  refine ⟨.ofGraph w.pool.nextId entity cell (w.library.read cell) vars, ?_, rfl, rfl, rfl, rfl, ?_⟩
  · exact Pool.mem_known_add.mpr (Or.inl rfl)
  · unfold Instance.ofGraph
    cases (w.library.read cell).hasCycle with
    | true => exact iff_of_true rfl rfl
    | false => exact iff_of_false nofun nofun

/-- The turn of an instance that has ended does nothing but add its report, and not even that if
its entity was cancelled. -/
theorem stepAll_ended (service : Service) (m : Machine) (dt : Float) {i : Instance}
    {result : ModuleReport} (h : i.terminalResult? = some result) (rest : List Instance) :
    (stepAll dt (i :: rest)).run service m =
      ((stepAll dt rest).run service m).map fun (r, m') =>
        (if m.world.pool.removed.contains i.entity then r else (result :: r.1, r.2), m') := by
  rw [stepAll, Script.run]
  dsimp only
  by_cases hgone : m.world.pool.removed.contains i.entity = true
  · simp only [hgone, if_true, Option.map_id']
  · simp only [hgone, if_false, h, Script.run_bind, Bool.false_eq_true]
    cases (stepAll dt rest).run service m with
    | none => rfl
    | some r => rfl

/-- **Modules with circles are refused.** The search finds a circle if and only if the entry is
known and leads to a node that leads back to itself. A start gives an instance that has failed if
and only if there is such a circle. In no run does it come by a node, and its turn in an update does
nothing but report it. If no updates are run in the midst of others, the first update that begins
after its start reports it, unless its entity was cancelled or all modules were dropped before. -/
theorem circles_are_refused {m m' : Machine} {updates : List (List ModuleReport)}
    (hnew : m.world.NoModulesYet) (hm : m.Obeys .reentrant) (h : m.Plays .reentrant updates m') :
    (∀ g : Graph, g.hasCycle = true ↔ g.Circular) ∧
    (∀ (w : World) (entity : EntityId) (cell : GraphRef) (overrides : Params),
      (w.library.read cell).entryNode?.isSome = true →
      ∃ i ∈ (w.startGraph entity cell overrides).2.pool.known,
        (w.startGraph entity cell overrides).1 = .ok i.id ∧ i.id = w.pool.nextId ∧
        i.entity = entity ∧ i.graph = cell ∧
        (i.status = .failed ⟨.cycleDetected, (w.library.read cell).entry⟩ ↔
          (w.library.read cell).hasCycle = true)) ∧
    (∀ id entity cell, .started id entity cell ∈ m'.world.history →
      (m'.world.skeletonOf cell).hasCycle = true → m'.world.trail id = []) ∧
    (∀ (service : Service) (n : Machine) (dt : Float) (i : Instance) (result : ModuleReport),
      i.terminalResult? = some result → ∀ rest,
      (stepAll dt (i :: rest)).run service n =
        ((stepAll dt rest).run service n).map fun (r, n') =>
          (if n.world.pool.removed.contains i.entity then r else (result :: r.1, r.2), n')) ∧
    (m.Obeys .clearing → m.Plays .clearing updates m' →
      ∀ later id entity cell earlier,
        m'.world.history = later ++ .started id entity cell :: earlier →
        (m'.world.skeletonOf cell).hasCycle = true →
        Fate m'.world updates later earlier id entity cell) := by
  obtain ⟨_, _, hright⟩ := h.agrees hnew hm
  refine ⟨Graph.hasCycle_iff, World.startGraph_status, fun id entity cell hmem hcircle => ?_,
    fun service n dt i result hresult rest => stepAll_ended service n dt hresult rest,
    fun hm' h' => ?_⟩
  · exact (hright id entity cell hmem).1.2 hcircle
  · obtain ⟨_, hmoment⟩ := h'.moment hnew hm'
    exact hmoment.fates

/-! ## Two nodes in a circle -/

namespace Circling

/-- Two nodes, each of which leads to the other. -/
def graph : Graph where
  id := "circles"
  entry := "a"
  nodes := [⟨"a", .entry⟩, ⟨"b", .merge⟩]
  edges := [.flow "a" "out" "b" "in", .flow "b" "out" "a" "in"]

/-- A graph that performs an action. -/
def nesting : Graph where
  id := "nests"
  entry := "a"
  nodes := [⟨"a", .entry⟩, ⟨"b", .flow .instant "Nest" []⟩]
  edges := [.flow "a" "out" "b" "in"]

/-- Starts the circle, and runs an update. -/
def nest : Action := fun s _ =>
  .read fun w => .write (w.startGraph s.entity 0 []).2
    ((updateModules 0 0).bind fun _ => .done (.ok ()))

/-- The two graphs. -/
def machine (actions : Dict String Action) : Machine where
  world := { library := .ofList [graph, nesting] }
  actions

/-- Starts a graph. -/
def start (cell : GraphRef) : Script Unit :=
  .read fun w => .write (w.startGraph ⟨"one"⟩ cell []).2 (.done ())

/-- Drops all modules. -/
def clear : Script Unit :=
  Script.modifyWorld (·.clearModules)

/-- The report of the circle, by its number. -/
def refusal (id : InstanceId) : ModuleReport :=
  ⟨id, ⟨"one"⟩, "circles", some ⟨.cycleDetected, "a"⟩⟩

theorem machine_new (actions : Dict String Action) : (machine actions).world.NoModulesYet :=
  ⟨rfl, rfl, rfl, rfl, rfl, fun _ => rfl⟩

theorem machine_obeys (c : Conduct) : (machine []).Obeys c :=
  ⟨nofun, nofun, nofun⟩

theorem nesting_obeys : (machine [("Nest", nest)]).Obeys .reentrant where
  listeners := nofun
  actions := by
    intro a ha s params w
    rw [List.mem_singleton.mp ha]
    refine .read (.write (.single (Or.inl (.start w s.entity 0 []))) ?_)
    exact .part (.mk 0 0) fun _ _ _ => .done
  conditions := nofun

theorem start_obeys (cell : GraphRef) (w : World) : (start cell).Obeys .clearing w :=
  .read (.write (.single (Or.inl (.start w ⟨"one"⟩ cell []))) .done)

theorem clear_obeys (w : World) : clear.Obeys .clearing w :=
  .read (.write (.single (Or.inr rfl)) .done)

/-- The circle is started, and the next update reports it. -/
theorem refused_plays : ∃ m, (machine []).Plays .clearing [[refusal 1]] m ∧
    m.world.history = [.closed [refusal 1], .opened] ++ .started 1 ⟨"one"⟩ 0 :: [] ∧
    m.world.skeletonOf 0 = graph := by
  have hrun : ∃ m₁, (start 0).run (Service.atDepth 1) (machine []) = some ((), m₁) ∧
      ∃ m₂, (updateModules 0 0).run (Service.atDepth 1) m₁ = some ([refusal 1], m₂) ∧
        m₂.world.history = [.closed [refusal 1], .opened] ++ .started 1 ⟨"one"⟩ 0 :: [] ∧
        m₂.world.skeletonOf 0 = graph :=
    ⟨_, rfl, _, rfl, rfl, rfl⟩
  obtain ⟨m₁, h₁, m₂, h₂, hhistory, hgraph⟩ := hrun
  exact ⟨m₂, .update (.script .refl (start_obeys 0 _) h₁) h₂, hhistory, hgraph⟩

/-- The circle is started, all modules are dropped, and the next update reports nothing. -/
theorem cleared_plays : ∃ m, (machine []).Plays .clearing [[]] m ∧
    m.world.history = [.closed [], .opened, .cleared] ++ .started 1 ⟨"one"⟩ 0 :: [] ∧
    m.world.skeletonOf 0 = graph := by
  have hrun : ∃ m₁, (start 0).run (Service.atDepth 1) (machine []) = some ((), m₁) ∧
      ∃ m₂, clear.run (Service.atDepth 1) m₁ = some ((), m₂) ∧
      ∃ m₃, (updateModules 0 0).run (Service.atDepth 1) m₂ = some ([], m₃) ∧
        m₃.world.history = [.closed [], .opened, .cleared] ++ .started 1 ⟨"one"⟩ 0 :: [] ∧
        m₃.world.skeletonOf 0 = graph :=
    ⟨_, rfl, _, rfl, _, rfl, rfl, rfl⟩
  obtain ⟨m₁, h₁, m₂, h₂, m₃, h₃, hhistory, hgraph⟩ := hrun
  have hplays := Machine.Plays.script .refl (start_obeys 0 _) h₁
  exact ⟨m₃, .update (.script hplays (clear_obeys _) h₂) h₃, hhistory, hgraph⟩

/-- The report of the graph that starts the circle. -/
def nested : ModuleReport :=
  ⟨1, ⟨"one"⟩, "nests", none⟩

/-- The circle is started in an update that runs another one, and gets lost. -/
theorem nested_plays : ∃ m, (machine [("Nest", nest)]).Plays .reentrant [[], [nested]] m ∧
    m.world.history = [.closed [], .opened, .closed [nested], .closed [], .opened] ++
      .started 2 ⟨"one"⟩ 0 :: [.opened, .started 1 ⟨"one"⟩ 1] ∧
    m.world.skeletonOf 0 = graph := by
  have hrun : ∃ m₁, (start 1).run (Service.atDepth 2) (machine [("Nest", nest)]) =
        some ((), m₁) ∧
      ∃ m₂, (updateModules 0 0).run (Service.atDepth 2) m₁ = some ([nested], m₂) ∧
      ∃ m₃, (updateModules 0 0).run (Service.atDepth 2) m₂ = some ([], m₃) ∧
        m₃.world.history = [.closed [], .opened, .closed [nested], .closed [], .opened] ++
          .started 2 ⟨"one"⟩ 0 :: [.opened, .started 1 ⟨"one"⟩ 1] ∧
        m₃.world.skeletonOf 0 = graph :=
    ⟨_, rfl, _, rfl, _, rfl, rfl, rfl⟩
  obtain ⟨m₁, h₁, m₂, h₂, m₃, h₃, hhistory, hgraph⟩ := hrun
  have hobeys := (start_obeys 1 (machine [("Nest", nest)]).world).mono Conduct.reentrant_relies
    Conduct.clearing_within_reentrant
  exact ⟨m₃, .update (.update (.script .refl hobeys h₁) h₂) h₃, hhistory, hgraph⟩

end Circling

/-- The circle is found, its instance comes by no node, and the first update has its report. -/
theorem two_nodes_are_refused : ∃ m, (Circling.machine []).world.NoModulesYet ∧
    (Circling.machine []).Obeys .reentrant ∧
    (Circling.machine []).Plays .reentrant [[Circling.refusal 1]] m ∧
    (Circling.machine []).Obeys .clearing ∧
    (Circling.machine []).Plays .clearing [[Circling.refusal 1]] m ∧
    Circling.graph.hasCycle = true ∧ Circling.graph.Circular ∧ m.world.trail 1 = [] ∧
    Fate m.world [[Circling.refusal 1]] [.closed [Circling.refusal 1], .opened] [] 1 ⟨"one"⟩ 0 := by
  obtain ⟨m, hplays, hhistory, hgraph⟩ := Circling.refused_plays
  have hplays' := hplays.mono Conduct.reentrant_relies Conduct.clearing_within_reentrant
  have hnew := Circling.machine_new []
  have hcircle : Circling.graph.hasCycle = true := by decide
  obtain ⟨hexact, _, htrail, _, hfate⟩ :=
    circles_are_refused hnew (Circling.machine_obeys _) hplays'
  refine ⟨m, hnew, Circling.machine_obeys _, hplays', Circling.machine_obeys _, hplays, hcircle,
    (hexact _).mp hcircle, ?_, ?_⟩
  · exact htrail 1 ⟨"one"⟩ 0 (by rw [hhistory]; simp) (hgraph ▸ hcircle)
  · exact hfate (Circling.machine_obeys _) hplays _ _ _ _ _ hhistory (hgraph ▸ hcircle)

/-- Two things keep an instance that was refused from its report although its entity was not
cancelled: all modules are dropped before an update begins, or an update is run in the midst of the
one in which it was started. -/
theorem not_always_refused_by_report :
    (¬ ∀ (m m' : Machine) (updates : List (List ModuleReport)), m.world.NoModulesYet →
      m.Obeys .clearing → m.Plays .clearing updates m' → ∀ later id entity cell earlier,
        m'.world.history = later ++ .started id entity cell :: earlier →
        (m'.world.skeletonOf cell).hasCycle = true → .cancelled entity ∉ m'.world.history →
        .opened ∈ later → ∃ r ∈ reportsIn later, r.instanceId = id) ∧
    ¬ ∀ (m m' : Machine) (updates : List (List ModuleReport)), m.world.NoModulesYet →
      m.Obeys .reentrant → m.Plays .reentrant updates m' → .cleared ∉ m'.world.history →
      ∀ later id entity cell earlier,
        m'.world.history = later ++ .started id entity cell :: earlier →
        (m'.world.skeletonOf cell).hasCycle = true → .cancelled entity ∉ m'.world.history →
        .opened ∈ later → ∃ r ∈ reportsIn later, r.instanceId = id := by
  have hcircle : Circling.graph.hasCycle = true := by decide
  refine ⟨fun hall => ?_, fun hall => ?_⟩
  · obtain ⟨m, hplays, hhistory, hgraph⟩ := Circling.cleared_plays
    obtain ⟨r, hr, _⟩ := hall _ m _ (Circling.machine_new []) (Circling.machine_obeys _) hplays
      _ 1 ⟨"one"⟩ 0 _ hhistory (hgraph ▸ hcircle) (by rw [hhistory]; simp) (by simp)
    cases hr
  · obtain ⟨m, hplays, hhistory, hgraph⟩ := Circling.nested_plays
    obtain ⟨r, hr, hid⟩ := hall _ m _ (Circling.machine_new _) Circling.nesting_obeys hplays
      (by rw [hhistory]; simp) _ 2 ⟨"one"⟩ 0 _ hhistory (hgraph ▸ hcircle)
      (by rw [hhistory]; simp) (by simp)
    have hr : r ∈ [Circling.nested] := hr
    rw [List.mem_singleton.mp hr] at hid
    cases hid

end SceneLogic
