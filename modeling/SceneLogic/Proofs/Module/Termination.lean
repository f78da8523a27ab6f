import Mathlib.Algebra.Order.Floor.Div
import Mathlib.GroupTheory.GroupAction.Ring
import SceneLogic.Proofs.Module.Update
import SceneLogic.Proofs.Standard

/-!
# Runs of a module are bounded

On a graph without circles an instance comes by no node twice. So unless it comes to a block that
may wait, it is reported after as many updates as it takes to make a step for each node and one
more, or else its entity was cancelled or all modules were dropped before.

All this holds whatever actions, listeners and hosts do: they may start and cancel modules at any
moment, drop all of them, and even run updates in the midst of an update.
-/

namespace SceneLogic

/-! ## Runs -/

/-- The script is an update. -/
inductive IsUpdate : {β : Type} → Script β → Prop
  | mk (time dt : Float) : IsUpdate (updateModules time dt)

/-- Behaviours that reach the modules by calls, drop all of them, and run updates themselves. -/
def Conduct.reentrant : Conduct where
  step := Relation.ReflTransGen fun w w' => ModuleCall w w' ∨ w' = w.clearModules
  part := IsUpdate

/-- What single calls keep, and updates whose requests keep it, such behaviours keep. -/
theorem Conduct.reentrant_keeps_of_call {G : World → World → Prop} (hG : Steady G)
    (hcall : ∀ {u v}, ModuleCall u v → G u v) (hclear : ∀ w : World, G w w.clearModules)
    (hupdate : ∀ {service : Service} {m m' : Machine} {time dt : Float}
      {reports : List ModuleReport}, service.Keeps .reentrant G → m.Obeys .reentrant →
      (updateModules time dt).run service m = some (reports, m') → G m.world m'.world) :
    Conduct.reentrant.Keeps G where
  toSteady := hG
  step := by
    intro v w h
    induction h with
    | refl => exact hG.refl _
    | tail _ h ih =>
      rcases h with h | rfl
      · exact hG.trans ih (hcall h)
      · exact hG.trans ih (hclear _)
  rely := fun _ => trivial
  emitted := fun w e => hcall (.other (.emitted w e))
  part := by
    intro β p hp service hservice m b m' hm hrun
    cases hp with
    | mk time dt => exact ⟨updateModules_obeys hservice hm hrun, hupdate hservice hm hrun⟩

theorem Conduct.reentrant_keeps : Conduct.reentrant.Keeps (Apart []) := by
  refine reentrant_keeps_of_call (Apart.steady []) .of_call .of_clear fun hservice hm hrun hw => ?_
  obtain ⟨new, hon, -⟩ := (updateModules_advances hservice hm hw.toSane hrun).2
  exact ⟨new, hon⟩

theorem Conduct.modules_within_reentrant : Conduct.modules.Within .reentrant where
  step h := Relation.ReflTransGen.mono (fun _ _ => Or.inl) _ _ h
  part := nofun
  announces _ := trivial
  performs _ := trivial
  checks _ := trivial
  registers _ := trivial
  rely _ := trivial

/-- The default behaviours do not even run updates. -/
theorem Machine.Standard.obeys_reentrant {m : Machine} (h : m.Standard) : m.Obeys .reentrant :=
  h.obeys_modules.mono ⟨⟨fun _ => trivial, fun _ _ => trivial⟩, fun _ => trivial⟩
    Conduct.modules_within_reentrant

theorem World.NoModulesYet.knownIds {w : World} (h : w.NoModulesYet) : w.knownIds = [] := by
  rw [World.knownIds, h.known, List.map_nil]

theorem World.NoModulesYet.sane {w : World} (h : w.NoModulesYet) : w.Sane where
  ids := h.knownIds ▸ List.nodup_nil
  below := h.knownIds ▸ nofun
  unused := by
    intro id _
    rw [h.history]
    exact ⟨h.trail id, nofun⟩
  fit := h.known ▸ nofun
  updating := fun _ => h.instances
  removed := fun _ => h.removed

namespace Machine.Plays

variable {m m' : Machine} {updates : List (List ModuleReport)}

/-- A run leads onward. -/
theorem onward (hm : m.Obeys .reentrant) (hw : m.world.Sane)
    (h : m.Plays .reentrant updates m') :
    m'.Obeys .reentrant ∧ ∃ new, Onward [] m.world new m'.world := by
  have hheld : m.world.Held [] := ⟨hw, nofun⟩
  induction h with
  | refl => exact ⟨hm, [], .refl hheld⟩
  | @script m₁ m₂ updates depth _ _ _ _ hobeys hrun ih =>
    obtain ⟨hm₁, new, hon⟩ := ih
    obtain ⟨hm₂, hapart⟩ := Script.run_obeys Conduct.reentrant_keeps
      (Service.keeps_atDepth Conduct.reentrant_keeps depth) hobeys m₁ rfl hm₁ hrun
    obtain ⟨new', hon'⟩ := hapart hon.held
    exact ⟨hm₂, _, hon.trans hheld hon'⟩
  | @update m₁ m₂ updates depth _ _ _ _ hrun ih =>
    obtain ⟨hm₁, new, hon⟩ := ih
    obtain ⟨hm₂, new', hon', _⟩ := updateModules_advances
      (Service.keeps_atDepth Conduct.reentrant_keeps depth) hm₁ hon.held.toSane hrun
    exact ⟨hm₂, _, hon.trans hheld hon'⟩

end Machine.Plays

/-! ## The bound -/

theorem Graph.hops_mono {g : Graph} {trail trail' : List NodeEvent} (h : trail <:+ trail') :
    g.hops trail ≤ g.hops trail' := by
  obtain ⟨later, rfl⟩ := h
  induction later with
  | nil => exact Nat.le_refl _
  | cons e later ih =>
    refine Nat.le_trans ih ?_
    -- Only an event that leaves a node moves the cursor.
    unfold hops
    rw [List.cons_append]
    cases e with
    | entered id => exact Nat.le_refl _
    | armed id => exact Nat.le_refl _
    | left id port =>
      cases hnext : g.next? id port with
      | none => rw [cursors_left_none hnext]
      | some v =>
        rw [cursors_left_some hnext]
        exact Nat.le_succ _

/-- An instance on its way comes by each node once. -/
theorem OnWay.hops_le {g : Graph} {i : Instance} {trail : List NodeEvent} (h : OnWay g i trail) :
    g.hops trail ≤ g.nodes.length + 1 := by
  obtain ⟨before, hcursors⟩ := h.cursor
  have hwalk := h.walk
  unfold Graph.hops
  rw [hcursors] at hwalk ⊢
  exact Nat.succ_le_succ (hwalk.length_le h.acyclic)

namespace Advanced

variable {i i' i'' : Instance} {u v w : World} {steps more : Nat} {new : List PoolEvent}

/-- An instance that is kept keeps what it has made. -/
theorem keep (h : Advanced i u steps i' v) (hsame : i'.Same i'') (hfit : w.Fit i'')
    (htrail : v.trail i'.id <:+ w.trail i'.id) : Advanced i u steps i'' w := by
  rw [h.same.id] at htrail
  exact
    { same := h.same.trans hsame
      fit := hfit
      trail := h.trail.trans htrail
      progress := h.progress.imp (·.mono htrail)
        fun hle => Nat.le_trans hle (Graph.hops_mono htrail) }

/-- Steps add up. -/
theorem add (h : Advanced i u steps i' v) (hgraph : v.skeletonOf i.graph = u.skeletonOf i.graph)
    (h' : Advanced i' v more i'' w) : Advanced i u (steps + more) i'' w := by
  have htrail := h'.trail
  have hprogress := h'.progress
  rw [h.same.id] at htrail hprogress
  rw [h.same.graph, hgraph] at hprogress
  exact
    { same := h.same.trans h'.same
      fit := h'.fit
      trail := h.trail.trans htrail
      progress := by
        rcases h.progress with hwaits | hle
        · exact Or.inl (hwaits.mono htrail)
        · exact hprogress.imp id fun hle' => by omega }

/-- Without a block that may wait, the steps are at most as many as the nodes. -/
theorem steps_le (h : Advanced i u steps i' w)
    (hgraph : w.skeletonOf i.graph = u.skeletonOf i.graph)
    (hwaits : ¬ (w.skeletonOf i.graph).Waits (w.trail i.id)) :
    steps ≤ (w.skeletonOf i.graph).nodes.length := by
  rw [hgraph] at hwaits ⊢
  have hle := h.progress.resolve_left hwaits
  have hpos : 1 ≤ (u.skeletonOf i.graph).hops (u.trail i.id) :=
    Graph.hops_mono (List.nil_suffix (l := u.trail i.id))
  rcases h.fit.way with ⟨_, hway⟩ | hrefused
  · rw [h.same.graph, h.same.id, hgraph] at hway
    have hbound := hway.hops_le
    omega
  · have hnil := hrefused.trail
    rw [h.same.id] at hnil
    rw [hnil] at hle
    have hone : (u.skeletonOf i.graph).hops [] = 1 := rfl
    omega

end Advanced

/-- The instance came to an end: it was reported, or its entity was cancelled, or all modules were
dropped. -/
inductive Over (i : Instance) (new : List PoolEvent) : Prop
  | reported {reports : List ModuleReport} {r : ModuleReport} : .closed reports ∈ new →
      r ∈ reports → r.instanceId = i.id → Over i new
  | cancelled : .cancelled i.entity ∈ new → Over i new
  | cleared : .cleared ∈ new → Over i new

theorem Over.mono {i : Instance} {new new' : List PoolEvent} (h : Over i new) (hsub : new ⊆ new') :
    Over i new' := by
  cases h with
  | reported hmem hr hid => exact .reported (hsub hmem) hr hid
  | cancelled hmem => exact .cancelled (hsub hmem)
  | cleared hmem => exact .cleared (hsub hmem)

theorem Over.same {i i' : Instance} {new : List PoolEvent} (h : Over i' new) (hsame : i.Same i') :
    Over i new := by
  cases h with
  | reported hmem hr hid => exact .reported hmem hr (hid.trans hsame.id)
  | cancelled hmem => exact .cancelled (hsame.entity ▸ hmem)
  | cleared hmem => exact .cleared hmem

namespace Advanced

variable {i i' : Instance} {u v w : World} {steps : Nat} {new : List PoolEvent}

/-- What becomes of an instance that has made its steps. -/
theorem fared (h : Advanced i u steps i' v) (hw : w.Sane) (hfared : Fared i' v new w) :
    Over i new ∨ ∃ i'' ∈ w.pool.instances, Advanced i u steps i'' w := by
  cases hfared with
  | kept hi hsame htrail =>
    exact Or.inr ⟨_, hi, h.keep hsame (hw.fit _ (List.mem_append_left _ hi)) htrail⟩
  | reported hmem hr hid => exact Or.inl ((Over.reported hmem hr hid).same h.same)
  | cancelled hmem => exact Or.inl ((Over.cancelled hmem).same h.same)
  | cleared hmem => exact Or.inl (.cleared hmem)

/-- An update adds its steps to those that an instance has made. -/
theorem outlasted (h : Advanced i u steps i' v)
    (hgraph : v.skeletonOf i.graph = u.skeletonOf i.graph) (hout : Outlasted i' v new w) :
    Over i new ∨ ∃ i'' ∈ w.pool.instances, Advanced i u (steps + v.pool.stepBound) i'' w := by
  cases hout with
  | kept hi hadv => exact Or.inr ⟨_, hi, h.add hgraph hadv⟩
  | reported hmem hr hid => exact Or.inl ((Over.reported hmem hr hid).same h.same)
  | cancelled hmem => exact Or.inl ((Over.cancelled hmem).same h.same)

end Advanced

/-- In a run an instance of the pool comes to an end, or makes its steps in each update. -/
theorem Machine.Plays.advances {m m' : Machine} {updates : List (List ModuleReport)}
    (hm : m.Obeys .reentrant) (hw : m.world.Sane) (h : m.Plays .reentrant updates m')
    {i : Instance} (hi : i ∈ m.world.pool.instances) :
    m'.Obeys .reentrant ∧ ∃ new, Onward [] m.world new m'.world ∧ (Over i new ∨
      ∃ i' ∈ m'.world.pool.instances,
        Advanced i m.world (updates.length * m.world.pool.stepBound) i' m'.world) := by
  have hheld : m.world.Held [] := ⟨hw, nofun⟩
  have hfit : m.world.Fit i := hw.fit i (List.mem_append_left _ hi)
  induction h with
  | refl =>
    refine ⟨hm, [], .refl hheld, Or.inr ⟨i, hi, .refl i, hfit, List.suffix_refl _, Or.inr ?_⟩⟩
    rw [List.length_nil, Nat.zero_mul]
    exact Nat.le_refl _
  | @script m₁ m₂ updates depth _ _ _ _ hobeys hrun ih =>
    obtain ⟨hm₁, new, hon, hi₁⟩ := ih
    obtain ⟨hm₂, hapart⟩ := Script.run_obeys Conduct.reentrant_keeps
      (Service.keeps_atDepth Conduct.reentrant_keeps depth) hobeys m₁ rfl hm₁ hrun
    obtain ⟨new', hon'⟩ := hapart hon.held
    refine ⟨hm₂, new' ++ new, hon.trans hheld hon', ?_⟩
    rcases hi₁ with hover | ⟨i₁, hi₁, hadv⟩
    · exact Or.inl (hover.mono (List.subset_append_right _ _))
    · have hfared := hadv.fared hon'.held.toSane (hon'.fared i₁ hi₁)
      exact hfared.imp_left (·.mono (List.subset_append_left _ _))
  | @update m₁ m₂ updates depth _ _ _ _ hrun ih =>
    obtain ⟨hm₁, new, hon, hi₁⟩ := ih
    obtain ⟨hm₂, new', hon', hout⟩ := updateModules_advances
      (Service.keeps_atDepth Conduct.reentrant_keeps depth) hm₁ hon.held.toSane hrun
    refine ⟨hm₂, new' ++ new, hon.trans hheld hon', ?_⟩
    rcases hi₁ with hover | ⟨i₁, hi₁, hadv⟩
    · exact Or.inl (hover.mono (List.subset_append_right _ _))
    · have hout := hadv.outlasted (World.skeletonOf_keep hon.graphs hfit.cell) (hout i₁ hi₁)
      rw [hon.bound] at hout
      rw [List.length_cons, Nat.succ_mul]
      exact hout.imp_left (·.mono (List.subset_append_left _ _))

/-- **No revisits, hence bounded runs.** In every run the trail of each instance that was started is
without revisits. From any moment between calls on, an instance of the pool that comes to no block
that may wait is over after as many updates as it takes to make a step for each node of its graph
and one more: it was reported, unless its entity was cancelled or all modules were dropped. -/
theorem modules_never_revisit {m m' : Machine} {updates : List (List ModuleReport)}
    (hnew : m.world.NoModulesYet) (hbound : 0 < m.world.pool.stepBound)
    (hm : m.Obeys .reentrant) (h : m.Plays .reentrant updates m') :
    (∀ id entity cell, .started id entity cell ∈ m'.world.history →
      NoRevisit (m'.world.skeletonOf cell) (m'.world.trail id)) ∧
    ∀ {later : List (List ModuleReport)} {m'' : Machine}, m'.Plays .reentrant later m'' →
      ∀ i ∈ m'.world.pool.instances,
        ¬ (m''.world.skeletonOf i.graph).Waits (m''.world.trail i.id) →
        ((m''.world.skeletonOf i.graph).nodes.length + 1) ⌈/⌉ m.world.pool.stepBound ≤
          later.length →
        ∃ new, m''.world.history = new ++ m'.world.history ∧ Over i new := by
  obtain ⟨hm', new, hon⟩ := h.onward hm hnew.sane
  refine ⟨fun id entity cell hmem => ?_, fun hlater i hi hwaits hlong => ?_⟩
  · have hright : m.world.Right id := by
      rw [World.Right, hnew.history]
      exact nofun
    exact (hon.right_all List.not_mem_nil hright entity cell hmem).2
  · obtain ⟨_, new', hon', hover⟩ := hlater.advances hm' hon.held.toSane hi
    refine ⟨new', hon'.history, hover.resolve_right ?_⟩
    rintro ⟨i', _, hadv⟩
    have hcell := (hon.held.fit i (List.mem_append_left _ hi)).cell
    have hle := hadv.steps_le (World.skeletonOf_keep hon'.graphs hcell) hwaits
    rw [hon.bound] at hle
    -- So many updates would make more steps than there are nodes.
    rw [ceilDiv_le_iff_le_mul hbound, Nat.mul_comm] at hlong
    omega

/-! ## A module that cancels itself -/

namespace Vanishing

/-- Cancels the modules of the entity. -/
def vanish : Action := fun s _ =>
  .read fun w => .write (w.cancelModules s.entity) (.done (.ok ()))

/-- Three nodes in a row, the second of which performs an action. -/
def graph : Graph where
  id := "vanishes"
  entry := "a"
  nodes := [⟨"a", .entry⟩, ⟨"b", .flow .instant "Vanish" []⟩, ⟨"c", .merge⟩]
  edges := [.flow "a" "out" "b" "in", .flow "b" "out" "c" "in"]

/-- Instances come by one node in each update. -/
def machine (actions : Dict String Action) : Machine where
  world := { library := .ofList [graph], pool := { stepBound := 1 } }
  actions

/-- The instance of the graph. -/
def runner : Instance :=
  .ofGraph 1 ⟨"one"⟩ 0 graph []

/-- Starts the graph. -/
def start : Script Unit :=
  .read fun w => .write (w.startGraph ⟨"one"⟩ 0 []).2 (.done ())

/-- The machine when the graph is started. -/
def started (actions : Dict String Action) : Machine :=
  { machine actions with world := ((machine actions).world.startGraph ⟨"one"⟩ 0 []).2 }

theorem machine_new (actions : Dict String Action) : (machine actions).world.NoModulesYet :=
  ⟨rfl, rfl, rfl, rfl, rfl, fun _ => rfl⟩

theorem machine_obeys {actions : Dict String Action}
    (h : actions = [] ∨ actions = [("Vanish", vanish)]) : (machine actions).Obeys .reentrant where
  listeners := nofun
  actions := by
    intro a ha s params w
    rcases h with rfl | rfl
    · cases ha
    · rw [List.mem_singleton.mp ha]
      exact .read (.write (.single (Or.inl (.cancel w s.entity))) .done)
  conditions := nofun

theorem started_plays (actions : Dict String Action) :
    (machine actions).Plays .reentrant [] (started actions) := by
  have hstart : start.run (Service.atDepth 0) (machine actions) = some ((), started actions) := rfl
  have hobeys : start.Obeys .reentrant (machine actions).world :=
    .read (.write (.single (Or.inl (.start _ ⟨"one"⟩ 0 []))) .done)
  exact .script .refl hobeys hstart

theorem not_waits {w : World} (hgraph : w.skeletonOf 0 = graph) (trail : List NodeEvent) :
    ¬ (w.skeletonOf 0).Waits trail := by
  rw [hgraph]
  rintro ⟨id, node, _, hfind, hasync⟩
  have hsync : ∀ n ∈ graph.nodes, n.isAsync = false := by decide
  rw [hsync node (List.mem_of_find?_eq_some hfind)] at hasync
  cases hasync

/-- Without the action the report comes with the third update. -/
theorem reported_plays : ∃ m, (started []).Plays .reentrant
    [[], [⟨1, ⟨"one"⟩, "vanishes", none⟩], [], []] m ∧ m.world.skeletonOf 0 = graph := by
  have hrun : ∃ m₁, (updateModules 0 0).run (Service.atDepth 1) (started []) = some ([], m₁) ∧
      ∃ m₂, (updateModules 0 0).run (Service.atDepth 1) m₁ = some ([], m₂) ∧
      ∃ m₃, (updateModules 0 0).run (Service.atDepth 1) m₂ =
        some ([⟨1, ⟨"one"⟩, "vanishes", none⟩], m₃) ∧
      ∃ m₄, (updateModules 0 0).run (Service.atDepth 1) m₃ = some ([], m₄) ∧
        m₄.world.skeletonOf 0 = graph :=
    ⟨_, rfl, _, rfl, _, rfl, _, rfl, rfl⟩
  obtain ⟨m₁, h₁, m₂, h₂, m₃, h₃, m₄, h₄, hgraph⟩ := hrun
  exact ⟨m₄, .update (.update (.update (.update .refl h₁) h₂) h₃) h₄, hgraph⟩

/-- With the action there is none. -/
theorem vanished_plays : ∃ m, (started [("Vanish", vanish)]).Plays .reentrant [[], [], [], []] m ∧
    m.world.skeletonOf 0 = graph ∧ reportsIn m.world.history = [] := by
  have hrun : ∃ m₁, (updateModules 0 0).run (Service.atDepth 1)
        (started [("Vanish", vanish)]) = some ([], m₁) ∧
      ∃ m₂, (updateModules 0 0).run (Service.atDepth 1) m₁ = some ([], m₂) ∧
      ∃ m₃, (updateModules 0 0).run (Service.atDepth 1) m₂ = some ([], m₃) ∧
      ∃ m₄, (updateModules 0 0).run (Service.atDepth 1) m₃ = some ([], m₄) ∧
        m₄.world.skeletonOf 0 = graph ∧ reportsIn m₄.world.history = [] :=
    ⟨_, rfl, _, rfl, _, rfl, _, rfl, rfl, rfl⟩
  obtain ⟨m₁, h₁, m₂, h₂, m₃, h₃, m₄, h₄, hgraph, hreports⟩ := hrun
  exact ⟨m₄, .update (.update (.update (.update .refl h₁) h₂) h₃) h₄, hgraph, hreports⟩

end Vanishing

/-- Three nodes, at one node an update, take four updates at most. -/
theorem three_nodes_never_revisit : ∃ m : Machine, (Vanishing.machine []).world.NoModulesYet ∧
    0 < (Vanishing.machine []).world.pool.stepBound ∧ (Vanishing.machine []).Obeys .reentrant ∧
    (Vanishing.machine []).Plays .reentrant [] (Vanishing.started []) ∧
    (Vanishing.started []).Plays .reentrant [[], [⟨1, ⟨"one"⟩, "vanishes", none⟩], [], []] m ∧
    ¬ (m.world.skeletonOf 0).Waits (m.world.trail 1) ∧
    ((m.world.skeletonOf 0).nodes.length + 1) ⌈/⌉ 1 ≤ 4 ∧
    ∃ new, m.world.history = new ++ (Vanishing.started []).world.history ∧
      Over Vanishing.runner new := by
  obtain ⟨m, hplays, hgraph⟩ := Vanishing.reported_plays
  have hnew := Vanishing.machine_new []
  have hm := Vanishing.machine_obeys (Or.inl rfl)
  have hstarted := Vanishing.started_plays []
  have hwaits := Vanishing.not_waits hgraph (m.world.trail 1)
  have hlong : ((m.world.skeletonOf 0).nodes.length + 1) ⌈/⌉ 1 ≤ 4 := by
    rw [hgraph]
    decide
  have hi : Vanishing.runner ∈ (Vanishing.started []).world.pool.instances :=
    List.mem_singleton.mpr rfl
  refine ⟨m, hnew, Nat.one_pos, hm, hstarted, hplays, hwaits, hlong, ?_⟩
  exact (modules_never_revisit hnew Nat.one_pos hm hstarted).2 hplays _ hi hwaits hlong

/-- The bound holds of instances that are not dropped: one that cancels the modules of its own
entity is never reported. -/
theorem not_always_reported : ¬ ∀ (m m' m'' : Machine) (updates later : List (List ModuleReport)),
    m.world.NoModulesYet → 0 < m.world.pool.stepBound → m.Obeys .reentrant →
    m.Plays .reentrant updates m' → m'.Plays .reentrant later m'' →
    ∀ i ∈ m'.world.pool.instances, ¬ (m''.world.skeletonOf i.graph).Waits (m''.world.trail i.id) →
      ((m''.world.skeletonOf i.graph).nodes.length + 1) ⌈/⌉ m.world.pool.stepBound ≤
        later.length →
      ∃ r ∈ reportsIn m''.world.history, r.instanceId = i.id := by
  intro h
  obtain ⟨m, hplays, hgraph, hreports⟩ := Vanishing.vanished_plays
  have hlong : ((m.world.skeletonOf 0).nodes.length + 1) ⌈/⌉ 1 ≤ 4 := by
    rw [hgraph]
    decide
  have hi : Vanishing.runner ∈
      (Vanishing.started [("Vanish", Vanishing.vanish)]).world.pool.instances :=
    List.mem_singleton.mpr rfl
  obtain ⟨r, hr, _⟩ := h _ _ m [] _ (Vanishing.machine_new _) Nat.one_pos
    (Vanishing.machine_obeys (Or.inr rfl)) (Vanishing.started_plays _) hplays _ hi
    (Vanishing.not_waits hgraph _) hlong
  rw [hreports] at hr
  cases hr

end SceneLogic
