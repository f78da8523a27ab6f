import SceneLogic.Proofs.Module.Rounds

/-!
# What instances remember between updates

A block that waits enters its state when it begins and strikes it out when it is left, while the
cursor moves on elsewhere. A test for a change enters the value that it saw, and that stays. So an
instance never remembers a block on which it does not stand, nor a test to which it has not come.

* `World.Remembers` — what an instance may remember
* `World.Retains` — all instances remember no more than that before and after; calls keep to it, an
  instance in its turn does, and so does an update as a whole
* `Round.departures` — the instances that end in an update, as they are when they are reported
* `suspended_state_belongs_to_cursor` — what instances remember in a run
-/

namespace SceneLogic

namespace World

/-- The instance waits on its node, a wait or an animation, which has this state. -/
def WaitsIn (w : World) (i : Instance) (state : BlockState) : Prop :=
  i.status = .running ∧ state.Unresolved ∧ ∃ node,
    (w.library.read i.graph).find? i.cursor = some node ∧ state.Suits node.kind

/-- The name is that under which a test for a change remembers its value, and the instance has left
the test. -/
def HasTested (w : World) (i : Instance) (key : String) : Prop :=
  ∃ id node port, (w.library.read i.graph).find? id = some node ∧ node.testsChange = true ∧
    key = snapshotKey id ∧ .left id port ∈ w.trail i.id

/-- The instance remembers no block but the one on which it waits, and no values but those of tests
that it has left. -/
structure Remembers (w : World) (i : Instance) : Prop where
  blocks : i.blocks = [] ∨ ∃ state, w.WaitsIn i state ∧ i.blocks = [(i.cursor, state)]
  snapshots : ∀ key ∈ Dict.keys i.snapshots, w.HasTested i key

/-- No instance that the pool knows remembers more than it may. -/
def AllRemember (w : World) : Prop :=
  ∀ i ∈ w.pool.known, w.Remembers i

/-- Where no instance remembers more than it may, what lasts stays, and still none does. -/
def Retains (u v : World) : Prop :=
  u.AllRemember → u.Lasts v ∧ v.AllRemember

variable {u v w : World} {i i' : Instance} {node : Node} {state : BlockState} {key : String}

theorem HasTested.mono (h : u.HasTested i key) (huv : u.Lasts v) : v.HasTested i key := by
  obtain ⟨id, node, port, hnode, htest, hkey, hleft⟩ := h
  exact ⟨id, node, port, huv.find? hnode, htest, hkey, (huv.trail i.id).subset hleft⟩

theorem HasTested.same (h : w.HasTested i key) (hsame : i.Same i') : w.HasTested i' key := by
  unfold HasTested at h ⊢
  rw [hsame.graph, hsame.id]
  exact h

namespace Remembers

theorem mono (h : u.Remembers i) (huv : u.Lasts v) : v.Remembers i where
  blocks := by
    refine h.blocks.imp_right ?_
    rintro ⟨state, ⟨hstatus, hstate, node, hnode, hsuits⟩, hblocks⟩
    exact ⟨state, ⟨hstatus, hstate, node, huv.find? hnode, hsuits⟩, hblocks⟩
  snapshots key hkey := (h.snapshots key hkey).mono huv

/-- Variables do not matter. -/
theorem assign (h : w.Remembers i) (vars : Params) : w.Remembers { i with vars } :=
  ⟨h.blocks, h.snapshots⟩

theorem of_new (hblocks : i.blocks = []) (hsnapshots : i.snapshots = []) : w.Remembers i where
  blocks := Or.inl hblocks
  snapshots key hkey := by
    rw [hsnapshots] at hkey
    exact absurd hkey List.not_mem_nil

/-- Where its node is, an instance has the state of no other. -/
theorem suspended (h : w.Remembers i)
    (hnode : (w.library.read i.graph).find? i.cursor = some node) : i.Suspended node := by
  refine h.blocks.imp_right ?_
  rintro ⟨state, ⟨-, -, node', hnode', hsuits⟩, hblocks⟩
  obtain rfl := Option.some.inj (hnode.symm.trans hnode')
  exact ⟨state, hsuits, by rw [hblocks, Graph.find?_id hnode]⟩

/-- Where there is no node, nothing waits. -/
theorem lost (h : w.Remembers i) (hnode : (w.library.read i.graph).find? i.cursor = none) :
    i.blocks = [] := by
  rcases h.blocks with hnil | ⟨state, ⟨-, -, node, hnode', -⟩, -⟩
  · exact hnil
  · rw [hnode] at hnode'
    cases hnode'

/-- An instance that has ended waits for nothing. -/
theorem ended (h : w.Remembers i) (hstatus : i.status ≠ .running) : i.blocks = [] := by
  rcases h.blocks with hnil | ⟨state, ⟨hrunning, -⟩, -⟩
  · exact hnil
  · exact absurd hrunning hstatus

end Remembers

/-! ## Calls -/

namespace Retains

theorem steady : Steady Retains where
  refl w hw := ⟨.refl w, hw⟩
  trans h h' hu := by
    obtain ⟨huv, hv⟩ := h hu
    obtain ⟨hvw, hw⟩ := h' hv
    exact ⟨huv.trans hvw, hw⟩

theorem of_renews (huv : u.Lasts v) (hknown : u.Renews v) : u.Retains v := by
  refine fun hu => ⟨huv, fun i hi => ?_⟩
  rcases hknown i hi with ⟨hblocks, hsnapshots⟩ | ⟨j, hj, vars, rfl⟩
  · exact .of_new hblocks hsnapshots
  · exact ((hu j hj).mono huv).assign vars

theorem of_same (h : u.SameModules v) : u.Retains v :=
  of_renews (Preserves.of_same h).toLasts (.of_pool h.pool)

theorem of_note (w : World) (id : InstanceId) (e : NodeEvent) :
    w.Retains (w.record (.atNode id e)) :=
  of_renews (Preserves.of_note w id e).toLasts (.of_pool rfl)

theorem of_call (h : ModuleCall u v) : u.Retains v := by
  cases h with
  | start entity cell overrides =>
    exact of_renews (Preserves.of_start u entity cell overrides).toLasts
      (.of_start u entity cell overrides)
  | cancel entity =>
    exact of_renews (Preserves.of_cancel u entity).toLasts (.of_cancel u entity)
  | assign id name x =>
    exact of_renews (Preserves.of_assign u id name x).toLasts (.of_assign u id name x)
  | other h => exact of_same h

theorem of_clear (w : World) : w.Retains w.clearModules :=
  of_renews (Preserves.of_clear w).toLasts (.of_clear w)

end Retains

end World

/-! ## Turns -/

namespace Instance

open World

variable {service : Service} {c : Conduct} {i : Instance} {w : World} {s : Situation}
  {dt : Float} {node : Node} {r : NodeOutcome × Instance}

theorem atWork_retains (hservice : service.Keeps c Retains) (i : Instance) :
    i.AtWork service c Retains Retains where
  steady := Retains.steady
  service := hservice
  within := fun h => h
  own := fun h => .of_same (sameModules_of_writes h)

/-- The values that an instance remembers after a visit are those of tests that it has left. -/
theorem RanNode.hasTested (hran : i.RanNode node r) (hw : w.Remembers i) {w' : World}
    (hlasts : w.Lasts w') (hnode : (w.library.read i.graph).find? i.cursor = some node)
    (hleft : ∀ port, r.1 = .leave port → .left node.id port ∈ w'.trail r.2.id) :
    ∀ key ∈ Dict.keys r.2.snapshots, w'.HasTested r.2 key := by
  obtain ⟨hsame, -, -⟩ := hran.stands
  have hold : ∀ key ∈ Dict.keys i.snapshots, w'.HasTested r.2 key :=
    fun key hkey => ((hw.snapshots key hkey).mono hlasts).same hsame
  intro key hkey
  by_cases hown : key = snapshotKey node.id
  · by_cases hnoted : r.2.snapshots = i.snapshots
    · exact hold key (hnoted ▸ hkey)
    obtain ⟨htest, port, hport⟩ := hran.noted hnoted
    refine ⟨node.id, node, port, ?_, htest, hown, hleft port hport⟩
    rw [hsame.graph, Graph.find?_id hnode]
    exact hlasts.find? hnode
  · refine hold key (not_not.mp fun hnone => ?_)
    have hget := hran.snapshots key hown
    rw [Dict.get?_eq_none hnone] at hget
    exact Dict.get?_eq_none_iff.mp hget hkey

/-- What comes of the turn of an instance: it remembers no more than it may, and nothing of a block
when it is reported. -/
structure Came (r : Option ModuleReport × Instance) (w : World) : Prop where
  remembers : w.Remembers r.2
  ended : ∀ report, r.1 = some report → report.instanceId = r.2.id ∧ r.2.blocks = []

theorem came_of_report {error : Option Fault} (hi : w.Remembers i) (hblocks : i.blocks = []) :
    Came (some (i.report error), i) w :=
  ⟨hi, fun _ hreport => Option.some.inj hreport ▸ ⟨rfl, hblocks⟩⟩

/-- After a visit the turn goes on, or is over. -/
theorem visit_remembers (hservice : service.Keeps c Retains) (hw : w.AllRemember)
    (hi : w.Remembers i) (hstatus : i.status = .running)
    (hnode : (w.library.read i.graph).find? i.cursor = some node) :
    (i.visit s dt (w.library.read i.graph) node).Yields service c Retains w
      (After (w.library.read i.graph) node
        (fun i w => w.AllRemember ∧ w.Remembers i ∧ i.status = .running) Came) := by
  rintro m rfl hm ⟨o, i'⟩ m' hrun
  have hat := i.atWork_retains hservice
  obtain ⟨hlead, hran, -⟩ := visit_yields hat Retains.steady (fun h => h)
    (fun u e => .of_note u i.id e) m rfl hm hrun
  have hblock := visit_rests hat (hi.suspended hnode) hm hrun
  obtain ⟨hlasts, hall⟩ := hlead.2 hw
  obtain ⟨hsame, hcursor, hrunning⟩ := hran.stands
  have hsnapshots := hran.hasTested hi hlasts hnode fun port hport => by
    cases hport
    exact visit_left hrun
  refine ⟨hlead, ?_⟩
  unfold After
  cases o with
  | finish error =>
    have hnil : i'.blocks = [] := hblock.goesOn nofun
    exact came_of_report ⟨Or.inl hnil, hsnapshots⟩ hnil
  | leave port =>
    have hnil : i'.blocks = [] := hblock.goesOn nofun
    dsimp only
    split
    · exact came_of_report ⟨Or.inl hnil, hsnapshots⟩ hnil
    · exact ⟨hall, ⟨Or.inl hnil, hsnapshots⟩, hrunning.trans hstatus⟩
  | stay =>
    refine ⟨⟨?_, hsnapshots⟩, nofun⟩
    refine (hblock.stays rfl).imp_right ?_
    rintro ⟨state, hsuits, hblocks⟩
    have hid : node.id = i'.cursor := (Graph.find?_id hnode).trans hcursor.symm
    refine ⟨state, ⟨hrunning.trans hstatus, ?_, node, ?_, hsuits⟩, hid ▸ hblocks⟩
    · exact hblock.unresolved _ (hblocks ▸ List.mem_singleton.mpr rfl)
    · dsimp only at hsame hcursor ⊢
      rw [hsame.graph, hcursor]
      exact hlasts.find? hnode

theorem step_remembers (hservice : service.Keeps c Retains) (hw : w.AllRemember)
    (hi : w.Remembers i) (hstatus : i.status = .running) :
    (i.step dt).Yields service c Retains w Came := by
  have hset := Retains.of_same (w.situationFor_sameModules i.entity [("dt", .float dt)])
  refine .read (.write Retains.steady hset ?_)
  obtain ⟨hlasts, hall⟩ := hset hw
  refine runSteps_yields Retains.steady
    (P := fun _ i w => w.AllRemember ∧ w.Remembers i ∧ i.status = .running) ?_ ?_ ?_ _ _ _
    ⟨hall, hi.mono hlasts, hstatus⟩
  · exact fun i w h => ⟨h.2.1, nofun⟩
  · exact fun _ i w h hlost => came_of_report h.2.1 (h.2.1.lost hlost)
  · exact fun _ i w node h hnode => visit_remembers hservice h.1 h.2.1 h.2.2 hnode

end Instance

/-! ## Updates -/

/-- An instance that ends in an update, as it is then, and the report of it. -/
structure Departure where
  last : Instance
  report : ModuleReport

/-- The report is about the instance, which remembers no block. -/
structure Departure.Settled (e : Departure) : Prop where
  id : e.report.instanceId = e.last.id
  blocks : e.last.blocks = []

/-- The instances that end when instances go on one after the other. -/
def departuresOf (service : Service) (dt : Float) : List Instance → Machine → List Departure
  | [], _ => []
  | i :: rest, m =>
    if m.world.pool.removed.contains i.entity then departuresOf service dt rest m
    else
      match i.terminalResult? with
      | some report => ⟨i, report⟩ :: departuresOf service dt rest m
      | none =>
        match (i.step dt).run service m with
        | none => []
        | some ((some report, i'), m') => ⟨i', report⟩ :: departuresOf service dt rest m'
        | some ((none, _), m') => departuresOf service dt rest m'

section Updates

open World

variable {service : Service} {c : Conduct} {dt : Float} {m m' : Machine}

/-- What comes of the turns of all instances that an update took out. -/
structure AllCame (departures : List Departure) (results : List ModuleReport) (kept : List Instance)
    (w : World) : Prop where
  reports : departures.map (·.report) = results
  settled : ∀ e ∈ departures, e.Settled
  remember : ∀ i ∈ kept, w.Remembers i

theorem AllCame.cons {departures : List Departure} {results : List ModuleReport}
    {kept : List Instance} {w : World} {e : Departure} (h : AllCame departures results kept w)
    (he : e.Settled) : AllCame (e :: departures) (e.report :: results) kept w where
  reports := congrArg (e.report :: ·) h.reports
  settled := List.forall_mem_cons.mpr ⟨he, h.settled⟩
  remember := h.remember

theorem stepAll_remembers (hservice : service.Keeps c Retains) (instances : List Instance)
    {results : List ModuleReport} {kept : List Instance} (hm : m.Obeys c)
    (hw : m.world.AllRemember) (hin : ∀ i ∈ instances, m.world.Remembers i)
    (hrun : (stepAll dt instances).run service m = some ((results, kept), m')) :
    m.Leads c Retains m' ∧ AllCame (departuresOf service dt instances m) results kept m'.world := by
  induction instances generalizing m m' results kept with
  | nil =>
    cases hrun
    exact ⟨.refl Retains.steady hm, rfl, nofun, nofun⟩
  | cons i rest ih =>
    obtain ⟨hi, hrest⟩ := List.forall_mem_cons.mp hin
    rw [stepAll, Script.run] at hrun
    rw [departuresOf]
    split at hrun
    · next hgone =>
      rw [if_pos hgone]
      exact ih hm hw hrest hrun
    next hspared =>
    rw [if_neg hspared]
    cases hterminal : i.terminalResult? with
    | some result =>
      rw [hterminal] at hrun
      dsimp only at hrun ⊢
      rw [Script.run_bind] at hrun
      obtain ⟨⟨⟨results', kept'⟩, m₁⟩, hall, hend⟩ := Option.bind_eq_some_iff.mp hrun
      cases hend
      obtain ⟨hlead, hcame⟩ := ih hm hw hrest hall
      refine ⟨hlead, hcame.cons ⟨(i.toldBy_terminalResult hterminal).id, hi.ended ?_⟩⟩
      intro hstatus
      simp [Instance.terminalResult?, hstatus] at hterminal
    | none =>
      rw [hterminal] at hrun
      dsimp only at hrun ⊢
      rw [Script.run_bind] at hrun
      obtain ⟨⟨⟨ended, i'⟩, m₁⟩, hstep, hrun⟩ := Option.bind_eq_some_iff.mp hrun
      dsimp only at hrun
      rw [Script.run_bind] at hrun
      obtain ⟨⟨⟨results', kept'⟩, m₂⟩, hall, hend⟩ := Option.bind_eq_some_iff.mp hrun
      obtain ⟨hlead, hturn⟩ := Instance.step_remembers hservice hw hi
        (i.running_of_not_terminal hterminal) m rfl hm hstep
      obtain ⟨hlasts, hw₁⟩ := hlead.2 hw
      obtain ⟨hlead', hcame⟩ := ih hlead.1 hw₁ (fun j hj => (hrest j hj).mono hlasts) hall
      rw [hstep]
      cases ended with
      | some result =>
        cases hend
        obtain ⟨hid, hblocks⟩ := hturn.ended result rfl
        exact ⟨hlead.trans Retains.steady hlead', hcame.cons ⟨hid, hblocks⟩⟩
      | none =>
        cases hend
        refine ⟨hlead.trans Retains.steady hlead', hcame.reports, hcame.settled, ?_⟩
        exact List.forall_mem_cons.mpr
          ⟨hturn.remembers.mono (hlead'.2 hw₁).1, hcame.remember⟩

/-- Between its opening and its close, an update brings no instance to remember more than it may. -/
theorem updateModules_remembers (hservice : service.Keeps c Retains) (hm : m.Obeys c)
    (hw : m.world.AllRemember) {time : Float} {reports : List ModuleReport}
    (hrun : (updateModules time dt).run service m = some (reports, m')) :
    (m.world.Lasts m'.world ∧ m'.world.AllRemember) ∧
      ∃ kept w, AllCame (departuresOf service dt m.world.pool.instances
        { m with world := m.world.opened time dt }) reports kept w := by
  obtain ⟨kept, m₁, hall, rfl⟩ := updateModules_run hrun
  have hopened := m.world.lasts_opened time dt
  have hwopened : (m.world.opened time dt).AllRemember :=
    fun i hi => (hw i (List.mem_append_right _ hi)).mono hopened
  obtain ⟨⟨-, hretains⟩, hcame⟩ := stepAll_remembers hservice _ (hm.withWorld _) hwopened
    (fun i hi => (hw i (List.mem_append_left _ hi)).mono hopened) hall
  obtain ⟨hlasts, hw₁⟩ := hretains hwopened
  have hclosed := m₁.world.lasts_closed (reports, kept)
  refine ⟨⟨(hopened.trans hlasts).trans hclosed, fun i hi => Remembers.mono ?_ hclosed⟩, kept, _,
    hcame⟩
  rcases Pool.mem_known_settle hi with hi | hi
  · exact hcame.remember i hi
  · exact hw₁ i hi

end Updates

/-! ## Runs -/

theorem Conduct.reentrant_retains : Conduct.reentrant.Keeps World.Retains :=
  reentrant_keeps_of_call World.Retains.steady .of_call .of_clear fun hservice hm hrun hw =>
    (updateModules_remembers hservice hm hw hrun).1

/-- The instances that end in the update. -/
def Round.departures (t : Round) : List Departure :=
  departuresOf (Service.atDepth t.depth) t.dt t.before.world.pool.instances
    { t.before with world := t.before.world.opened t.time t.dt }

theorem World.NoModulesYet.allRemember {w : World} (h : w.NoModulesYet) : w.AllRemember := by
  intro i hi
  rw [h.known] at hi
  exact absurd hi List.not_mem_nil

theorem Machine.Rounds.remembers {m m' : Machine} {rounds : List Round}
    (h : Machine.Rounds .reentrant m rounds m') (hm : m.Obeys .reentrant)
    (hw : m.world.AllRemember) :
    m'.world.AllRemember ∧
      ∀ t ∈ rounds, t.departures.map (·.report) = t.reports ∧ ∀ e ∈ t.departures, e.Settled := by
  induction h with
  | refl m => exact ⟨hw, fun t ht => absurd ht List.not_mem_nil⟩
  | @script m m₁ _ _ depth _ _ _ hobeys hrun _ ih =>
    obtain ⟨hm₁, hretains⟩ := Script.run_obeys Conduct.reentrant_retains
      (Service.keeps_atDepth Conduct.reentrant_retains depth) hobeys m rfl hm hrun
    exact ih hm₁ (hretains hw).2
  | round t _ ih =>
    have hservice := Service.keeps_atDepth Conduct.reentrant_retains t.depth
    obtain ⟨⟨-, hw₁⟩, kept, w, hcame⟩ := updateModules_remembers hservice hm hw t.carried
    obtain ⟨hw', hrest⟩ := ih (updateModules_obeys hservice hm t.carried) hw₁
    exact ⟨hw', List.forall_mem_cons.mpr ⟨⟨hcame.reports, hcame.settled⟩, hrest⟩⟩

/-- **Suspended state belongs to the cursor.** After every run, an instance of the pool has no state
of a block, or just that of the node on which it stands; this is a wait of which seconds remain, or
an animation. It has seen no values but those of tests for a change that it has left. Of the
instances that an update reports, none has the state of a block when it is reported. -/
theorem suspended_state_belongs_to_cursor {m m' : Machine} {rounds : List Round}
    (hnew : m.world.NoModulesYet) (hm : m.Obeys .reentrant)
    (h : Machine.Rounds .reentrant m rounds m') :
    (∀ i ∈ m'.world.pool.known, m'.world.Remembers i) ∧
      ∀ t ∈ rounds, t.departures.map (·.report) = t.reports ∧ ∀ e ∈ t.departures, e.Settled :=
  h.remembers hm hnew.allRemember

/-! ## A test and a wait -/

namespace Sentry

/-- Tests whether anything has changed, and then waits for two seconds. -/
def graph : Graph where
  id := "guards"
  entry := "a"
  nodes := [⟨"a", .entry⟩, ⟨"b", .condition (some (.variable "noise")) none .changed⟩,
    ⟨"c", .flow .async "Wait" [("seconds", .int 2)]⟩, ⟨"d", .merge⟩]
  edges := [.flow "a" "out" "b" "in", .flow "b" "false" "c" "in", .flow "c" "out" "d" "in"]

def machine : Machine where
  world := { library := .ofList [graph] }

theorem machine_new : machine.world.NoModulesYet :=
  ⟨rfl, rfl, rfl, rfl, rfl, fun _ => rfl⟩

theorem machine_obeys : machine.Obeys .reentrant :=
  ⟨nofun, nofun, nofun⟩

/-- Starts the graph. -/
def start : Script Unit :=
  .read fun w => .write (w.startGraph ⟨"one"⟩ 0 []).2 (.done ())

theorem start_obeys (w : World) : start.Obeys .reentrant w :=
  .read (.write (.single (Or.inl (.start w ⟨"one"⟩ 0 []))) .done)

/-- An update of one second. -/
def second (m : Machine) : Option (List ModuleReport × Machine) :=
  (updateModules 0 1).run (Service.atDepth 1) m

/-- The instances that end in an update of one second. -/
def departures (m : Machine) : List Departure :=
  departuresOf (Service.atDepth 1) 1 m.world.pool.instances { m with world := m.world.opened 0 1 }

/-- Where an instance stands, and of what it remembers something. -/
structure Memory where
  cursor : NodeId
  blocks : List NodeId
  snapshots : List String
deriving DecidableEq

/-- What an instance remembers. -/
def memory (i : Instance) : Memory :=
  ⟨i.cursor, Dict.keys i.blocks, Dict.keys i.snapshots⟩

/-- While the first instance leaves in the third update, one that is started before it waits. -/
theorem guards : ((start.run (Service.atDepth 0) machine).bind fun r₀ =>
    (second r₀.2).bind fun r₁ => (second r₁.2).bind fun r₂ =>
    (start.run (Service.atDepth 0) r₂.2).bind fun r₃ => (second r₃.2).map fun r₄ =>
      ((departures r₃.2).map (memory ·.last), r₄.2.world.pool.known.map memory)) =
    some ([⟨"d", [], ["b:left"]⟩], [⟨"c", ["c"], ["b:left"]⟩]) := by
  decide +kernel

end Sentry

/-- An instance that leaves, and one that waits. -/
theorem sentry_remembers : ∃ (m : Machine) (t₁ t₂ t₃ : Round),
    Sentry.machine.world.NoModulesYet ∧ Sentry.machine.Obeys .reentrant ∧
    Machine.Rounds .reentrant Sentry.machine [t₁, t₂, t₃] m ∧
    t₃.departures.map (Sentry.memory ·.last) = [⟨"d", [], ["b:left"]⟩] ∧
    m.world.pool.known.map Sentry.memory = [⟨"c", ["c"], ["b:left"]⟩] ∧
    (∀ i ∈ m.world.pool.known, m.world.Remembers i) ∧
    ∀ t ∈ [t₁, t₂, t₃], t.departures.map (·.report) = t.reports ∧
      ∀ e ∈ t.departures, e.Settled := by
  obtain ⟨⟨_, m₀⟩, hstart, hguards⟩ := Option.bind_eq_some_iff.mp Sentry.guards
  obtain ⟨⟨reports₁, m₁⟩, hfirst, hguards⟩ := Option.bind_eq_some_iff.mp hguards
  obtain ⟨⟨reports₂, m₂⟩, hsecond, hguards⟩ := Option.bind_eq_some_iff.mp hguards
  obtain ⟨⟨_, m₃⟩, hagain, hguards⟩ := Option.bind_eq_some_iff.mp hguards
  obtain ⟨⟨reports₃, m₄⟩, hthird, hguards⟩ := Option.map_eq_some_iff.mp hguards
  obtain ⟨hleaves, hwaits⟩ := Prod.mk.inj hguards
  let t₁ : Round := ⟨m₀, 1, 0, 1, reports₁, m₁, hfirst⟩
  let t₂ : Round := ⟨m₁, 1, 0, 1, reports₂, m₂, hsecond⟩
  let t₃ : Round := ⟨m₃, 1, 0, 1, reports₃, m₄, hthird⟩
  have hrun : Machine.Rounds .reentrant Sentry.machine [t₁, t₂, t₃] m₄ :=
    .script (Sentry.start_obeys _) hstart (.round t₁ (.round t₂
      (.script (Sentry.start_obeys _) hagain (.round t₃ (.refl m₄)))))
  obtain ⟨hremember, hdepart⟩ :=
    suspended_state_belongs_to_cursor Sentry.machine_new Sentry.machine_obeys hrun
  exact ⟨m₄, t₁, t₂, t₃, Sentry.machine_new, Sentry.machine_obeys, hrun, hleaves, hwaits, hremember,
    hdepart⟩

end SceneLogic
