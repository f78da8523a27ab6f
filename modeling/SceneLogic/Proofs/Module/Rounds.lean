import SceneLogic.Proofs.Module.Termination
import SceneLogic.Proofs.Module.Walking

/-!
# The rounds of a run

A run as the list of its updates, each with all nodes that instances ran in it.

* `Round`, `Machine.Rounds` — an update, a run
* `Machine.Calm` — what holds between updates
* `Round.turn_cases` — an instance that runs has its turn, from where it stands, or is removed
* `Round.visit_stays` — where it stays, it is found in the pool afterwards, or is removed
* `Machine.Rounds.gone` — it does not come back to a node that it has left
-/

namespace SceneLogic

/-! ## Rounds -/

/-- An update of a run. -/
structure Round where
  before : Machine
  depth : Nat
  time : Float
  dt : Float
  reports : List ModuleReport
  after : Machine
  carried : (updateModules time dt).run (Service.atDepth depth) before = some (reports, after)

namespace Round

/-- The nodes that are run in the update. -/
def visits (t : Round) : List Visit :=
  turnsOf (Service.atDepth t.depth) t.dt t.before.world.pool.instances
    { t.before with world := t.before.world.opened t.time t.dt }

/-- The nodes that an instance runs in the update. -/
def turn (t : Round) (id : InstanceId) : List Visit :=
  t.visits.filter fun v => v.before.id = id

end Round

/-- A run with these updates, in their order. Before, between and after them the host carries out
scripts that are allowed. -/
inductive Machine.Rounds (c : Conduct) : Machine → List Round → Machine → Prop
  | refl (m : Machine) : Rounds c m [] m
  | script {m m₁ m' : Machine} {rounds : List Round} {depth : Nat} {α : Type} {s : Script α}
      {a : α} : s.Obeys c m.world → s.run (Service.atDepth depth) m = some (a, m₁) →
      Rounds c m₁ rounds m' → Rounds c m rounds m'
  | round {m' : Machine} {rounds : List Round} (t : Round) : Rounds c t.after rounds m' →
      Rounds c t.before (t :: rounds) m'

/-- A run falls into what came before an update and what came after it. -/
theorem Machine.Rounds.split {c : Conduct} {m m' : Machine} {earlier later : List Round}
    {t : Round} (h : Machine.Rounds c m (earlier ++ t :: later) m') :
    Machine.Rounds c m earlier t.before ∧ Machine.Rounds c t.after later m' := by
  generalize hall : earlier ++ t :: later = rounds at h
  induction h generalizing earlier with
  | refl => exact absurd hall (by simp)
  | script hobeys hrun _ ih =>
    obtain ⟨hbefore, hafter⟩ := ih hall
    exact ⟨.script hobeys hrun hbefore, hafter⟩
  | round u hrest ih =>
    cases earlier with
    | nil =>
      obtain ⟨rfl, rfl⟩ := List.cons.inj hall
      exact ⟨.refl _, hrest⟩
    | cons u' earlier =>
      obtain ⟨rfl, htail⟩ := List.cons.inj hall
      obtain ⟨hbefore, hafter⟩ := ih htail
      exact ⟨.round u' hbefore, hafter⟩

/-! ## Between updates -/

theorem World.lasts_opened (w : World) (time dt : Float) : w.Lasts (w.opened time dt) :=
  Preserves.lasts_ofPool _

theorem World.lasts_closed (w : World) (r : List ModuleReport × List Instance) :
    w.Lasts (w.closed r) :=
  Preserves.lasts_ofPool _

/-- What holds between updates. -/
structure Machine.Calm (m : Machine) : Prop where
  obeys : m.Obeys .pooling
  sane : m.world.Sane
  rests : m.world.AllRest

namespace Machine.Calm

variable {m m' : Machine}

theorem first (hnew : m.world.NoModulesYet) (hm : m.Obeys .pooling) : m.Calm where
  obeys := hm
  sane := hnew.sane
  rests := by
    intro i hi
    rw [hnew.known] at hi
    exact absurd hi List.not_mem_nil

/-- Scripts preserve the instances of the pool. -/
theorem script {α : Type} {s : Script α} {a : α} {depth : Nat} (h : m.Calm)
    (hobeys : s.Obeys .pooling m.world) (hrun : s.run (Service.atDepth depth) m = some (a, m')) :
    m'.Calm ∧ m.world.Preserves m'.world ∧
      m'.world.pool.stepBound = m.world.pool.stepBound := by
  obtain ⟨hm', hpass⟩ := Script.run_obeys Conduct.pooling_keeps_passes
    (Service.keeps_atDepth Conduct.pooling_keeps_passes depth) hobeys m rfl h.obeys hrun
  obtain ⟨new, hon⟩ := hpass.apart ⟨h.sane, nofun⟩
  exact ⟨⟨hm', hon.held.toSane, hpass.preserves.rests h.rests⟩, hpass.preserves, hon.bound⟩

end Machine.Calm

namespace Round

open World

variable {t : Round}

/-- From its opening to its close, the update gives all instances their turns. -/
theorem turned (h : t.before.Calm) : ∃ kept w,
    t.after.world = w.closed (t.reports, kept) ∧
    AllTurned (Service.atDepth t.depth) t.dt t.before.world.pool.instances
      (t.before.world.opened t.time t.dt) t.visits kept w := by
  obtain ⟨kept, m, hall, hafter⟩ := updateModules_run t.carried
  refine ⟨kept, m.world, congrArg Machine.world hafter, ?_⟩
  exact stepAll_turned (Service.keeps_atDepth Conduct.pooling_keeps_passes t.depth) _
    (h.obeys.withWorld _) (h.sane.inHand t.time t.dt)
    (fun i hi => (h.rests i (List.mem_append_left _ hi)).mono (lasts_opened _ _ _)) hall

/-- An update leads from calm to calm. -/
theorem calm (h : t.before.Calm) : t.after.Calm ∧ t.before.world.Lasts t.after.world ∧
    t.after.world.pool.stepBound = t.before.world.pool.stepBound := by
  have hapart : Conduct.pooling.Keeps (Apart []) :=
    Conduct.pooling_keeps (Apart.steady []) fun hcall => (Passes.of_call hcall).apart
  obtain ⟨hm', new, hon, -⟩ :=
    updateModules_advances (Service.keeps_atDepth hapart t.depth) h.obeys h.sane t.carried
  obtain ⟨kept, w, hafter, hturned⟩ := turned h
  have hopened : (t.before.world.opened t.time t.dt).AllRest := fun i hi =>
    (h.rests i (List.mem_append_right _ hi)).mono (lasts_opened _ _ _)
  have hlasts : t.before.world.Lasts t.after.world := by
    rw [hafter]
    exact ((lasts_opened _ _ _).trans hturned.preserves.toLasts).trans (lasts_closed _ _)
  refine ⟨⟨hm', hon.held.toSane, ?_⟩, hlasts, hon.bound⟩
  rw [hafter]
  intro i hi
  refine Rests.mono ?_ (lasts_closed _ _)
  rcases Pool.mem_known_settle hi with hi | hi
  · exact hturned.rests i hi
  · exact hturned.preserves.rests hopened i hi

/-! ## Turns -/

/-- The turn of an instance in an update. -/
structure Takes (t : Round) (i : Instance) (m : Machine) (r : Option ModuleReport × Instance)
    (m' : Machine) : Prop where
  took : TookTurn (Service.atDepth t.depth) t.dt i m r m'
  turn : t.turn i.id = i.turn (Service.atDepth t.depth) t.dt m
  bound : m.world.pool.stepBound = t.before.world.pool.stepBound
  since : t.before.world.Lasts m.world
  thence : m'.world.Lasts t.after.world
  kept : r.1 = none → r.2 ∈ t.after.world.pool.instances ∨
    t.before.world.Removes t.after.world i.entity

variable {i : Instance} {v : Visit} {node : Node} {port : String}

/-- An instance of the pool that runs has its turn, or is removed before. -/
theorem takes (h : t.before.Calm) (hi : i ∈ t.before.world.pool.instances)
    (hstatus : i.status = .running) :
    (t.turn i.id = [] ∧ t.before.world.Removes t.after.world i.entity) ∨
      ∃ m r m', t.Takes i m r m' := by
  obtain ⟨kept, w, hafter, hturned⟩ := turned h
  have hnone : (t.before.world.opened t.time t.dt).pool.removed = [] :=
    h.sane.removed_of_mem hi
  have hgone : ∀ {e}, (t.before.world.opened t.time t.dt).Removes w e →
      t.before.world.Removes t.after.world e := fun hgone =>
    hafter ▸ ((lasts_opened _ _ _).removes hgone).mono (lasts_closed _ _)
  cases hturned.turns i hi with
  | passed hnil hpassed =>
    rw [hnone] at hpassed
    exact Or.inl ⟨hnil, hgone (hpassed.resolve_left List.not_mem_nil)⟩
  | ended hnil hended => exact absurd hstatus hended
  | @taken m m' r hpreserves hbound htook hvisits hstays hlasts =>
    refine Or.inr ⟨m, r, m', htook, hvisits, hbound,
      (lasts_opened _ t.time t.dt).trans hpreserves.toLasts, ?_, fun hended => ?_⟩
    · rw [hafter]
      exact hlasts.trans (lasts_closed _ _)
    · have hsame : i.Same r.2 := by
        have hcame := htook.out.came
        unfold CameOut at hcame
        rw [hended] at hcame
        exact hcame.same
      by_cases hout : r.2.entity ∈ w.pool.removed
      · have hremoved := hturned.preserves.removed _ hout
        rw [hnone, hsame.entity] at hremoved
        exact Or.inr (hgone (hremoved.resolve_left List.not_mem_nil))
      · rw [hafter]
        refine Or.inl (List.mem_append_left _ (List.mem_filter.mpr ⟨hstays hended, ?_⟩))
        simpa using hout

/-- What is run in an update is run by an instance of the pool, in its turn. -/
theorem takes_of_mem (h : t.before.Calm) (hv : v ∈ t.visits) :
    ∃ i ∈ t.before.world.pool.instances, v.before.id = i.id ∧ ∃ m r m', t.Takes i m r m' ∧
      v ∈ i.turn (Service.atDepth t.depth) t.dt m := by
  obtain ⟨kept, w, hafter, hturned⟩ := turned h
  obtain ⟨i, hi, hid⟩ := List.mem_map.mp (hturned.about v hv)
  have hmem : v ∈ t.turn i.id := List.mem_filter.mpr ⟨hv, decide_eq_true hid.symm⟩
  have hne : t.turn i.id ≠ [] := List.ne_nil_of_mem hmem
  have hstatus : i.status = .running := by
    cases hturned.turns i hi with
    | passed hnil => exact absurd hnil hne
    | ended hnil => exact absurd hnil hne
    | taken _ _ htook => exact htook.running
  obtain ⟨m, r, m', htakes⟩ := (takes h hi hstatus).resolve_left fun hnil => hne hnil.1
  exact ⟨i, hi, hid.symm, m, r, m', htakes, htakes.turn ▸ hmem⟩

/-- Nothing is run that was left before. -/
theorem not_left (h : t.before.Calm) (hv : v ∈ t.visits) (port : String) :
    .left v.node.id port ∉ v.machine.world.trail v.before.id := by
  obtain ⟨i, hi, hid, m, r, m', htakes, hturn⟩ := takes_of_mem h hv
  obtain ⟨⟨left, hin⟩, -, hran⟩ := htakes.took.visits v hturn
  rw [hid, Graph.find?_id hran.node]
  exact hin.going.onWay.not_left port

/-- A visit is a visit by one and the same instance. -/
theorem visit_same (h : t.before.Calm) (hv : v ∈ t.visits) : v.before.Same v.after := by
  obtain ⟨i, hi, hid, m, r, m', htakes, hturn⟩ := takes_of_mem h hv
  obtain ⟨-, hlead, ⟨-, m₁, hrun⟩⟩ := htakes.took.visits v hturn
  have hat := v.before.atWork_passes
    (Service.keeps_atDepth Conduct.pooling_keeps_passes t.depth)
  have hran := Instance.visit_yields hat ⟨fun _ => trivial, fun _ _ => trivial⟩
    (fun _ => trivial) (fun _ _ => trivial) v.machine rfl hlead.1 hrun
  exact hran.2.1.stands.1

end Round

/-! ## Runs -/

namespace Machine.Rounds

open World

variable {m m' : Machine} {rounds : List Round} {t : Round} {v v' : Visit} {port : String}

/-- A run leads from calm to calm. -/
theorem calm (h : Machine.Rounds .pooling m rounds m') (hm : m.Calm) :
    m'.Calm ∧ m.world.Lasts m'.world := by
  induction h with
  | refl m => exact ⟨hm, .refl _⟩
  | script hobeys hrun _ ih =>
    obtain ⟨hm₁, hpreserves, -⟩ := hm.script hobeys hrun
    obtain ⟨hm', hlasts⟩ := ih hm₁
    exact ⟨hm', hpreserves.toLasts.trans hlasts⟩
  | round t _ ih =>
    obtain ⟨hm₁, hlasts, -⟩ := t.calm hm
    obtain ⟨hm', hlasts'⟩ := ih hm₁
    exact ⟨hm', hlasts.trans hlasts'⟩

/-- An instance does not come back to a node that it has left: neither in the same update, nor in a
later one. -/
theorem gone (ht : t.before.Calm) (hv : v ∈ t.visits) (hport : v.outcome = .leave port)
    (hlater : Machine.Rounds .pooling t.after rounds m') :
    (∀ before after, t.turn v.before.id = before ++ v :: after → ∀ v' ∈ after,
      v'.node.id ≠ v.node.id) ∧
    ∀ u ∈ rounds, ∀ v' ∈ u.turn v.before.id, v'.node.id ≠ v.node.id := by
  obtain ⟨i, hi, hid, m, r, m₁, htakes, hturn⟩ := t.takes_of_mem ht hv
  have hsame := (t.visit_same ht hv).id
  refine ⟨fun before after hall v' hv' heq => ?_, fun u hu v' hv' heq => ?_⟩
  · have hmem' : v' ∈ t.turn v.before.id :=
      hall ▸ List.mem_append_right _ (List.mem_cons_of_mem _ hv')
    obtain ⟨hvisit', hid'⟩ := List.mem_filter.mp hmem'
    have hpairs := htakes.took.left
    rw [← htakes.turn, ← hid, hall] at hpairs
    have hleft := (List.pairwise_cons.mp (List.pairwise_append.mp hpairs).2.1).1 v' hv' port hport
    rw [hsame, ← of_decide_eq_true hid', ← heq] at hleft
    exact t.not_left ht hvisit' port hleft
  · obtain ⟨earlier, later, rfl⟩ := List.append_of_mem hu
    obtain ⟨hbefore, -⟩ := hlater.split
    obtain ⟨hu', hlasts⟩ := hbefore.calm (t.calm ht).1
    obtain ⟨hvisit', hid'⟩ := List.mem_filter.mp hv'
    have hid' := of_decide_eq_true hid'
    obtain ⟨j, -, -, n, r', n', htakes', hturn'⟩ := u.takes_of_mem hu' hvisit'
    obtain ⟨-, hlead, -⟩ := htakes'.took.visits v' hturn'
    have hleft := htakes.took.leaves v hturn port hport
    have hlong : m₁.world.Lasts v'.machine.world :=
      ((htakes.thence.trans hlasts).trans htakes'.since).trans hlead.2.preserves.toLasts
    rw [hsame, ← hid', ← heq] at hleft
    exact u.not_left hu' hvisit' port ((hlong.trail _).subset hleft)

end Machine.Rounds

end SceneLogic
