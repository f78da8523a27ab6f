import SceneLogic.Proofs.Module.Addressing
import SceneLogic.Proofs.Module.Inheriting
import SceneLogic.Proofs.Module.Termination

/-!
# Variables as an observer knows them

An observer hears of each write to a module variable when it has been made. If he takes the
variables that an instance was started with, and puts in what he hears of it, in order, he has the
variables of the instance: that is so at the end of every run, whatever actions, listeners and
hosts do about the modules, updates in the midst of updates included.

* `World.Replays` — what the observer has of an instance is what the instance has
* `Heeds` — a change of the world that leaves this so for all instances of the pool
* `Instance.step_heeds` — the turn of an instance, which is not in the pool meanwhile
* `variables_replay_observed_writes` — hence runs leave it so, and each write is heard of once
-/

namespace SceneLogic

/-- The variables that an instance has after writes, the latest first, if it starts with others. -/
def replay (seed : Params) (writes : List VariableWrite) : Params :=
  writes.foldr (fun x vars => Dict.insert vars x.name x.value) seed

namespace World

/-- The writes to variables of an instance, the latest first. -/
def observed (w : World) (id : InstanceId) : List VariableWrite :=
  w.writes.filter fun x => x.instanceId = id

/-- The variables of the instance are those that it started with, and what was observed since. -/
structure Replays (w : World) (i : Instance) : Prop where
  vars : ∃ seed, w.seed? i.id = some seed ∧ i.vars = replay seed (w.observed i.id)
  owner : ∀ x ∈ w.observed i.id, x.entity = i.entity ∧ x.graph = i.graph

/-- All instances of the pool have the variables that were observed. -/
structure Tracked (w : World) : Prop where
  ids : w.knownIds.Nodup
  below : ∀ id ∈ w.knownIds, id < w.pool.nextId
  unused : ∀ id, w.pool.nextId ≤ id → w.observed id = []
  replays : ∀ i ∈ w.pool.known, w.Replays i

/-- The number was given, and the pool has no instance of it. -/
structure Away (w : World) (id : InstanceId) : Prop where
  given : id < w.pool.nextId
  absent : id ∉ w.knownIds

/-- The instance is at work, and has the variables that were observed. -/
structure Engages (w : World) (i : Instance) : Prop extends w.Away i.id, w.Replays i where
  tracked : w.Tracked

variable {w w' : World} {i i' : Instance}

theorem observed_of_writes (h : w'.writes = w.writes) (id : InstanceId) :
    w'.observed id = w.observed id := by
  rw [observed, h, observed]

theorem observed_publishWrite (w : World) (id : InstanceId) (entity : EntityId) (graph : GraphRef)
    (name : String) (v : Value) (id' : InstanceId) :
    (w.publishWrite id entity graph name v).observed id' =
      if id = id' then ⟨id, entity, graph, name, v⟩ :: w.observed id' else w.observed id' := by
  unfold observed
  rw [writes_publishWrite]
  by_cases hid : id = id'
  · simp [hid]
  · simp [hid]

theorem Replays.carry (h : w.Replays i) (hseed : w'.seed? i.id = w.seed? i.id)
    (hobserved : w'.observed i.id = w.observed i.id) : w'.Replays i where
  vars := by
    rw [hseed, hobserved]
    exact h.vars
  owner := hobserved ▸ h.owner

/-- Timers and snapshots do not matter. -/
theorem Replays.same (h : w.Replays i) (hsame : i.Same i') (hvars : i'.vars = i.vars) :
    w.Replays i' where
  vars := by
    rw [hsame.id, hvars]
    exact h.vars
  owner := by
    rw [hsame.id, hsame.entity, hsame.graph]
    exact h.owner

theorem Engages.same (h : w.Engages i) (hsame : i.Same i') (hvars : i'.vars = i.vars) :
    w.Engages i' where
  toAway := hsame.id ▸ h.toAway
  toReplays := h.toReplays.same hsame hvars
  tracked := h.tracked

/-- An instance that has just been started. -/
theorem Replays.fresh (hseed : w.seed? i.id = some i.vars) (hobserved : w.observed i.id = []) :
    w.Replays i where
  vars := ⟨i.vars, hseed, by rw [hobserved]; rfl⟩
  owner := by
    rw [hobserved]
    exact List.forall_mem_nil _

/-- A write that is made and observed. -/
theorem Replays.write {p : Pool} (h : w.Replays i) (name : String) (v : Value) :
    ({ w with pool := p }.publishWrite i.id i.entity i.graph name v).Replays
      (i.withValue name v) := by
  have hobserved := observed_publishWrite { w with pool := p } i.id i.entity i.graph name v i.id
  rw [if_pos rfl] at hobserved
  obtain ⟨seed, hseed, hvars⟩ := h.vars
  refine ⟨⟨seed, hseed, ?_⟩, fun x hx => ?_⟩
  · show Dict.insert i.vars name v = replay seed (observed _ i.id)
    rw [hobserved, hvars]
    rfl
  · rw [Instance.withValue, hobserved] at hx
    rcases List.mem_cons.mp hx with rfl | hx
    · exact ⟨rfl, rfl⟩
    · exact h.owner x hx

end World

/-- Who has another number is there as before. -/
theorem Pool.SameOthers.mem_known {id : InstanceId} {p p' : Pool} (h : p.SameOthers id p')
    {i : Instance} (hi : i ∈ p'.known) (hid : i.id ≠ id) : i ∈ p.known := by
  have hfilter : ∀ {l l' : List Instance}, l'.filter (fun i => i.id ≠ id) =
      l.filter (fun i => i.id ≠ id) → i ∈ l' → i ∈ l := by
    intro l l' heq hmem
    have hkept : i ∈ l'.filter fun i => i.id ≠ id :=
      List.mem_filter.mpr ⟨hmem, decide_eq_true hid⟩
    rw [heq] at hkept
    exact (List.mem_filter.mp hkept).1
  rcases List.mem_append.mp hi with hi | hi
  · exact List.mem_append_left _ (hfilter h.instances hi)
  · exact List.mem_append_right _ (hfilter h.pending hi)

/-! ## Changes that are observed -/

/-- What became of a tracked world while some instances were at work. -/
structure Tracking (busy : List InstanceId) (w w' : World) : Prop where
  tracked : w'.Tracked
  next : w.pool.nextId ≤ w'.pool.nextId
  seeds : ∀ id < w.pool.nextId, w'.seed? id = w.seed? id
  absent : ∀ id, w.Away id → id ∉ w'.knownIds
  others : ∀ id ∉ busy, w.Away id → w'.observed id = w.observed id

/-- A change that leaves the world tracked while these instances are at work. -/
def Heeds (busy : List InstanceId) (w w' : World) : Prop :=
  w.Tracked → (∀ id ∈ busy, w.Away id) → Tracking busy w w'

namespace Tracking

variable {busy : List InstanceId} {w w' : World} {i : Instance}

theorem away (h : Tracking busy w w') {id : InstanceId} (hid : w.Away id) : w'.Away id :=
  ⟨Nat.lt_of_lt_of_le hid.given h.next, h.absent id hid⟩

/-- Who is at work beside others has no part in what they do. -/
theorem engages (h : Tracking busy w w') (hi : w.Engages i) (hbusy : i.id ∉ busy) :
    w'.Engages i where
  toAway := h.away hi.toAway
  toReplays := hi.toReplays.carry (h.seeds _ hi.given) (h.others _ hbusy hi.toAway)
  tracked := h.tracked

end Tracking

namespace Heeds

variable {busy : List InstanceId} {u v w w' : World}

theorem steady (busy : List InstanceId) : Steady (Heeds busy) where
  refl w hw _ :=
    { tracked := hw
      next := Nat.le_refl _
      seeds := fun _ _ => rfl
      absent := fun _ hid => hid.absent
      others := fun _ _ _ => rfl }
  trans h h' hu hbusy := by
    have hv := h hu hbusy
    have hw := h' hv.tracked fun id hid => hv.away (hbusy id hid)
    exact
      { tracked := hw.tracked
        next := Nat.le_trans hv.next hw.next
        seeds := fun id hid =>
          (hw.seeds id (Nat.lt_of_lt_of_le hid hv.next)).trans (hv.seeds id hid)
        absent := fun id hid => hw.absent id (hv.away hid)
        others := fun id hnot hid =>
          (hw.others id hnot (hv.away hid)).trans (hv.others id hnot hid) }

theorem mono {more : List InstanceId} (h : Heeds busy w w') (hsub : busy ⊆ more) :
    Heeds more w w' := by
  intro hw hbusy
  have hthen := h hw fun id hid => hbusy id (hsub hid)
  exact
    { tracked := hthen.tracked
      next := hthen.next
      seeds := hthen.seeds
      absent := hthen.absent
      others := fun id hnot => hthen.others id fun hid => hnot (hsub hid) }

/-- Nothing is written, and the pool gets no new instance. -/
theorem of_sublist (hknown : w'.pool.known.Sublist w.pool.known)
    (hnext : w'.pool.nextId = w.pool.nextId) (hwrites : w'.writes = w.writes)
    (hseeds : ∀ id, w'.seed? id = w.seed? id) : Heeds [] w w' := by
  intro hw _
  have hids : w'.knownIds.Sublist w.knownIds := hknown.map _
  exact
    { tracked :=
        { ids := hw.ids.sublist hids
          below := fun id hid => hnext ▸ hw.below id (hids.subset hid)
          unused := fun id hid =>
            (World.observed_of_writes hwrites id).trans (hw.unused id (hnext ▸ hid))
          replays := fun i hi => (hw.replays i (hknown.subset hi)).carry (hseeds _)
            (World.observed_of_writes hwrites _) }
      next := Nat.le_of_eq hnext.symm
      seeds := fun id _ => hseeds id
      absent := fun id hid hmem => hid.absent (hids.subset hmem)
      others := fun id _ _ => World.observed_of_writes hwrites id }

theorem of_same (h : w.SameVariables w') : Heeds [] w w' :=
  of_sublist (by rw [h.pool]) (by rw [h.pool]) h.writes h.seeds

theorem of_cancel (w : World) (entity : EntityId) : Heeds [] w (w.cancelModules entity) :=
  of_sublist (List.filter_sublist.append List.filter_sublist) rfl rfl fun _ => rfl

theorem of_clear (w : World) : Heeds [] w w.clearModules :=
  of_sublist (List.nil_sublist _) rfl rfl fun _ => rfl

theorem of_start (w : World) (entity : EntityId) (cell : GraphRef) (overrides : Params) :
    Heeds [] w (w.startGraph entity cell overrides).2 := by
  rcases w.startGraph_cases entity cell overrides with ⟨_, _, hsame⟩ | ⟨vars, _, _, hstart⟩
  · rw [hsame]
    exact (steady []).refl w
  rw [hstart]
  intro hw _
  generalize hi : Instance.ofGraph w.pool.nextId entity cell (w.library.read cell) vars = i
  have hid : i.id = w.pool.nextId := by
    rw [← hi]
    rfl
  have hvars : i.vars = vars := by
    rw [← hi]
    rfl
  have hseed := World.seed?_seeded
    { w with pool := { w.pool.add i with nextId := w.pool.nextId + 1 } } w.pool.nextId
  have hold : ∀ id < w.pool.nextId, w.pool.nextId ≠ id := fun _ hlt => (Nat.ne_of_lt hlt).symm
  exact
    { tracked :=
        { ids := Pool.nodup_ids_add hid hw.below hw.ids
          below := fun _ hmem => Pool.below_ids_add hid hw.below hmem
          unused := fun id hle => hw.unused id (Nat.le_of_succ_le hle)
          replays := by
            intro j hj
            rcases Pool.mem_known_add.mp hj with rfl | hj
            · refine .fresh ?_ (hw.unused _ (Nat.le_of_eq hid.symm))
              rw [hvars]
              exact (hseed j.id vars).trans (if_pos hid.symm)
            · have hlt := hw.below _ (World.mem_knownIds hj)
              exact (hw.replays j hj).carry ((hseed j.id vars).trans (if_neg (hold _ hlt))) rfl }
      next := Nat.le_succ _
      seeds := fun id hlt => (hseed id vars).trans (if_neg (hold id hlt))
      absent := by
        intro id haway hmem
        rcases (Pool.mem_ids_add hid).mp hmem with rfl | hmem
        · exact Nat.lt_irrefl _ haway.given
        · exact haway.absent hmem
      others := fun _ _ _ => rfl }

/-- What the host writes, it writes to an instance of the pool. -/
theorem of_assign (w : World) (id : InstanceId) (name : String) (v : Value) :
    Heeds [] w (w.setModuleVariable id name v).2 := by
  rcases w.setModuleVariable_cases id name v with hsame | ⟨i, hfind, hset⟩
  · rw [hsame]
    exact (steady []).refl w
  rw [hset]
  intro hw _
  have hi : i ∈ w.pool.known := List.mem_of_find?_eq_some hfind
  have hid : i.id = id := by simpa using List.find?_some hfind
  subst hid
  have hids : (w.pool.modify i.id (·.withValue name v)).known.map (·.id) = w.knownIds :=
    w.pool.ids_modify i.id fun _ => rfl
  have hnodup : ((w.pool.modify i.id (·.withValue name v)).known.map (·.id)).Nodup := by
    rw [hids]
    exact hw.ids
  have hobserved := World.observed_publishWrite
    { w with pool := w.pool.modify i.id (·.withValue name v) } i.id i.entity i.graph name v
  have hgiven := hw.below i.id (World.mem_knownIds hi)
  exact
    { tracked :=
        { ids := hnodup
          below := fun j hj => hw.below j (hids ▸ hj)
          unused := by
            intro j hj
            have hne : i.id ≠ j := Nat.ne_of_lt (Nat.lt_of_lt_of_le hgiven hj)
            exact (hobserved j).trans ((if_neg hne).trans (hw.unused j hj))
          replays := by
            intro j hj
            by_cases hne : i.id = j.id
            · -- There is one instance of the number only.
              have hj' := Pool.find?_of_mem hnodup hj
              rw [← hne, w.pool.find?_modify i.id (f := (·.withValue name v)) fun _ => rfl,
                hfind] at hj'
              cases hj'
              exact (hw.replays i hi).write name v
            · have hold := (w.pool.sameOthers_modify i.id (f := (·.withValue name v))
                fun _ => rfl).mem_known hj (Ne.symm hne)
              exact (hw.replays j hold).carry rfl ((hobserved j.id).trans (if_neg hne)) }
      next := Nat.le_refl _
      seeds := fun _ _ => rfl
      absent := fun j hj hmem => hj.absent (hids ▸ hmem)
      others := by
        intro j _ hj
        have hne : i.id ≠ j := fun heq => hj.absent (heq ▸ World.mem_knownIds hi)
        exact (hobserved j).trans (if_neg hne) }

theorem of_note (w : World) (id : InstanceId) (e : NodeEvent) :
    Heeds [] w (w.record (.atNode id e)) :=
  of_same ((World.SameVariables.refl w).record rfl fun _ => rfl)

/-- An instance that is at work writes a variable of its own. -/
theorem of_write (w : World) (i : Instance) (name : String) (v : Value) :
    Heeds [i.id] w (w.publishWrite i.id i.entity i.graph name v) := by
  intro hw hbusy
  have haway := hbusy i.id List.mem_cons_self
  have hobserved : ∀ id, id ≠ i.id →
      (w.publishWrite i.id i.entity i.graph name v).observed id = w.observed id := fun id hne =>
    (w.observed_publishWrite i.id i.entity i.graph name v id).trans (if_neg (Ne.symm hne))
  exact
    { tracked :=
        { ids := hw.ids
          below := hw.below
          unused := by
            intro id hid
            have hne : id ≠ i.id := Nat.ne_of_gt (Nat.lt_of_lt_of_le haway.given hid)
            exact (hobserved id hne).trans (hw.unused id hid)
          replays := by
            intro j hj
            have hne : j.id ≠ i.id := fun heq => haway.absent (heq ▸ World.mem_knownIds hj)
            exact (hw.replays j hj).carry rfl (hobserved j.id hne) }
      next := Nat.le_refl _
      seeds := fun _ _ => rfl
      absent := fun _ hid => hid.absent
      others := fun id hnot _ => hobserved id fun heq => hnot (List.mem_singleton.mpr heq) }

end Heeds

/-! ## Turns -/

theorem World.Engages.carry {w w' : World} {i : Instance} (hw : w.Engages i)
    (h : Heeds [] w w') : w'.Engages i :=
  (h hw.tracked nofun).engages hw List.not_mem_nil

namespace Instance

variable {service : Service} {c : Conduct} {i : Instance} {w : World} {s : Situation} {dt : Float}
  {g : Graph} {node : Node}

/-- The instance is still the same, and still at work. -/
def StillEngaged (i i' : Instance) (w : World) : Prop :=
  i.Same i' ∧ w.Engages i'

theorem stillEngaged_of_vars (hw : w.Engages i) {i' : Instance} (hsame : i.Same i')
    (hvars : i'.vars = i.vars) : i.StillEngaged i' w :=
  ⟨hsame, hw.same hsame hvars⟩

theorem stillEngaged_self (hw : w.Engages i) : i.StillEngaged i w :=
  ⟨.refl i, hw⟩

theorem write_heeds (hw : w.Engages i) (name : String) (v : Value) :
    (i.write name v).Yields service c (Heeds [i.id]) w i.StillEngaged := by
  have hstep := Heeds.of_write w i name v
  refine .read (.write (Heeds.steady _) hstep (.done (Heeds.steady _) ⟨⟨rfl, rfl, rfl, rfl⟩, ?_⟩))
  have hafter := hstep hw.tracked fun id hid => List.mem_singleton.mp hid ▸ hw.toAway
  exact
    { toAway := hafter.away hw.toAway
      toReplays := hw.toReplays.write name v
      tracked := hafter.tracked }

theorem assign_heeds (hw : w.Engages i) (name : String) (v : Value) :
    (i.assign name v).Yields service c (Heeds [i.id]) w i.StillEngaged := by
  refine .read ?_
  split
  · exact write_heeds hw name v
  · split
    · -- The variable is the entity's, and nothing is observed.
      have hsame : w.SameVariables (w.modifyEntity i.entity (·.assign name v)) :=
        World.sameVariables_of_journal rfl rfl
      have hstep := Heeds.of_same hsame
      exact .write (Heeds.steady _) (hstep.mono (List.nil_subset _))
        (.done (Heeds.steady _) (stillEngaged_self (hw.carry hstep)))
    · exact write_heeds hw name v

theorem evaluate_vars (i : Instance) (g : Graph) (id : NodeId) (left right : Option Operand)
    (test : Test) (e : Evidence) : i.Same (i.evaluate g id left right test e).2 ∧
      (i.evaluate g id left right test e).2.vars = i.vars := by
  unfold evaluate
  dsimp only
  split
  · exact ⟨.refl i, rfl⟩
  · exact ⟨⟨rfl, rfl, rfl, rfl⟩, rfl⟩

section Requests

variable (hservice : service.Keeps c (Heeds []))

include hservice

theorem perform_heeds (hw : w.Engages i) (name : String) (params : Params) :
    (i.perform s name params).Yields service c (Heeds [i.id]) w fun _ w' => w'.Engages i :=
  .perform (Heeds.steady _) hservice (·.mono (List.nil_subset _)) fun _ hrequest =>
    .done (Heeds.steady _) (hw.carry hrequest)

theorem setVar_heeds (hw : w.Engages i) (params : Params) :
    (i.setVar s params).Yields service c (Heeds [i.id]) w i.StillEngaged := by
  have hregistered : ∀ params, ((i.perform s "SetVar" params).bind fun _ =>
      .done i).Yields service c (Heeds [i.id]) w i.StillEngaged := fun params =>
    .bind (Heeds.steady _) (perform_heeds hservice hw _ params) fun _ _ _ hw' =>
      .done (Heeds.steady _) (stillEngaged_self hw')
  unfold setVar
  split
  · exact hregistered params
  · refine .read ?_
    dsimp only
    split
    · exact write_heeds hw _ _
    · exact hregistered _

theorem runInstant_heeds (hw : w.Engages i) (block : String) (params : Params) :
    (i.runInstant s block params).Yields service c (Heeds [i.id]) w fun r w' =>
      i.StillEngaged r.2 w' := by
  have hfail : (Script.done (NodeOutcome.finish (some .flowFailed), i)).Yields service c
      (Heeds [i.id]) w fun r w' => i.StillEngaged r.2 w' :=
    .done (Heeds.steady _) (stillEngaged_self hw)
  unfold runInstant
  dsimp only
  split
  · exact hfail
  · split
    · split
      · exact hfail
      · exact .bind (Heeds.steady _) (assign_heeds hw _ _) fun i' _ _ hi' =>
          .done (Heeds.steady _) hi'
    · split
      · exact .bind (Heeds.steady _) (setVar_heeds hservice hw _) fun i' _ _ hi' =>
          .done (Heeds.steady _) hi'
      · exact .bind (Heeds.steady _) (perform_heeds hservice hw _ _) fun _ _ _ hw' =>
          .done (Heeds.steady _) (stillEngaged_self hw')

theorem runMoveTo_heeds (hw : w.Engages i) (params : Params) :
    (i.runMoveTo s params).Yields service c (Heeds [i.id]) w fun r w' =>
      i.StillEngaged r.2 w' := by
  refine .read ?_
  dsimp only
  split
  · exact .done (Heeds.steady _) (stillEngaged_self hw)
  · refine .bind (Heeds.steady _) (perform_heeds hservice hw _ _) fun _ w' _ hw' => .read ?_
    split
    · exact .done (Heeds.steady _) (stillEngaged_self hw')
    · exact .done (Heeds.steady _) (stillEngaged_self hw')

theorem runAsync_heeds (hw : w.Engages i) (id : NodeId) (block : String) (params : Params) :
    (i.runAsync s id block params dt).Yields service c (Heeds [i.id]) w fun r w' =>
      i.StillEngaged r.2 w' := by
  have htimers : ∀ {w : World} {i' : Instance}, w.Engages i → (∃ blocks, i' = { i with blocks }) →
      i.StillEngaged i' w := by
    rintro w i' hw ⟨blocks, rfl⟩
    exact stillEngaged_of_vars hw ⟨rfl, rfl, rfl, rfl⟩ rfl
  unfold runAsync
  split
  · have hwait := runWait_same i id params dt
    refine .bind (R := fun _ w' => w'.Engages i) (Heeds.steady _) ?_ fun _ _ _ hw' =>
      .done (Heeds.steady _) (htimers hw' hwait)
    split
    · have hnote := Heeds.of_note w i.id (.armed id)
      refine (Script.Yields.record (Heeds.steady _) (hnote.mono (List.nil_subset _))).mono ?_
      rintro _ _ _ rfl
      exact hw.carry hnote
    · exact .done (Heeds.steady _) hw
  · split
    · exact runMoveTo_heeds hservice hw params
    · split
      · exact .read (.done (Heeds.steady _) (htimers hw (runAnimation_same i id params w.clock)))
      · exact .done (Heeds.steady _) (stillEngaged_self hw)

theorem runNode_heeds (hw : w.Engages i) :
    (i.runNode s dt g node).Yields service c (Heeds [i.id]) w fun r w' =>
      i.StillEngaged r.2 w' := by
  unfold runNode
  split
  case h_5 left right test _ =>
    obtain ⟨hsame, hvars⟩ := i.evaluate_vars g node.id left right test (i.evidence w s)
    exact .read (.done (Heeds.steady _) (stillEngaged_of_vars hw hsame hvars))
  case h_6 => exact .read (.done (Heeds.steady _) (stillEngaged_self hw))
  case h_7 =>
    refine .read ?_
    dsimp only
    split
    · exact runInstant_heeds hservice hw _ _
    · exact runAsync_heeds hservice hw _ _ _
  all_goals exact .done (Heeds.steady _) (stillEngaged_self hw)

theorem visit_heeds (hw : w.Engages i) :
    (i.visit s dt g node).Yields service c (Heeds [i.id]) w fun r w' =>
      i.StillEngaged r.2 w' := by
  have hnote := fun u id e => (Heeds.of_note u id e).mono (List.nil_subset [i.id])
  refine .bind (Heeds.steady _) (.record (Heeds.steady _) (hnote _ _ _)) fun _ u _ hu => ?_
  have hw' : u.Engages i := hu ▸ hw.carry (.of_note w i.id _)
  refine .bind (Heeds.steady _) (runNode_heeds hservice hw') fun r v _ hr => ?_
  obtain ⟨o, i'⟩ := r
  cases o with
  | stay => exact .done (Heeds.steady _) hr
  | finish error => exact .done (Heeds.steady _) hr
  | leave port =>
    refine .bind (Heeds.steady _) (.record (Heeds.steady _) (hnote _ _ _)) fun _ w' _ hw' => ?_
    exact .done (Heeds.steady _) ⟨hr.1, hw' ▸ hr.2.carry (.of_note v i'.id _)⟩

/-- In its turn an instance stays at work, and has the variables that were observed. -/
theorem step_heeds (dt : Float) (hw : w.Engages i) :
    (i.step dt).Yields service c (Heeds [i.id]) w fun r w' => i.StillEngaged r.2 w' := by
  have hsituation : w.SameVariables (w.situationFor i.entity [("dt", .float dt)]).2 := by
    unfold World.situationFor
    split
    · exact .refl w
    · exact World.sameVariables_of_journal rfl rfl
  have hset := Heeds.of_same hsituation
  refine .read (.write (Heeds.steady _) (hset.mono (List.nil_subset _)) ?_)
  refine runSteps_yields (Heeds.steady _) (P := fun _ j w => i.StillEngaged j w)
    (fun _ _ h => h) (fun _ _ _ h _ => h) ?_ _ _ _ (stillEngaged_self (hw.carry hset))
  intro _ j u node h _
  refine (h.1.id ▸ visit_heeds hservice h.2 :
    (j.visit _ dt _ node).Yields service c (Heeds [i.id]) u _).mono fun r v _ hr => ?_
  have hstill : i.StillEngaged r.2 v := ⟨h.1.trans hr.1, hr.2⟩
  unfold After
  split
  · exact hstill
  · exact hstill
  · split
    · exact hstill
    · exact ⟨hstill.1.trans ⟨rfl, rfl, rfl, rfl⟩, hstill.2.same ⟨rfl, rfl, rfl, rfl⟩ rfl⟩

end Requests

end Instance

/-! ## Updates -/

section Update

variable {service : Service} {c : Conduct}

/-- Each instance has its turn while the others are at work. -/
theorem stepAll_heeds (hservice : service.Keeps c (Heeds [])) (dt : Float)
    (instances : List Instance) (w : World) (hids : (instances.map (·.id)).Nodup)
    (hw : w.Tracked) (hengages : ∀ i ∈ instances, w.Engages i) :
    (stepAll dt instances).Yields service c (Heeds (instances.map (·.id))) w fun r w' =>
      (r.2.map (·.id)).Sublist (instances.map (·.id)) ∧ ∀ i ∈ r.2, w'.Engages i := by
  induction instances generalizing w with
  | nil => exact .done (Heeds.steady _) ⟨List.Sublist.refl _, nofun⟩
  | cons i rest ih =>
    obtain ⟨hnew, hids⟩ := List.nodup_cons.mp hids
    have hi := hengages i List.mem_cons_self
    have hothers : ∀ j ∈ rest, w.Engages j := fun j hj => hengages j (List.mem_cons_of_mem _ hj)
    have hsteady := Heeds.steady ((i :: rest).map (·.id))
    have hrest := fun w hw hothers => (ih w hids hw hothers).loosen
      (H := Heeds ((i :: rest).map (·.id))) (·.mono (List.subset_cons_self _ _))
    refine .read ?_
    split
    · exact (hrest w hw hothers).mono fun r _ _ hr =>
        ⟨hr.2.1.trans (List.sublist_cons_self _ _), hr.2.2⟩
    · split
      · refine .bind hsteady (hrest w hw hothers) fun r _ _ hr => ?_
        exact .done hsteady ⟨hr.2.1.trans (List.sublist_cons_self _ _), hr.2.2⟩
      · have hturn := (i.step_heeds hservice dt hi).loosen
          (H := Heeds ((i :: rest).map (·.id)))
          (·.mono (List.cons_subset_cons _ (List.nil_subset _)))
        refine .bind hsteady hturn fun r w₁ _ hr => ?_
        obtain ⟨hstep, hsame, hi'⟩ := hr
        have hstep := hstep hw fun id hid => List.mem_singleton.mp hid ▸ hi.toAway
        have hothers₁ : ∀ j ∈ rest, w₁.Engages j := fun j hj =>
          hstep.engages (hothers j hj) fun hmem =>
            hnew (List.mem_map.mpr ⟨j, hj, List.mem_singleton.mp hmem⟩)
        refine .bind hsteady (hrest w₁ hstep.tracked hothers₁) fun r' w' _ hr' => ?_
        obtain ⟨hafter, hsub, hkept⟩ := hr'
        dsimp only
        split
        · exact .done hsteady ⟨hsub.trans (List.sublist_cons_self _ _), hkept⟩
        · refine .done hsteady ⟨?_, fun j hj => ?_⟩
          · rw [List.map_cons, List.map_cons, hsame.id]
            exact hsub.cons_cons _
          · have hafter := hafter hstep.tracked fun id hid => by
              obtain ⟨j, hj, rfl⟩ := List.mem_map.mp hid
              exact (hothers₁ j hj).toAway
            rcases List.mem_cons.mp hj with rfl | hj
            · exact hafter.engages hi' (hsame.id ▸ hnew)
            · exact hkept j hj

theorem Tracking.opened {w : World} (hw : w.Tracked) (time dt : Float) :
    Tracking [] w (w.opened time dt) :=
  Heeds.of_sublist (List.sublist_append_right _ _) rfl rfl (fun _ => rfl) hw nofun

/-- The instances that an update takes out are at work from then on. -/
theorem World.Tracked.engages {w : World} (hw : w.Tracked) (time dt : Float) {i : Instance}
    (hi : i ∈ w.pool.instances) : (w.opened time dt).Engages i := by
  have hknown : i ∈ w.pool.known := List.mem_append_left _ hi
  exact
    { given := hw.below _ (mem_knownIds hknown)
      absent := not_mem_knownIds_opened hw.ids time dt (List.mem_map_of_mem hi)
      toReplays := (hw.replays i hknown).carry rfl rfl
      tracked := (Tracking.opened hw time dt).tracked }

/-- When an update ends, the instances that it keeps join the others. -/
theorem World.Tracked.closed {w : World} (hw : w.Tracked)
    {r : List ModuleReport × List Instance} (hids : (r.2.map (·.id)).Nodup)
    (hkept : ∀ i ∈ r.2, w.Engages i) : (w.closed r).Tracked where
  ids := by
    refine nodup_knownIds_closed hids hw.ids fun id hid => ?_
    obtain ⟨i, hi, rfl⟩ := List.mem_map.mp hid
    exact (hkept i hi).absent
  below := by
    intro id hid
    obtain ⟨i, hi, rfl⟩ := List.mem_map.mp hid
    rcases Pool.mem_known_settle hi with hi | hi
    · exact (hkept i hi).given
    · exact hw.below _ (mem_knownIds hi)
  unused := hw.unused
  replays := by
    intro i hi
    rcases Pool.mem_known_settle hi with hi | hi
    · exact (hkept i hi).toReplays.carry rfl rfl
    · exact (hw.replays i hi).carry rfl rfl

/-- An update leaves the world tracked. -/
theorem updateModules_heeds (hservice : service.Keeps c (Heeds [])) {m m' : Machine}
    (hm : m.Obeys c) {time dt : Float} {reports : List ModuleReport}
    (hrun : (updateModules time dt).run service m = some (reports, m')) :
    m.Leads c (Heeds []) m' := by
  refine ⟨updateModules_obeys hservice hm hrun, fun hw _ => ?_⟩
  obtain ⟨kept, m₁, hall, rfl⟩ := updateModules_run hrun
  have hopen := Tracking.opened hw time dt
  have htaken := World.nodup_ids_instances hw.ids
  obtain ⟨⟨_, hturns⟩, hsub, hkept⟩ := stepAll_heeds hservice dt _ _ htaken hopen.tracked
    (fun i hi => hw.engages time dt hi) _ rfl (hm.withWorld _) hall
  have hturns := hturns hopen.tracked fun id hid => by
    obtain ⟨i, hi, rfl⟩ := List.mem_map.mp hid
    exact (hw.engages time dt hi).toAway
  have hinside : ∀ id ∈ m.world.pool.instances.map (·.id), id ∈ m.world.knownIds :=
    fun id hid => (World.mem_knownIds_opened time dt).mpr (Or.inl hid)
  exact
    { tracked := hturns.tracked.closed (htaken.sublist hsub) hkept
      next := hturns.next
      seeds := hturns.seeds
      absent := by
        intro id hid hmem
        rcases World.mem_knownIds_closed hmem with hmem | hmem
        · exact hid.absent (hinside _ (hsub.subset hmem))
        · exact hturns.absent _ (hopen.away hid) hmem
      others := by
        intro id _ hid
        exact hturns.others id (fun hmem => hid.absent (hinside id hmem)) (hopen.away hid) }

end Update

/-! ## Runs -/

/-- The calls by which behaviours reach the variables of modules, and whatever leaves these and what
is observed of them alone. -/
inductive VariableCall : World → World → Prop
  | start (w : World) (entity : EntityId) (cell : GraphRef) (overrides : Params) :
      VariableCall w (w.startGraph entity cell overrides).2
  | cancel (w : World) (entity : EntityId) : VariableCall w (w.cancelModules entity)
  | clear (w : World) : VariableCall w w.clearModules
  | assign (w : World) (id : InstanceId) (name : String) (v : Value) :
      VariableCall w (w.setModuleVariable id name v).2
  | other {w w' : World} : w.SameVariables w' → VariableCall w w'

/-- Behaviours that reach the variables of modules by calls only, and may run updates. -/
def Conduct.observing : Conduct where
  step := Relation.ReflTransGen VariableCall
  part := IsUpdate

theorem Heeds.of_call {w w' : World} (h : VariableCall w w') : Heeds [] w w' := by
  cases h with
  | start entity cell overrides => exact of_start w entity cell overrides
  | cancel entity => exact of_cancel w entity
  | clear => exact of_clear w
  | assign id name v => exact of_assign w id name v
  | other h => exact of_same h

theorem Conduct.observing_keeps : Conduct.observing.Keeps (Heeds []) where
  toSteady := Heeds.steady []
  step := by
    intro v w h
    induction h with
    | refl => exact (Heeds.steady []).refl _
    | tail _ hcall ih => exact (Heeds.steady []).trans ih (.of_call hcall)
  rely := fun _ => trivial
  emitted := fun w e => .of_same ((World.SameVariables.refl w).record rfl fun _ => rfl)
  part := by
    intro β p hp service hservice m b m' hm hrun
    cases hp with
    | mk time dt => exact updateModules_heeds hservice hm hrun

/-- In a run the world stays tracked. -/
theorem Machine.Plays.heeds {m m' : Machine} {updates : List (List ModuleReport)}
    (hm : m.Obeys .observing) (h : m.Plays .observing updates m') :
    m.Leads .observing (Heeds []) m' := by
  induction h with
  | refl => exact .refl (Heeds.steady []) hm
  | @script m₁ m₂ updates depth _ _ _ _ hobeys hrun ih =>
    exact ih.trans (Heeds.steady []) (Script.run_obeys Conduct.observing_keeps
      (Service.keeps_atDepth Conduct.observing_keeps depth) hobeys m₁ rfl ih.1 hrun)
  | @update m₁ m₂ updates depth _ _ _ _ hrun ih =>
    exact ih.trans (Heeds.steady []) (updateModules_heeds
      (Service.keeps_atDepth Conduct.observing_keeps depth) ih.1 hrun)

/-! ## The default behaviours -/

theorem Conduct.observing_relies : Conduct.observing.Relies where
  refl _ := trivial
  trans _ _ := trivial
  step _ := trivial

namespace World

variable {w w' : World}

theorem SameVariables.observing (h : w.SameVariables w') : Conduct.observing.step w w' :=
  .single (.other h)

/-- What is acted reaches the variables of modules by starts only. -/
theorem Acted.observing (h : w.Acted w') : Conduct.observing.step w w' := by
  refine Relation.ReflTransGen.mono (fun u v hcall => ?_) _ _ h.starts
  cases hcall with
  | start entity cell overrides => exact .start u entity cell overrides
  | aside _ hsame => exact .other hsame

theorem sameVariables_grant (w : World) (f : Frame → Bool × Frame) :
    w.SameVariables (w.grant f).2 := by
  unfold grant
  split
  · exact .refl w
  · exact sameVariables_of_journal rfl rfl

theorem sameVariables_judge (w : World) (r : Request) : w.SameVariables (w.judge r).2 :=
  (w.sameVariables_grant (·.grantRequest r)).record rfl fun _ => rfl

theorem sameVariables_openFrame (w : World) (now threshold : Float) :
    w.SameVariables (w.openFrame now threshold).2 := by
  have hgrant := w.sameVariables_grant (·.begin now threshold)
  unfold openFrame
  dsimp only
  split
  · exact hgrant.record rfl fun _ => rfl
  · exact hgrant

theorem sameVariables_takeTurn (w : World) (id : EntityId) (component : String) :
    w.SameVariables (Director.takeTurn w id component).2 := by
  have hgrant := w.sameVariables_grant (·.grantComponent id component)
  unfold Director.takeTurn
  dsimp only
  split
  · exact hgrant.record rfl fun _ => rfl
  · exact hgrant

end World

theorem Conduct.directing_within_observing : Conduct.directing.Within .observing where
  step hstep := hstep.1.observing
  part hp w := part_directing (fun w r => (w.sameVariables_judge r).observing) trivial hp w
  announces := nofun
  performs := nofun
  checks _ := trivial
  registers := nofun
  rely _ := trivial

/-- The default behaviours reach the variables of modules by starts only. -/
theorem Machine.Standard.obeys_observing {m : Machine} (h : m.Standard) : m.Obeys .observing := by
  refine h.obeys Conduct.observing_relies Conduct.directing_within_observing ?_ ?_
  · exact ⟨fun hw => hw.observing, nofun, fun _ => trivial, nofun, nofun, nofun, fun _ => trivial⟩
  · exact ⟨fun hw => hw.observing, nofun, nofun, nofun, nofun, nofun, fun _ => trivial⟩

theorem Director.update_obeys_observing (dt : Float) (w : World) :
    (update dt).Obeys .observing w := by
  refine update_obeys Conduct.observing_relies (fun w now threshold => ?_) (fun w senses _ => ?_)
    (Conduct.ruling_within Conduct.directing_within_observing fun w id component => ?_)
    (fun v => ?_) w
  · exact (w.sameVariables_openFrame now threshold).observing
  · exact World.SameVariables.observing (World.sameVariables_of_journal rfl rfl)
  · exact (w.sameVariables_takeTurn id component).observing
  · rw [← Script.bind_done (updateModules 0 dt)]
    exact .part (.mk 0 dt) fun _ _ _ => .done

/-! ## Single writes -/

namespace Instance

variable {i : Instance} {s : Situation} {block : String} {params : Params}

theorem runInstant_setVariable (h : Text.trim block = "SetVariable") :
    i.runInstant s block params =
      match params.text? "target" with
      | none => .done (.finish (some .flowFailed), i)
      | some target =>
        (i.assign target (params.valueOf "value")).bind fun i => .done (.leave "out", i) := by
  unfold runInstant
  refine (if_neg (h ▸ by decide)).trans ((if_pos h).trans ?_)
  cases params.text? "target" <;> rfl

theorem runInstant_setVar (h : Text.trim block = "SetVar") :
    i.runInstant s block params = (i.setVar s params).bind fun i => .done (.leave "out", i) := by
  unfold runInstant
  simp [h]

end Instance

theorem Control.setVar_writes {service : Service} {s : Situation} {params : Params}
    {m m' : Machine} {r : Except Failure Unit}
    (hrun : (setVar s params).run service m = some (r, m')) : m'.world.writes = m.world.writes := by
  unfold setVar Script.withText at hrun
  split at hrun
  · rw [Script.run] at hrun
    split at hrun
    · cases hrun
      rfl
    · split at hrun
      · cases hrun
        rfl
      · cases hrun
        rfl
  · cases hrun
    rfl

namespace ModuleWrite

/-- The write is one by a block that sets variables, or by the host. -/
def Sets : ModuleWrite → Prop
  | block _ _ name _ => Text.trim name = "SetVariable" ∨ Text.trim name = "SetVar"
  | host .. => True

/-- The instance that the write is for. -/
def writer? (w : World) : ModuleWrite → Option Instance
  | block i _ _ _ => some i
  | host id _ _ => w.pool.find? id

variable {depth : Nat} {m m' : Machine} {i : Instance} {s : Situation} {params : Params}

/-- What a block has the registered action do is a write to the entity. -/
theorem perform_setVar (hset : Dict.get? m.actions "SetVar" = some Control.setVar)
    (hrun : (i.perform s "SetVar" params).run (Service.atDepth depth) m = some ((), m')) :
    m'.world.writes = m.world.writes := by
  rw [Instance.perform, Script.act, Script.run] at hrun
  obtain ⟨m₁, hperform, hdone⟩ := Option.bind_eq_some_iff.mp hrun
  cases hdone
  cases depth with
  | zero => cases hperform
  | succ depth =>
    simp only [Service.atDepth, Service.above, hset] at hperform
    obtain ⟨⟨r, m₂⟩, haction, rfl⟩ := Option.map_eq_some_iff.mp hperform
    exact Control.setVar_writes haction

/-- A write that does not reach a module variable is not observed, and changes none. -/
theorem unreached {r : ModuleWrite} (hset : Dict.get? m.actions "SetVar" = some Control.setVar)
    (hsets : r.Sets) (hnever : ∀ i name v, ¬ r.Reaches m.world i name v) {found : Option Instance}
    (hrun : r.carryOut.run (Service.atDepth depth) m = some (found, m')) :
    m'.world.writes = m.world.writes ∧
      found.map (·.vars) = (r.writer? m.world).map (·.vars) := by
  cases r with
  | host id name v =>
    have hnone : m.world.pool.find? id = none := by
      cases hfind : m.world.pool.find? id with
      | none => rfl
      | some i => exact absurd (.host hfind) (hnever i name v)
    simp only [carryOut, Script.run, World.setModuleVariable, hnone] at hrun
    cases hrun
    exact ⟨rfl, by simp only [writer?, hnone]⟩
  | block i s block params =>
    rw [carryOut, Script.run_bind] at hrun
    obtain ⟨⟨⟨outcome, i'⟩, m₁⟩, hblock, hdone⟩ := Option.bind_eq_some_iff.mp hrun
    cases hdone
    show m'.world.writes = m.world.writes ∧ some i'.vars = some i.vars
    rcases hsets with hname | hname
    · rw [Instance.runInstant_setVariable hname] at hblock
      split at hblock
      · cases hblock
        exact ⟨rfl, rfl⟩
      · next target htarget =>
        -- The name is one of the entity, for else the write would be one to the instance.
        have howns : ¬ (i.owns m.world target = true ∨ m.world.store.contains i.entity = false) :=
          fun howns => hnever i target _ (.setVariable hname htarget rfl howns)
        rw [not_or, Bool.not_eq_false] at howns
        simp only [Instance.assign, Script.bind, Script.run, if_neg howns.1, if_pos howns.2]
          at hblock
        cases hblock
        exact ⟨rfl, rfl⟩
    · rw [Instance.runInstant_setVar hname, Script.run_bind] at hblock
      obtain ⟨⟨i₁, m₂⟩, hvar, hdone⟩ := Option.bind_eq_some_iff.mp hblock
      cases hdone
      have haside : ∀ params, ((i.perform s "SetVar" params).bind fun _ => .done i).run
          (Service.atDepth depth) m = some (i', m') →
          m'.world.writes = m.world.writes ∧ some i'.vars = some i.vars := by
        intro params hperform
        rw [Script.run_bind] at hperform
        obtain ⟨⟨_, m₃⟩, hperform, hdone⟩ := Option.bind_eq_some_iff.mp hperform
        cases hdone
        exact ⟨perform_setVar hset hperform, rfl⟩
      unfold Instance.setVar at hvar
      split at hvar
      · exact haside params hvar
      · next target htarget =>
        have howns : ¬ i.owns m.world target = true := fun howns =>
          hnever i target _ (.setVar hname htarget rfl howns)
        simp only [Script.run, if_neg howns] at hvar
        exact haside _ hvar

end ModuleWrite

/-! ## What the observer has -/

theorem World.NoModulesYet.tracked {w : World} (h : w.NoModulesYet) (hunseen : w.writes = []) :
    w.Tracked where
  ids := h.knownIds ▸ List.nodup_nil
  below := h.knownIds ▸ List.forall_mem_nil _
  unused id _ := by rw [World.observed, hunseen, List.filter_nil]
  replays := h.known ▸ List.forall_mem_nil _

/-- A start takes down what the instance starts with, and writes no variable. -/
theorem World.seed_startGraph {w w' : World} {entity : EntityId} {cell : GraphRef}
    {overrides : Params} {id : InstanceId}
    (h : w.startGraph entity cell overrides = (.ok id, w')) :
    w'.seed? id = some (startingVars (w.library.read cell).defaults overrides
      (w.store.get? entity)) ∧ w'.writes = w.writes := by
  unfold startGraph at h
  dsimp only at h
  split at h
  · cases h
  · cases h
    exact ⟨(seed?_seeded _ _ _ _).trans (if_pos rfl), rfl⟩

/-- **Variables replay the observed writes.** An observer who hears of writes from before the first
start on has the variables of each instance that the pool knows: those it was started with, and the
observed values put in, in order. A start is observed with the very variables that it gives, and
what was observed of it stays. A single write, of a block that sets variables or of the host, is
observed once if it is one to a module variable, when the value is there, and changes no entity
then; else it is not observed, and leaves the module variables alone. -/
theorem variables_replay_observed_writes {m m' : Machine} {updates : List (List ModuleReport)}
    (hnew : m.world.NoModulesYet) (hunseen : m.world.writes = []) (hm : m.Obeys .observing)
    (h : m.Plays .observing updates m') :
    (∀ i ∈ m'.world.pool.known, m'.world.Replays i) ∧
    (∀ id, m'.world.pool.nextId ≤ id → m'.world.observed id = []) ∧
    (∀ (w w' : World) (entity : EntityId) (cell : GraphRef) (overrides : Params) (id : InstanceId),
      w.startGraph entity cell overrides = (.ok id, w') →
      w'.seed? id = some (startingVars (w.library.read cell).defaults overrides
        (w.store.get? entity)) ∧ w'.writes = w.writes) ∧
    (∀ (updates' : List (List ModuleReport)) (m'' : Machine),
      m'.Plays .observing updates' m'' →
      ∀ id < m'.world.pool.nextId, m''.world.seed? id = m'.world.seed? id) ∧
    ∀ (n n' : Machine) (r : ModuleWrite) (depth : Nat) (found : Option Instance),
      Dict.get? n.actions "SetVar" = some Control.setVar → r.Sets →
      r.carryOut.run (Service.atDepth depth) n = some (found, n') →
      (∃ i name v, r.Reaches n.world i name v ∧ found = some (i.withValue name v) ∧
        n'.world.writes = ⟨i.id, i.entity, i.graph, name, v⟩ :: n.world.writes ∧
        n'.world.store = n.world.store) ∨
      (∀ i name v, ¬ r.Reaches n.world i name v) ∧ n'.world.writes = n.world.writes ∧
        found.map (·.vars) = (r.writer? n.world).map (·.vars) := by
  obtain ⟨hm', hheeds⟩ := h.heeds hm
  have hw := (hheeds (hnew.tracked hunseen) nofun).tracked
  refine ⟨hw.replays, hw.unused, fun _ _ _ _ _ _ => World.seed_startGraph, ?_, ?_⟩
  · intro updates' m'' hlater
    exact ((hlater.heeds hm').2 hw nofun).seeds
  · intro n n' r depth found hset hsets hrun
    by_cases hreaches : ∃ i name v, r.Reaches n.world i name v
    · obtain ⟨i, name, v, hreaches⟩ := hreaches
      obtain ⟨p, w, _, rfl, hrun'⟩ := hreaches.run (Service.atDepth depth)
      cases hrun.symm.trans hrun'
      exact Or.inl ⟨i, name, v, hreaches, rfl, World.writes_publishWrite .., rfl⟩
    · have hnever : ∀ i name v, ¬ r.Reaches n.world i name v := fun i name v hi =>
        hreaches ⟨i, name, v, hi⟩
      exact Or.inr ⟨hnever, ModuleWrite.unreached hset hsets hnever hrun⟩

/-! ## A module that counts -/

namespace Tally

/-- A gate with no variables. -/
def gate : Entity where
  id := ⟨"gate"⟩

/-- Writes a variable of the module, then one of the entity, and goes on. -/
def graph : Graph where
  id := "tally"
  entry := "a"
  nodes := [⟨"a", .entry⟩,
    ⟨"b", .flow .instant "SetVariable" [("target", .text "n"), ("value", .int 2)]⟩,
    ⟨"c", .flow .instant "SetVar" [("name", .text "open"), ("value", .bool true)]⟩,
    ⟨"d", .merge⟩]
  edges := [.flow "a" "out" "b" "in", .flow "b" "out" "c" "in", .flow "c" "out" "d" "in"]
  vars := [("n", .int 0)]

/-- A scene in which an update ends when a module has passed three nodes. -/
def machine : Machine :=
  Machine.withDefaultConditions (Machine.withDefaultActions
    { world :=
        { store := Store.empty.insert gate
          library := .ofList [graph]
          pool := { stepBound := 3 }
          director := some { subscription := some 1 } }
      listeners := [(1, Director.listener)]
      nextSubscription := 2 })

/-- Starts the graph, with a value for its variable. -/
def start : Script Unit :=
  .read fun w => .write (w.startGraph ⟨"gate"⟩ 0 [("n", .int 1)]).2 (.done ())

/-- Writes the variable from outside. -/
def adjust : Script Unit :=
  .read fun w => .write (w.setModuleVariable 1 "n" (.int 5)).2 (.done ())

theorem machine_new : machine.world.NoModulesYet :=
  ⟨rfl, rfl, rfl, rfl, rfl, fun _ => rfl⟩

theorem machine_obeys : machine.Obeys .observing :=
  Machine.Standard.obeys_observing (Machine.standard_withDefaults rfl rfl rfl)

/-- Two of the three writes are observed. -/
theorem plays : ∃ m, machine.Plays .observing [] m ∧ m.world.pool.known.map (·.id) = [1] ∧
    m.world.seed? 1 = some [("n", .int 1)] ∧
    m.world.observed 1 =
      [⟨1, ⟨"gate"⟩, 0, "n", .int 5⟩, ⟨1, ⟨"gate"⟩, 0, "n", .int 2⟩] ∧
    (m.world.store.get? ⟨"gate"⟩).bind (·.value? "open") = some (.bool true) := by
  have hrun : ∃ m₁, start.run (Service.atDepth 0) machine = some ((), m₁) ∧
      ∃ m₂, (Director.update 0).run (Service.atDepth 1) m₁ = some ([], m₂) ∧
        ∃ m₃, adjust.run (Service.atDepth 0) m₂ = some ((), m₃) ∧
          m₃.world.pool.known.map (·.id) = [1] ∧
          m₃.world.seed? 1 = some [("n", .int 1)] ∧
          m₃.world.observed 1 =
            [⟨1, ⟨"gate"⟩, 0, "n", .int 5⟩, ⟨1, ⟨"gate"⟩, 0, "n", .int 2⟩] ∧
          (m₃.world.store.get? ⟨"gate"⟩).bind (·.value? "open") = some (.bool true) :=
    ⟨_, rfl, _, rfl, _, rfl, rfl, rfl, rfl, rfl⟩
  obtain ⟨m₁, hstart, m₂, hupdate, m₃, hadjust, hend⟩ := hrun
  have hobeys : start.Obeys .observing machine.world :=
    .read (.write (.single (.start _ ⟨"gate"⟩ 0 [("n", .int 1)])) .done)
  have hobeys' : adjust.Obeys .observing m₂.world :=
    .read (.write (.single (.assign _ 1 "n" (.int 5))) .done)
  refine ⟨m₃, .script (.script (.script .refl hobeys hstart) ?_ hupdate) hobeys' hadjust, hend⟩
  exact Director.update_obeys_observing 0 m₁.world

end Tally

/-- The tally is what was observed last, and the gate is open without that being observed. -/
theorem tally_replayed : ∃ m, Tally.machine.world.NoModulesYet ∧
    Tally.machine.world.writes = [] ∧ Tally.machine.Obeys .observing ∧
    Tally.machine.Plays .observing [] m ∧
    (m.world.store.get? ⟨"gate"⟩).bind (·.value? "open") = some (.bool true) ∧
    ∃ i ∈ m.world.pool.known, i.id = 1 ∧ i.vars = [("n", .int 5)] := by
  obtain ⟨m, hplays, hknown, hseed, hobserved, hopen⟩ := Tally.plays
  have hreplays := (variables_replay_observed_writes Tally.machine_new rfl Tally.machine_obeys
    hplays).1
  have hmem : 1 ∈ m.world.pool.known.map (·.id) := by
    rw [hknown]
    exact List.mem_singleton_self 1
  obtain ⟨i, hi, hid⟩ := List.mem_map.mp hmem
  refine ⟨m, Tally.machine_new, rfl, Tally.machine_obeys, hplays, hopen, i, hi, hid, ?_⟩
  obtain ⟨seed, hstarted, hvars⟩ := (hreplays i hi).vars
  rw [hid, hseed] at hstarted
  cases hstarted
  rw [hvars, hid, hobserved]
  rfl

end SceneLogic
