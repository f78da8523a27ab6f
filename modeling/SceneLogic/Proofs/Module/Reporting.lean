import Mathlib.Data.List.Nodup
import SceneLogic.Proofs.Module.Sorting

/-!
# Each module is reported once

Between updates each instance that was ever started is running, or was reported, or was dropped,
and it is only one of these: nothing gets lost in an update or is reported twice, although actions
start and cancel modules while it is under way.

`PoolMoves` is what calls, requests and blocks do to the books of the pool. An update is a
sequence of such moves between opening and settling.
-/

namespace SceneLogic

/-- The pool and its history went on together. -/
structure PoolMoves (w w' : World) : Prop where
  /-- Whose modules were cancelled stays known until the update ends. -/
  removed : ∀ entity ∈ w.pool.removed, entity ∈ w'.pool.removed
  books : ∃ new, w'.history = new ++ w.history ∧ ¬ Closes new ∧
    (Settled w.pool w.history → Settled w'.pool w'.history) ∧
    ∀ first now, Underway first w.pool now → Underway first w'.pool (new ++ now)

namespace PoolMoves

variable {u v w w' : World}

theorem of_same (hpool : w'.pool = w.pool) (hhistory : w'.history = w.history) :
    PoolMoves w w' where
  removed := hpool ▸ fun _ h => h
  books := ⟨[], hhistory, fun ⟨_, h⟩ => List.not_mem_nil h, by rw [hpool, hhistory]; exact id,
    by rw [hpool]; exact fun _ _ h => h⟩

theorem refl (w : World) : PoolMoves w w :=
  of_same rfl rfl

theorem trans (h : PoolMoves u v) (h' : PoolMoves v w) : PoolMoves u w where
  removed := fun entity hmem => h'.removed entity (h.removed entity hmem)
  books := by
    obtain ⟨new, hv, hopen, hsettled, hunderway⟩ := h.books
    obtain ⟨new', hw, hopen', hsettled', hunderway'⟩ := h'.books
    refine ⟨new' ++ new, by rw [hw, hv, List.append_assoc], ?_, hsettled' ∘ hsettled, ?_⟩
    · rintro ⟨reports, hmem⟩
      rcases List.mem_append.mp hmem with hmem | hmem
      · exact hopen' ⟨reports, hmem⟩
      · exact hopen ⟨reports, hmem⟩
    · intro first now hu
      rw [List.append_assoc]
      exact hunderway' first _ (hunderway first now hu)

theorem steady : Steady PoolMoves :=
  ⟨refl, trans⟩

theorem poolSteady : PoolSteady PoolMoves where
  toSteady := steady
  same := of_same
  removed := fun h entity hmem => h.removed entity hmem

/-- One event of the pool that closes no update. -/
theorem of_event {e : PoolEvent} (hhistory : w'.history = e :: w.history)
    (he : ∀ reports, e ≠ .closed reports)
    (hremoved : ∀ entity ∈ w.pool.removed, entity ∈ w'.pool.removed)
    (hsettled : Settled w.pool w.history → Settled w'.pool (e :: w.history))
    (hunderway : ∀ first now, Underway first w.pool now → Underway first w'.pool (e :: now)) :
    PoolMoves w w' where
  removed := hremoved
  books := by
    refine ⟨[e], hhistory, fun ⟨reports, hmem⟩ => ?_, hhistory ▸ hsettled, hunderway⟩
    exact he reports (List.mem_singleton.mp hmem).symm

theorem of_start (w : World) (entity : EntityId) (cell : GraphRef) (overrides : Params) :
    PoolMoves w (w.startGraph entity cell overrides).2 := by
  rcases w.startGraph_cases entity cell overrides with ⟨_, _, hsame⟩ | ⟨vars, _, _, hstart⟩
  · rw [hsame]
    exact refl w
  · rw [hstart]
    refine of_event rfl nofun ?_ (fun hs => hs.start rfl cell) (fun _ _ hu => hu.start rfl cell)
    unfold Pool.add
    split
    · exact fun _ h => h
    · exact fun _ h => h

theorem of_cancel (w : World) (entity : EntityId) : PoolMoves w (w.cancelModules entity) := by
  refine of_event rfl nofun (fun e hmem => ?_) (fun hs => hs.cancel entity)
    (fun _ _ hu => hu.cancel _)
  show e ∈ if w.pool.updating then entity :: w.pool.removed else w.pool.removed
  split
  · exact List.mem_cons_of_mem _ hmem
  · exact hmem

theorem of_assign (w : World) (id : InstanceId) (name : String) (v : Value) :
    PoolMoves w (w.setModuleVariable id name v).2 := by
  rcases w.setModuleVariable_cases id name v with hsame | ⟨i, _, hassign⟩
  · rw [hsame]
    exact refl w
  · rw [hassign]
    have hkeys := keysOf_modifyFirst id
      (f := fun i => { i with vars := Dict.insert i.vars name v }) (fun _ => rfl)
    refine ⟨fun _ h => h, [], rfl, fun ⟨_, h⟩ => List.not_mem_nil h, fun hs => ?_, fun _ _ hu => ?_⟩
    · exact hs.congr (hkeys _) (by simp [World.publishWrite, World.record, Pool.modify, hs.pending,
        Pool.modifyFirst]) rfl rfl rfl
    · refine hu.congr ?_ ?_ rfl rfl rfl
      · show Pool.modifyFirst id _ w.pool.instances = w.pool.instances
        rw [hu.instances]
        rfl
      · show keysOf (if w.pool.instances.any _ then _ else _) = _
        split
        · rfl
        · exact hkeys _

theorem of_call (h : ModuleCall w w') : PoolMoves w w' := by
  cases h with
  | start entity cell overrides => exact of_start w entity cell overrides
  | cancel entity => exact of_cancel w entity
  | assign id name v => exact of_assign w id name v
  | other h => exact of_same h.pool h.history

end PoolMoves

/-- Behaviours that use the calls only keep the books. -/
theorem Conduct.modules_keeps_books : Conduct.modules.Keeps PoolMoves where
  toSteady := PoolMoves.steady
  step := by
    intro v w h
    induction h with
    | refl => exact .refl _
    | tail _ hcall ih => exact ih.trans (.of_call hcall)
  rely := fun _ => trivial
  emitted := fun w e => .of_call (.other (.emitted w e))
  part := nofun

/-! ## An update -/

section Update

variable {service : Service} {c : Conduct}

/-- An update as a whole: the books are kept, and its reports are entered last. -/
theorem updateModules_yields (hservice : service.Keeps c PoolMoves) {m m' : Machine}
    (hm : m.Obeys c) (hs : Settled m.world.pool m.world.history) {time dt : Float}
    {reports : List ModuleReport}
    (hrun : (updateModules time dt).run service m = some (reports, m')) :
    m'.Obeys c ∧ Settled m'.world.pool m'.world.history ∧
      ∃ now, m'.world.history = .closed reports :: (now ++ .opened :: m.world.history) ∧
        ¬ Closes now := by
  obtain ⟨hm', w, kept, hmoves, hsort, hw⟩ :=
    Conduct.updateModules_sorts PoolMoves.poolSteady hservice hm hrun
  -- The books that were opened with the update went on with all that was done meanwhile.
  obtain ⟨new, hnews, hopen, _, hunderway⟩ := hmoves.books
  have hu := hunderway _ _ (.begin hs time dt)
  rw [List.append_nil] at hu
  have hhistory : w.history = new ++ .opened :: m.world.history := hnews
  rw [hw]
  refine ⟨hm', ?_, new, congrArg (PoolEvent.closed reports :: ·) hhistory, hopen⟩
  show Settled (w.pool.settle kept) (.closed reports :: w.history)
  rw [hhistory]
  exact hs.settle hu hsort

end Update

/-! ## Runs -/

/-- The instance is in the pool. -/
def World.Runs (w : World) (id : InstanceId) : Prop :=
  ∃ i ∈ w.pool.instances, i.id = id

/-- One of the updates reported the instance. -/
def ReportedBy (updates : List (List ModuleReport)) (id : InstanceId) : Prop :=
  ∃ r ∈ updates.flatten, r.instanceId = id

/-- An instance that was started is in one situation, and in one only: it runs, or it was
reported, or it was cancelled before it could be. -/
inductive Situated (w : World) (updates : List (List ModuleReport)) (id : InstanceId)
    (entity : EntityId) : Prop
  | running : w.Runs id → ¬ ReportedBy updates id → ¬ Cancelled w.history id entity →
      Situated w updates id entity
  | reported : ¬ w.Runs id → ReportedBy updates id → Situated w updates id entity
  | dropped : ¬ w.Runs id → ¬ ReportedBy updates id → Cancelled w.history id entity →
      Situated w updates id entity

/-- Between updates, each start is accounted for once. -/
structure ReportedOnce (w : World) (updates : List (List ModuleReport)) : Prop where
  /-- Each start took a greater number than those before it, and so will the next. -/
  started : (w.pool.nextId :: (startedIn w.history).map (·.1)).Pairwise (· > ·)
  instances : w.pool.instances.Pairwise fun i j => i.id < j.id
  runs : ∀ i ∈ w.pool.instances, (i.id, i.entity) ∈ startedIn w.history
  pending : w.pool.pending = []
  ascending : ∀ reports ∈ updates, reports.Pairwise fun r r' => r.instanceId < r'.instanceId
  once : (updates.flatten.map (·.instanceId)).Nodup
  reports : ∀ r ∈ updates.flatten, (r.instanceId, r.entity) ∈ startedIn w.history
  situated : ∀ id entity, (id, entity) ∈ startedIn w.history → Situated w updates id entity

/-- All along a run the books are kept, and they hold the reports that the host got. -/
theorem Machine.Plays.books {m m' : Machine} {updates : List (List ModuleReport)}
    (hnew : m.world.NoModulesYet) (hm : m.Obeys .modules) (h : m.Plays .modules updates m') :
    m'.Obeys .modules ∧ Settled m'.world.pool m'.world.history ∧
      reportsIn m'.world.history = updates.flatten ∧
      ∀ reports ∈ updates, .closed reports ∈ m'.world.history := by
  induction h with
  | refl =>
    rw [hnew.history]
    exact ⟨hm, .empty hnew.instances hnew.pending hnew.removed hnew.updating, rfl, nofun⟩
  | @script m₁ m₂ updates depth _ _ _ _ hobeys hrun ih =>
    obtain ⟨hm₁, hs, hreports, hclosed⟩ := ih
    obtain ⟨hm₂, hmoves⟩ := Script.run_obeys Conduct.modules_keeps_books
      (Service.keeps_atDepth Conduct.modules_keeps_books depth) hobeys m₁ rfl hm₁ hrun
    obtain ⟨new, hnews, hopen, hsettled, _⟩ := hmoves.books
    refine ⟨hm₂, hsettled hs, ?_, fun reports hr => ?_⟩
    · rw [hnews, reportsIn_append, reportsIn_of_not_closes hopen]
      exact hreports
    · rw [hnews]
      exact List.mem_append_right _ (hclosed reports hr)
  | @update m₁ m₂ updates depth _ _ _ _ hrun ih =>
    obtain ⟨hm₁, hs, hreports, hclosed⟩ := ih
    obtain ⟨hm₂, hs₂, now, hhistory, hopen⟩ := updateModules_yields
      (Service.keeps_atDepth Conduct.modules_keeps_books depth) hm₁ hs hrun
    refine ⟨hm₂, hs₂, ?_, fun reports hr => ?_⟩
    · rw [hhistory, reportsIn_closed, reportsIn_append, reportsIn_of_not_closes hopen, List.flatten_cons,
        ← hreports]
      rfl
    · rw [hhistory]
      rcases List.mem_cons.mp hr with rfl | hr
      · exact List.mem_cons_self
      · refine List.mem_cons_of_mem _ (List.mem_append_right _ ?_)
        exact List.mem_cons_of_mem _ (hclosed _ hr)

/-- Settled books account for each start once. -/
theorem Settled.reportedOnce {w : World} {updates : List (List ModuleReport)}
    (hs : Settled w.pool w.history) (hreports : reportsIn w.history = updates.flatten)
    (hclosed : ∀ reports ∈ updates, .closed reports ∈ w.history) : ReportedOnce w updates where
  started := by
    refine List.pairwise_cons.mpr ⟨fun id hid => ?_, List.pairwise_map.mpr hs.order⟩
    obtain ⟨s, hmem, rfl⟩ := List.mem_map.mp hid
    exact hs.fresh s hmem
  instances := by
    have hids := List.pairwise_map.mp hs.ids
    exact hids
  runs := fun i hi => (hs.running i.key (List.mem_map.mpr ⟨i, hi, rfl⟩)).1
  pending := hs.pending
  ascending := fun reports hr => hs.ascending reports (hclosed reports hr)
  once := hreports ▸ hs.once
  reports := fun r hr => hs.reported r (hreports ▸ hr)
  situated := by
    intro id entity hmem
    -- A number was given once, so it tells the entity.
    have hunique : ∀ k ∈ startedIn w.history, k.1 = id → k = (id, entity) := by
      have hnodup := List.pairwise_map.mpr (hs.order.imp (Nat.ne_of_lt · |>.symm))
      exact fun k hk hid => List.inj_on_of_nodup_map hnodup hk hmem hid
    have hruns : ∀ i ∈ w.pool.instances, i.id = id → ¬ ReportedBy updates id ∧
        ¬ Cancelled w.history id entity := by
      rintro i hi rfl
      have hk : i.key ∈ keysOf w.pool.instances := List.mem_map.mpr ⟨i, hi, rfl⟩
      obtain ⟨hstart, hlive⟩ := hs.running _ hk
      refine ⟨fun ⟨r, hr, hid⟩ => hs.apart r (hreports ▸ hr) _ hk hid.symm, ?_⟩
      have hkey := hunique _ hstart rfl
      rw [hkey] at hlive
      exact hlive
    by_cases hrun : w.Runs id
    · obtain ⟨i, hi, hid⟩ := hrun
      exact .running ⟨i, hi, hid⟩ (hruns i hi hid).1 (hruns i hi hid).2
    · rcases hs.accounted _ hmem with hk | hr | hc
      · obtain ⟨i, hi, hkey⟩ := List.mem_map.mp hk
        exact absurd ⟨i, hi, congrArg Prod.fst hkey⟩ hrun
      · obtain ⟨r, hr, hkey⟩ := List.mem_map.mp hr
        exact .reported hrun ⟨r, hreports ▸ hr, congrArg Prod.fst hkey⟩
      · by_cases hrep : ReportedBy updates id
        · exact .reported hrun hrep
        · exact .dropped hrun hrep hc

/-- **Each module is reported once.** In a run of starts, cancellations, assignments and updates,
each start that is granted takes a greater number than all before it, and each that is refused
changes nothing. Between updates the pool is in the order of the numbers and nothing waits; the
reports of an update are in that order, too; no instance is reported twice; and each instance runs,
was reported or was dropped, and only one of these. -/
theorem modules_reported_once {m m' : Machine} {updates : List (List ModuleReport)}
    (hnew : m.world.NoModulesYet) (hm : m.Obeys .modules) (h : m.Plays .modules updates m') :
    ReportedOnce m'.world updates ∧
      ∀ (w : World) (entity : EntityId) (cell : GraphRef) (overrides : Params),
        (∃ e, w.startGraph entity cell overrides = (.error e, w)) ∨
        ∃ w', w.startGraph entity cell overrides = (.ok w.pool.nextId, w') ∧
          w'.pool.nextId = w.pool.nextId + 1 ∧
          w'.history = .started w.pool.nextId entity cell :: w.history := by
  obtain ⟨_, hs, hreports, hclosed⟩ := h.books hnew hm
  refine ⟨hs.reportedOnce hreports hclosed, fun w entity cell overrides => ?_⟩
  rcases w.startGraph_cases entity cell overrides with ⟨e, herror, hsame⟩ | ⟨vars, _, hok, hstart⟩
  · exact Or.inl ⟨e, Prod.ext herror hsame⟩
  · exact Or.inr ⟨_, Prod.ext hok hstart, rfl, rfl⟩

/-! ## A module that starts others -/

namespace Forking

/-- Starts the second graph for its entity and for another one, whose modules it then cancels. -/
def fork : Action := fun s _ =>
  .read fun w =>
    .write (((w.startGraph s.entity 1 []).2.startGraph ⟨"other"⟩ 1 []).2.cancelModules ⟨"other"⟩)
      (.done (.ok ()))

/-- Two graphs, of which the first one forks. -/
def machine : Machine where
  world :=
    { library := .ofList
        [ { id := "forks", entry := "a"
            nodes := [⟨"a", .entry⟩, ⟨"b", .flow .instant "Fork" []⟩]
            edges := [.flow "a" "out" "b" "in"] },
          { id := "rests", entry := "a", nodes := [⟨"a", .entry⟩] } ] }
  actions := [("Fork", fork)]

/-- Starts the first graph. -/
def start : Script Unit :=
  .read fun w => .write (w.startGraph ⟨"one"⟩ 0 []).2 (.done ())

/-- The machine when the first graph is started. -/
def started : Machine :=
  { machine with world := (machine.world.startGraph ⟨"one"⟩ 0 []).2 }

theorem machine_obeys : machine.Obeys .modules where
  listeners := nofun
  actions := by
    intro a ha s params w
    rw [List.mem_singleton.mp ha]
    refine .read (.write ?_ .done)
    exact .tail (.tail (.single (.start w s.entity 1 [])) (.start _ ⟨"other"⟩ 1 []))
      (.cancel _ ⟨"other"⟩)
  conditions := nofun

/-- The first update reports the instance that forks; of the two that it started one is left. -/
theorem machine_plays : ∃ m, machine.Plays .modules [[⟨1, ⟨"one"⟩, "forks", none⟩]] m ∧
    m.world.pool.instances.map (·.id) = [2] ∧
    startedIn m.world.history = [(3, ⟨"other"⟩), (2, ⟨"one"⟩), (1, ⟨"one"⟩)] := by
  have hstart : start.run (Service.atDepth 0) machine = some ((), started) := rfl
  have hupdate : ∃ m, (updateModules 0 0).run (Service.atDepth 1) started =
      some ([⟨1, ⟨"one"⟩, "forks", none⟩], m) ∧ m.world.pool.instances.map (·.id) = [2] ∧
      startedIn m.world.history = [(3, ⟨"other"⟩), (2, ⟨"one"⟩), (1, ⟨"one"⟩)] := by
    refine ⟨_, rfl, ?_, ?_⟩
    · rfl
    · rfl
  obtain ⟨m, hrun, hpool, hstarted⟩ := hupdate
  have hobeys : start.Obeys .modules machine.world :=
    .read (.write (.single (.start _ ⟨"one"⟩ 0 [])) .done)
  exact ⟨m, .update (.script .refl hobeys hstart) hrun, hpool, hstarted⟩

end Forking

/-- The run in which one instance is reported, one runs, and one was dropped. -/
theorem forked_reported_once : ∃ m, Forking.machine.world.NoModulesYet ∧
    Forking.machine.Obeys .modules ∧
    Forking.machine.Plays .modules [[⟨1, ⟨"one"⟩, "forks", none⟩]] m ∧
    m.world.pool.instances.map (·.id) = [2] ∧
    startedIn m.world.history = [(3, ⟨"other"⟩), (2, ⟨"one"⟩), (1, ⟨"one"⟩)] ∧
    ReportedOnce m.world [[⟨1, ⟨"one"⟩, "forks", none⟩]] := by
  obtain ⟨m, hplays, hpool, hstarted⟩ := Forking.machine_plays
  have hnew : Forking.machine.world.NoModulesYet := ⟨rfl, rfl, rfl, rfl, rfl, fun _ => rfl⟩
  refine ⟨m, hnew, Forking.machine_obeys, hplays, hpool, hstarted, ?_⟩
  exact (modules_reported_once hnew Forking.machine_obeys hplays).1

end SceneLogic
