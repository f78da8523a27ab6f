import SceneLogic.Proofs.Module.Progress
import SceneLogic.Proofs.Module.Sorting
import SceneLogic.Proofs.Module.Tame

/-!
# An update as a whole

Between opening and close an update holds the instances that it took out of the pool, while
anything may happen to the pool: modules are started and cancelled, and there may even be other
updates. Seen from outside it is a change like others, and each instance of the pool is reported,
cancelled, or kept with its steps made.
-/

namespace SceneLogic

section Update

variable {service : Service} {c : Conduct}

/-- What an update has made of an instance of the pool: it is reported, cancelled, or kept. -/
inductive Outlasted (i : Instance) (w : World) (new : List PoolEvent) (w' : World) : Prop
  | kept {i' : Instance} : i' ∈ w'.pool.instances → Advanced i w w.pool.stepBound i' w' →
      Outlasted i w new w'
  | reported {reports : List ModuleReport} {r : ModuleReport} : .closed reports ∈ new →
      r ∈ reports → r.instanceId = i.id → Outlasted i w new w'
  | cancelled : .cancelled i.entity ∈ new → Outlasted i w new w'

theorem Outlasted.fared {i : Instance} {w w' : World} {new : List PoolEvent}
    (h : Outlasted i w new w') : Fared i w new w' := by
  cases h with
  | kept hi hadv => exact .kept hi hadv.same hadv.trail
  | reported hmem hr hid => exact .reported hmem hr hid
  | cancelled hmem => exact .cancelled hmem

theorem started_of_opened {h : List PoolEvent} {id : InstanceId} {entity : EntityId}
    {cell : GraphRef} (hmem : .started id entity cell ∈ PoolEvent.opened :: h) :
    .started id entity cell ∈ h :=
  (List.mem_cons.mp hmem).resolve_left nofun

theorem started_of_closed {reports : List ModuleReport} {h : List PoolEvent} {id : InstanceId}
    {entity : EntityId} {cell : GraphRef}
    (hmem : .started id entity cell ∈ PoolEvent.closed reports :: h) :
    .started id entity cell ∈ h :=
  (List.mem_cons.mp hmem).resolve_left nofun

/-- The pool knew the instances that an update takes out, and it knows the others. -/
theorem World.mem_knownIds_opened {w : World} (time dt : Float) {id : InstanceId} :
    id ∈ w.knownIds ↔
      id ∈ w.pool.instances.map (·.id) ∨ id ∈ (w.opened time dt).knownIds := by
  unfold knownIds Pool.known
  rw [List.map_append, List.mem_append]
  rfl

/-- What an update takes out is not in the pool meanwhile. -/
theorem World.not_mem_knownIds_opened {w : World} (hids : w.knownIds.Nodup) (time dt : Float)
    {id : InstanceId} (hid : id ∈ w.pool.instances.map (·.id)) :
    id ∉ (w.opened time dt).knownIds := by
  unfold knownIds Pool.known at hids
  rw [List.map_append] at hids
  exact fun hmem => (List.nodup_append.mp hids).2.2 _ hid _ hmem rfl

theorem World.nodup_ids_instances {w : World} (hids : w.knownIds.Nodup) :
    (w.pool.instances.map (·.id)).Nodup :=
  hids.sublist ((List.sublist_append_left _ _).map _)

/-- The instances that an update takes out are held, and the others stay as they are. -/
theorem World.Sane.opened {w : World} (hw : w.Sane) (time dt : Float) :
    World.Held (w.pool.instances.map (·.id)) (w.opened time dt) where
  ids := hw.ids.sublist ((List.sublist_append_right _ _).map _)
  below := by
    intro id hid
    obtain ⟨i, hi, rfl⟩ := List.mem_map.mp hid
    exact hw.below _ (mem_knownIds (List.mem_append_right _ hi))
  unused := by
    intro id hge
    obtain ⟨htrail, hunused⟩ := hw.unused id hge
    exact ⟨htrail, fun entity cell hmem => hunused entity cell (started_of_opened hmem)⟩
  fit := fun i hi => (hw.fit i (List.mem_append_right _ hi)).carry (.refl w) rfl
    fun entity cell hmem => started_of_opened hmem
  updating := fun _ => rfl
  removed := nofun
  away := by
    intro id hid
    obtain ⟨i, hi, rfl⟩ := List.mem_map.mp hid
    exact ⟨hw.below _ (mem_knownIds (List.mem_append_left _ hi)),
      not_mem_knownIds_opened hw.ids time dt (List.mem_map_of_mem hi)⟩

/-- The instances that an update takes out are in its hands. -/
theorem World.Sane.inHand {w : World} (hw : w.Sane) (time dt : Float) :
    InHand (w.opened time dt) w.pool.instances where
  held := hw.opened time dt
  nodup := nodup_ids_instances hw.ids
  fit := fun i hi => (hw.fit i (List.mem_append_left _ hi)).carry (.refl w) rfl
    fun _ _ hmem => started_of_opened hmem

/-- Where there are instances to update, no other update is under way. -/
theorem World.Sane.removed_of_mem {w : World} (hw : w.Sane) {i : Instance}
    (hi : i ∈ w.pool.instances) : w.pool.removed = [] := by
  cases hup : w.pool.updating with
  | true =>
    rw [hw.updating hup] at hi
    exact absurd hi List.not_mem_nil
  | false => exact hw.removed hup

theorem Pool.known_settle (p : Pool) (kept : List Instance) :
    (p.settle kept).known = (kept ++ p.pending).filter fun i => !p.removed.contains i.entity := by
  unfold known settle
  rw [List.append_nil, List.filter_append]

/-- What the pool knows after the end of an update was kept, or the pool knew it before. -/
theorem Pool.sublist_known_settle (p : Pool) (kept : List Instance) :
    (p.settle kept).known.Sublist (kept ++ p.known) := by
  rw [known_settle]
  exact List.filter_sublist.trans
    ((List.Sublist.refl kept).append (List.sublist_append_right _ _))

theorem Pool.mem_known_settle {p : Pool} {kept : List Instance} {i : Instance}
    (hi : i ∈ (p.settle kept).known) : i ∈ kept ∨ i ∈ p.known :=
  List.mem_append.mp ((p.sublist_known_settle kept).subset hi)

theorem World.mem_knownIds_closed {w : World} {r : List ModuleReport × List Instance}
    {id : InstanceId} (h : id ∈ (w.closed r).knownIds) :
    id ∈ r.2.map (·.id) ∨ id ∈ w.knownIds := by
  obtain ⟨i, hi, rfl⟩ := List.mem_map.mp h
  exact (Pool.mem_known_settle hi).imp (List.mem_map_of_mem ·) mem_knownIds

/-- If no number of a kept instance is in the pool, all numbers differ after the update. -/
theorem World.nodup_knownIds_closed {w : World} {r : List ModuleReport × List Instance}
    (hkept : (r.2.map (·.id)).Nodup) (hids : w.knownIds.Nodup)
    (hapart : ∀ id ∈ r.2.map (·.id), id ∉ w.knownIds) : (w.closed r).knownIds.Nodup := by
  refine List.Nodup.sublist ((w.pool.sublist_known_settle r.2).map _) ?_
  rw [List.map_append]
  refine List.nodup_append.mpr ⟨hkept, hids, ?_⟩
  rintro id hid _ hmem rfl
  exact hapart id hid hmem

/-- When an update ends, pool, journal and trails agree again. -/
theorem World.Held.closed {instances : List Instance} {w w' : World}
    {r : List ModuleReport × List Instance} (hw' : w'.Held (instances.map (·.id)))
    (hnodup : (instances.map (·.id)).Nodup) (h : Handled w instances r w') :
    (w'.closed r).Sane := by
  have hfit : ∀ i ∈ (w'.pool.settle r.2).known, w'.Fit i := by
    intro i hi
    rcases Pool.mem_known_settle hi with hi | hi
    · exact h.fit i hi
    · exact hw'.fit i hi
  exact
    { ids := nodup_knownIds_closed (hnodup.sublist h.ids) hw'.ids fun id hid =>
        (hw'.away id (h.ids.subset hid)).2
      below := by
        intro id hid
        rcases mem_knownIds_closed hid with hid | hid
        · exact (hw'.away id (h.ids.subset hid)).1
        · exact hw'.below id hid
      unused := by
        intro id hge
        obtain ⟨htrail, hunused⟩ := hw'.unused id hge
        exact ⟨htrail, fun entity cell hmem => hunused entity cell (started_of_closed hmem)⟩
      fit := fun i hi => (hfit i hi).carry (.refl w') rfl
        fun entity cell hmem => started_of_closed hmem
      updating := nofun
      removed := fun _ => rfl }

/-- What became of an instance while it was in the hands of an update, seen from outside. -/
theorem Stepped.outlasted {i : Instance} {w w' : World} {time dt : Float} {new : List PoolEvent}
    {busy : List InstanceId} {r : List ModuleReport × List Instance}
    (h : Stepped i (w.opened time dt) r w') (hremoved : w.pool.removed = [])
    (hon : Onward busy (w.opened time dt) new w') :
    Outlasted i w (.closed r.1 :: (new ++ [.opened])) (w'.closed r) := by
  have hnew : ∀ e, e ∈ new → e ∈ .closed r.1 :: (new ++ [.opened]) :=
    fun e he => List.mem_cons_of_mem _ (List.mem_append_left _ he)
  have hnone : (w.opened time dt).pool.removed = [] := hremoved
  cases h with
  | gone hhistory hgone =>
    rw [hon.history] at hhistory
    rw [hnone, ← List.append_cancel_right hhistory] at hgone
    exact .cancelled (hnew _ (hgone.resolve_left List.not_mem_nil))
  | reported hmem hid => exact .reported List.mem_cons_self hmem hid
  | @kept i' hmem hadv =>
    -- An instance that was kept is dropped after all if its entity was cancelled meanwhile.
    by_cases hout : i'.entity ∈ w'.pool.removed
    · have hcancel := hon.removed _ hout
      rw [hnone, hadv.same.entity] at hcancel
      exact .cancelled (hnew _ (hcancel.resolve_left List.not_mem_nil))
    · have hstays : i' ∈ (w'.closed r).pool.instances := by
        refine List.mem_append_left _ (List.mem_filter.mpr ⟨hmem, ?_⟩)
        simpa using hout
      exact .kept hstays
        { same := hadv.same
          fit := hadv.fit.carry (.refl w') rfl fun entity cell hmem => started_of_closed hmem
          trail := hadv.trail
          progress := hadv.progress }

/-- From the opening of an update to its close. -/
theorem Handled.onward {w w' : World} {time dt : Float} {new : List PoolEvent}
    {r : List ModuleReport × List Instance} (hw : w.Sane)
    (hon : Onward (w.pool.instances.map (·.id)) (w.opened time dt) new w')
    (h : Handled (w.opened time dt) w.pool.instances r w') :
    ∃ new', Onward [] w new' (w'.closed r) ∧
      ∀ i ∈ w.pool.instances, Outlasted i w new' (w'.closed r) := by
  have houtlasted : ∀ i ∈ w.pool.instances,
      Outlasted i w (.closed r.1 :: (new ++ [.opened])) (w'.closed r) :=
    fun i hi => (h.stepped i hi).outlasted (hw.removed_of_mem hi) hon
  refine ⟨.closed r.1 :: (new ++ [.opened]), ?_, houtlasted⟩
  exact
    { held := ⟨hon.held.closed (hw.inHand time dt).nodup h, nofun⟩
      next := hon.next
      graphs := hon.graphs
      bound := hon.bound
      others := by
        intro id hid hout _
        obtain ⟨hbusy, hwait⟩ := not_or.mp (mt (World.mem_knownIds_opened time dt).mpr hout)
        obtain ⟨hout', htrail⟩ := hon.others id hid hwait hbusy
        refine ⟨fun hmem => ?_, htrail⟩
        rcases World.mem_knownIds_closed hmem with hmem | hmem
        · exact hbusy (h.ids.subset hmem)
        · exact hout' hmem
      right := by
        intro id hid
        have hright : w'.Right id := by
          rcases hid with hid | hid
          · rcases (World.mem_knownIds_opened time dt).mp hid with hid | hid
            · obtain ⟨i, hi, rfl⟩ := List.mem_map.mp hid
              exact h.right i hi
            · exact hon.right id (Or.inl hid)
          · exact hon.right id (Or.inr hid)
        exact hright.carry (.refl w') rfl fun entity cell hmem => started_of_closed hmem
      history := by
        show PoolEvent.closed r.1 :: w'.history = _
        rw [hon.history, List.cons_append, List.append_assoc]
        rfl
      started := by
        intro id entity cell hmem
        rcases List.mem_append.mp (started_of_closed hmem) with hmem | hmem
        · exact hon.started id entity cell hmem
        · exact absurd (List.mem_singleton.mp hmem) nofun
      removed := nofun
      fared := fun i hi => (houtlasted i hi).fared }

/-- An update as a whole leads onward, and each instance of the pool is reported, or cancelled, or
makes its steps. -/
theorem updateModules_advances (hservice : service.Keeps c (Apart [])) {m m' : Machine}
    (hm : m.Obeys c) (hw : m.world.Sane) {time dt : Float} {reports : List ModuleReport}
    (hrun : (updateModules time dt).run service m = some (reports, m')) :
    m'.Obeys c ∧ ∃ new, Onward [] m.world new m'.world ∧
      ∀ i ∈ m.world.pool.instances, Outlasted i m.world new m'.world := by
  obtain ⟨kept, m₂, hall, rfl⟩ := updateModules_run hrun
  have hin := hw.inHand time dt
  obtain ⟨⟨hm₂, hapart⟩, h⟩ :=
    stepAll_advances hservice dt m.world.pool.instances hin _ rfl (hm.withWorld _) hall
  obtain ⟨_, hon⟩ := hapart hin.held
  exact ⟨hm₂.withWorld _, h.onward hw hon⟩

/-- Behaviours still behave after an update, whatever the world was like. -/
theorem updateModules_obeys {G : World → World → Prop} (hservice : service.Keeps c G)
    {m m' : Machine} (hm : m.Obeys c) {time dt : Float} {reports : List ModuleReport}
    (hrun : (updateModules time dt).run service m = some (reports, m')) : m'.Obeys c :=
  (updateModules_steps time dt m.world).leaves hservice id id (fun _ _ => trivial) rfl hm hrun

end Update

end SceneLogic
