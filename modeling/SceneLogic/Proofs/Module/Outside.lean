import SceneLogic.Proofs.Module.Onward

/-!
# Calls lead onward

Whatever is done about modules from outside, and whatever an instance notes about itself, pool,
journal and trails go on agreeing, and instances that are at work do not notice.

* `Pool.Tidy` — what a pool that agrees with the journal is like by itself; every operation on the
  pool leaves it so
* `Changes` — what a call may change
* `Changes.onward` — a change of this kind that leaves the pool tidy leads onward
* `Apart.of_call`, `Apart.of_clear`, `Apart.of_note` — the calls one by one
-/

namespace SceneLogic

/-! ## Tidy pools -/

namespace Pool

/-- The numbers of the instances are all different and were all given, and nothing of an update is
left when none is under way. -/
structure Tidy (p : Pool) : Prop where
  ids : (p.known.map (·.id)).Nodup
  below : ∀ id ∈ p.known.map (·.id), id < p.nextId
  updating : p.updating = true → p.instances = []
  removed : p.updating = false → p.removed = []

variable {p p' : Pool}

/-- The pool only loses instances. -/
theorem Tidy.dropped (hp : p.Tidy) (hknown : p'.known.Sublist p.known)
    (hnext : p'.nextId = p.nextId) (hupdating : p'.updating = p.updating)
    (hinstances : p'.instances ⊆ p.instances)
    (hremoved : p.updating = false → p'.removed ⊆ p.removed) : p'.Tidy where
  ids := hp.ids.sublist (hknown.map _)
  below := fun id hid => Nat.lt_of_lt_of_eq (hp.below id ((hknown.map _).subset hid)) hnext.symm
  updating := by
    intro hup
    rw [hupdating] at hup
    exact List.subset_nil.mp (hp.updating hup ▸ hinstances)
  removed := by
    intro hup
    rw [hupdating] at hup
    exact List.subset_nil.mp (hp.removed hup ▸ hremoved hup)

/-- A new instance joins those that the pool knows. -/
theorem known_add (p : Pool) (i : Instance) : (p.add i).known.Perm (i :: p.known) := by
  unfold add known
  split
  · dsimp only
    rw [← List.append_assoc]
    exact List.perm_append_singleton _ _
  · dsimp only
    rw [List.append_assoc]
    exact List.perm_middle

theorem mem_known_add {p : Pool} {i j : Instance} :
    j ∈ (p.add i).known ↔ j = i ∨ j ∈ p.known :=
  (p.known_add i).mem_iff.trans List.mem_cons

/-! A new instance has the next number of the pool. -/

section Numbers

variable {p : Pool} {i : Instance} (hid : i.id = p.nextId)

include hid

theorem ids_add : ((p.add i).known.map (·.id)).Perm (p.nextId :: p.known.map (·.id)) :=
  hid ▸ (p.known_add i).map (·.id)

theorem mem_ids_add {id : InstanceId} :
    id ∈ (p.add i).known.map (·.id) ↔ id = p.nextId ∨ id ∈ p.known.map (·.id) :=
  (ids_add hid).mem_iff.trans List.mem_cons

variable (hbelow : ∀ id ∈ p.known.map (·.id), id < p.nextId)

include hbelow

theorem nodup_ids_add (hids : (p.known.map (·.id)).Nodup) :
    ((p.add i).known.map (·.id)).Nodup :=
  (ids_add hid).nodup_iff.mpr
    (List.nodup_cons.mpr ⟨fun hmem => Nat.lt_irrefl _ (hbelow _ hmem), hids⟩)

theorem below_ids_add {id : InstanceId} (hmem : id ∈ (p.add i).known.map (·.id)) :
    id < p.nextId + 1 := by
  rcases (mem_ids_add hid).mp hmem with rfl | hmem
  · exact Nat.lt_succ_self _
  · exact Nat.lt_succ_of_lt (hbelow id hmem)

end Numbers

/-- A new instance changes no more of the pool than one of its lists. -/
theorem add_same (p : Pool) (i : Instance) : (p.add i).updating = p.updating ∧
    (p.add i).removed = p.removed ∧ (p.add i).stepBound = p.stepBound ∧
    p.instances ⊆ (p.add i).instances ∧
    (p.updating = true → (p.add i).instances = p.instances) := by
  unfold add
  split
  · exact ⟨rfl, rfl, rfl, fun _ h => h, fun _ => rfl⟩
  · next hup =>
    refine ⟨rfl, rfl, rfl, List.subset_append_left _ _, fun h => absurd h hup⟩

/-- The pool gives the next number. -/
theorem Tidy.started (hp : p.Tidy) {i : Instance} (hid : i.id = p.nextId) :
    Tidy { p.add i with nextId := p.nextId + 1 } := by
  obtain ⟨hupdating, hremoved, _, _, hinstances⟩ := p.add_same i
  exact
    { ids := nodup_ids_add hid hp.below hp.ids
      below := fun _ hmem => below_ids_add hid hp.below hmem
      updating := fun hup => (hinstances (hupdating ▸ hup)).trans (hp.updating (hupdating ▸ hup))
      removed := fun hup => hremoved.trans (hp.removed (hupdating ▸ hup)) }

theorem mem_modifyFirst {id : InstanceId} {f : Instance → Instance} {i : Instance}
    {instances : List Instance} (h : i ∈ modifyFirst id f instances) :
    i ∈ instances ∨ ∃ j ∈ instances, i = f j := by
  induction instances with
  | nil => exact Or.inl h
  | cons j rest ih =>
    rw [modifyFirst] at h
    split at h
    · rcases List.mem_cons.mp h with rfl | h
      · exact Or.inr ⟨j, List.mem_cons_self, rfl⟩
      · exact Or.inl (List.mem_cons_of_mem _ h)
    · rcases List.mem_cons.mp h with rfl | h
      · exact Or.inl List.mem_cons_self
      · rcases ih h with h | ⟨j, hj, hi⟩
        · exact Or.inl (List.mem_cons_of_mem _ h)
        · exact Or.inr ⟨j, List.mem_cons_of_mem _ hj, hi⟩

theorem mem_modifyFirst_of_mem (id : InstanceId) (f : Instance → Instance) {i : Instance}
    {instances : List Instance} (h : i ∈ instances) :
    i ∈ modifyFirst id f instances ∨ f i ∈ modifyFirst id f instances := by
  induction instances with
  | nil => exact absurd h List.not_mem_nil
  | cons j rest ih =>
    rw [modifyFirst]
    split
    · rcases List.mem_cons.mp h with rfl | h
      · exact Or.inr List.mem_cons_self
      · exact Or.inl (List.mem_cons_of_mem _ h)
    · rcases List.mem_cons.mp h with rfl | h
      · exact Or.inl List.mem_cons_self
      · rcases ih h with h | h
        · exact Or.inl (List.mem_cons_of_mem _ h)
        · exact Or.inr (List.mem_cons_of_mem _ h)

/-- A modification reaches at most one instance that the pool knows. -/
theorem mem_known_modify {id : InstanceId} {f : Instance → Instance}
    {i : Instance} (h : i ∈ (p.modify id f).known) : i ∈ p.known ∨ ∃ j ∈ p.known, i = f j := by
  rcases List.mem_append.mp h with h | h
  · rcases mem_modifyFirst h with h | ⟨j, hj, hi⟩
    · exact Or.inl (List.mem_append_left _ h)
    · exact Or.inr ⟨j, List.mem_append_left _ hj, hi⟩
  · unfold modify at h
    dsimp only at h
    split at h
    · exact Or.inl (List.mem_append_right _ h)
    · rcases mem_modifyFirst h with h | ⟨j, hj, hi⟩
      · exact Or.inl (List.mem_append_right _ h)
      · exact Or.inr ⟨j, List.mem_append_right _ hj, hi⟩

theorem find?_modifyFirst (id : InstanceId) {f : Instance → Instance} (hf : ∀ i, (f i).id = i.id)
    (instances : List Instance) : (modifyFirst id f instances).find? (fun i => i.id = id) =
      (instances.find? fun i => i.id = id).map f := by
  induction instances with
  | nil => rfl
  | cons i rest ih =>
    by_cases hid : i.id = id
    · simp [modifyFirst, hid, hf]
    · simp [modifyFirst, hid, ih]

/-- A modification that keeps the number reaches the instance that is found. -/
theorem find?_modify (p : Pool) (id : InstanceId) {f : Instance → Instance}
    (hf : ∀ i, (f i).id = i.id) : (p.modify id f).find? id = (p.find? id).map f := by
  unfold find? known modify
  rw [List.find?_append, List.find?_append, find?_modifyFirst id hf]
  cases hfirst : p.instances.find? fun i => i.id = id with
  | some i => rfl
  | none =>
    have hnone : p.instances.any (·.id = id) = false :=
      List.any_eq_false.mpr (List.find?_eq_none.mp hfirst)
    rw [hnone, if_neg Bool.false_ne_true]
    exact find?_modifyFirst id hf p.pending

theorem keys_modify (p : Pool) (id : InstanceId) {f : Instance → Instance}
    (hf : ∀ i, (f i).key = i.key) : keysOf (p.modify id f).known = keysOf p.known := by
  have hpending : keysOf (p.modify id f).pending = keysOf p.pending := by
    unfold modify
    dsimp only
    split
    · rfl
    · exact keysOf_modifyFirst id hf p.pending
  unfold known
  rw [keysOf_append, keysOf_append, hpending]
  exact congrArg (· ++ _) (keysOf_modifyFirst id hf p.instances)

theorem ids_modify (p : Pool) (id : InstanceId) {f : Instance → Instance}
    (hf : ∀ i, (f i).key = i.key) : (p.modify id f).known.map (·.id) = p.known.map (·.id) := by
  have hkeys := congrArg (List.map Prod.fst) (p.keys_modify id hf)
  rwa [keysOf, keysOf, List.map_map, List.map_map] at hkeys

theorem Tidy.modify (hp : p.Tidy) (id : InstanceId) {f : Instance → Instance}
    (hf : ∀ i, (f i).key = i.key) : (p.modify id f).Tidy where
  ids := by
    rw [p.ids_modify id hf]
    exact hp.ids
  below := by
    rw [p.ids_modify id hf]
    exact hp.below
  updating := by
    intro hup
    show modifyFirst id f p.instances = []
    rw [hp.updating hup]
    rfl
  removed := hp.removed

end Pool

theorem World.Sane.tidy {w : World} (hw : w.Sane) : w.pool.Tidy :=
  ⟨hw.ids, hw.below, hw.updating, hw.removed⟩

/-! ## What calls change -/

/-- What a call may change, and what an instance at work may note. -/
structure Changes (busy : List InstanceId) (w : World) (new : List PoolEvent) (w' : World) :
    Prop where
  next : w.pool.nextId ≤ w'.pool.nextId
  graphs : w.KeepsGraphs w'
  bound : w'.pool.stepBound = w.pool.stepBound
  known : ∀ id ∈ w'.knownIds, id ∈ w.knownIds ∨ w.pool.nextId ≤ id
  trail : ∀ id, id ∉ busy → w'.trail id = w.trail id
  history : w'.history = new ++ w.history
  started : ∀ id entity cell, .started id entity cell ∈ new →
    w.pool.nextId ≤ id ∧ id ∈ w'.knownIds
  removed : ∀ entity ∈ w'.pool.removed, entity ∈ w.pool.removed ∨ .cancelled entity ∈ new
  fared : ∀ i ∈ w.pool.instances, Fared i w new w'

namespace Changes

variable {busy : List InstanceId} {new : List PoolEvent} {w w' : World} {id : InstanceId}

/-- The starts of instances that the pool does not know are old. -/
theorem started_before (h : Changes busy w new w') (hid : id ∉ w'.knownIds ∨ id < w.pool.nextId)
    (entity : EntityId) (cell : GraphRef) (hmem : .started id entity cell ∈ w'.history) :
    .started id entity cell ∈ w.history := by
  rw [h.history] at hmem
  refine (List.mem_append.mp hmem).resolve_left fun hmem => ?_
  obtain ⟨hge, hknown⟩ := h.started id entity cell hmem
  rcases hid with hid | hid
  · exact hid hknown
  · exact Nat.not_le_of_lt hid hge

/-- The instances at work are not among those that the pool knows, or may come to know. -/
theorem not_busy (hw : w.Held busy) (hid : id ∈ w.knownIds ∨ w.pool.nextId ≤ id) : id ∉ busy := by
  intro hbusy
  obtain ⟨hlt, hout⟩ := hw.away id hbusy
  rcases hid with hid | hid
  · exact hout hid
  · exact Nat.not_le_of_lt hlt hid

theorem sane (h : Changes busy w new w') (hw : w.Held busy) (htidy : w'.pool.Tidy)
    (hfit : ∀ i ∈ w'.pool.known, i ∉ w.pool.known → w'.Fit i) : w'.Sane where
  ids := htidy.ids
  below := htidy.below
  unused := by
    intro id hge
    have hge' := Nat.le_trans h.next hge
    have hout : id ∉ w'.knownIds := fun hmem => Nat.not_le_of_lt (htidy.below id hmem) hge
    obtain ⟨htrail, hunused⟩ := hw.unused id hge'
    refine ⟨(h.trail id (not_busy hw (Or.inr hge'))).trans htrail, fun entity cell hmem => ?_⟩
    exact hunused entity cell (h.started_before (Or.inl hout) entity cell hmem)
  fit := by
    intro i hi
    by_cases hold : i ∈ w.pool.known
    · have hid := World.mem_knownIds hold
      refine (hw.fit i hold).carry h.graphs (h.trail _ (not_busy hw (Or.inl hid))) ?_
      exact h.started_before (Or.inr (hw.below _ hid))
    · exact hfit i hi hold
  updating := htidy.updating
  removed := htidy.removed

/-- It is enough that the pool is tidy again, and that what is new in it agrees with its trail. -/
theorem onward (h : Changes busy w new w') (hw : w.Held busy) (htidy : w'.pool.Tidy)
    (hfit : ∀ i ∈ w'.pool.known, i ∉ w.pool.known → w'.Fit i) : Onward busy w new w' := by
  have hsane := h.sane hw htidy hfit
  have hold : ∀ id < w.pool.nextId, id ∉ w.knownIds → id ∉ w'.knownIds := by
    intro id hlt hout hmem
    rcases h.known id hmem with hid | hid
    · exact hout hid
    · exact Nat.not_le_of_lt hlt hid
  exact
    { held := by
        refine ⟨hsane, fun id hid => ?_⟩
        obtain ⟨hlt, hout⟩ := hw.away id hid
        exact ⟨Nat.lt_of_lt_of_le hlt h.next, hold id hlt hout⟩
      next := h.next
      graphs := h.graphs
      bound := h.bound
      others := fun id hlt hout hbusy => ⟨hold id hlt hout, h.trail id hbusy⟩
      right := by
        intro id hid
        -- Instances that are known now agree with their trails; the others did nothing.
        by_cases hmem : id ∈ w'.knownIds
        · exact hsane.right_known hmem
        · have hright : w.Right id := hid.elim hw.right_known hw.right_unused
          exact hright.carry h.graphs (h.trail id (not_busy hw hid)) (h.started_before (Or.inl hmem))
      history := h.history
      started := fun id entity cell hmem => (h.started id entity cell hmem).1
      removed := h.removed
      fared := h.fared }

end Changes

/-! ## Calls -/

namespace Graph

/-- Defaults have no part in circles. -/
theorem hasCycle_skeleton (g : Graph) : g.skeleton.hasCycle = g.hasCycle := by
  rw [Bool.eq_iff_iff, hasCycle_iff, hasCycle_iff]
  exact Iff.rfl

end Graph

/-- A new instance has no trail yet. -/
theorem World.fit_ofGraph {w : World} {id : InstanceId} {entity : EntityId} {cell : GraphRef}
    {g : Graph} {vars : Params} (hcell : cell < w.library.cells.length)
    (hgraph : w.library.read cell = g) (htrail : w.trail id = [])
    (hstarted : ∀ entity' cell', .started id entity' cell' ∈ w.history → cell' = cell) :
    w.Fit (.ofGraph id entity cell g vars) where
  cell := hcell
  started := hstarted
  way := by
    show _ ∧ OnWay (w.library.read cell).skeleton _ (w.trail id) ∨
      Refused (w.library.read cell).skeleton _ (w.trail id)
    rw [htrail, hgraph]
    unfold Instance.ofGraph
    cases hc : g.hasCycle with
    | true => exact Or.inr ⟨g.hasCycle_skeleton.trans hc, rfl, rfl⟩
    | false => exact Or.inl ⟨rfl, .start (g.hasCycle_skeleton.trans hc) rfl rfl⟩

namespace Apart

variable {w w' : World}

/-- A change that leaves the modules alone. -/
theorem of_same (h : w.SameModules w') : Apart [] w w' := by
  intro hw
  have hids : w'.knownIds = w.knownIds := by
    unfold World.knownIds
    rw [h.pool]
  have hchanges : Changes [] w [] w' :=
    { next := Nat.le_of_eq (congrArg Pool.nextId h.pool.symm)
      graphs := h.graphs
      bound := congrArg Pool.stepBound h.pool
      known := fun id hid => Or.inl (hids ▸ hid)
      trail := fun id _ => h.trail id
      history := h.history
      started := nofun
      removed := fun entity hmem => Or.inl (congrArg Pool.removed h.pool ▸ hmem)
      fared := by
        intro i hi
        exact .kept (h.pool ▸ hi) (.refl i) ((h.trail i.id).symm ▸ List.suffix_refl _) }
  exact ⟨_, hchanges.onward hw (h.pool ▸ hw.tidy) fun i hi hold => absurd (h.pool ▸ hi) hold⟩

/-- A change by which the pool only loses instances. -/
theorem of_dropped {p : Pool} {e : PoolEvent} (hknown : p.known.Sublist w.pool.known)
    (hnext : p.nextId = w.pool.nextId) (hbound : p.stepBound = w.pool.stepBound)
    (hupdating : p.updating = w.pool.updating) (hinstances : p.instances ⊆ w.pool.instances)
    (hidle : w.pool.updating = false → p.removed ⊆ w.pool.removed)
    (hremoved : ∀ entity ∈ p.removed, entity ∈ w.pool.removed ∨ .cancelled entity = e)
    (hstarted : ∀ id entity cell, e ≠ .started id entity cell)
    (hfared : ∀ i ∈ w.pool.instances, i ∈ p.instances ∨ e = .cancelled i.entity ∨ e = .cleared) :
    Apart [] w ({ w with pool := p }.record (.ofPool e)) := by
  intro hw
  have hchanges : Changes [] w [e] ({ w with pool := p }.record (.ofPool e)) :=
    { next := Nat.le_of_eq hnext.symm
      graphs := .refl w
      bound := hbound
      known := fun id hid => Or.inl ((hknown.map _).subset hid)
      trail := fun _ _ => rfl
      history := rfl
      started := fun id entity cell hmem =>
        absurd (List.mem_singleton.mp hmem).symm (hstarted id entity cell)
      removed := fun entity hmem => (hremoved entity hmem).imp id List.mem_singleton.mpr
      fared := by
        intro i hi
        rcases hfared i hi with hmem | rfl | rfl
        · exact .kept hmem (.refl i) (List.suffix_refl _)
        · exact .cancelled List.mem_cons_self
        · exact .cleared List.mem_cons_self }
  have htidy := hw.tidy.dropped hknown hnext hupdating hinstances hidle
  exact ⟨_, hchanges.onward hw htidy fun i hi hold => absurd (hknown.subset hi) hold⟩

theorem of_cancel (w : World) (entity : EntityId) : Apart [] w (w.cancelModules entity) := by
  refine of_dropped ?_ rfl rfl rfl ?_ ?_ ?_ nofun ?_
  · exact List.Sublist.append List.filter_sublist List.filter_sublist
  · exact fun i hi => (List.mem_filter.mp hi).1
  · intro hup e he
    simpa [Pool.cancel, hup] using he
  · intro e he
    unfold Pool.cancel at he
    dsimp only at he
    split at he
    · rcases List.mem_cons.mp he with rfl | he
      · exact Or.inr rfl
      · exact Or.inl he
    · exact Or.inl he
  · intro i hi
    by_cases hentity : i.entity = entity
    · exact Or.inr (Or.inl (by rw [hentity]))
    · exact Or.inl (List.mem_filter.mpr ⟨hi, decide_eq_true hentity⟩)

theorem of_clear (w : World) : Apart [] w w.clearModules :=
  of_dropped (List.nil_sublist _) rfl rfl rfl (List.nil_subset _) (fun _ _ he => he)
    (fun _ he => Or.inl he) nofun fun _ _ => Or.inr (Or.inr rfl)

theorem of_start (w : World) (entity : EntityId) (cell : GraphRef) (overrides : Params) :
    Apart [] w (w.startGraph entity cell overrides).2 := by
  rcases w.startGraph_cases entity cell overrides with ⟨_, _, hsame⟩ | ⟨vars, hcell, _, hstart⟩
  · rw [hsame]
    exact refl w
  rw [hstart]
  intro hw
  generalize hi : Instance.ofGraph w.pool.nextId entity cell (w.library.read cell) vars = i
  have hid : i.id = w.pool.nextId := by rw [← hi]; rfl
  obtain ⟨_, hremoved, hbound, hsub, _⟩ := w.pool.add_same i
  generalize hw' : World.record (World.record { w with
    pool := { w.pool.add i with nextId := w.pool.nextId + 1 } } (.seeded w.pool.nextId vars))
    (.ofPool (.started w.pool.nextId entity cell)) = w'
  have hchanges : Changes [] w [.started w.pool.nextId entity cell] w' := by
    rw [← hw']
    exact
      { next := Nat.le_succ _
        graphs := .refl w
        bound := hbound
        known := by
          intro id hmem
          rcases (Pool.mem_ids_add hid).mp hmem with rfl | hmem
          · exact Or.inr (Nat.le_refl _)
          · exact Or.inl hmem
        trail := fun _ _ => rfl
        history := rfl
        started := by
          intro id entity' cell' hmem
          injection List.mem_singleton.mp hmem with heq
          exact ⟨Nat.le_of_eq heq.symm, (Pool.mem_ids_add hid).mpr (Or.inl heq)⟩
        removed := fun entity' hmem => Or.inl (hremoved ▸ hmem)
        fared := fun j hj => .kept (hsub hj) (.refl j) (List.suffix_refl _) }
  have hfit : w'.Fit i := by
    obtain ⟨htrail, hunused⟩ := hw.unused _ (Nat.le_refl _)
    rw [← hi, ← hw']
    refine World.fit_ofGraph hcell rfl htrail fun entity' cell' hmem => ?_
    rcases List.mem_cons.mp hmem with heq | hmem
    · injection heq
    · exact absurd hmem (hunused entity' cell')
  refine ⟨_, hchanges.onward hw (hw' ▸ hw.tidy.started hid) fun j hj hold => ?_⟩
  have hj : j ∈ (w.pool.add i).known := by rwa [← hw'] at hj
  rcases Pool.mem_known_add.mp hj with rfl | hj
  · exact hfit
  · exact absurd hj hold

theorem of_assign (w : World) (id : InstanceId) (name : String) (v : Value) :
    Apart [] w (w.setModuleVariable id name v).2 := by
  rcases w.setModuleVariable_cases id name v with hsame | ⟨owner, _, hassign⟩
  · rw [hsame]
    exact refl w
  rw [hassign]
  intro hw
  generalize hf : (fun i : Instance => { i with vars := Dict.insert i.vars name v }) = f
  have hsame : ∀ i : Instance, i.Same (f i) := by
    rw [← hf]
    exact fun i => ⟨rfl, rfl, rfl, rfl⟩
  have hfit : ∀ {u : World} {i : Instance}, u.Fit i → u.Fit (f i) := by
    rw [← hf]
    exact fun h => h.assign _
  have hkey : ∀ i : Instance, (f i).key = i.key := fun i => (hsame i).key
  have hgraphs : w.KeepsGraphs (World.publishWrite { w with pool := w.pool.modify id f } id
      owner.entity owner.graph name v) :=
    World.keepsGraphs_publishWrite { w with pool := w.pool.modify id f } _ _ _ _ _
  have hchanges : Changes [] w [] (World.publishWrite { w with pool := w.pool.modify id f } id
      owner.entity owner.graph name v) :=
    { next := Nat.le_refl _
      graphs := hgraphs
      bound := rfl
      known := by
        intro id' hid
        unfold World.knownIds World.publishWrite World.record at hid
        rw [Pool.ids_modify _ _ hkey] at hid
        exact Or.inl hid
      trail := fun _ _ => rfl
      history := rfl
      started := nofun
      removed := fun _ hmem => Or.inl hmem
      fared := by
        intro i hi
        rcases Pool.mem_modifyFirst_of_mem id f hi with hmem | hmem
        · exact .kept hmem (.refl i) (List.suffix_refl _)
        · exact .kept hmem (hsame i) (List.suffix_refl _) }
  refine ⟨_, hchanges.onward hw (hw.tidy.modify id hkey) fun i hi hold => ?_⟩
  obtain ⟨j, hj, rfl⟩ := (Pool.mem_known_modify hi).resolve_left hold
  exact hfit ((hw.fit j hj).carry hgraphs rfl fun _ _ h => h)

theorem of_call (h : ModuleCall w w') : Apart [] w w' := by
  cases h with
  | start entity cell overrides => exact of_start w entity cell overrides
  | cancel entity => exact of_cancel w entity
  | assign id name v => exact of_assign w id name v
  | other h => exact of_same h

/-- What an instance notes about itself while it is at work. -/
theorem of_note (w : World) (id : InstanceId) (e : NodeEvent) :
    Apart [id] w (w.record (.atNode id e)) := by
  intro hw
  have htrail : ∀ id' ≠ id, (w.record (.atNode id e)).trail id' = w.trail id' :=
    fun id' hne => w.trail_atNode_of_ne e hne.symm
  have hchanges : Changes [id] w [] (w.record (.atNode id e)) :=
    { next := Nat.le_refl _
      graphs := .refl w
      bound := rfl
      known := fun _ hid => Or.inl hid
      trail := fun id' hbusy => htrail id' fun heq => hbusy (List.mem_singleton.mpr heq)
      history := rfl
      started := nofun
      removed := fun _ hmem => Or.inl hmem
      fared := by
        intro i hi
        have hbusy : i.id ∉ [id] :=
          Changes.not_busy hw (Or.inl (World.mem_knownIds (List.mem_append_left _ hi)))
        have hne : i.id ≠ id := fun heq => hbusy (List.mem_singleton.mpr heq)
        exact .kept hi (.refl i) ((htrail i.id hne).symm ▸ List.suffix_refl _) }
  exact ⟨_, hchanges.onward hw hw.tidy fun i hi hold => absurd hi hold⟩

end Apart

end SceneLogic
