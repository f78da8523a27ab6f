import SceneLogic.Proofs.Module.Outside
import SceneLogic.Proofs.Module.Sorting

/-!
# Instances that wait for an update

Between updates, and beside one that is under way, instances come into the pool and stay there
until their entity is cancelled or all modules are dropped. `Carries` says so of the instances that
were known before and of those that were started meanwhile. It is about calls, and about dropping
all modules; an update is not among its steps.
-/

namespace SceneLogic

/-- What has become of an instance: it is still known, or it was dropped for one of two reasons. -/
inductive Lasts (id : InstanceId) (entity : EntityId) (cell : GraphRef) (since : List PoolEvent)
    (p : Pool) : Prop
  | known {i : Instance} : i ∈ p.known → i.id = id → i.entity = entity → i.graph = cell →
      Lasts id entity cell since p
  | cancelled : .cancelled entity ∈ since → Lasts id entity cell since p
  | cleared : .cleared ∈ since → Lasts id entity cell since p

/-- No update has opened or closed; instances that were known, or were started since, last; and
whose modules were cancelled stays known. -/
structure Carries (w : World) (new : List PoolEvent) (w' : World) : Prop where
  history : w'.history = new ++ w.history
  opens : .opened ∉ new
  closes : ¬ Closes new
  updating : w'.pool.updating = w.pool.updating
  idle : w.pool.updating = false → w.pool.pending = [] → w'.pool.pending = []
  taken : w.pool.updating = true → w.pool.instances = [] → w'.pool.instances = []
  removed : w.pool.removed ⊆ w'.pool.removed
  cancelled : ∀ entity ∈ w'.pool.removed, entity ∈ w.pool.removed ∨ .cancelled entity ∈ new
  known : ∀ i ∈ w.pool.known, Lasts i.id i.entity i.graph new w'.pool
  started : ∀ later id entity cell earlier, new = later ++ .started id entity cell :: earlier →
    Lasts id entity cell later w'.pool

/-- A modification of an instance loses none. -/
theorem Pool.mem_known_modify_of_mem {p : Pool} (id : InstanceId) (f : Instance → Instance)
    {i : Instance} (h : i ∈ p.known) :
    i ∈ (p.modify id f).known ∨ f i ∈ (p.modify id f).known := by
  rcases List.mem_append.mp h with h | h
  · rcases mem_modifyFirst_of_mem id f h with h | h
    · exact Or.inl (List.mem_append_left _ h)
    · exact Or.inr (List.mem_append_left _ h)
  · unfold modify known
    split
    · exact Or.inl (List.mem_append_right _ h)
    · rcases mem_modifyFirst_of_mem id f h with h | h
      · exact Or.inl (List.mem_append_right _ h)
      · exact Or.inr (List.mem_append_right _ h)

namespace Carries

variable {u v w : World} {new new' : List PoolEvent} {id : InstanceId} {entity : EntityId}
  {cell : GraphRef} {since : List PoolEvent}

/-- What lasts so far goes on to last. -/
theorem lasts (h : Lasts id entity cell since v.pool) (h' : Carries v new w) :
    Lasts id entity cell (new ++ since) w.pool := by
  cases h with
  | known hi hid hentity hgraph =>
    cases h'.known _ hi with
    | known hj hid' hentity' hgraph' =>
      exact .known hj (hid'.trans hid) (hentity'.trans hentity) (hgraph'.trans hgraph)
    | cancelled hmem => exact .cancelled (List.mem_append_left _ (hentity ▸ hmem))
    | cleared hmem => exact .cleared (List.mem_append_left _ hmem)
  | cancelled hmem => exact .cancelled (List.mem_append_right _ hmem)
  | cleared hmem => exact .cleared (List.mem_append_right _ hmem)

/-- A start in a history with more events is a start in one of its two parts. -/
theorem start_cases {h h' later earlier : List PoolEvent}
    (heq : h' ++ h = later ++ .started id entity cell :: earlier) :
    (∃ since, later = h' ++ since ∧ h = since ++ .started id entity cell :: earlier) ∨
      ∃ before, h' = later ++ .started id entity cell :: before ∧ earlier = before ++ h := by
  rcases List.append_eq_append_iff.mp heq with ⟨since, hlater, hrest⟩ | ⟨c, hnew, hrest⟩
  · exact Or.inl ⟨since, hlater, hrest⟩
  · cases c with
    | nil => exact Or.inl ⟨[], by rw [List.append_nil, hnew, List.append_nil], hrest.symm⟩
    | cons e before =>
      obtain ⟨rfl, rfl⟩ := List.cons.inj hrest
      exact Or.inr ⟨before, hnew, rfl⟩

/-- Nothing was started in a history without events. -/
theorem not_started_nil {later earlier : List PoolEvent} :
    [] ≠ later ++ .started id entity cell :: earlier := by
  simp

theorem of_same (hpool : w.pool = v.pool) (hhistory : w.history = v.history) : Carries v [] w where
  history := hhistory
  opens := nofun
  closes := fun ⟨_, hmem⟩ => List.not_mem_nil hmem
  updating := by rw [hpool]
  idle := fun _ hpending => by rw [hpool, hpending]
  taken := fun _ hinstances => by rw [hpool, hinstances]
  removed := by rw [hpool]; exact List.Subset.refl _
  cancelled := fun entity hmem => Or.inl (hpool ▸ hmem)
  known := fun i hi => .known (hpool ▸ hi) rfl rfl rfl
  started := fun _ _ _ _ _ heq => absurd heq not_started_nil

theorem trans (h : Carries u new v) (h' : Carries v new' w) : Carries u (new' ++ new) w where
  history := by rw [h'.history, h.history, List.append_assoc]
  opens := fun hmem => (List.mem_append.mp hmem).elim h'.opens h.opens
  closes := by
    rintro ⟨reports, hmem⟩
    rcases List.mem_append.mp hmem with hmem | hmem
    · exact h'.closes ⟨reports, hmem⟩
    · exact h.closes ⟨reports, hmem⟩
  updating := h'.updating.trans h.updating
  idle := fun hup hpending => h'.idle (h.updating.trans hup) (h.idle hup hpending)
  taken := fun hup hinstances => h'.taken (h.updating.trans hup) (h.taken hup hinstances)
  removed := List.Subset.trans h.removed h'.removed
  cancelled := by
    intro entity hmem
    rcases h'.cancelled entity hmem with hmem | hmem
    · exact (h.cancelled entity hmem).imp_right (List.mem_append_right _)
    · exact Or.inr (List.mem_append_left _ hmem)
  known := fun i hi => lasts (h.known i hi) h'
  started := by
    intro later id entity cell earlier heq
    rcases start_cases heq with ⟨since, rfl, hnew⟩ | ⟨before, hnew, _⟩
    · exact lasts (h.started since id entity cell earlier hnew) h'
    · exact h'.started later id entity cell before hnew

/-- One event that starts nothing. -/
theorem of_event {p : Pool} {e : PoolEvent} (hopen : e ≠ .opened)
    (hclose : ∀ reports, e ≠ .closed reports)
    (hstart : ∀ id entity cell, e ≠ .started id entity cell)
    (hupdating : p.updating = v.pool.updating) (hinstances : p.instances ⊆ v.pool.instances)
    (hpending : p.pending ⊆ v.pool.pending) (hremoved : v.pool.removed ⊆ p.removed)
    (hcancelled : ∀ entity ∈ p.removed, entity ∈ v.pool.removed ∨ .cancelled entity = e)
    (hknown : ∀ i ∈ v.pool.known, i ∈ p.known ∨ .cancelled i.entity = e ∨ .cleared = e) :
    Carries v [e] ({ v with pool := p }.record (.ofPool e)) where
  history := rfl
  opens := fun hmem => hopen (List.mem_singleton.mp hmem).symm
  closes := fun ⟨reports, hmem⟩ => hclose reports (List.mem_singleton.mp hmem).symm
  updating := hupdating
  idle := fun _ hnil => List.subset_nil.mp (hnil ▸ hpending)
  taken := fun _ hnil => List.subset_nil.mp (hnil ▸ hinstances)
  removed := hremoved
  cancelled := fun entity hmem => (hcancelled entity hmem).imp_right List.mem_singleton.mpr
  known := by
    intro i hi
    rcases hknown i hi with hi | heq | heq
    · exact .known hi rfl rfl rfl
    · exact .cancelled (List.mem_singleton.mpr heq)
    · exact .cleared (List.mem_singleton.mpr heq)
  started := by
    intro later id entity cell earlier heq
    have hmem : .started id entity cell ∈ [e] := by rw [heq]; simp
    exact absurd (List.mem_singleton.mp hmem).symm (hstart id entity cell)

theorem of_start (w : World) (entity : EntityId) (cell : GraphRef) (overrides : Params) :
    ∃ new, Carries w new (w.startGraph entity cell overrides).2 := by
  rcases w.startGraph_cases entity cell overrides with ⟨_, _, hsame⟩ | ⟨vars, _, _, hstart⟩
  · rw [hsame]
    exact ⟨[], of_same rfl rfl⟩
  · rw [hstart]
    generalize hi : Instance.ofGraph w.pool.nextId entity cell (w.library.read cell) vars = i
    have hkey : i.id = w.pool.nextId ∧ i.entity = entity ∧ i.graph = cell := by
      rw [← hi]
      exact ⟨rfl, rfl, rfl⟩
    obtain ⟨hupdating, hremoved, _, _, hinstances⟩ := w.pool.add_same i
    refine ⟨[.started w.pool.nextId entity cell], ?_⟩
    exact
      { history := rfl
        opens := fun hmem => nomatch List.mem_singleton.mp hmem
        closes := fun ⟨_, hmem⟩ => nomatch List.mem_singleton.mp hmem
        updating := hupdating
        idle := by
          intro hup hpending
          show (w.pool.add i).pending = []
          rw [Pool.add, hup]
          exact hpending
        taken := fun hup hnil => (hinstances hup).trans hnil
        removed := hremoved ▸ List.Subset.refl _
        cancelled := fun _ hmem => Or.inl (hremoved ▸ hmem)
        known := fun j hj =>
          .known (Pool.mem_known_add.mpr (Or.inr hj)) rfl rfl rfl
        started := by
          intro later id entity' cell' earlier heq
          have hmem : PoolEvent.started id entity' cell' ∈
              [.started w.pool.nextId entity cell] := by rw [heq]; simp
          injection List.mem_singleton.mp hmem with hid hentity hcell
          rw [hid, hentity, hcell]
          exact .known (Pool.mem_known_add.mpr (Or.inl rfl)) hkey.1 hkey.2.1 hkey.2.2 }

theorem of_cancel (w : World) (entity : EntityId) :
    Carries w [.cancelled entity] (w.cancelModules entity) := by
  have hremoved : ∀ e ∈ (w.pool.cancel entity).removed,
      e ∈ w.pool.removed ∨ PoolEvent.cancelled e = .cancelled entity := by
    intro e hmem
    unfold Pool.cancel at hmem
    dsimp only at hmem
    split at hmem
    · exact (List.mem_cons.mp hmem).symm.imp_right (congrArg PoolEvent.cancelled)
    · exact Or.inl hmem
  refine of_event nofun nofun nofun rfl (List.filter_subset_self _)
    (List.filter_subset_self _) ?_ hremoved ?_
  · unfold Pool.cancel
    dsimp only
    split
    · exact List.subset_cons_self _ _
    · exact List.Subset.refl _
  · intro i hi
    by_cases hentity : i.entity = entity
    · exact Or.inr (Or.inl (congrArg PoolEvent.cancelled hentity))
    · refine Or.inl ?_
      have hout : ∀ l, i ∈ l → i ∈ Pool.without entity l :=
        fun l hmem => List.mem_filter.mpr ⟨hmem, decide_eq_true hentity⟩
      rcases List.mem_append.mp hi with hi | hi
      · exact List.mem_append_left _ (hout _ hi)
      · exact List.mem_append_right _ (hout _ hi)

theorem of_clear (w : World) : Carries w [.cleared] w.clearModules :=
  of_event nofun nofun nofun rfl (List.nil_subset _) (List.nil_subset _) (List.Subset.refl _)
    (fun _ hmem => Or.inl hmem) fun _ _ => Or.inr (Or.inr rfl)

theorem of_assign (w : World) (id : InstanceId) (name : String) (v : Value) :
    Carries w [] (w.setModuleVariable id name v).2 := by
  rcases w.setModuleVariable_cases id name v with hsame | ⟨owner, _, hassign⟩
  · rw [hsame]
    exact of_same rfl rfl
  · rw [hassign]
    exact
      { history := rfl
        opens := nofun
        closes := fun ⟨_, hmem⟩ => List.not_mem_nil hmem
        updating := rfl
        idle := by
          intro _ hnil
          show (if _ then w.pool.pending else Pool.modifyFirst id _ w.pool.pending) = []
          rw [hnil, Pool.modifyFirst, ite_self]
        taken := by
          intro _ hnil
          show Pool.modifyFirst id _ w.pool.instances = []
          rw [hnil, Pool.modifyFirst]
        removed := List.Subset.refl _
        cancelled := fun _ hmem => Or.inl hmem
        known := by
          intro i hi
          rcases Pool.mem_known_modify_of_mem id _ hi with hmem | hmem
          · exact .known hmem rfl rfl rfl
          · exact .known hmem rfl rfl rfl
        started := fun _ _ _ _ _ heq => absurd heq not_started_nil }

theorem of_call (h : ModuleCall v w) : ∃ new, Carries v new w := by
  cases h with
  | start entity cell overrides => exact of_start v entity cell overrides
  | cancel entity => exact ⟨_, of_cancel v entity⟩
  | assign id name x => exact ⟨_, of_assign v id name x⟩
  | other h => exact ⟨_, of_same h.pool h.history⟩

theorem poolSteady : PoolSteady fun w w' => ∃ new, Carries w new w' where
  refl _ := ⟨_, of_same rfl rfl⟩
  trans := fun ⟨_, h⟩ ⟨_, h'⟩ => ⟨_, h.trans h'⟩
  same hpool hhistory := ⟨_, of_same hpool hhistory⟩
  removed := fun ⟨_, h⟩ => h.removed

end Carries

/-- Behaviours that reach the modules by calls and drop all of them, but run no update. -/
def Conduct.clearing : Conduct where
  step := Relation.ReflTransGen fun w w' => ModuleCall w w' ∨ w' = w.clearModules

theorem Conduct.clearing_keeps : Conduct.clearing.Keeps fun w w' => ∃ new, Carries w new w' where
  toSteady := Carries.poolSteady.toSteady
  step := by
    intro v w h
    induction h with
    | refl => exact Carries.poolSteady.refl _
    | tail _ hcall ih =>
      rcases hcall with hcall | rfl
      · exact Carries.poolSteady.trans ih (Carries.of_call hcall)
      · exact Carries.poolSteady.trans ih ⟨_, .of_clear _⟩
  rely := fun _ => trivial
  emitted := fun w e => Carries.of_call (.other (.emitted w e))
  part := nofun

end SceneLogic
