import SceneLogic.Proofs.Module.History
import SceneLogic.Proofs.Module.Visit

/-!
# The books of the pool

Whatever was started is still running, or was reported, or was dropped with its entity. Between
updates this can be read off the pool and its history. During an update the instances are spread:
those at work are in the hands of the update, what is started waits, and a list says whose modules
are cancelled.

* `Sorted.covers`, `Sorted.disjoint` — an update loses nothing, and reports nothing that it keeps
* `Settled` — the books between updates, and what starts and cancellations do to them
* `Underway` — the books of an update that has not ended yet
* `Settled.settle` — both put together when it ends
-/

namespace SceneLogic

/-- The number of an instance and its entity. -/
def Instance.key (i : Instance) : InstanceId × EntityId :=
  (i.id, i.entity)

/-- The number of the reported instance and its entity. -/
def ModuleReport.key (r : ModuleReport) : InstanceId × EntityId :=
  (r.instanceId, r.entity)

/-- The instances of a list, by number and entity. -/
def keysOf (instances : List Instance) : List (InstanceId × EntityId) :=
  instances.map Instance.key

@[simp] theorem keysOf_nil : keysOf [] = [] := rfl

@[simp] theorem keysOf_cons (i : Instance) (rest : List Instance) :
    keysOf (i :: rest) = i.key :: keysOf rest := rfl

@[simp] theorem keysOf_append (l l' : List Instance) : keysOf (l ++ l') = keysOf l ++ keysOf l' :=
  List.map_append

theorem Instance.Same.key {i i' : Instance} (h : i.Same i') : i'.key = i.key := by
  unfold Instance.key
  rw [h.id, h.entity]

theorem Instance.ToldBy.key {i : Instance} {result : ModuleReport} (h : i.ToldBy result) :
    result.key = i.key := by
  unfold ModuleReport.key Instance.key
  rw [h.id, h.entity]

theorem keysOf_modifyFirst (id : InstanceId) {f : Instance → Instance} (hf : ∀ i, (f i).key = i.key)
    (instances : List Instance) : keysOf (Pool.modifyFirst id f instances) = keysOf instances := by
  induction instances with
  | nil => rfl
  | cons i rest ih =>
    rw [Pool.modifyFirst]
    split
    · rw [keysOf_cons, keysOf_cons, hf]
    · rw [keysOf_cons, keysOf_cons, ih]

/-- An instance with a greater number goes last. -/
theorem keysOf_ascending_append {instances : List Instance} {i : Instance}
    (hids : (keysOf instances).Pairwise fun k k' => k.1 < k'.1)
    (hbelow : ∀ k ∈ keysOf instances, k.1 < i.id) :
    (keysOf (instances ++ [i])).Pairwise fun k k' => k.1 < k'.1 := by
  rw [keysOf_append]
  refine List.pairwise_append.mpr ⟨hids, List.pairwise_singleton _ _, ?_⟩
  intro k hk k' hk'
  rw [List.mem_singleton.mp hk']
  exact hbelow k hk

/-- Instances that are picked by their entity are picked by their keys. -/
theorem keysOf_filter (present : EntityId → Bool) (instances : List Instance) :
    keysOf (instances.filter fun i => present i.entity) =
      (keysOf instances).filter fun k => present k.2 := by
  unfold keysOf
  rw [List.filter_map]
  rfl

namespace Pool

variable {p : Pool}

theorem keys_without (entity : EntityId) (instances : List Instance) :
    keysOf (without entity instances) = (keysOf instances).filter fun k => k.2 ≠ entity :=
  keysOf_filter (fun e => e ≠ entity) instances

theorem keys_settle (p : Pool) (kept : List Instance) :
    keysOf (p.settle kept).instances =
      (keysOf kept ++ keysOf p.pending).filter fun k => !p.removed.contains k.2 := by
  rw [List.filter_append, ← keysOf_filter fun e => !p.removed.contains e,
    ← keysOf_filter fun e => !p.removed.contains e, ← keysOf_append]
  rfl

end Pool

/-! ## What an update sorts -/

namespace Sorted

variable {gone : EntityId → Prop} {instances kept : List Instance} {results : List ModuleReport}

theorem results_sublist (h : Sorted gone instances results kept) :
    (results.map ModuleReport.key).Sublist (keysOf instances) := by
  induction h with
  | nil => exact .refl _
  | gone _ _ ih => exact ih.cons _
  | reported htold _ ih =>
    rw [List.map_cons, keysOf_cons, htold.key]
    exact ih.cons_cons _
  | kept _ _ _ ih => exact ih.cons _

theorem kept_sublist (h : Sorted gone instances results kept) :
    (keysOf kept).Sublist (keysOf instances) := by
  induction h with
  | nil => exact .refl _
  | gone _ _ ih => exact ih.cons _
  | reported _ _ ih => exact ih.cons _
  | kept hsame _ _ ih =>
    rw [keysOf_cons, keysOf_cons, hsame.key]
    exact ih.cons_cons _

/-- Nothing is lost. -/
theorem covers (h : Sorted gone instances results kept) :
    ∀ k ∈ keysOf instances, gone k.2 ∨ k ∈ results.map ModuleReport.key ∨ k ∈ keysOf kept := by
  induction h with
  | nil => exact fun k hk => absurd hk List.not_mem_nil
  | gone hgone _ ih =>
    intro k hk
    rcases List.mem_cons.mp hk with rfl | hk
    · exact Or.inl hgone
    · exact ih k hk
  | @reported i _ result _ _ htold _ ih =>
    intro k hk
    rcases List.mem_cons.mp hk with rfl | hk
    · exact Or.inr (Or.inl (List.mem_map.mpr ⟨result, List.mem_cons_self, htold.key⟩))
    · rcases ih k hk with hg | hr | hk
      · exact Or.inl hg
      · exact Or.inr (Or.inl (List.mem_cons_of_mem _ hr))
      · exact Or.inr (Or.inr hk)
  | kept hsame _ _ ih =>
    intro k hk
    rcases List.mem_cons.mp hk with rfl | hk
    · refine Or.inr (Or.inr ?_)
      rw [keysOf_cons, hsame.key]
      exact List.mem_cons_self
    · rcases ih k hk with hg | hr | hk
      · exact Or.inl hg
      · exact Or.inr (Or.inl hr)
      · exact Or.inr (Or.inr (List.mem_cons_of_mem _ hk))

/-- What is reported is not kept. -/
theorem disjoint (h : Sorted gone instances results kept)
    (hids : (keysOf instances).Pairwise fun k k' => k.1 < k'.1) :
    ∀ k ∈ keysOf kept, ∀ r ∈ results, k.1 ≠ r.instanceId := by
  induction h with
  | nil => exact fun k hk => absurd hk List.not_mem_nil
  | gone _ _ ih => exact ih (List.pairwise_cons.mp hids).2
  | @reported i _ result _ _ htold hrest ih =>
    obtain ⟨hfirst, hids⟩ := List.pairwise_cons.mp hids
    intro k hk r hr
    rcases List.mem_cons.mp hr with rfl | hr
    · have hlt := hfirst k (hrest.kept_sublist.subset hk)
      rw [htold.id]
      exact (Nat.ne_of_lt hlt).symm
    · exact ih hids k hk r hr
  | @kept i i' _ _ _ hsame _ hrest ih =>
    obtain ⟨hfirst, hids⟩ := List.pairwise_cons.mp hids
    intro k hk r hr
    rcases List.mem_cons.mp hk with rfl | hk
    · have hmem : r.key ∈ keysOf _ :=
        hrest.results_sublist.subset (List.mem_map.mpr ⟨r, hr, rfl⟩)
      have hlt : i.id < r.instanceId := hfirst r.key hmem
      rw [hsame.key]
      exact Nat.ne_of_lt hlt
    · exact ih hids k hk r hr

/-- What had ended before its turn is reported as it ended. -/
theorem told (h : Sorted gone instances results kept) {i : Instance} (hi : i ∈ instances)
    {result : ModuleReport} (hresult : i.terminalResult? = some result) :
    gone i.entity ∨ result ∈ results := by
  induction h with
  | nil => exact absurd hi List.not_mem_nil
  | gone hgone _ ih =>
    rcases List.mem_cons.mp hi with rfl | hi
    · exact Or.inl hgone
    · exact ih hi
  | reported htold _ ih =>
    rcases List.mem_cons.mp hi with rfl | hi
    · rw [htold.terminal result hresult]
      exact Or.inr List.mem_cons_self
    · exact (ih hi).imp_right (List.mem_cons_of_mem _)
  | kept _ hrunning _ ih =>
    rcases List.mem_cons.mp hi with rfl | hi
    · rw [hrunning] at hresult
      cases hresult
    · exact ih hi

end Sorted

/-! ## Between updates -/

/-- The pool between updates, and what became of all that was started. -/
structure Settled (p : Pool) (h : List PoolEvent) : Prop where
  idle : p.updating = false
  pending : p.pending = []
  removed : p.removed = []
  closed : AllClosed h
  order : (startedIn h).Pairwise fun s t => t.1 < s.1
  fresh : ∀ s ∈ startedIn h, s.1 < p.nextId
  ids : (keysOf p.instances).Pairwise fun k k' => k.1 < k'.1
  running : ∀ k ∈ keysOf p.instances, k ∈ startedIn h ∧ ¬ Cancelled h k.1 k.2
  reported : ∀ r ∈ reportsIn h, r.key ∈ startedIn h
  apart : ∀ r ∈ reportsIn h, ∀ k ∈ keysOf p.instances, k.1 ≠ r.instanceId
  once : ((reportsIn h).map (·.instanceId)).Nodup
  ascending : ∀ reports, .closed reports ∈ h →
    reports.Pairwise fun r r' => r.instanceId < r'.instanceId
  accounted : ∀ s ∈ startedIn h, s ∈ keysOf p.instances ∨
    s ∈ (reportsIn h).map ModuleReport.key ∨ Cancelled h s.1 s.2

namespace Settled

variable {p p' : Pool} {h : List PoolEvent}

/-- A pool of nothing, of which nothing was told. -/
theorem empty (hinstances : p.instances = []) (hpending : p.pending = []) (hremoved : p.removed = [])
    (hidle : p.updating = false) : Settled p [] where
  idle := hidle
  pending := hpending
  removed := hremoved
  closed := by
    intro now before heq
    cases now with
    | nil => cases heq
    | cons e now => cases heq
  order := .nil
  fresh := nofun
  ids := by
    rw [hinstances]
    exact .nil
  running := by
    rw [hinstances]
    exact nofun
  reported := nofun
  apart := nofun
  once := List.nodup_nil
  ascending := nofun
  accounted := nofun

/-- Only the numbers and entities of the instances matter. -/
theorem congr (hs : Settled p h) (hinstances : keysOf p'.instances = keysOf p.instances)
    (hpending : p'.pending = p.pending) (hremoved : p'.removed = p.removed)
    (hidle : p'.updating = p.updating) (hnext : p'.nextId = p.nextId) : Settled p' h where
  idle := hidle.trans hs.idle
  pending := hpending.trans hs.pending
  removed := hremoved.trans hs.removed
  closed := hs.closed
  order := hs.order
  fresh := hnext ▸ hs.fresh
  ids := hinstances ▸ hs.ids
  running := hinstances ▸ hs.running
  reported := hs.reported
  apart := hinstances ▸ hs.apart
  once := hs.once
  ascending := hs.ascending
  accounted := hinstances ▸ hs.accounted

/-- What is started between updates joins the pool under the next number. -/
theorem start (hs : Settled p h) {i : Instance} (hid : i.id = p.nextId) (cell : GraphRef) :
    Settled { p.add i with nextId := p.nextId + 1 } (.started i.id i.entity cell :: h) := by
  have hadd : p.add i = { p with instances := p.instances ++ [i] } := by
    rw [Pool.add, hs.idle]
    rfl
  have hkeys : keysOf (p.instances ++ [i]) = keysOf p.instances ++ [i.key] := keysOf_append _ _
  have hbelow : ∀ k ∈ keysOf p.instances, k.1 < i.id :=
    fun k hk => hid ▸ hs.fresh k (hs.running k hk).1
  have hnew : ∀ r ∈ reportsIn h, r.instanceId < i.id :=
    fun r hr => hid ▸ hs.fresh _ (hs.reported r hr)
  have hnever : (i.id, i.entity) ∉ startedIn h :=
    fun hmem => Nat.lt_irrefl i.id (hid ▸ hs.fresh _ hmem)
  rw [hadd]
  exact
    { idle := hs.idle
      pending := hs.pending
      removed := hs.removed
      closed := hs.closed.cons nofun
      order := List.pairwise_cons.mpr ⟨fun s hmem => hid ▸ hs.fresh s hmem, hs.order⟩
      fresh := by
        intro s hmem
        rcases List.mem_cons.mp hmem with rfl | hmem
        · exact Nat.lt_succ_of_le (Nat.le_of_eq hid)
        · exact Nat.lt_succ_of_lt (hs.fresh s hmem)
      ids := keysOf_ascending_append hs.ids hbelow
      running := by
        rw [hkeys]
        intro k hk
        rcases List.mem_append.mp hk with hk | hk
        · refine ⟨List.mem_cons_of_mem _ (hs.running k hk).1, fun hc => ?_⟩
          refine (hs.running k hk).2 (hc.of_cons (fun cell' heq => ?_) nofun)
          injection heq with hik
          exact Nat.lt_irrefl _ (hik ▸ hbelow k hk)
        · rw [List.mem_singleton.mp hk]
          exact ⟨List.mem_cons_self, not_cancelled_started cell hs.closed hnever⟩
      reported := fun r hr => List.mem_cons_of_mem _ (hs.reported r hr)
      apart := by
        rw [hkeys]
        intro r hr k hk
        rcases List.mem_append.mp hk with hk | hk
        · exact hs.apart r hr k hk
        · rw [List.mem_singleton.mp hk]
          exact (Nat.ne_of_lt (hnew r hr)).symm
      once := hs.once
      ascending := fun reports hmem =>
        hs.ascending reports ((List.mem_cons.mp hmem).resolve_left nofun)
      accounted := by
        rw [hkeys]
        intro s hmem
        rcases List.mem_cons.mp hmem with rfl | hmem
        · exact Or.inl (List.mem_append_right _ List.mem_cons_self)
        · rcases hs.accounted s hmem with hs | hs | hs
          · exact Or.inl (List.mem_append_left _ hs)
          · exact Or.inr (Or.inl hs)
          · exact Or.inr (Or.inr (hs.cons _)) }

/-- Cancelling between updates drops the entity's instances from the pool. -/
theorem cancel (hs : Settled p h) (entity : EntityId) :
    Settled (p.cancel entity) (.cancelled entity :: h) := by
  have hkeys : keysOf (p.cancel entity).instances =
      (keysOf p.instances).filter fun k => k.2 ≠ entity := Pool.keys_without entity p.instances
  have hsub : ∀ k ∈ keysOf (p.cancel entity).instances, k ∈ keysOf p.instances ∧ k.2 ≠ entity := by
    rw [hkeys]
    intro k hk
    obtain ⟨hk, hne⟩ := List.mem_filter.mp hk
    exact ⟨hk, of_decide_eq_true hne⟩
  exact
    { idle := hs.idle
      pending := by simp [Pool.cancel, Pool.without, hs.pending]
      removed := by simp [Pool.cancel, hs.idle, hs.removed]
      closed := hs.closed.cons nofun
      order := hs.order
      fresh := hs.fresh
      ids := by
        rw [hkeys]
        exact hs.ids.sublist List.filter_sublist
      running := by
        intro k hk
        obtain ⟨hk, hne⟩ := hsub k hk
        refine ⟨(hs.running k hk).1, fun hc => (hs.running k hk).2 (hc.of_cons nofun ?_)⟩
        intro heq
        injection heq with heq
        exact hne heq.symm
      reported := hs.reported
      apart := fun r hr k hk => hs.apart r hr k (hsub k hk).1
      once := hs.once
      ascending := fun reports hmem =>
        hs.ascending reports ((List.mem_cons.mp hmem).resolve_left nofun)
      accounted := by
        intro s hmem
        by_cases hentity : s.2 = entity
        · refine Or.inr (Or.inr ?_)
          exact cancelled_of_later [_] hmem (hentity ▸ List.mem_cons_self)
        · rcases hs.accounted s hmem with hrun | hrep | hcan
          · refine Or.inl ?_
            rw [hkeys]
            exact List.mem_filter.mpr ⟨hrun, decide_eq_true hentity⟩
          · exact Or.inr (Or.inl hrep)
          · exact Or.inr (Or.inr (hcan.cons _)) }

end Settled

/-! ## During an update -/

/-- The pool during an update, and what became of the modules since it opened. The numbers from
`first` on are taken since then. -/
structure Underway (first : InstanceId) (p : Pool) (now : List PoolEvent) : Prop where
  updating : p.updating = true
  instances : p.instances = []
  started : ¬ Closes now
  next : first ≤ p.nextId
  removed : ∀ entity, entity ∈ p.removed ↔ .cancelled entity ∈ now
  order : (startedIn now).Pairwise fun s t => t.1 < s.1
  fresh : ∀ s ∈ startedIn now, first ≤ s.1 ∧ s.1 < p.nextId
  ids : (keysOf p.pending).Pairwise fun k k' => k.1 < k'.1
  pending : ∀ k ∈ keysOf p.pending, k ∈ startedIn now
  accounted : ∀ s ∈ startedIn now, s ∈ keysOf p.pending ∨ .cancelled s.2 ∈ now

namespace Underway

variable {first : InstanceId} {p p' : Pool} {now h : List PoolEvent}

/-- An update that opens. -/
theorem begin (hs : Settled p h) (time dt : Float) : Underway p.nextId (p.begin time dt).2 [] where
  updating := rfl
  instances := rfl
  started := fun ⟨_, hmem⟩ => List.not_mem_nil hmem
  next := Nat.le_refl _
  removed := by
    intro entity
    simp [Pool.begin, hs.removed]
  order := .nil
  fresh := nofun
  ids := by
    rw [show (p.begin time dt).2.pending = [] from hs.pending]
    exact .nil
  pending := by
    rw [show (p.begin time dt).2.pending = [] from hs.pending]
    exact nofun
  accounted := nofun

/-- Only the numbers and entities of the instances matter. -/
theorem congr (hu : Underway first p now) (hinstances : p'.instances = p.instances)
    (hpending : keysOf p'.pending = keysOf p.pending) (hremoved : p'.removed = p.removed)
    (hupdating : p'.updating = p.updating) (hnext : p'.nextId = p.nextId) :
    Underway first p' now where
  updating := hupdating.trans hu.updating
  instances := hinstances.trans hu.instances
  started := hu.started
  next := hnext ▸ hu.next
  removed := hremoved ▸ hu.removed
  order := hu.order
  fresh := hnext ▸ hu.fresh
  ids := hpending ▸ hu.ids
  pending := hpending ▸ hu.pending
  accounted := hpending ▸ hu.accounted

theorem not_closes_cons {e : PoolEvent} (hopen : ¬ Closes now) (he : ∀ reports, e ≠ .closed reports) :
    ¬ Closes (e :: now) := by
  rintro ⟨reports, hmem⟩
  rcases List.mem_cons.mp hmem with heq | hmem
  · exact he reports heq.symm
  · exact hopen ⟨reports, hmem⟩

/-- What is started during an update waits under the next number. -/
theorem start (hu : Underway first p now) {i : Instance} (hid : i.id = p.nextId) (cell : GraphRef) :
    Underway first { p.add i with nextId := p.nextId + 1 }
      (.started i.id i.entity cell :: now) := by
  have hadd : p.add i = { p with pending := p.pending ++ [i] } := by
    rw [Pool.add, hu.updating]
    rfl
  have hkeys : keysOf (p.pending ++ [i]) = keysOf p.pending ++ [i.key] := keysOf_append _ _
  rw [hadd]
  exact
    { updating := hu.updating
      instances := hu.instances
      started := not_closes_cons hu.started nofun
      next := Nat.le_succ_of_le hu.next
      removed := by
        intro entity
        rw [List.mem_cons]
        exact (hu.removed entity).trans ⟨Or.inr, fun h => h.resolve_left nofun⟩
      order := List.pairwise_cons.mpr ⟨fun s hmem => hid ▸ (hu.fresh s hmem).2, hu.order⟩
      fresh := by
        intro s hmem
        rcases List.mem_cons.mp hmem with rfl | hmem
        · exact ⟨hid ▸ hu.next, Nat.lt_succ_of_le (Nat.le_of_eq hid)⟩
        · exact ⟨(hu.fresh s hmem).1, Nat.lt_succ_of_lt (hu.fresh s hmem).2⟩
      ids := keysOf_ascending_append hu.ids fun k hk => hid ▸ (hu.fresh k (hu.pending k hk)).2
      pending := by
        rw [hkeys]
        intro k hk
        rcases List.mem_append.mp hk with hk | hk
        · exact List.mem_cons_of_mem _ (hu.pending k hk)
        · rw [List.mem_singleton.mp hk]
          exact List.mem_cons_self
      accounted := by
        rw [hkeys]
        intro s hmem
        rcases List.mem_cons.mp hmem with rfl | hmem
        · exact Or.inl (List.mem_append_right _ List.mem_cons_self)
        · rcases hu.accounted s hmem with hs | hs
          · exact Or.inl (List.mem_append_left _ hs)
          · exact Or.inr (List.mem_cons_of_mem _ hs) }

/-- Cancelling during an update also lists the entity. -/
theorem cancel (hu : Underway first p now) (entity : EntityId) :
    Underway first (p.cancel entity) (.cancelled entity :: now) := by
  have hkeys : keysOf (p.cancel entity).pending =
      (keysOf p.pending).filter fun k => k.2 ≠ entity := Pool.keys_without entity p.pending
  exact
    { updating := hu.updating
      instances := by simp [Pool.cancel, Pool.without, hu.instances]
      started := not_closes_cons hu.started nofun
      next := hu.next
      removed := by
        intro entity'
        rw [show (p.cancel entity).removed = entity :: p.removed by simp [Pool.cancel, hu.updating],
          List.mem_cons, List.mem_cons, hu.removed, PoolEvent.cancelled.injEq]
      order := hu.order
      fresh := hu.fresh
      ids := by
        rw [hkeys]
        exact hu.ids.sublist List.filter_sublist
      pending := by
        rw [hkeys]
        exact fun k hk => hu.pending k (List.mem_filter.mp hk).1
      accounted := by
        intro s hmem
        by_cases hentity : s.2 = entity
        · exact Or.inr (hentity ▸ List.mem_cons_self)
        · rcases hu.accounted s hmem with hs | hs
          · rw [hkeys]
            exact Or.inl (List.mem_filter.mpr ⟨hs, decide_eq_true hentity⟩)
          · exact Or.inr (List.mem_cons_of_mem _ hs) }

end Underway

/-! ## Putting together -/

section Settle

variable {p p' : Pool} {h now : List PoolEvent} {kept : List Instance}
  {results : List ModuleReport}

/-- The keys of a settled pool: those that were kept and those that were started. -/
theorem mem_keys_settle (hu : Underway p.nextId p' now) {k : InstanceId × EntityId} :
    k ∈ keysOf (p'.settle kept).instances ↔
      (k ∈ keysOf kept ∨ k ∈ keysOf p'.pending) ∧ .cancelled k.2 ∉ now := by
  rw [Pool.keys_settle, List.mem_filter, List.mem_append, ← hu.removed]
  simp

theorem startedIn_update : startedIn (.closed results :: (now ++ .opened :: h)) =
    startedIn now ++ startedIn h := by simp

theorem reportsIn_update (hu : Underway p.nextId p' now) :
    reportsIn (.closed results :: (now ++ .opened :: h)) = results ++ reportsIn h := by
  simp [reportsIn_of_not_closes hu.started]

theorem kept_old (hsort : Sorted (· ∈ p'.removed) p.instances results kept)
    {k : InstanceId × EntityId} (hk : k ∈ keysOf kept) : k ∈ keysOf p.instances :=
  hsort.kept_sublist.subset hk

theorem results_old (hsort : Sorted (· ∈ p'.removed) p.instances results kept) {r : ModuleReport}
    (hr : r ∈ results) : r.key ∈ keysOf p.instances :=
  hsort.results_sublist.subset (List.mem_map.mpr ⟨r, hr, rfl⟩)

/-- What was in the pool before the update has a smaller number than what was started in it. -/
theorem lt_of_pending (hs : Settled p h) (hu : Underway p.nextId p' now)
    {k k' : InstanceId × EntityId} (hk : k ∈ startedIn h) (hk' : k' ∈ keysOf p'.pending) :
    k.1 < k'.1 :=
  Nat.lt_of_lt_of_le (hs.fresh k hk) (hu.fresh k' (hu.pending k' hk')).1

/-- What is in the settled pool was started, and has not been cancelled since. -/
theorem running_settle (hs : Settled p h) (hu : Underway p.nextId p' now)
    (hsort : Sorted (· ∈ p'.removed) p.instances results kept) {k : InstanceId × EntityId}
    (hk : k ∈ keysOf (p'.settle kept).instances) : k ∈ startedIn now ++ startedIn h ∧
      ¬ Cancelled (.closed results :: (now ++ .opened :: h)) k.1 k.2 := by
  obtain ⟨hk, hcancel⟩ := (mem_keys_settle hu).mp hk
  -- A start from before the update is cancelled in it or not at all, and one that was made in it
  -- was not made before.
  rcases hk with hk | hk
  · obtain ⟨hstart, hlive⟩ := hs.running k (kept_old hsort hk)
    refine ⟨List.mem_append_right _ hstart, fun hc => hlive ?_⟩
    refine Cancelled.of_cons (e := .opened) ?_ nofun nofun
    refine (hc.of_cons nofun nofun).of_append (fun cell hmem => ?_) hcancel
    have hfresh := (hu.fresh _ (mem_startedIn.mpr ⟨cell, hmem⟩)).1
    exact Nat.not_lt_of_le hfresh (hs.fresh k hstart)
  · refine ⟨List.mem_append_left _ (hu.pending k hk), fun hc => hcancel ?_⟩
    refine (hc.of_cons nofun nofun).since hs.closed fun hmem => ?_
    exact Nat.lt_irrefl _ (lt_of_pending hs hu hmem hk)

/-- What is in the settled pool has not been reported. -/
theorem apart_settle (hs : Settled p h) (hu : Underway p.nextId p' now)
    (hsort : Sorted (· ∈ p'.removed) p.instances results kept) {r : ModuleReport}
    (hr : r ∈ results ++ reportsIn h) {k : InstanceId × EntityId}
    (hk : k ∈ keysOf (p'.settle kept).instances) : k.1 ≠ r.instanceId := by
  have hstarted : r.key ∈ startedIn h := by
    rcases List.mem_append.mp hr with hr | hr
    · exact (hs.running _ (results_old hsort hr)).1
    · exact hs.reported r hr
  rcases ((mem_keys_settle hu).mp hk).1 with hk | hk
  · rcases List.mem_append.mp hr with hr | hr
    · exact hsort.disjoint hs.ids k hk r hr
    · exact hs.apart r hr k (kept_old hsort hk)
  · exact (Nat.ne_of_lt (lt_of_pending hs hu hstarted hk)).symm

/-- What was started is in the settled pool, was reported, or was cancelled. -/
theorem accounted_settle (hs : Settled p h) (hu : Underway p.nextId p' now)
    (hsort : Sorted (· ∈ p'.removed) p.instances results kept) {s : InstanceId × EntityId}
    (hmem : s ∈ startedIn now ++ startedIn h) : s ∈ keysOf (p'.settle kept).instances ∨
      s ∈ (results ++ reportsIn h).map ModuleReport.key ∨
      Cancelled (.closed results :: (now ++ .opened :: h)) s.1 s.2 := by
  rw [List.map_append]
  -- What was cancelled while the update was under way is gone, whether it was old or new.
  by_cases hcancel : .cancelled s.2 ∈ now
  · refine Or.inr (Or.inr (Cancelled.cons ?_ _))
    rcases List.mem_append.mp hmem with hmem | hmem
    · exact cancelled_within h hu.started hmem hcancel
    · exact cancelled_of_later now hmem hcancel
  · rw [mem_keys_settle hu]
    rcases List.mem_append.mp hmem with hmem | hmem
    · exact Or.inl ⟨Or.inr ((hu.accounted s hmem).resolve_right hcancel), hcancel⟩
    · rcases hs.accounted s hmem with hrun | hrep | hcan
      · rcases hsort.covers s hrun with hgone | hrep | hkept
        · exact absurd ((hu.removed s.2).mp hgone) hcancel
        · exact Or.inr (Or.inl (List.mem_append_left _ hrep))
        · exact Or.inl ⟨Or.inl hkept, hcancel⟩
      · exact Or.inr (Or.inl (List.mem_append_right _ hrep))
      · exact Or.inr (Or.inr (((hcan.cons _).append now).cons _))

/-- The reports of an update are in the order of their numbers. -/
theorem ascending_results (hs : Settled p h)
    (hsort : Sorted (· ∈ p'.removed) p.instances results kept) :
    (results.map (·.instanceId)).Pairwise (· < ·) := by
  have hkeys := List.pairwise_map.mp (hs.ids.sublist hsort.results_sublist)
  exact List.pairwise_map.mpr hkeys

/-- No number is in two reports. -/
theorem once_settle (hs : Settled p h)
    (hsort : Sorted (· ∈ p'.removed) p.instances results kept) :
    ((results ++ reportsIn h).map (·.instanceId)).Nodup := by
  rw [List.map_append]
  refine List.nodup_append.mpr ⟨(ascending_results hs hsort).imp Nat.ne_of_lt, hs.once, ?_⟩
  intro id hid id' hid' heq
  obtain ⟨r, hr, rfl⟩ := List.mem_map.mp hid
  obtain ⟨r', hr', rfl⟩ := List.mem_map.mp hid'
  exact hs.apart r' hr' _ (results_old hsort hr) heq

/-- Once an update ends, its history is like any other. -/
theorem Settled.settle (hs : Settled p h) (hu : Underway p.nextId p' now)
    (hsort : Sorted (· ∈ p'.removed) p.instances results kept) :
    Settled (p'.settle kept) (.closed results :: (now ++ .opened :: h)) where
  idle := rfl
  pending := rfl
  removed := rfl
  closed := by
    intro now' before heq
    cases now' with
    | nil => cases heq
    | cons e now' => exact ⟨results, (List.cons.inj heq).1 ▸ List.mem_cons_self⟩
  order := by
    rw [startedIn_update]
    refine List.pairwise_append.mpr ⟨hu.order, hs.order, fun s hmem t ht => ?_⟩
    exact Nat.lt_of_lt_of_le (hs.fresh t ht) (hu.fresh s hmem).1
  fresh := by
    rw [startedIn_update]
    intro s hmem
    rcases List.mem_append.mp hmem with hmem | hmem
    · exact (hu.fresh s hmem).2
    · exact Nat.lt_of_lt_of_le (hs.fresh s hmem) hu.next
  ids := by
    rw [Pool.keys_settle]
    refine List.Pairwise.sublist List.filter_sublist (List.pairwise_append.mpr ?_)
    refine ⟨hs.ids.sublist hsort.kept_sublist, hu.ids, fun k hk k' hk' => ?_⟩
    exact lt_of_pending hs hu (hs.running k (kept_old hsort hk)).1 hk'
  running := by
    rw [startedIn_update]
    exact fun k hk => running_settle hs hu hsort hk
  reported := by
    rw [reportsIn_update hu, startedIn_update]
    intro r hr
    rcases List.mem_append.mp hr with hr | hr
    · exact List.mem_append_right _ (hs.running _ (results_old hsort hr)).1
    · exact List.mem_append_right _ (hs.reported r hr)
  apart := by
    rw [reportsIn_update hu]
    exact fun r hr k hk => apart_settle hs hu hsort hr hk
  once := by
    rw [reportsIn_update hu]
    exact once_settle hs hsort
  ascending := by
    intro reports hmem
    rcases List.mem_cons.mp hmem with heq | hmem
    · injection heq with heq
      rw [heq]
      exact List.pairwise_map.mp (ascending_results hs hsort)
    · rcases List.mem_append.mp hmem with hmem | hmem
      · exact absurd ⟨reports, hmem⟩ hu.started
      · rcases List.mem_cons.mp hmem with heq | hmem
        · cases heq
        · exact hs.ascending reports hmem
  accounted := by
    rw [startedIn_update, reportsIn_update hu]
    exact fun s hmem => accounted_settle hs hu hsort hmem

end Settle

end SceneLogic
