import SceneLogic.Proofs.Module.Calls
import SceneLogic.Proofs.Module.Settling

/-!
# What an update does with the instances that it took out

Whatever actions do meanwhile, short of updates of their own, an update drops the instances of
cancelled entities, reports those that ended, and keeps the others. This rests on little: a
relation between worlds that does not look beyond the pool and its history, and under which an
entity that is listed as cancelled stays listed.

* `Conduct.stepAll_sorts` — the instances one after the other
* `Conduct.updateModules_sorts` — the update from its opening to its close
-/

namespace SceneLogic

/-- A relation between worlds that looks at the pool and its history only. Cancelled entities stay
listed under it. -/
structure PoolSteady (H : World → World → Prop) : Prop extends Steady H where
  same : ∀ {u v : World}, v.pool = u.pool → v.history = u.history → H u v
  removed : ∀ {u v : World}, H u v → u.pool.removed ⊆ v.pool.removed

namespace World

/-- The world when an update has opened. -/
def opened (w : World) (time dt : Float) : World :=
  { w with pool := (w.pool.begin time dt).2 }.record (.ofPool .opened)

/-- The world when an update has closed, which had these reports and kept these instances. -/
def closed (w : World) (r : List ModuleReport × List Instance) : World :=
  { w with pool := w.pool.settle r.2 }.record (.ofPool (.closed r.1))

end World

/-- An update is the turns of all instances, between its opening and its close. -/
theorem run_updateModules (service : Service) (m : Machine) (time dt : Float) :
    (updateModules time dt).run service m =
      ((stepAll dt m.world.pool.instances).run service
        { m with world := m.world.opened time dt }).map fun r =>
          (r.1.1, { r.2 with world := r.2.world.closed r.1 }) := by
  rw [updateModules, Script.run]
  dsimp only
  rw [Script.run, Script.run_bind]
  show ((stepAll dt m.world.pool.instances).run service
    { m with world := m.world.opened time dt }).bind _ = _
  rw [Option.map_eq_bind]
  rfl

/-- An update opens, gives all instances their turns, and closes. -/
theorem updateModules_run {service : Service} {m m' : Machine} {time dt : Float}
    {reports : List ModuleReport}
    (hrun : (updateModules time dt).run service m = some (reports, m')) :
    ∃ kept m₁, (stepAll dt m.world.pool.instances).run service
        { m with world := m.world.opened time dt } = some ((reports, kept), m₁) ∧
      m' = { m₁ with world := m₁.world.closed (reports, kept) } := by
  rw [run_updateModules] at hrun
  obtain ⟨⟨⟨results, kept⟩, m₁⟩, hall, hclosed⟩ := Option.map_eq_some_iff.mp hrun
  cases hclosed
  exact ⟨kept, m₁, hall, rfl⟩

namespace Instance

variable {service : Service} {c : Conduct} {H : World → World → Prop}

theorem atWork_poolSteady (hH : PoolSteady H) (hservice : service.Keeps c H) (i : Instance) :
    i.AtWork service c H H where
  steady := hH.toSteady
  service := hservice
  within := fun h => h
  own := by
    intro u v h
    cases h with
    | publish name v => exact hH.same rfl rfl
    | assign name v => exact hH.same rfl rfl

/-- An instance that goes on stays the one it is, and its report is about itself. -/
theorem step_sorts (hH : PoolSteady H) (hservice : service.Keeps c H) (i : Instance) (dt : Float)
    (w : World) : (i.step dt).Yields service c H w fun r _ =>
      i.Same r.2 ∧ ∀ report, r.1 = some report →
        report.instanceId = i.id ∧ report.entity = i.entity := by
  have hsame := w.situationFor_sameModules i.entity [("dt", .float dt)]
  refine .read (.write hH.toSteady (hH.same hsame.pool hsame.history) ?_)
  have hreport : ∀ {i' : Instance} {error : Option Fault} {report : ModuleReport}, i.Same i' →
      some (i'.report error) = some report →
      report.instanceId = i.id ∧ report.entity = i.entity := by
    intro i' error report hsame heq
    cases heq
    exact ⟨hsame.id, hsame.entity⟩
  refine runSteps_yields hH.toSteady (P := fun _ i' _ => i.Same i') ?_ ?_ ?_ _ _ _ (.refl i)
  · exact fun i' _ hsame => ⟨hsame, nofun⟩
  · exact fun _ i' _ hsame _ => ⟨hsame, fun report => hreport hsame⟩
  · intro _ i' w' node hsame _
    refine (visit_yields (atWork_poolSteady hH hservice i') hH.toSteady (fun h => h)
      fun u e => hH.same rfl rfl).mono fun r _ _ hr => ?_
    have hsame' : i.Same r.2 := hsame.trans hr.1.stands.1
    unfold After
    split
    · exact ⟨hsame', nofun⟩
    · exact ⟨hsame', fun report => hreport hsame'⟩
    · split
      · exact ⟨hsame', fun report => hreport hsame'⟩
      · exact hsame'.trans ⟨rfl, rfl, rfl, rfl⟩

end Instance

namespace Conduct

variable {service : Service} {c : Conduct} {H : World → World → Prop}

/-- An update sorts the instances that it took out. -/
theorem stepAll_sorts (hH : PoolSteady H) (hservice : service.Keeps c H) (dt : Float)
    (instances : List Instance) (w : World) :
    (stepAll dt instances).Yields service c H w fun r w' =>
      Sorted (· ∈ w'.pool.removed) instances r.1 r.2 := by
  induction instances generalizing w with
  | nil => exact .done hH.toSteady .nil
  | cons i rest ih =>
    refine .read ?_
    split
    · next hgone =>
      refine (ih w).mono fun r w' hkept hsort => .gone (hH.removed hkept ?_) hsort
      exact List.contains_iff_mem.mp hgone
    · split
      · next result hresult =>
        refine .bind hH.toSteady (ih w) fun r w' _ hsort => ?_
        exact .done hH.toSteady (.reported (i.toldBy_terminalResult hresult) hsort)
      · next hrunning =>
        refine .bind hH.toSteady (i.step_sorts hH hservice dt w) fun r w₁ _ hr => ?_
        refine .bind hH.toSteady (ih w₁) fun r' w' _ hsort => ?_
        dsimp only
        split
        · next result hended =>
          obtain ⟨hid, hentity⟩ := hr.2 result hended
          refine .done hH.toSteady (.reported ⟨hid, hentity, fun ended heq => ?_⟩ hsort)
          rw [hrunning] at heq
          cases heq
        · exact .done hH.toSteady (.kept hr.1 hrunning hsort)

/-- From the opening of an update to its close. -/
theorem updateModules_sorts (hH : PoolSteady H) (hservice : service.Keeps c H) {m m' : Machine}
    (hm : m.Obeys c) {time dt : Float} {reports : List ModuleReport}
    (hrun : (updateModules time dt).run service m = some (reports, m')) :
    m'.Obeys c ∧ ∃ w kept, H (m.world.opened time dt) w ∧
      Sorted (· ∈ w.pool.removed) m.world.pool.instances reports kept ∧
      m'.world = w.closed (reports, kept) := by
  obtain ⟨kept, m₁, hall, rfl⟩ := updateModules_run hrun
  obtain ⟨⟨hm₁, hkept⟩, hsort⟩ :=
    stepAll_sorts hH hservice dt m.world.pool.instances _ _ rfl (hm.withWorld _) hall
  exact ⟨hm₁.withWorld _, m₁.world, kept, hkept, hsort, rfl⟩

end Conduct

end SceneLogic
