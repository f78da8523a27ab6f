import SceneLogic.Proofs.Module.Course
import SceneLogic.Proofs.Standard

/-!
# The director and its host

The host has listeners, actions and conditions of its own, and carries out scripts. They reach the
modules by calls only, evaluate no rules and leave the director's subscription alone, but they may
shut the director down.

* `Machine.Attended` — everybody but the director's listener belongs to the host, and if the
  director has no subscription, then it does not listen
* `Standard.attended`, `Obeys.attended_install` — how that comes about
* `Machine.Directs` — runs of scripts of the host and updates of the director; the modules see
  nothing in them but calls and updates of their own
-/

namespace SceneLogic

/-- The script shuts the director down. -/
inductive IsShutdown : {β : Type} → Script β → Prop
  | mk : IsShutdown Director.shutdown

/-- What the host changes: it reaches the modules by calls only, evaluates no rules, and leaves the
director's subscription alone. -/
structure World.Hosted (u v : World) : Prop where
  calls : Relation.ReflTransGen PoolCall u v
  evaluations : v.evaluations = u.evaluations
  subscription : v.subscription? = u.subscription?

/-- The conduct of the host's behaviours, which may also shut the director down. -/
def Conduct.hosting : Conduct where
  step := World.Hosted
  part := IsShutdown

theorem Conduct.hosting_relies : Conduct.hosting.Relies where
  refl _ := trivial
  trans _ _ := trivial
  step _ := trivial

/-- The director, if it listens, does so under the number, and all others are of the host. -/
structure Machine.Attended (m : Machine) (sub : SubscriptionId) : Prop where
  given : sub < m.nextSubscription
  listeners : ∀ l ∈ m.listeners, l.1 = sub ∧ l.2 = Director.listener ∨
    l.1 ≠ sub ∧ ∀ e w, (l.2 e).Obeys .hosting w
  actions : ∀ a ∈ m.actions, ∀ s params w, (a.2 s params).Obeys .hosting w
  conditions : ∀ a ∈ m.conditions, ∀ s params w, (a.2 s params).Obeys .hosting w
  /-- Either the director knows its number, or it does not listen. -/
  known : m.world.subscription? = some sub ∨
    m.world.subscription? = none ∧ ∀ l ∈ m.listeners, l.1 ≠ sub

/-- A run: the host carries out scripts of its own and updates of the director. -/
inductive Machine.Directs (m : Machine) : Machine → Prop
  | refl : Directs m m
  | script {m₁ m₂ : Machine} {depth : Nat} {α : Type} {s : Script α} {a : α} : Directs m m₁ →
      s.Obeys .hosting m₁.world → s.run (Service.atDepth depth) m₁ = some (a, m₂) → Directs m m₂
  | update {m₁ m₂ : Machine} {depth : Nat} {dt : Float} {reports : List ModuleReport} :
      Directs m m₁ →
      (Director.update dt).run (Service.atDepth depth) m₁ = some (reports, m₂) → Directs m m₂

/-! ## Shutting down -/

namespace Director

variable {service : Service} {m : Machine}

/-- The world in which the director has no number any more. -/
def resigned (w : World) : World :=
  w.modifyDirector ({ · with subscription := none })

theorem subscription?_resigned (w : World) : (resigned w).subscription? = none := by
  unfold resigned World.modifyDirector World.subscription?
  cases w.director with
  | none => rfl
  | some d => rfl

theorem shutdown_run_idle (h : m.world.subscription? = none) :
    shutdown.run service m = some ((), { m with world := m.world.clearModules }) := by
  unfold shutdown
  rw [Script.run_bind]
  unfold resign
  simp only [Script.run]
  rw [show m.world.director.bind (·.subscription) = none from h]
  rfl

theorem shutdown_run {id : SubscriptionId} (h : m.world.subscription? = some id) :
    shutdown.run service m = some ((),
      { m with
        world := (resigned m.world).clearModules
        listeners := m.listeners.filter (·.1 ≠ id) }) := by
  unfold shutdown
  rw [Script.run_bind]
  unfold resign
  simp only [Script.run]
  rw [show m.world.director.bind (·.subscription) = some id from h]
  rfl

end Director

/-! ## The modules -/

namespace Director

variable {service : Service} {m : Machine}

theorem shutdown_pools (w : World) : shutdown.Obeys .pooling w := by
  refine .bind Conduct.pooling_relies (.read ?_) fun _ v _ => ?_
  · split
    · exact .done
    · exact .write (.single (.aside ⟨rfl, rfl, .refl w⟩)) (.unsubscribe trivial fun _ => .done)
  · exact .read (.write (.single (.clear v)) .done)

/-- An update opens a frame, runs the update logic, updates the modules, and clears the senses. -/
theorem update_run {dt : Float} {reports : List ModuleReport} {m' : Machine}
    (h : (update dt).run service m = some (reports, m')) :
    ∃ ids m₁ m₂ senses, (Script.forEach ids (updateEntity dt)).run service
        { m with world := (m.world.openFrame m.world.clock m.world.settings.threshold).2 } =
          some ((), m₁) ∧
      (updateModules 0 dt).run service m₁ = some (reports, m₂) ∧
      m' = { m₂ with world := { m₂.world with senses } } := by
  rw [update, Script.run] at h
  dsimp only at h
  rw [Script.run, Script.run_bind] at h
  obtain ⟨⟨⟨⟩, m₁⟩, hentities, h⟩ := Option.bind_eq_some_iff.mp h
  dsimp only at h
  rw [Script.run_bind] at h
  obtain ⟨⟨reports', m₂⟩, hmodules, h⟩ := Option.bind_eq_some_iff.mp h
  simp only [Script.run] at h
  cases h
  refine ⟨_, m₁, m₂, ?_, hentities, hmodules, ?_⟩
  · exact if (m.world.openFrame m.world.clock m.world.settings.threshold).1 then
      m₂.world.senses.beginFrame else m₂.world.senses
  · unfold World.openFrame
    dsimp only
    split
    · rfl
    · rfl

end Director

namespace Conduct

theorem hosting_within_pooling : Conduct.hosting.Within .pooling where
  step h := h.calls
  part hp w := by
    cases hp
    exact Director.shutdown_pools w
  announces h := h
  performs h := h
  checks h := h
  registers h := h
  rely h := h

theorem directing_within_pooling : Conduct.directing.Within .pooling where
  step h := h.1.poolCalls
  part := by
    refine part_directing (fun w r => ?_) trivial
    exact .single (.aside (w.aside_judge r))
  announces _ := trivial
  performs _ := trivial
  checks _ := trivial
  registers _ := trivial
  rely _ := trivial

theorem ruling_within_pooling : Conduct.ruling.Within .pooling :=
  ruling_within directing_within_pooling fun w id component =>
    .single (.aside (w.aside_takeTurn id component))

theorem acting_within_hosting : Conduct.acting.Within .hosting where
  step h := ⟨h.poolCalls, h.evaluations, h.subscription⟩
  part h := absurd h id
  announces _ := trivial
  performs _ := trivial
  checks _ := trivial
  registers _ := trivial
  rely _ := trivial

theorem looking_within_hosting : Conduct.looking.Within .hosting where
  step h := ⟨h.poolCalls, h.evaluations, h.subscription⟩
  part h := absurd h id
  announces _ := trivial
  performs _ := trivial
  checks _ := trivial
  registers _ := trivial
  rely _ := trivial

end Conduct

namespace Machine

variable {m m' : Machine} {sub : SubscriptionId}

/-- The host and the director reach the modules by calls only. -/
theorem Attended.pools (h : m.Attended sub) : m.Obeys .pooling where
  listeners := by
    intro l hl e w
    rcases h.listeners l hl with ⟨-, hlistener⟩ | ⟨-, hhost⟩
    · rw [hlistener]
      exact (Director.listener_directs e w).mono Conduct.pooling_relies
        Conduct.directing_within_pooling
    · exact (hhost e w).mono Conduct.pooling_relies Conduct.hosting_within_pooling
  actions := fun a ha s params w =>
    (h.actions a ha s params w).mono Conduct.pooling_relies Conduct.hosting_within_pooling
  conditions := fun a ha s params w =>
    (h.conditions a ha s params w).mono Conduct.pooling_relies Conduct.hosting_within_pooling

/-- What leaves the modules aside is a script like others. -/
theorem Plays.aside {updates : List (List ModuleReport)} {w : World}
    (h : m.Plays .pooling updates m') (hw : m'.world.Aside w) :
    m.Plays .pooling updates { m' with world := w } := by
  have hrun : (Script.setWorld w).run (Service.atDepth 0) m' =
      some ((), { m' with world := w }) := rfl
  exact h.script (.write (.single (.aside hw)) .done) hrun

/-- An update of the director is an update of the modules, with scripts around it that reach them by
calls only. -/
theorem Directs.plays (h : m.Directs m') : ∃ updates, m.Plays .pooling updates m' := by
  induction h with
  | refl => exact ⟨[], .refl⟩
  | script _ hobeys hrun ih =>
    obtain ⟨updates, hplays⟩ := ih
    have hpools := hobeys.mono Conduct.pooling_relies Conduct.hosting_within_pooling
    exact ⟨updates, hplays.script hpools hrun⟩
  | @update m₁ m₂ depth dt reports _ hrun ih =>
    obtain ⟨updates, hplays⟩ := ih
    obtain ⟨ids, m₃, m₄, senses, hentities, hmodules, rfl⟩ := Director.update_run hrun
    have hopen :=
      hplays.aside (m₁.world.aside_openFrame m₁.world.clock m₁.world.settings.threshold)
    have hlogic := hopen.script ((Director.updateEntities_rules dt ids _).mono
      Conduct.pooling_relies Conduct.ruling_within_pooling) hentities
    exact ⟨reports :: updates, (hlogic.update hmodules).aside ⟨rfl, rfl, .refl _⟩⟩

/-! ## Installing -/

/-- The default actions and conditions are the host's. -/
theorem Standard.others (h : m.Standard) : Obeys .hosting { m with listeners := [] } where
  listeners := nofun
  actions := fun a ha s params w =>
    (defaultActions_act a (h.actions a ha) s params w).mono Conduct.hosting_relies
      Conduct.acting_within_hosting
  conditions := fun a ha s params w =>
    (Conditions.conditions_look a (h.conditions a ha) s params w).mono Conduct.hosting_relies
      Conduct.looking_within_hosting

/-- With the default behaviours only, a director that knows its number is attended. -/
theorem Standard.attended (h : m.Standard) (hgiven : sub < m.nextSubscription)
    (hsub : ∀ l ∈ m.listeners, l.1 = sub) (hknown : m.world.subscription? = some sub) :
    m.Attended sub where
  given := hgiven
  listeners := fun l hl => Or.inl ⟨hsub l hl, h.listener hl⟩
  actions := h.others.actions
  conditions := h.others.conditions
  known := Or.inl hknown

/-- Where nobody but the host has behaviours, a director that is installed is attended. -/
theorem Obeys.attended_install (h : m.Obeys .hosting)
    (hgiven : ∀ l ∈ m.listeners, l.1 < m.nextSubscription) (service : Service)
    (settings : Settings) :
    ∃ m', (Director.install settings).run service m = some ((), m') ∧
      m'.Attended m.nextSubscription := by
  refine ⟨_, rfl, Nat.lt_succ_self _, fun l hl => ?_, h.actions, h.conditions, Or.inl rfl⟩
  rcases List.mem_append.mp hl with hl | hl
  · exact Or.inr ⟨Nat.ne_of_lt (hgiven l hl), h.listeners l hl⟩
  · rw [List.mem_singleton.mp hl]
    exact Or.inl ⟨rfl, rfl⟩

end Machine

end SceneLogic
