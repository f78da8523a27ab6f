import SceneLogic.Proofs.Director.Hosting
import SceneLogic.Proofs.Upholding

/-!
# Who hears of events

The director hears of events because it subscribed, under a number that it keeps in the world. When
it is shut down, world and machine change one after the other, but nothing is announced in between.

* `Conduct.hosting_upholds`, `Conduct.presiding_upholds` — neither the host nor the director breaks
  it that the machine is attended
* `Machine.ComesTo.hears` — so it is attended at each moment at which an event is announced
* `Machine.Attended.deaf` — without the director no evaluation begins because of an event
-/

namespace SceneLogic

/-- The conduct of the director, whatever it evaluates. It does not touch its subscription. -/
def Conduct.presiding : Conduct where
  step u v := v.subscription? = u.subscription?
  announces _ := False
  registers := False

theorem Conduct.presiding_relies : Conduct.presiding.Relies where
  refl _ := trivial
  trans _ _ := trivial
  step _ := trivial

/-- At some moment of a run the machine is the second one, and the next thing that is done makes its
world this one. -/
inductive Machine.ComesTo (m n : Machine) (v : World) : Prop
  | script {m₁ : Machine} {depth : Nat} {α : Type} {s : Script α} : m.Directs m₁ →
      s.Obeys .hosting m₁.world →
      s.Makes (Service.atDepth depth) (Watch.atDepth depth) n v m₁ → ComesTo m n v
  | update {m₁ : Machine} {depth : Nat} {dt : Float} : m.Directs m₁ →
      (Director.update dt).Makes (Service.atDepth depth) (Watch.atDepth depth) n v m₁ →
      ComesTo m n v

/-- What is known of a moment: without a subscription the director does not get one, and when an
event is announced the machine is attended. -/
structure Hears (sub : SubscriptionId) (n : Machine) (v : World) : Prop where
  resigned : n.world.subscription? = none → v.subscription? = none
  attended : ∀ e, v = n.world.record (.emitted e) → n.Attended sub

/-! ## What everybody upholds -/

/-- A shutdown does nothing but these three things, and asks for nothing. -/
theorem Director.shutdown_moments {service : Service} {watch : Watch} {m n : Machine} {v : World}
    (h : shutdown.Makes service watch n v m) :
    v = n.world ∨ v = resigned n.world ∨ v = n.world.clearModules := by
  rcases Script.makes_bind h with (⟨rfl, hv⟩ | h) | ⟨_, m', -, ⟨rfl, hv⟩ | ⟨rfl, hv⟩ | ⟨rfl, hv⟩⟩
  · exact Or.inl hv.symm
  · dsimp only at h
    split at h
    · obtain ⟨rfl, hv⟩ := h
      exact Or.inl hv.symm
    · rcases h with ⟨rfl, hv⟩ | ⟨rfl, hv⟩ | ⟨rfl, hv⟩
      · exact Or.inr (Or.inl hv.symm)
      · exact Or.inl hv.symm
      · exact Or.inl hv.symm
  · exact Or.inl hv.symm
  · exact Or.inr (Or.inr hv.symm)
  · exact Or.inl hv.symm

namespace Machine.Attended

variable {m n : Machine} {sub : SubscriptionId} {w v : World}

/-- The world may change, but for the director's subscription. -/
theorem withWorld (h : m.Attended sub) (hw : w.subscription? = m.world.subscription?) :
    Attended { m with world := w } sub :=
  ⟨h.given, h.listeners, h.actions, h.conditions, hw ▸ h.known⟩

/-- Without the director everybody belongs to the host. -/
theorem host (h : m.Attended sub) (hnone : m.world.subscription? = none) : m.Obeys .hosting := by
  have habsent : ∀ l ∈ m.listeners, l.1 ≠ sub := by
    rcases h.known with hsome | ⟨-, habsent⟩
    · rw [hnone] at hsome
      cases hsome
    · exact habsent
  refine ⟨fun l hl => ?_, h.actions, h.conditions⟩
  rcases h.listeners l hl with ⟨hsub, -⟩ | ⟨-, hhost⟩
  · exact absurd hsub (habsent l hl)
  · exact hhost

/-- While nothing is done to the world but what leaves the subscription alone. -/
theorem hears (h : m.Attended sub) (hv : v.subscription? = m.world.subscription?) :
    Hears sub m v :=
  ⟨fun hnone => hv.trans hnone, fun _ _ => h⟩

theorem subscribe (h : m.Attended sub) {l : Listener} (hl : ∀ e w, (l e).Obeys .hosting w) :
    (m.subscribe l).2.Attended sub := by
  have hne : m.nextSubscription ≠ sub := Nat.ne_of_gt h.given
  refine ⟨Nat.lt_succ_of_lt h.given, fun l' hl' => ?_, h.actions, h.conditions, ?_⟩
  · rcases List.mem_append.mp hl' with hl' | hl'
    · exact h.listeners l' hl'
    · rw [List.mem_singleton.mp hl']
      exact Or.inr ⟨hne, hl⟩
  · refine h.known.imp_right fun ⟨hnone, habsent⟩ => ⟨hnone, fun l' hl' => ?_⟩
    rcases List.mem_append.mp hl' with hl' | hl'
    · exact habsent l' hl'
    · rw [List.mem_singleton.mp hl']
      exact hne

/-- Listeners may go. -/
theorem filter (h : m.Attended sub) (p : SubscriptionId × Listener → Bool) :
    Attended { m with listeners := m.listeners.filter p } sub where
  given := h.given
  listeners := fun l hl => h.listeners l (List.mem_filter.mp hl).1
  actions := h.actions
  conditions := h.conditions
  known := h.known.imp_right fun ⟨hnone, habsent⟩ =>
    ⟨hnone, fun l hl => habsent l (List.mem_filter.mp hl).1⟩

theorem registerAction (h : m.Attended sub) (name : String) {a : Action}
    (ha : ∀ s params w, (a s params).Obeys .hosting w) :
    (m.registerAction name a).Attended sub where
  given := h.given
  listeners := h.listeners
  actions := by
    intro b hb
    rcases Dict.mem_insert hb with hb | rfl
    · exact h.actions b hb
    · exact ha
  conditions := h.conditions
  known := h.known

theorem registerCondition (h : m.Attended sub) (name : String) {a : Condition}
    (ha : ∀ s params w, (a s params).Obeys .hosting w) :
    (m.registerCondition name a).Attended sub where
  given := h.given
  listeners := h.listeners
  actions := h.actions
  conditions := by
    intro b hb
    rcases Dict.mem_insert hb with hb | rfl
    · exact h.conditions b hb
    · exact ha
  known := h.known

/-- The shutdown of the director takes its listener away. -/
theorem resigned (h : m.Attended sub) :
    Attended
      { m with
        world := (Director.resigned m.world).clearModules
        listeners := m.listeners.filter (·.1 ≠ sub) } sub := by
  have hfilter := h.filter (·.1 ≠ sub)
  refine ⟨h.given, hfilter.listeners, h.actions, h.conditions, Or.inr ⟨?_, fun l hl => ?_⟩⟩
  · exact Director.subscription?_resigned m.world
  · exact of_decide_eq_true (List.mem_filter.mp hl).2

end Machine.Attended

section Upholds

variable {sub : SubscriptionId}

theorem shutdown_hears {service : Service} {watch : Watch} {m n : Machine} {v : World}
    (h : Director.shutdown.Makes service watch n v m) : Hears sub n v := by
  rcases Director.shutdown_moments h with rfl | rfl | rfl
  · exact ⟨fun hnone => hnone, fun e heq => absurd heq (World.ne_record _ _)⟩
  · refine ⟨fun _ => Director.subscription?_resigned _, fun e heq => ?_⟩
    exact absurd (congrArg World.journal heq).symm (List.cons_ne_self _ _)
  · refine ⟨fun hnone => hnone, fun e heq => ?_⟩
    cases (List.cons.inj (congrArg World.journal heq)).1

theorem shutdown_bears : Director.shutdown.Bears (·.Attended sub) (Hears sub) := by
  intro service watch _ m hm
  refine ⟨fun _ m' hrun => ?_, fun n v => shutdown_hears⟩
  rcases hm.known with hknown | ⟨hnone, -⟩
  · rw [Director.shutdown_run hknown] at hrun
    cases hrun
    exact hm.resigned
  · rw [Director.shutdown_run_idle hnone] at hrun
    cases hrun
    exact hm.withWorld rfl

theorem Conduct.hosting_upholds : Conduct.hosting.Upholds (·.Attended sub) (Hears sub) where
  idle := fun hm => hm.hears rfl
  write := fun hstep hm => ⟨hm.hears hstep.subscription, hm.withWorld hstep.subscription⟩
  emitted := fun _ hm => ⟨hm.hears rfl, hm.withWorld rfl⟩
  subscribe := fun _ hl hm => hm.subscribe hl
  unsubscribe := fun _ _ hm => hm.filter _
  registerAction := fun _ ha hm => hm.registerAction _ ha
  registerCondition := fun _ ha hm => hm.registerCondition _ ha
  part := by
    intro β p hp
    cases hp with
    | mk => exact shutdown_bears

theorem Conduct.presiding_upholds : Conduct.presiding.Upholds (·.Attended sub) (Hears sub) where
  idle := fun hm => hm.hears rfl
  write := fun hstep hm => ⟨hm.hears hstep, hm.withWorld hstep⟩
  emitted := fun _ hm => ⟨hm.hears rfl, hm.withWorld rfl⟩
  subscribe := fun hr => absurd hr id
  unsubscribe := fun _ hr => absurd hr id
  registerAction := fun hr => absurd hr id
  registerCondition := fun hr => absurd hr id
  part := fun hp => absurd hp id

end Upholds

/-! ## The director -/

namespace Conduct

theorem directing_within_presiding : Conduct.directing.Within .presiding where
  step h := h.1.subscription
  part := part_directing (fun w r => w.subscription?_grant (·.grantRequest r)) trivial
  announces h := h
  performs _ := trivial
  checks _ := trivial
  registers h := h
  rely _ := trivial

theorem stepping_within_presiding : Conduct.stepping.Within .presiding where
  step h := h.subscription
  part h := absurd h id
  announces h := h
  performs _ := trivial
  checks h := absurd h id
  registers h := h
  rely _ := trivial

end Conduct

namespace Director

theorem listener_presides (e : Event) (w : World) : (listener e).Obeys .presiding w :=
  (listener_directs e w).mono Conduct.presiding_relies Conduct.directing_within_presiding

theorem update_presides (dt : Float) (w : World) : (update dt).Obeys .presiding w := by
  refine update_obeys Conduct.presiding_relies (fun w now threshold => ?_) (fun _ _ _ => rfl)
    (Conduct.ruling_within Conduct.directing_within_presiding fun w id component =>
      (w.tame_takeTurn id component).subscription)
    (fun v => (updateModules_steps 0 dt v).mono Conduct.presiding_relies
      Conduct.stepping_within_presiding) w
  have hgrant := w.subscription?_grant (·.begin now threshold)
  unfold World.openFrame
  dsimp only
  split
  · exact hgrant
  · exact hgrant

end Director

/-! ## Runs -/

namespace Machine

variable {m m' n : Machine} {sub : SubscriptionId} {v : World}

/-- The director and the host bear it that the machine is attended. -/
theorem Attended.bears (h : m.Attended sub) : m.Bears (·.Attended sub) (Hears sub) where
  listeners := by
    intro l hl e
    rcases h.listeners l hl with ⟨-, hlistener⟩ | ⟨-, hhost⟩
    · rw [hlistener]
      exact Script.Obeys.bears Conduct.presiding_upholds (fun _ _ => trivial)
        (Director.listener_presides e)
    · exact Script.Obeys.bears Conduct.hosting_upholds (fun _ _ => trivial) (hhost e)
  actions := fun a ha s params =>
    Script.Obeys.bears Conduct.hosting_upholds (fun _ _ => trivial) (h.actions a ha s params)
  conditions := fun a ha s params =>
    Script.Obeys.bears Conduct.hosting_upholds (fun _ _ => trivial) (h.conditions a ha s params)

theorem attended_atDepth (sub : SubscriptionId) (depth : Nat) :
    (Service.atDepth depth).Upholds (Watch.atDepth depth) (·.Attended sub) (Hears sub) :=
  Service.upholds_atDepth (fun _ h => h.bears) depth

/-- All along a run the machine is attended. -/
theorem Directs.attended (hm : m.Attended sub) (h : m.Directs m') : m'.Attended sub := by
  induction h with
  | refl => exact hm
  | @script m₁ m₂ depth _ s a _ hobeys hrun ih =>
    exact (hobeys.upholds Conduct.hosting_upholds (fun _ _ => trivial)
      (attended_atDepth sub depth) m₁ rfl ih).1 a m₂ hrun
  | @update m₁ m₂ depth dt reports _ hrun ih =>
    exact ((Director.update_presides dt _).upholds Conduct.presiding_upholds (fun _ _ => trivial)
      (attended_atDepth sub depth) m₁ rfl ih).1 reports m₂ hrun

/-- In a run the director does not get its subscription back, and the machine is attended whenever
an event is announced. -/
theorem ComesTo.hears (hm : m.Attended sub) (h : m.ComesTo n v) : Hears sub n v := by
  cases h with
  | @script m₁ depth _ s hrun hobeys hmake =>
    exact (hobeys.upholds Conduct.hosting_upholds (fun _ _ => trivial)
      (attended_atDepth sub depth) m₁ rfl (hrun.attended hm)).2 n v hmake
  | @update m₁ depth dt hrun hmake =>
    exact ((Director.update_presides dt _).upholds Conduct.presiding_upholds (fun _ _ => trivial)
      (attended_atDepth sub depth) m₁ rfl (hrun.attended hm)).2 n v hmake

end Machine

/-! ## Events that the director does not hear -/

/-- What is done does not begin an evaluation. -/
def Unevaluated (n : Machine) (v : World) : Prop :=
  v.evaluations = n.world.evaluations

theorem Director.shutdown_bears_host :
    shutdown.Bears (·.Obeys .hosting) Unevaluated := by
  intro service watch _ m hm
  refine ⟨fun _ m' hrun => ?_, fun n v hmake => ?_⟩
  · cases hknown : m.world.subscription? with
    | none =>
      rw [shutdown_run_idle hknown] at hrun
      cases hrun
      exact hm.withWorld _
    | some id =>
      rw [shutdown_run hknown] at hrun
      cases hrun
      exact (hm.unsubscribe id).withWorld _
  · rcases shutdown_moments hmake with rfl | rfl | rfl
    · rfl
    · rfl
    · rfl

theorem Conduct.hosting_upholds_host : Conduct.hosting.Upholds (·.Obeys .hosting) Unevaluated where
  idle := fun _ => rfl
  write := fun hstep hm => ⟨hstep.evaluations, hm.withWorld _⟩
  emitted := fun _ hm => ⟨rfl, hm.withWorld _⟩
  subscribe := fun _ hl hm => hm.subscribe hl
  unsubscribe := fun id _ hm => hm.unsubscribe id
  registerAction := fun _ ha hm => hm.registerAction _ ha
  registerCondition := fun _ ha hm => hm.registerCondition _ ha
  part := by
    intro β p hp
    cases hp
    exact Director.shutdown_bears_host

/-- Without the director no evaluation begins because of an event, however deep. -/
theorem Machine.Attended.deaf {m n : Machine} {sub : SubscriptionId} {e : Event} {depth : Nat}
    {id : EntityId} {r : Rule} (h : m.Attended sub) (hnone : m.world.subscription? = none) :
    ¬ (Watch.atDepth depth).deliver e (m.record (.emitted e)) n
      (n.world.record (.evaluated id r)) := by
  intro hmake
  have hupholds : (Service.atDepth depth).Upholds (Watch.atDepth depth) (·.Obeys .hosting)
      Unevaluated :=
    Service.upholds_atDepth
      (fun _ hm => hm.bears Conduct.hosting_upholds_host fun _ _ => trivial) depth
  have hsame := (hupholds.deliver ((h.host hnone).withWorld _)).2 n _ hmake
  exact List.cons_ne_self (id, r) n.world.evaluations hsame

end SceneLogic
