import SceneLogic.Proofs.Conduct

/-!
# Scripts that come to an end

A run has no result if scripts set each other off deeper than it may go.

* `Service.atDepth_extends` — what has a result at one depth has the same result at every greater
  one
* `Service.Answers` — a service answers all requests that a conduct allows, in all worlds with a
  property that the conduct relies on
* `Script.Obeys.returns` — then every script that obeys has a result
-/

namespace SceneLogic

/-! ## Greater depths -/

namespace Service

/-- Whatever one service answers, another one answers alike. -/
structure Extends (service service' : Service) : Prop where
  deliver : ∀ {e m m'}, service.deliver e m = some m' → service'.deliver e m = some m'
  perform : ∀ {name s params m m'}, service.perform name s params m = some m' →
    service'.perform name s params m = some m'
  check : ∀ {name s params m r}, service.check name s params m = some r →
    service'.check name s params m = some r

variable {service service' : Service}

theorem Extends.refl (service : Service) : service.Extends service :=
  ⟨fun h => h, fun h => h, fun h => h⟩

theorem Extends.trans {service'' : Service} (h : service.Extends service')
    (h' : service'.Extends service'') : service.Extends service'' :=
  ⟨fun hr => h'.deliver (h.deliver hr), fun hr => h'.perform (h.perform hr),
    fun hr => h'.check (h.check hr)⟩

theorem Extends.run {α : Type} (h : service.Extends service') {s : Script α} {m : Machine}
    {r : α × Machine} (hrun : s.run service m = some r) : s.run service' m = some r := by
  induction s generalizing m with
  | done a => exact hrun
  | read k ih => exact ih _ hrun
  | write w k ih => exact ih hrun
  | emit type data target k ih =>
    rw [Script.run] at hrun ⊢
    obtain ⟨m₁, hdeliver, hrun⟩ := Option.bind_eq_some_iff.mp hrun
    exact Option.bind_eq_some_iff.mpr ⟨m₁, h.deliver hdeliver, ih hrun⟩
  | perform name s params k ih =>
    rw [Script.run] at hrun ⊢
    obtain ⟨m₁, hperform, hrun⟩ := Option.bind_eq_some_iff.mp hrun
    exact Option.bind_eq_some_iff.mpr ⟨m₁, h.perform hperform, ih hrun⟩
  | check name s params k ih =>
    rw [Script.run] at hrun ⊢
    obtain ⟨⟨b, m₁⟩, hcheck, hrun⟩ := Option.bind_eq_some_iff.mp hrun
    exact Option.bind_eq_some_iff.mpr ⟨(b, m₁), h.check hcheck, ih b hrun⟩
  | subscribe listener k _ ih => exact ih _ hrun
  | unsubscribe id k ih => exact ih _ hrun
  | registerAction name action k _ ih => exact ih hrun
  | registerCondition name condition k _ ih => exact ih hrun

theorem Extends.deliverTo (h : service.Extends service') {e : Event} {listeners : List Listener}
    {m m' : Machine} (hdeliver : service.deliverTo e listeners m = some m') :
    service'.deliverTo e listeners m = some m' := by
  induction listeners generalizing m with
  | nil => exact hdeliver
  | cons l rest ih =>
    rw [Service.deliverTo] at hdeliver ⊢
    obtain ⟨⟨a, m₁⟩, hrun, hdeliver⟩ := Option.bind_eq_some_iff.mp hdeliver
    exact Option.bind_eq_some_iff.mpr ⟨(a, m₁), h.run hrun, ih hdeliver⟩

theorem Extends.above (h : service.Extends service') : service.above.Extends service'.above where
  deliver hdeliver := h.deliverTo hdeliver
  perform := by
    intro name s params m m' hperform
    simp only [Service.above] at hperform ⊢
    split at hperform
    · exact hperform
    · obtain ⟨r, hrun, heq⟩ := Option.map_eq_some_iff.mp hperform
      exact Option.map_eq_some_iff.mpr ⟨r, h.run hrun, heq⟩
  check := by
    intro name s params m r hcheck
    simp only [Service.above] at hcheck ⊢
    split at hcheck
    · exact hcheck
    · obtain ⟨r, hrun, heq⟩ := Option.map_eq_some_iff.mp hcheck
      exact Option.map_eq_some_iff.mpr ⟨r, h.run hrun, heq⟩

theorem atDepth_extends_succ (depth : Nat) :
    (atDepth depth).Extends (atDepth (depth + 1)) := by
  induction depth with
  | zero => exact ⟨nofun, nofun, nofun⟩
  | succ depth ih => exact ⟨ih.above.deliver, ih.above.perform, ih.above.check⟩

/-- What has a result has the same result at every greater depth. -/
theorem atDepth_extends {depth depth' : Nat} (h : depth ≤ depth') :
    (atDepth depth).Extends (atDepth depth') := by
  induction h with
  | refl => exact .refl _
  | step _ ih => exact ih.trans (atDepth_extends_succ _)

end Service

/-- A registered action is performed, whatever comes of it. -/
theorem Script.act_run {m m' : Machine} {name : String} {action : Action} {s : Situation}
    {params : Params} {depth : Nat} {r : Except Failure Unit}
    (h : Dict.get? m.actions name = some action)
    (hrun : (action s params).run (Service.atDepth depth) m = some (r, m')) :
    (act name s params).run (Service.atDepth (depth + 1)) m = some ((), m') := by
  simp only [act, run, Service.atDepth, Service.above, h, hrun]
  rfl

/-- The script has a result, which no greater depth changes. -/
def Script.Ends {α : Type} (s : Script α) (m : Machine) : Prop :=
  ∃ depth r, ∀ more, s.run (Service.atDepth (depth + more)) m = some r

theorem Script.ends_of_run {α : Type} {s : Script α} {m : Machine} {depth : Nat} {r : α × Machine}
    (h : s.run (Service.atDepth depth) m = some r) : s.Ends m :=
  ⟨depth, r, fun more => (Service.atDepth_extends (Nat.le_add_right depth more)).run h⟩

/-- Two results of a script are the same, whatever the depths. -/
theorem Script.run_unique {α : Type} {s : Script α} {m : Machine} {depth depth' : Nat}
    {r r' : α × Machine} (h : s.run (Service.atDepth depth) m = some r)
    (h' : s.run (Service.atDepth depth') m = some r') : r = r' := by
  have hmax := (Service.atDepth_extends (Nat.le_max_left depth depth')).run h
  have hmax' := (Service.atDepth_extends (Nat.le_max_right depth depth')).run h'
  exact Option.some.inj (hmax.symm.trans hmax')

/-! ## Results -/

/-- Carried out from the world the script has a result, and leaves a world that is related to
it. Nobody has come to listen, and nothing was registered. -/
def Script.Returns {α : Type} (service : Service) (m : Machine) (R : World → World → Prop)
    (s : Script α) (w : World) : Prop :=
  ∃ a w', s.run service { m with world := w } = some (a, { m with world := w' }) ∧ R w w'

/-- In every world of a kind all requests that a conduct allows are answered, and lead to what it
relies on. -/
structure Service.Answers (service : Service) (m : Machine) (c : Conduct) (P : World → Prop) :
    Prop where
  deliver : ∀ e w, c.announces e.target → P w → ∃ w',
    service.deliver e { m with world := w } = some { m with world := w' } ∧ c.rely w w'
  perform : ∀ name s params w, c.performs → P w → ∃ w',
    service.perform name s params { m with world := w } = some { m with world := w' } ∧
      c.rely w w'
  check : ∀ name s params w, c.checks → P w → ∃ b w',
    service.check name s params { m with world := w } = some (b, { m with world := w' }) ∧
      c.rely w w'
  part : ∀ {β : Type} {p : Script β} w, c.part p → P w → p.Returns service m c.rely w

namespace Script

variable {service : Service} {m : Machine} {R : World → World → Prop} {α β : Type}

theorem Returns.bind (hR : Steady R) {s : Script α} {f : α → Script β} {w : World}
    (hs : s.Returns service m R w) (hf : ∀ a w', R w w' → (f a).Returns service m R w') :
    (s.bind f).Returns service m R w := by
  obtain ⟨a, w₁, hrun₁, hrel₁⟩ := hs
  obtain ⟨b, w₂, hrun₂, hrel₂⟩ := hf a w₁ hrel₁
  refine ⟨b, w₂, ?_, hR.trans hrel₁ hrel₂⟩
  rw [run_bind, hrun₁]
  exact hrun₂

/-- A script that obeys has a result if all that its conduct allows is answered. -/
theorem Obeys.returns {c : Conduct} {P : World → Prop} (hc : c.Relies) (hclosed : ¬ c.registers)
    (hemitted : ∀ w e, c.rely w (w.record (.emitted e)))
    (hP : ∀ {v w}, P v → c.rely v w → P w) (hservice : service.Answers m c P) {s : Script α}
    {w : World} (hs : s.Obeys c w) (hw : P w) : s.Returns service m c.rely w := by
  induction hs with
  | done => exact ⟨_, _, rfl, hc.refl _⟩
  | read _ ih => exact ih hw
  | write hstep _ ih =>
    obtain ⟨a, w', hrun, hrel⟩ := ih (hP hw (hc.step hstep))
    exact ⟨a, w', hrun, hc.trans (hc.step hstep) hrel⟩
  | @emit _ type data target k w he _ ih =>
    have hrecord := hemitted w (Machine.event { m with world := w } type data target)
    obtain ⟨v, hdeliver, hv⟩ :=
      hservice.deliver (Machine.event { m with world := w } type data target) _ he (hP hw hrecord)
    have hv := hc.trans hrecord hv
    obtain ⟨a, w', hrun, hrel⟩ := ih v hv (hP hw hv)
    exact ⟨a, w', Option.bind_eq_some_iff.mpr ⟨_, hdeliver, hrun⟩, hc.trans hv hrel⟩
  | perform hp _ ih =>
    obtain ⟨v, hperform, hv⟩ := hservice.perform _ _ _ _ hp hw
    obtain ⟨a, w', hrun, hrel⟩ := ih v hv (hP hw hv)
    exact ⟨a, w', Option.bind_eq_some_iff.mpr ⟨_, hperform, hrun⟩, hc.trans hv hrel⟩
  | check hq _ ih =>
    obtain ⟨b, v, hcheck, hv⟩ := hservice.check _ _ _ _ hq hw
    obtain ⟨a, w', hrun, hrel⟩ := ih b v hv (hP hw hv)
    exact ⟨a, w', Option.bind_eq_some_iff.mpr ⟨_, hcheck, hrun⟩, hc.trans hv hrel⟩
  -- Whatever changes the machine apart from its world is not allowed.
  | subscribe hr => exact absurd hr hclosed
  | unsubscribe hr => exact absurd hr hclosed
  | registerAction hr => exact absurd hr hclosed
  | registerCondition hr => exact absurd hr hclosed
  | part hp _ ih =>
    exact .bind hc.toSteady (hservice.part _ hp hw) fun b v hv => ih b v hv (hP hw hv)

end Script

end SceneLogic
