import SceneLogic.Proofs.Conduct

/-!
# The moments of a run

A run of a script has a result, but behaviours that it sets off find the worlds in between.
`Script.Makes` tells what is done at each moment, by the script itself and, as far as a `Watch`
reaches, by whatever its requests set off.

* `Script.makes_bind`, `Script.makes_forEach` — the moments of a script that has parts
* `Script.Begins` — what a script comes to
* `Script.Obeys.own` — what a script does by itself is allowed
* `Script.Obeys.moments` — a relation that is kept leads from the start of a run to each of its
  moments, and from there to its end
-/

namespace SceneLogic

/-- What is done while requests are answered. -/
structure Watch where
  deliver : Event → Machine → Machine → World → Prop
  perform : String → Situation → Params → Machine → Machine → World → Prop
  check : String → Situation → Params → Machine → Machine → World → Prop

/-- While the script is carried out, the machine is the first at some moment, and the next thing
that is done makes its world this one. Looking at the world is something that is done, too, and so
is asking for something. -/
def Script.Makes (service : Service) (watch : Watch) (n : Machine) (v : World) :
    {α : Type} → Script α → Machine → Prop
  | _, .done _, m => m = n ∧ m.world = v
  | _, .read k, m => (m = n ∧ m.world = v) ∨ (k m.world).Makes service watch n v m
  | _, .write w k, m => (m = n ∧ w = v) ∨ k.Makes service watch n v { m with world := w }
  | _, .emit type data target k, m =>
    let e := m.event type data target
    (m = n ∧ m.world.record (.emitted e) = v) ∨
      watch.deliver e (m.record (.emitted e)) n v ∨
        ∃ m', service.deliver e (m.record (.emitted e)) = some m' ∧ k.Makes service watch n v m'
  | _, .perform name s params k, m =>
    (m = n ∧ m.world = v) ∨ watch.perform name s params m n v ∨
      ∃ m', service.perform name s params m = some m' ∧ k.Makes service watch n v m'
  | _, .check name s params k, m =>
    (m = n ∧ m.world = v) ∨ watch.check name s params m n v ∨
      ∃ b m', service.check name s params m = some (b, m') ∧ (k b).Makes service watch n v m'
  | _, .subscribe listener k, m =>
    (m = n ∧ m.world = v) ∨
      (k (m.subscribe listener).1).Makes service watch n v (m.subscribe listener).2
  | _, .unsubscribe id k, m =>
    (m = n ∧ m.world = v) ∨
      (k (m.unsubscribe id).1).Makes service watch n v (m.unsubscribe id).2
  | _, .registerAction name action k, m =>
    (m = n ∧ m.world = v) ∨ k.Makes service watch n v (m.registerAction name action)
  | _, .registerCondition name condition k, m =>
    (m = n ∧ m.world = v) ∨ k.Makes service watch n v (m.registerCondition name condition)

/-- While the script is carried out, the world is this one at some moment. -/
def Script.Passes {α : Type} (service : Service) (watch : Watch) (w : World) (s : Script α)
    (m : Machine) : Prop :=
  ∃ n v, n.world = w ∧ s.Makes service watch n v m

namespace Watch

/-- Nobody looks at what is done while requests are answered. -/
def blind : Watch where
  deliver _ _ _ _ := False
  perform _ _ _ _ _ _ := False
  check _ _ _ _ _ _ := False

/-- What listeners do about an event, one after the other. -/
def deliverTo (service : Service) (watch : Watch) (e : Event) (n : Machine) (v : World) :
    List Listener → Machine → Prop
  | [], _ => False
  | listener :: rest, m =>
    (listener e).Makes service watch n v m ∨
      ∃ a m', (listener e).run service m = some (a, m') ∧ deliverTo service watch e n v rest m'

/-- The watch over a service whose answers may in turn make requests of another one. -/
def above (service : Service) (watch : Watch) : Watch where
  deliver e m n v := deliverTo service watch e n v (m.listeners.map (·.2)) m
  perform name s params m n v :=
    ∃ action, Dict.get? m.actions name = some action ∧ (action s params).Makes service watch n v m
  check name s params m n v :=
    ∃ condition, Dict.get? m.conditions name = some condition ∧
      (condition s params).Makes service watch n v m

/-- The watch over all that is done in cascades up to a depth. -/
def atDepth : Nat → Watch
  | 0 => blind
  | depth + 1 => above (Service.atDepth depth) (atDepth depth)

end Watch

namespace Script

variable {service : Service} {watch : Watch} {n : Machine} {v : World} {α β : Type}

/-! ## Scripts that have parts -/

theorem makes_bind {s : Script α} {f : α → Script β} {m : Machine}
    (h : (s.bind f).Makes service watch n v m) :
    s.Makes service watch n v m ∨
      ∃ a m', s.run service m = some (a, m') ∧ (f a).Makes service watch n v m' := by
  induction s generalizing m with
  | done a => exact Or.inr ⟨a, m, rfl, h⟩
  | read k ih => exact h.elim (fun h => Or.inl (Or.inl h)) fun h => (ih _ h).imp_left Or.inr
  | write w k ih => exact h.elim (fun h => Or.inl (Or.inl h)) fun h => (ih h).imp_left Or.inr
  | emit type data target k ih =>
    rcases h with h | h | ⟨m₁, hdeliver, h⟩
    · exact Or.inl (Or.inl h)
    · exact Or.inl (Or.inr (Or.inl h))
    · rcases ih h with h | ⟨a, m', hrun, h⟩
      · exact Or.inl (Or.inr (Or.inr ⟨m₁, hdeliver, h⟩))
      · exact Or.inr ⟨a, m', Option.bind_eq_some_iff.mpr ⟨m₁, hdeliver, hrun⟩, h⟩
  | perform name s params k ih =>
    rcases h with h | h | ⟨m₁, hperform, h⟩
    · exact Or.inl (Or.inl h)
    · exact Or.inl (Or.inr (Or.inl h))
    · rcases ih h with h | ⟨a, m', hrun, h⟩
      · exact Or.inl (Or.inr (Or.inr ⟨m₁, hperform, h⟩))
      · exact Or.inr ⟨a, m', Option.bind_eq_some_iff.mpr ⟨m₁, hperform, hrun⟩, h⟩
  | check name s params k ih =>
    rcases h with h | h | ⟨b, m₁, hcheck, h⟩
    · exact Or.inl (Or.inl h)
    · exact Or.inl (Or.inr (Or.inl h))
    · rcases ih b h with h | ⟨a, m', hrun, h⟩
      · exact Or.inl (Or.inr (Or.inr ⟨b, m₁, hcheck, h⟩))
      · exact Or.inr ⟨a, m', Option.bind_eq_some_iff.mpr ⟨(b, m₁), hcheck, hrun⟩, h⟩
  | subscribe listener k _ ih =>
    exact h.elim (fun h => Or.inl (Or.inl h)) fun h => (ih _ h).imp_left Or.inr
  | unsubscribe id k ih =>
    exact h.elim (fun h => Or.inl (Or.inl h)) fun h => (ih _ h).imp_left Or.inr
  | registerAction name action k _ ih =>
    exact h.elim (fun h => Or.inl (Or.inl h)) fun h => (ih h).imp_left Or.inr
  | registerCondition name condition k _ ih =>
    exact h.elim (fun h => Or.inl (Or.inl h)) fun h => (ih h).imp_left Or.inr

/-- What is done in the first part of a script is done in the script. -/
theorem makes_bind_of_first {s : Script α} {f : α → Script β} {m : Machine}
    (h : s.Makes service watch n v m) (hne : n.world ≠ v) :
    (s.bind f).Makes service watch n v m := by
  induction s generalizing m with
  | done a => exact absurd (h.1 ▸ h.2) hne
  | read k ih => exact h.imp_right (ih _)
  | write w k ih => exact h.imp_right ih
  | emit type data target k ih =>
    exact h.imp_right (Or.imp_right fun ⟨m', hdeliver, h⟩ => ⟨m', hdeliver, ih h⟩)
  | perform name s params k ih =>
    exact h.imp_right (Or.imp_right fun ⟨m', hperform, h⟩ => ⟨m', hperform, ih h⟩)
  | check name s params k ih =>
    exact h.imp_right (Or.imp_right fun ⟨b, m', hcheck, h⟩ => ⟨b, m', hcheck, ih b h⟩)
  | subscribe listener k _ ih => exact h.imp_right (ih _)
  | unsubscribe id k ih => exact h.imp_right (ih _)
  | registerAction name action k _ ih => exact h.imp_right ih
  | registerCondition name condition k _ ih => exact h.imp_right ih

/-- What is done after a part of a script is done when the part has ended. -/
theorem makes_bind_of_run {s : Script α} {f : α → Script β} {a : α} {m m' : Machine}
    (hrun : s.run service m = some (a, m')) (h : (f a).Makes service watch n v m') :
    (s.bind f).Makes service watch n v m := by
  induction s generalizing m with
  | done b =>
    cases hrun
    exact h
  | read k ih => exact Or.inr (ih _ hrun h)
  | write w k ih => exact Or.inr (ih hrun h)
  | emit type data target k ih =>
    obtain ⟨m₁, hdeliver, hrun⟩ := Option.bind_eq_some_iff.mp hrun
    exact Or.inr (Or.inr ⟨m₁, hdeliver, ih hrun h⟩)
  | perform name s params k ih =>
    obtain ⟨m₁, hperform, hrun⟩ := Option.bind_eq_some_iff.mp hrun
    exact Or.inr (Or.inr ⟨m₁, hperform, ih hrun h⟩)
  | check name s params k ih =>
    obtain ⟨⟨b, m₁⟩, hcheck, hrun⟩ := Option.bind_eq_some_iff.mp hrun
    exact Or.inr (Or.inr ⟨b, m₁, hcheck, ih b hrun h⟩)
  | subscribe listener k _ ih => exact Or.inr (ih _ hrun h)
  | unsubscribe id k ih => exact Or.inr (ih _ hrun h)
  | registerAction name action k _ ih => exact Or.inr (ih hrun h)
  | registerCondition name condition k _ ih => exact Or.inr (ih hrun h)

theorem forEach_append (earlier later : List α) (body : α → Script Unit) :
    forEach (earlier ++ later) body = (forEach earlier body).bind fun _ => forEach later body := by
  induction earlier with
  | nil => rfl
  | cons a rest ih =>
    rw [List.cons_append, forEach, ih, forEach, bind_assoc]

/-- What is done in a loop is done about one of its items, after those before it. -/
theorem makes_forEach {items : List α} {body : α → Script Unit} {m : Machine}
    (h : (forEach items body).Makes service watch n v m) (hne : n.world ≠ v) :
    ∃ earlier a later m', items = earlier ++ a :: later ∧
      (forEach earlier body).run service m = some ((), m') ∧
      (body a).Makes service watch n v m' := by
  induction items generalizing m with
  | nil => exact absurd (h.1 ▸ h.2) hne
  | cons b rest ih =>
    rcases makes_bind h with h | ⟨_, m₁, hrun, h⟩
    · exact ⟨[], b, rest, m, rfl, rfl, h⟩
    · obtain ⟨earlier, a, later, m', rfl, hearlier, h⟩ := ih h
      refine ⟨b :: earlier, a, later, m', rfl, ?_, h⟩
      rw [forEach, run_bind, hrun]
      exact hearlier

/-! ## What a script comes to -/

/-- While the script is carried out, its rest begins at some moment with another script, and the
machine is this one. -/
inductive Begins (service : Service) {β : Type} (p : Script β) (m₀ : Machine) :
    {α : Type} → Script α → Machine → Prop
  | here {α : Type} (k : β → Script α) : Begins service p m₀ (p.bind k) m₀
  | read {α : Type} {k : World → Script α} {m : Machine} :
      Begins service p m₀ (k m.world) m → Begins service p m₀ (.read k) m
  | write {α : Type} {w : World} {k : Script α} {m : Machine} :
      Begins service p m₀ k { m with world := w } → Begins service p m₀ (.write w k) m
  | emit {α : Type} {type : String} {data : Params} {target : Option EntityId} {k : Script α}
      {m m' : Machine} :
      service.deliver (m.event type data target)
        (m.record (.emitted (m.event type data target))) = some m' →
      Begins service p m₀ k m' → Begins service p m₀ (.emit type data target k) m
  | perform {α : Type} {name : String} {s : Situation} {params : Params} {k : Script α}
      {m m' : Machine} : service.perform name s params m = some m' →
      Begins service p m₀ k m' → Begins service p m₀ (.perform name s params k) m
  | check {α : Type} {name : String} {s : Situation} {params : Params} {k : Bool → Script α}
      {b : Bool} {m m' : Machine} : service.check name s params m = some (b, m') →
      Begins service p m₀ (k b) m' → Begins service p m₀ (.check name s params k) m
  | subscribe {α : Type} {listener : Listener} {k : SubscriptionId → Script α} {m : Machine} :
      Begins service p m₀ (k (m.subscribe listener).1) (m.subscribe listener).2 →
      Begins service p m₀ (.subscribe listener k) m
  | unsubscribe {α : Type} {id : SubscriptionId} {k : Bool → Script α} {m : Machine} :
      Begins service p m₀ (k (m.unsubscribe id).1) (m.unsubscribe id).2 →
      Begins service p m₀ (.unsubscribe id k) m
  | registerAction {α : Type} {name : String} {action : Action} {k : Script α} {m : Machine} :
      Begins service p m₀ k (m.registerAction name action) →
      Begins service p m₀ (.registerAction name action k) m
  | registerCondition {α : Type} {name : String} {condition : Condition} {k : Script α}
      {m : Machine} : Begins service p m₀ k (m.registerCondition name condition) →
      Begins service p m₀ (.registerCondition name condition k) m

section Begins

variable {γ : Type} {p : Script γ} {m₀ m m' : Machine}

theorem begins_self (p : Script γ) (m : Machine) : p.Begins service m p m := by
  have h : p.Begins service m (p.bind .done) m := .here .done
  rwa [bind_done] at h

/-- What a script comes to, it comes to as the first part of another one, too. -/
theorem Begins.bind {s : Script α} (h : p.Begins service m₀ s m) (f : α → Script β) :
    p.Begins service m₀ (s.bind f) m := by
  induction h with
  | here k =>
    rw [bind_assoc]
    exact .here _
  | read _ ih => exact .read ih
  | write _ ih => exact .write ih
  | emit hdeliver _ ih => exact .emit hdeliver ih
  | perform hperform _ ih => exact .perform hperform ih
  | check hcheck _ ih => exact .check hcheck ih
  | subscribe _ ih => exact .subscribe ih
  | unsubscribe _ ih => exact .unsubscribe ih
  | registerAction _ ih => exact .registerAction ih
  | registerCondition _ ih => exact .registerCondition ih

theorem Begins.after {s : Script α} {f : α → Script β} {a : α}
    (hrun : s.run service m = some (a, m')) (h : p.Begins service m₀ (f a) m') :
    p.Begins service m₀ (s.bind f) m := by
  induction s generalizing m with
  | done b =>
    cases hrun
    exact h
  | read k ih => exact .read (ih _ hrun h)
  | write w k ih => exact .write (ih hrun h)
  | emit type data target k ih =>
    obtain ⟨m₁, hdeliver, hrun⟩ := Option.bind_eq_some_iff.mp hrun
    exact .emit hdeliver (ih hrun h)
  | perform name s params k ih =>
    obtain ⟨m₁, hperform, hrun⟩ := Option.bind_eq_some_iff.mp hrun
    exact .perform hperform (ih hrun h)
  | check name s params k ih =>
    obtain ⟨⟨b, m₁⟩, hcheck, hrun⟩ := Option.bind_eq_some_iff.mp hrun
    exact .check hcheck (ih b hrun h)
  | subscribe listener k _ ih => exact .subscribe (ih _ hrun h)
  | unsubscribe id k ih => exact .unsubscribe (ih _ hrun h)
  | registerAction name action k _ ih => exact .registerAction (ih hrun h)
  | registerCondition name condition k _ ih => exact .registerCondition (ih hrun h)

end Begins

/-! ## Scripts that obey -/

/-- What a script does by itself is allowed, but for the events that are taken down. -/
theorem Obeys.own {c : Conduct} (hrely : ∀ u v, c.rely u v)
    (hpart : ∀ {β : Type} {p : Script β}, ¬ c.part p) {s : Script α} {w : World}
    (hs : s.Obeys c w) : ∀ m : Machine, m.world = w → s.Makes service .blind n v m →
      n.world = v ∨ c.step n.world v ∨ ∃ e, v = n.world.record (.emitted e) := by
  induction hs with
  | done =>
    rintro m - ⟨rfl, hv⟩
    exact Or.inl hv
  | read _ ih =>
    rintro m hw (⟨rfl, hv⟩ | h)
    · exact Or.inl hv
    · exact ih m hw (hw ▸ h)
  | write hstep _ ih =>
    rintro m hw (⟨rfl, rfl⟩ | h)
    · exact Or.inr (Or.inl (hw ▸ hstep))
    · exact ih _ rfl h
  | emit _ _ ih =>
    rintro m - (⟨rfl, rfl⟩ | h | ⟨m', -, h⟩)
    · exact Or.inr (Or.inr ⟨_, rfl⟩)
    · exact absurd h id
    · exact ih _ (hrely _ _) m' rfl h
  | perform _ _ ih =>
    rintro m - (⟨rfl, hv⟩ | h | ⟨m', -, h⟩)
    · exact Or.inl hv
    · exact absurd h id
    · exact ih _ (hrely _ _) m' rfl h
  | check _ _ ih =>
    rintro m - (⟨rfl, hv⟩ | h | ⟨b, m', -, h⟩)
    · exact Or.inl hv
    · exact absurd h id
    · exact ih b _ (hrely _ _) m' rfl h
  | subscribe _ _ _ _ ih =>
    rintro m hw (⟨rfl, hv⟩ | h)
    · exact Or.inl hv
    · exact ih _ (m.subscribe _).2 hw h
  | unsubscribe _ _ ih =>
    rintro m hw (⟨rfl, hv⟩ | h)
    · exact Or.inl hv
    · exact ih _ (m.unsubscribe _).2 hw h
  | registerAction _ _ _ _ ih =>
    rintro m hw (⟨rfl, hv⟩ | h)
    · exact Or.inl hv
    · exact ih (m.registerAction _ _) hw h
  | registerCondition _ _ _ _ ih =>
    rintro m hw (⟨rfl, hv⟩ | h)
    · exact Or.inl hv
    · exact ih (m.registerCondition _ _) hw h
  | part hp => exact absurd hp hpart

end Script

/-- A relation that the answers of a service keep leads from each request to each moment of its
answer, and from there to the end of the answer. -/
structure Watch.Keeps (c : Conduct) (G : World → World → Prop) (service : Service)
    (watch : Watch) : Prop where
  deliver : ∀ {e m m' n v}, m.Obeys c → service.deliver e m = some m' → watch.deliver e m n v →
    G m.world n.world ∧ G n.world m'.world
  perform : ∀ {name s params m m' n v}, m.Obeys c → service.perform name s params m = some m' →
    watch.perform name s params m n v → G m.world n.world ∧ G n.world m'.world
  check : ∀ {name s params m b m' n v}, m.Obeys c →
    service.check name s params m = some (b, m') → watch.check name s params m n v →
    G m.world n.world ∧ G n.world m'.world

section Moments

variable {service : Service} {watch : Watch} {c c' : Conduct} {G : World → World → Prop}

/-- What is asked first, and answered by way of some moments, leads on to those of the rest. -/
theorem Machine.Leads.through {Q P : Machine → World → Prop} {m m₁ m' : Machine} (hG : c.Keeps G)
    (hfirst : G m.world m₁.world)
    (hanswer : ∀ n v, Q n v → G m.world n.world ∧ G n.world m₁.world)
    (hrest : m₁.Leads c G m' ∧ ∀ n v, P n v → G m₁.world n.world ∧ G n.world m'.world) :
    m.Leads c G m' ∧
      ∀ n v, m = n ∨ Q n v ∨ P n v → G m.world n.world ∧ G n.world m'.world := by
  obtain ⟨hlead, hrest⟩ := hrest
  have hall : G m.world m'.world := hG.trans hfirst hlead.2
  refine ⟨⟨hlead.1, hall⟩, ?_⟩
  rintro n v (rfl | hmake | hmake)
  · exact ⟨hG.refl _, hall⟩
  · obtain ⟨hbefore, hafter⟩ := hanswer n v hmake
    exact ⟨hbefore, hG.trans hafter hlead.2⟩
  · obtain ⟨hbefore, hafter⟩ := hrest n v hmake
    exact ⟨hG.trans hfirst hbefore, hafter⟩

/-- What is done without asking anybody leads on to the moments of the rest. -/
theorem Machine.Leads.onward {P : Machine → World → Prop} {m m₁ m' : Machine} (hG : c.Keeps G)
    (hfirst : G m.world m₁.world)
    (hrest : m₁.Leads c G m' ∧ ∀ n v, P n v → G m₁.world n.world ∧ G n.world m'.world) :
    m.Leads c G m' ∧ ∀ n v, m = n ∨ P n v → G m.world n.world ∧ G n.world m'.world := by
  obtain ⟨hlead, hmoments⟩ :=
    Leads.through (Q := fun _ _ => False) hG hfirst (fun _ _ h => absurd h id) hrest
  exact ⟨hlead, fun n v hmake => hmoments n v (hmake.imp_right Or.inr)⟩

/-- A relation that a script and the behaviours keep leads from the start of the run to each of its
moments, and from there to its end. The script may do other things than the behaviours. -/
theorem Script.Obeys.moments (hG : c.Keeps G) (hstep : ∀ {u v}, c'.step u v → G u v)
    (hrely : ∀ u v, c'.rely u v) (hpart : ∀ {β : Type} {p : Script β}, ¬ c'.part p)
    (hregisters : c'.registers → ∀ {β : Type} {p : Script β} {w}, p.Obeys c' w → p.Obeys c w)
    (hservice : service.Keeps c G) (hwatch : watch.Keeps c G service) {α : Type} {s : Script α}
    {w : World} (hs : s.Obeys c' w) :
    ∀ m : Machine, m.world = w → m.Obeys c → ∀ {a m'}, s.run service m = some (a, m') →
      m.Leads c G m' ∧
        ∀ n v, s.Makes service watch n v m → G m.world n.world ∧ G n.world m'.world := by
  induction hs with
  | done =>
    intro m _ hm a m' h
    rw [run] at h
    cases h
    refine ⟨.refl hG.toSteady hm, ?_⟩
    rintro n v ⟨rfl, -⟩
    exact ⟨hG.refl _, hG.refl _⟩
  | read _ ih =>
    intro m hw hm a m' h
    rw [run, hw] at h
    obtain ⟨hlead, hmoments⟩ := Machine.Leads.onward hG (hG.refl _) (ih m hw hm h)
    refine ⟨hlead, fun n v hmake => hmoments n v (Or.imp And.left (fun hmake => ?_) hmake)⟩
    exact hw ▸ hmake
  | write hwrite _ ih =>
    intro m hw hm a m' h
    rw [run] at h
    have hfirst := hstep hwrite
    rw [← hw] at hfirst
    obtain ⟨hlead, hmoments⟩ := Machine.Leads.onward hG hfirst (ih _ rfl (hm.withWorld _) h)
    exact ⟨hlead, fun n v hmake => hmoments n v (Or.imp_left And.left hmake)⟩
  | @emit _ type data target _ _ _ _ ih =>
    intro m _ hm a m' h
    rw [run] at h
    obtain ⟨m₁, hdeliver, h⟩ := Option.bind_eq_some_iff.mp h
    have hemitted := hG.emitted m.world (m.event type data target)
    obtain ⟨hm₁, hanswer⟩ := hservice.deliver (hm.withWorld _) hdeliver
    obtain ⟨hlead, hmoments⟩ := Machine.Leads.through hG (hG.trans hemitted hanswer)
      (fun n v hmake => (hwatch.deliver (hm.withWorld _) hdeliver hmake).imp_left
        (hG.trans hemitted))
      (ih _ (hrely _ _) m₁ rfl hm₁ h)
    refine ⟨hlead, fun n v hmake => hmoments n v ?_⟩
    rcases hmake with ⟨hn, -⟩ | hmake | ⟨m₂, hdeliver', hmake⟩
    · exact Or.inl hn
    · exact Or.inr (Or.inl hmake)
    · cases hdeliver.symm.trans hdeliver'
      exact Or.inr (Or.inr hmake)
  | perform _ _ ih =>
    intro m _ hm a m' h
    rw [run] at h
    obtain ⟨m₁, hperform, h⟩ := Option.bind_eq_some_iff.mp h
    obtain ⟨hm₁, hanswer⟩ := hservice.perform hm hperform
    obtain ⟨hlead, hmoments⟩ := Machine.Leads.through hG hanswer
      (fun n v hmake => hwatch.perform hm hperform hmake) (ih _ (hrely _ _) m₁ rfl hm₁ h)
    refine ⟨hlead, fun n v hmake => hmoments n v ?_⟩
    rcases hmake with ⟨hn, -⟩ | hmake | ⟨m₂, hperform', hmake⟩
    · exact Or.inl hn
    · exact Or.inr (Or.inl hmake)
    · cases hperform.symm.trans hperform'
      exact Or.inr (Or.inr hmake)
  | check _ _ ih =>
    intro m _ hm a m' h
    rw [run] at h
    obtain ⟨⟨b, m₁⟩, hcheck, h⟩ := Option.bind_eq_some_iff.mp h
    obtain ⟨hm₁, hanswer⟩ := hservice.check hm hcheck
    obtain ⟨hlead, hmoments⟩ := Machine.Leads.through hG hanswer
      (fun n v hmake => hwatch.check hm hcheck hmake) (ih b _ (hrely _ _) m₁ rfl hm₁ h)
    refine ⟨hlead, fun n v hmake => hmoments n v ?_⟩
    rcases hmake with ⟨hn, -⟩ | hmake | ⟨b', m₂, hcheck', hmake⟩
    · exact Or.inl hn
    · exact Or.inr (Or.inl hmake)
    · cases hcheck.symm.trans hcheck'
      exact Or.inr (Or.inr hmake)
  | subscribe hr hl _ _ ih =>
    intro m hw hm a m' h
    have hm₁ := hm.subscribe fun e w' => hregisters hr (hl e w')
    obtain ⟨hlead, hmoments⟩ :=
      Machine.Leads.onward hG (hG.refl m.world) (ih _ (m.subscribe _).2 hw hm₁ h)
    exact ⟨hlead, fun n v hmake => hmoments n v (Or.imp_left And.left hmake)⟩
  | unsubscribe _ _ ih =>
    intro m hw hm a m' h
    obtain ⟨hlead, hmoments⟩ :=
      Machine.Leads.onward hG (hG.refl m.world) (ih _ (m.unsubscribe _).2 hw (hm.unsubscribe _) h)
    exact ⟨hlead, fun n v hmake => hmoments n v (Or.imp_left And.left hmake)⟩
  | @registerAction _ name _ _ _ hr ha _ _ ih =>
    intro m hw hm a m' h
    have hm₁ := hm.registerAction name fun s params w' => hregisters hr (ha s params w')
    obtain ⟨hlead, hmoments⟩ :=
      Machine.Leads.onward hG (hG.refl m.world) (ih (m.registerAction _ _) hw hm₁ h)
    exact ⟨hlead, fun n v hmake => hmoments n v (Or.imp_left And.left hmake)⟩
  | @registerCondition _ name _ _ _ hr ha _ _ ih =>
    intro m hw hm a m' h
    have hm₁ := hm.registerCondition name fun s params w' => hregisters hr (ha s params w')
    obtain ⟨hlead, hmoments⟩ :=
      Machine.Leads.onward hG (hG.refl m.world) (ih (m.registerCondition _ _) hw hm₁ h)
    exact ⟨hlead, fun n v hmake => hmoments n v (Or.imp_left And.left hmake)⟩
  | part hp => exact absurd hp hpart

variable (hG : c.Keeps G) (hrely : ∀ u v, c.rely u v)
  (hpart : ∀ {β : Type} {p : Script β}, ¬ c.part p)

include hG hrely hpart

/-- The moments of a script of which no more is known than of the behaviours. -/
theorem Script.Obeys.moments_self (hservice : service.Keeps c G) (hwatch : watch.Keeps c G service)
    {α : Type} {s : Script α} {m m' : Machine} (hs : s.Obeys c m.world) (hm : m.Obeys c) {a : α}
    (hrun : s.run service m = some (a, m')) {n : Machine} {v : World}
    (hmake : s.Makes service watch n v m) : G m.world n.world ∧ G n.world m'.world :=
  (hs.moments hG hG.step hrely hpart (fun _ _ _ _ hs => hs) hservice hwatch m rfl hm hrun).2
    n v hmake

namespace Watch

theorem Keeps.deliverTo (hservice : service.Keeps c G) (hwatch : watch.Keeps c G service)
    {e : Event} {listeners : List Listener} (hl : ∀ l ∈ listeners, ∀ w, (l e).Obeys c w)
    {m m' : Machine} (hm : m.Obeys c) (hrun : service.deliverTo e listeners m = some m')
    {n : Machine} {v : World} (hmake : Watch.deliverTo service watch e n v listeners m) :
    G m.world n.world ∧ G n.world m'.world := by
  induction listeners generalizing m with
  | nil => exact absurd hmake id
  | cons l rest ih =>
    rw [Service.deliverTo] at hrun
    obtain ⟨⟨a, m₁⟩, hfirst, hrest⟩ := Option.bind_eq_some_iff.mp hrun
    have hl' : ∀ l' ∈ rest, ∀ w, (l' e).Obeys c w := fun l' h => hl l' (List.mem_cons_of_mem _ h)
    have hlead := Script.run_obeys hG hservice (hl l List.mem_cons_self _) m rfl hm hfirst
    rcases hmake with hmake | ⟨a', m₂, hfirst', hmake⟩
    · obtain ⟨hbefore, hafter⟩ :=
        (hl l List.mem_cons_self _).moments_self hG hrely hpart hservice hwatch hm hfirst hmake
      exact ⟨hbefore, hG.trans hafter (Service.deliverTo_leads hG hservice hl' hlead.1 hrest).2⟩
    · cases hfirst.symm.trans hfirst'
      obtain ⟨hbefore, hafter⟩ := ih hl' hlead.1 hrest hmake
      exact ⟨hG.trans hlead.2 hbefore, hafter⟩

theorem Keeps.above (hservice : service.Keeps c G) (hwatch : watch.Keeps c G service) :
    (above service watch).Keeps c G service.above where
  deliver := by
    intro e m m' n v hm hrun hmake
    refine Keeps.deliverTo hG hrely hpart hservice hwatch ?_ hm hrun hmake
    intro l hl w
    obtain ⟨entry, hentry, rfl⟩ := List.mem_map.mp hl
    exact hm.listeners entry hentry e w
  perform := by
    rintro name s params m m' n v hm hrun ⟨action, hget, hmake⟩
    simp only [Service.above, hget] at hrun
    obtain ⟨⟨a, m₁⟩, haction, rfl⟩ := Option.map_eq_some_iff.mp hrun
    exact (hm.actions _ (Dict.mem_of_get? hget) s params _).moments_self hG hrely hpart hservice
      hwatch hm haction hmake
  check := by
    rintro name s params m b m' n v hm hrun ⟨condition, hget, hmake⟩
    simp only [Service.above, hget] at hrun
    obtain ⟨⟨a, m₁⟩, hcondition, heq⟩ := Option.map_eq_some_iff.mp hrun
    cases heq
    exact (hm.conditions _ (Dict.mem_of_get? hget) s params _).moments_self hG hrely hpart hservice
      hwatch hm hcondition hmake

/-- However deep scripts set each other off, the relation reaches all moments. -/
theorem keeps_atDepth : ∀ depth, (atDepth depth).Keeps c G (Service.atDepth depth)
  | 0 => ⟨fun _ _ h => absurd h id, fun _ _ h => absurd h id, fun _ _ h => absurd h id⟩
  | depth + 1 =>
    have below := Keeps.above hG hrely hpart (Service.keeps_atDepth hG depth)
      (keeps_atDepth depth)
    ⟨below.deliver, below.perform, below.check⟩

end Watch

end Moments

end SceneLogic
