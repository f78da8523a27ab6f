import SceneLogic.Proofs.Moments

/-!
# What holds at all moments

Some properties are about the machine as a whole, such as who listens to events. `Conduct.Upholds`
says that nothing which is allowed breaks such a property. Then it holds at the end of each script
that obeys, and what it says of a moment is true of each moment that comes on the way there,
whether or not the script ever ends.

* `Script.Upholds`, `Script.Bears` — one script upholds the property, by the answers of one service
  or of any
* `Script.Obeys.upholds` — scripts that obey uphold it
* `Service.upholds_atDepth` — however deep they set each other off
* `Machine.Visits.holds` — what is about the world alone, at all moments of a run
-/

namespace SceneLogic

/-- A property of the machine holds when the script has ended, and at each moment of it there is
something that it says. -/
def Script.Upholds {α : Type} (service : Service) (watch : Watch) (I : Machine → Prop)
    (J : Machine → World → Prop) (s : Script α) (m : Machine) : Prop :=
  (∀ a m', s.run service m = some (a, m') → I m') ∧
    ∀ n v, s.Makes service watch n v m → J n v

/-- The same of the answers to requests that are made while the property holds. -/
structure Service.Upholds (service : Service) (watch : Watch) (I : Machine → Prop)
    (J : Machine → World → Prop) : Prop where
  deliver : ∀ {e m}, I m → (∀ m', service.deliver e m = some m' → I m') ∧
    ∀ n v, watch.deliver e m n v → J n v
  perform : ∀ {name s params m}, I m →
    (∀ m', service.perform name s params m = some m' → I m') ∧
      ∀ n v, watch.perform name s params m n v → J n v
  check : ∀ {name s params m}, I m →
    (∀ b m', service.check name s params m = some (b, m') → I m') ∧
      ∀ n v, watch.check name s params m n v → J n v

/-- Begun while the property holds, the script upholds it, if the answers to its requests do. -/
def Script.Bears {α : Type} (I : Machine → Prop) (J : Machine → World → Prop) (s : Script α) :
    Prop :=
  ∀ {service : Service} {watch : Watch}, service.Upholds watch I J → ∀ {m : Machine}, I m →
    s.Upholds service watch I J m

/-- Nothing that is allowed breaks the property. -/
structure Conduct.Upholds (c : Conduct) (I : Machine → Prop) (J : Machine → World → Prop) :
    Prop where
  idle : ∀ {m}, I m → J m m.world
  write : ∀ {m w}, c.step m.world w → I m → J m w ∧ I { m with world := w }
  emitted : ∀ {m} e, I m → J m (m.world.record (.emitted e)) ∧ I (m.record (.emitted e))
  subscribe : ∀ {m l}, c.registers → (∀ e w, (l e : Script _).Obeys c w) → I m →
    I (m.subscribe l).2
  unsubscribe : ∀ {m} id, c.registers → I m → I (m.unsubscribe id).2
  registerAction : ∀ {m name a}, c.registers → (∀ s params w, (a s params : Script _).Obeys c w) →
    I m → I (m.registerAction name a)
  registerCondition : ∀ {m name a}, c.registers →
    (∀ s params w, (a s params : Script _).Obeys c w) → I m → I (m.registerCondition name a)
  part : ∀ {β : Type} {p : Script β}, c.part p → p.Bears I J

/-- As long as the property holds, all behaviours of the machine bear it. -/
structure Machine.Bears (I : Machine → Prop) (J : Machine → World → Prop) (m : Machine) :
    Prop where
  listeners : ∀ l ∈ m.listeners, ∀ e, (l.2 e).Bears I J
  actions : ∀ a ∈ m.actions, ∀ s params, (a.2 s params).Bears I J
  conditions : ∀ a ∈ m.conditions, ∀ s params, (a.2 s params).Bears I J

section Upholds

variable {service : Service} {watch : Watch} {c : Conduct} {I : Machine → Prop}
  {J : Machine → World → Prop}

theorem Script.Upholds.bind {α β : Type} {s : Script α} {f : α → Script β} {m : Machine}
    (hs : s.Upholds service watch I J m)
    (hf : ∀ a m', I m' → (f a).Upholds service watch I J m') :
    (s.bind f).Upholds service watch I J m := by
  constructor
  · intro b m' hrun
    rw [Script.run_bind] at hrun
    obtain ⟨⟨a, m₁⟩, hfirst, hrest⟩ := Option.bind_eq_some_iff.mp hrun
    exact (hf a m₁ (hs.1 a m₁ hfirst)).1 b m' hrest
  · intro n v hmake
    rcases Script.makes_bind hmake with hmake | ⟨a, m₁, hfirst, hmake⟩
    · exact hs.2 n v hmake
    · exact (hf a m₁ (hs.1 a m₁ hfirst)).2 n v hmake

/-- What is done without asking anybody makes one moment, and those of the rest. -/
theorem Script.Upholds.onward {α : Type} {s k : Script α} {m m₁ : Machine} {w : World}
    (hmoment : J m w) (hrest : k.Upholds service watch I J m₁)
    (hrun : s.run service m = k.run service m₁)
    (hmakes : ∀ {n v}, s.Makes service watch n v m →
      (m = n ∧ w = v) ∨ k.Makes service watch n v m₁) : s.Upholds service watch I J m := by
  refine ⟨fun a m' h => hrest.1 a m' (hrun ▸ h), fun n v hmake => ?_⟩
  rcases hmakes hmake with ⟨rfl, rfl⟩ | hmake
  · exact hmoment
  · exact hrest.2 n v hmake

/-- What is asked makes one moment, those of the answer, and, if there is an answer, those of the
rest. -/
theorem Script.Upholds.asked {α : Type} {β : Type 1} {s : Script α} {m : Machine} {w : World}
    {Q : Machine → World → Prop} (answer : Option β) (left : β → Machine) (k : β → Script α)
    (hmoment : J m w)
    (hasked : (∀ b, answer = some b → I (left b)) ∧ ∀ n v, Q n v → J n v)
    (hrest : ∀ b, I (left b) → (k b).Upholds service watch I J (left b))
    (hrun : s.run service m = answer.bind fun b => (k b).run service (left b))
    (hmakes : ∀ {n v}, s.Makes service watch n v m → (m = n ∧ w = v) ∨ Q n v ∨
      ∃ b, answer = some b ∧ (k b).Makes service watch n v (left b)) :
    s.Upholds service watch I J m := by
  obtain ⟨hanswer, hwithin⟩ := hasked
  constructor
  · intro a m' h
    rw [hrun] at h
    obtain ⟨b, hb, h⟩ := Option.bind_eq_some_iff.mp h
    exact (hrest b (hanswer b hb)).1 a m' h
  · intro n v hmake
    rcases hmakes hmake with ⟨rfl, rfl⟩ | hmake | ⟨b, hb, hmake⟩
    · exact hmoment
    · exact hwithin n v hmake
    · exact (hrest b (hanswer b hb)).2 n v hmake

/-- A script that obeys bears what nothing breaks that it may do. -/
theorem Script.Obeys.upholds (hI : c.Upholds I J) (hrely : ∀ u v, c.rely u v)
    (hservice : service.Upholds watch I J) {α : Type} {s : Script α} {w : World}
    (hs : s.Obeys c w) :
    ∀ m : Machine, m.world = w → I m → s.Upholds service watch I J m := by
  -- What is known of the rest of the script is known of the whole, by way of what is done first.
  induction hs with
  | done =>
    intro m _ hm
    refine ⟨fun a m' hrun => ?_, fun n v hmake => ?_⟩
    · cases hrun
      exact hm
    · obtain ⟨rfl, rfl⟩ := hmake
      exact hI.idle hm
  | read _ ih =>
    rintro m rfl hm
    exact .onward (hI.idle hm) (ih m rfl hm) rfl id
  | write hwrite _ ih =>
    rintro m rfl hm
    obtain ⟨hmoment, hm'⟩ := hI.write hwrite hm
    exact .onward hmoment (ih _ rfl hm') rfl id
  | @emit _ type data target k _ _ _ ih =>
    intro m _ hm
    obtain ⟨hmoment, hm'⟩ := hI.emitted (m.event type data target) hm
    exact .asked (service.deliver _ _) id (fun _ => k) hmoment (hservice.deliver hm')
      (fun m₁ hm₁ => ih _ (hrely _ _) m₁ rfl hm₁) rfl id
  | @perform _ name s params k _ _ _ ih =>
    intro m _ hm
    exact .asked (service.perform name s params m) id (fun _ => k) (hI.idle hm)
      (hservice.perform hm) (fun m₁ hm₁ => ih _ (hrely _ _) m₁ rfl hm₁) rfl id
  | @check _ name s params k _ _ _ ih =>
    intro m _ hm
    obtain ⟨hanswer, hwithin⟩ := hservice.check hm
    refine .asked (service.check name s params m) Prod.snd (fun r => k r.1) (hI.idle hm)
      ⟨fun r => hanswer r.1 r.2, hwithin⟩ (fun r hm₁ => ih r.1 _ (hrely _ _) r.2 rfl hm₁) rfl ?_
    exact Or.imp_right (Or.imp_right fun ⟨b, m₁, hcheck, hmake⟩ => ⟨(b, m₁), hcheck, hmake⟩)
  | subscribe hr hl _ _ ih =>
    intro m hw hm
    exact .onward (hI.idle hm) (ih _ (m.subscribe _).2 hw (hI.subscribe hr hl hm)) rfl id
  | unsubscribe hr _ ih =>
    intro m hw hm
    exact .onward (hI.idle hm) (ih _ (m.unsubscribe _).2 hw (hI.unsubscribe _ hr hm)) rfl id
  | registerAction hr ha _ _ ih =>
    intro m hw hm
    exact .onward (hI.idle hm) (ih (m.registerAction _ _) hw (hI.registerAction hr ha hm)) rfl id
  | registerCondition hr ha _ _ ih =>
    intro m hw hm
    exact .onward (hI.idle hm)
      (ih (m.registerCondition _ _) hw (hI.registerCondition hr ha hm)) rfl id
  | part hp _ ih =>
    intro m _ hm
    exact .bind (hI.part hp hservice hm) fun b m' hm' => ih b _ (hrely _ _) m' rfl hm'

theorem Script.Obeys.bears (hI : c.Upholds I J) (hrely : ∀ u v, c.rely u v) {α : Type}
    {s : Script α} (hs : ∀ w, s.Obeys c w) : s.Bears I J :=
  fun hservice _ hm => (hs _).upholds hI hrely hservice _ rfl hm

/-- The behaviours of a machine that obeys. -/
theorem Machine.Obeys.bears (hI : c.Upholds I J) (hrely : ∀ u v, c.rely u v) {m : Machine}
    (hm : m.Obeys c) : m.Bears I J where
  listeners := fun l hl e => Script.Obeys.bears hI hrely (hm.listeners l hl e)
  actions := fun a ha s params => Script.Obeys.bears hI hrely (hm.actions a ha s params)
  conditions := fun a ha s params => Script.Obeys.bears hI hrely (hm.conditions a ha s params)

namespace Service

theorem deliverTo_upholds (hservice : service.Upholds watch I J) {e : Event}
    {listeners : List Listener} (hl : ∀ l ∈ listeners, (l e).Bears I J) {m : Machine} (hm : I m) :
    (∀ m', service.deliverTo e listeners m = some m' → I m') ∧
      ∀ n v, Watch.deliverTo service watch e n v listeners m → J n v := by
  induction listeners generalizing m with
  | nil =>
    refine ⟨fun m' hrun => ?_, fun n v hmake => absurd hmake id⟩
    cases hrun
    exact hm
  | cons l rest ih =>
    have hfirst := hl l List.mem_cons_self hservice hm
    have hrest := fun m₁ => ih (m := m₁) fun l' h => hl l' (List.mem_cons_of_mem _ h)
    refine ⟨fun m' hrun => ?_, fun n v hmake => ?_⟩
    · rw [deliverTo] at hrun
      obtain ⟨⟨a, m₁⟩, hrun₁, hrun⟩ := Option.bind_eq_some_iff.mp hrun
      exact (hrest m₁ (hfirst.1 a m₁ hrun₁)).1 m' hrun
    · rcases hmake with hmake | ⟨a, m₁, hrun₁, hmake⟩
      · exact hfirst.2 n v hmake
      · exact (hrest m₁ (hfirst.1 a m₁ hrun₁)).2 n v hmake

theorem Upholds.above (hservice : service.Upholds watch I J) (hbears : ∀ m, I m → m.Bears I J) :
    (above service).Upholds (watch.above service) I J where
  deliver := by
    intro e m hm
    refine deliverTo_upholds hservice (fun l hl => ?_) hm
    obtain ⟨entry, hentry, rfl⟩ := List.mem_map.mp hl
    exact (hbears m hm).listeners entry hentry e
  perform := by
    intro name s params m hm
    refine ⟨fun m' hrun => ?_, ?_⟩
    · simp only [Service.above] at hrun
      split at hrun
      · cases hrun
        exact hm
      · next action hget =>
        obtain ⟨⟨a, m₁⟩, haction, rfl⟩ := Option.map_eq_some_iff.mp hrun
        exact ((hbears m hm).actions _ (Dict.mem_of_get? hget) s params hservice hm).1 a m₁ haction
    · rintro n v ⟨action, hget, hmake⟩
      exact ((hbears m hm).actions _ (Dict.mem_of_get? hget) s params hservice hm).2 n v hmake
  check := by
    intro name s params m hm
    refine ⟨fun b m' hrun => ?_, ?_⟩
    · simp only [Service.above] at hrun
      split at hrun
      · cases hrun
        exact hm
      · next condition hget =>
        obtain ⟨⟨a, m₁⟩, hcheck, heq⟩ := Option.map_eq_some_iff.mp hrun
        cases heq
        have hkept := (hbears m hm).conditions _ (Dict.mem_of_get? hget) s params hservice hm
        exact hkept.1 a m₁ hcheck
    · rintro n v ⟨condition, hget, hmake⟩
      exact ((hbears m hm).conditions _ (Dict.mem_of_get? hget) s params hservice hm).2 n v hmake

theorem upholds_exhausted : exhausted.Upholds .blind I J where
  deliver := by
    intro e m _
    exact ⟨fun _ h => (by cases h), fun _ _ h => absurd h id⟩
  perform := by
    intro name s params m _
    exact ⟨fun _ h => (by cases h), fun _ _ h => absurd h id⟩
  check := by
    intro name s params m _
    exact ⟨fun _ _ h => (by cases h), fun _ _ h => absurd h id⟩

/-- However deep scripts set each other off, what all behaviours bear holds at all moments. -/
theorem upholds_atDepth (hbears : ∀ m, I m → m.Bears I J) :
    ∀ depth, (atDepth depth).Upholds (Watch.atDepth depth) I J
  | 0 => upholds_exhausted
  | depth + 1 =>
    have below := (upholds_atDepth hbears depth).above hbears
    ⟨below.deliver, below.perform, below.check⟩

end Service

end Upholds

/-! ## What holds of the world -/

/-- At some moment of a run the world is this one. The last script of the run need not end. -/
inductive Machine.Visits (c : Conduct) (m : Machine) (w : World) : Prop
  | moment {n : Machine} {depth : Nat} {α : Type} {s : Script α} : m.Runs c n →
      s.Obeys c n.world → s.Passes (Service.atDepth depth) (Watch.atDepth depth) w n →
      Visits c m w

/-- The end of a run is one of its moments. -/
theorem Machine.Runs.visits {c : Conduct} {m m' : Machine} (h : m.Runs c m') :
    m.Visits c m'.world :=
  have hdone : (Script.done ()).Passes (Service.atDepth 0) (Watch.atDepth 0) m'.world m' :=
    ⟨m', m'.world, rfl, rfl, rfl⟩
  .moment h .done hdone

section World

variable {c : Conduct} {P : World → Prop} (hstep : ∀ {v w}, c.step v w → P v → P w)
  (hemitted : ∀ w e, P w → P (w.record (.emitted e)))
  (hpart : ∀ {β : Type} {p : Script β}, ¬ c.part p) (hrely : ∀ u v, c.rely u v)

include hstep hemitted hpart

theorem Conduct.upholds_world :
    c.Upholds (fun m => m.Obeys c ∧ P m.world) fun m _ => P m.world where
  idle hm := hm.2
  write hwrite hm := ⟨hm.2, hm.1.withWorld _, hstep hwrite hm.2⟩
  emitted e hm := ⟨hm.2, hm.1.withWorld _, hemitted _ e hm.2⟩
  subscribe _ hl hm := ⟨hm.1.subscribe hl, hm.2⟩
  unsubscribe id _ hm := ⟨hm.1.unsubscribe id, hm.2⟩
  registerAction _ ha hm := ⟨hm.1.registerAction _ ha, hm.2⟩
  registerCondition _ ha hm := ⟨hm.1.registerCondition _ ha, hm.2⟩
  part hp := absurd hp hpart

include hrely

/-- What nothing breaks that is allowed holds of the world at every moment of every run. -/
theorem Machine.Visits.holds {m : Machine} {w : World} (hm : m.Obeys c) (hnew : P m.world)
    (h : m.Visits c w) : P w := by
  have hupholds : c.Upholds (fun m => m.Obeys c ∧ P m.world) fun m _ => P m.world :=
    Conduct.upholds_world hstep hemitted hpart
  have hservice := Service.upholds_atDepth fun n (hn : n.Obeys c ∧ P n.world) =>
    hn.1.bears hupholds hrely
  have hruns : ∀ {n : Machine}, m.Runs c n → n.Obeys c ∧ P n.world := by
    intro n hn
    induction hn with
    | refl => exact ⟨hm, hnew⟩
    | @script m₁ m₂ depth α s a _ hobeys hrun ih =>
      exact (hobeys.upholds hupholds hrely (hservice depth) m₁ rfl ih).1 a m₂ hrun
  cases h with
  | @moment n depth α s hn hobeys hpasses =>
    obtain ⟨n', v, rfl, hmake⟩ := hpasses
    exact (hobeys.upholds hupholds hrely (hservice depth) n rfl (hruns hn)).2 n' v hmake

end World

end SceneLogic
