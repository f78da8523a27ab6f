import SceneLogic.Machine
import SceneLogic.Proofs.Dict

/-!
# What behaviours may do

Listeners, actions and conditions can be registered at will, so what holds of every run must
rest on what each of them does to the world by itself.

* `Conduct` — which changes of the world, which requests and which whole scripts a behaviour may
  carry out, and what it can rely on while a request is answered
* `Script.Obeys` — each write of a script is an allowed change of the world that is there at that
  moment, whatever its requests have made of it
* `Conduct.Keeps` — a relation between worlds that no allowed change breaks
* `Script.run_obeys` — obedient scripts on an obedient machine keep that relation, however deep
  they set each other off
* `Script.Yields` — what a script of the scene's own leads to under such a relation
-/

namespace SceneLogic

/-- What behaviours may do, and what they can rely on. -/
structure Conduct where
  /-- The changes of the world that a write may make. -/
  step : World → World → Prop
  /-- The scripts that may be carried out as a whole. -/
  part : {β : Type} → Script β → Prop := fun _ => False
  /-- The targets that events may be aimed at. -/
  announces : Option EntityId → Prop := fun _ => True
  /-- Registered actions may be performed. -/
  performs : Prop := True
  /-- Registered conditions may be checked. -/
  checks : Prop := True
  /-- Listeners may come and go, and actions and conditions may be registered. -/
  registers : Prop := True
  /-- What the world may have become when a request is answered. -/
  rely : World → World → Prop := fun _ _ => True

/-- The script, carried out from the world, does only what is allowed. After a request the world
may be any that can be relied on. -/
inductive Script.Obeys (c : Conduct) : {α : Type} → Script α → World → Prop
  | done {α : Type} {a : α} {w : World} : Obeys c (.done a) w
  | read {α : Type} {k : World → Script α} {w : World} : Obeys c (k w) w → Obeys c (.read k) w
  | write {α : Type} {k : Script α} {w w' : World} :
      c.step w w' → Obeys c k w' → Obeys c (.write w' k) w
  | emit {α : Type} {type : String} {data : Params} {target : Option EntityId} {k : Script α}
      {w : World} : c.announces target → (∀ w', c.rely w w' → Obeys c k w') →
      Obeys c (.emit type data target k) w
  | perform {α : Type} {name : String} {s : Situation} {params : Params} {k : Script α}
      {w : World} : c.performs → (∀ w', c.rely w w' → Obeys c k w') →
      Obeys c (.perform name s params k) w
  | check {α : Type} {name : String} {s : Situation} {params : Params} {k : Bool → Script α}
      {w : World} : c.checks → (∀ b w', c.rely w w' → Obeys c (k b) w') →
      Obeys c (.check name s params k) w
  | subscribe {α : Type} {listener : Listener} {k : SubscriptionId → Script α} {w : World} :
      c.registers → (∀ e w', Obeys c (listener e) w') → (∀ id, Obeys c (k id) w) →
      Obeys c (.subscribe listener k) w
  | unsubscribe {α : Type} {id : SubscriptionId} {k : Bool → Script α} {w : World} :
      c.registers → (∀ b, Obeys c (k b) w) → Obeys c (.unsubscribe id k) w
  | registerAction {α : Type} {name : String} {action : Action} {k : Script α} {w : World} :
      c.registers → (∀ s params w', Obeys c (action s params) w') → Obeys c k w →
      Obeys c (.registerAction name action k) w
  | registerCondition {α : Type} {name : String} {condition : Condition} {k : Script α}
      {w : World} : c.registers → (∀ s params w', Obeys c (condition s params) w') →
      Obeys c k w → Obeys c (.registerCondition name condition k) w
  | part {α β : Type} {p : Script β} {k : β → Script α} {w : World} :
      c.part p → (∀ b w', c.rely w w' → Obeys c (k b) w') → Obeys c (p.bind k) w

/-- All behaviours of the machine do only what is allowed, in whatever world. -/
structure Machine.Obeys (c : Conduct) (m : Machine) : Prop where
  listeners : ∀ l ∈ m.listeners, ∀ e w, (l.2 e).Obeys c w
  actions : ∀ a ∈ m.actions, ∀ s params w, (a.2 s params).Obeys c w
  conditions : ∀ a ∈ m.conditions, ∀ s params w, (a.2 s params).Obeys c w

/-- A machine that got from one state to another still behaves, and its worlds are related. -/
def Machine.Leads (c : Conduct) (G : World → World → Prop) (m m' : Machine) : Prop :=
  m'.Obeys c ∧ G m.world m'.world

/-- The answers of a service, asked by a machine that behaves, keep a relation. -/
structure Service.Keeps (c : Conduct) (G : World → World → Prop) (service : Service) : Prop where
  deliver : ∀ {e m m'}, m.Obeys c → service.deliver e m = some m' → m.Leads c G m'
  perform : ∀ {name s params m m'}, m.Obeys c → service.perform name s params m = some m' →
    m.Leads c G m'
  check : ∀ {name s params m b m'}, m.Obeys c → service.check name s params m = some (b, m') →
    m.Leads c G m'

/-- A relation between worlds that runs can keep. -/
structure Steady (G : World → World → Prop) : Prop where
  refl : ∀ w, G w w
  trans : ∀ {u v w}, G u v → G v w → G u w

/-- A relation between worlds that nothing that is allowed breaks, and that is enough to rely
on. -/
structure Conduct.Keeps (c : Conduct) (G : World → World → Prop) : Prop extends Steady G where
  step : ∀ {v w}, c.step v w → G v w
  rely : ∀ {v w}, G v w → c.rely v w
  /-- The machine takes down each event. -/
  emitted : ∀ w e, G w (w.record (.emitted e))
  part : ∀ {β : Type} {p : Script β}, c.part p → ∀ {service : Service}, service.Keeps c G →
    ∀ {m b m'}, m.Obeys c → p.run service m = some (b, m') → m.Leads c G m'

/-- What a conduct lets rely on is something that runs can keep, and is kept by its writes. -/
structure Conduct.Relies (c : Conduct) : Prop extends Steady c.rely where
  step : ∀ {v w}, c.step v w → c.rely v w

/-- One conduct allows no more than another, and needs no more to rely on. -/
structure Conduct.Within (c c' : Conduct) : Prop where
  step : ∀ {v w}, c.step v w → c'.step v w
  part : ∀ {β : Type} {p : Script β}, c.part p → ∀ w, p.Obeys c' w
  announces : ∀ {target}, c.announces target → c'.announces target
  performs : c.performs → c'.performs
  checks : c.checks → c'.checks
  registers : c.registers → c'.registers
  rely : ∀ {v w}, c'.rely v w → c.rely v w

/-- The conduct of behaviours that rely on something. -/
def Conduct.under (c : Conduct) (R : World → World → Prop) : Conduct :=
  { c with rely := R }

/-! ## Machines that behave -/

namespace Machine

variable {c : Conduct} {m : Machine}

theorem Leads.refl {G : World → World → Prop} (hG : Steady G) (hm : m.Obeys c) : m.Leads c G m :=
  ⟨hm, hG.refl _⟩

theorem Leads.trans {G : World → World → Prop} {m₁ m₂ : Machine} (hG : Steady G)
    (h : m.Leads c G m₁) (h' : m₁.Leads c G m₂) : m.Leads c G m₂ :=
  ⟨h'.1, hG.trans h.2 h'.2⟩

theorem Obeys.withWorld (h : m.Obeys c) (w : World) : Obeys c { m with world := w } :=
  ⟨h.listeners, h.actions, h.conditions⟩

theorem Obeys.subscribe (h : m.Obeys c) {listener : Listener}
    (hl : ∀ e w, (listener e).Obeys c w) : (m.subscribe listener).2.Obeys c where
  listeners := by
    intro l hmem
    rcases List.mem_append.mp hmem with hmem | hmem
    · exact h.listeners l hmem
    · rw [List.mem_singleton.mp hmem]
      exact hl
  actions := h.actions
  conditions := h.conditions

theorem Obeys.unsubscribe (h : m.Obeys c) (id : SubscriptionId) :
    (m.unsubscribe id).2.Obeys c where
  listeners := fun l hmem => h.listeners l (List.mem_filter.mp hmem).1
  actions := h.actions
  conditions := h.conditions

theorem Obeys.registerAction (h : m.Obeys c) (name : String) {action : Action}
    (ha : ∀ s params w, (action s params).Obeys c w) : (m.registerAction name action).Obeys c where
  listeners := h.listeners
  actions := by
    intro a hmem
    rcases Dict.mem_insert hmem with hmem | hmem
    · exact h.actions a hmem
    · rw [hmem]
      exact ha
  conditions := h.conditions

theorem Obeys.registerCondition (h : m.Obeys c) (name : String) {condition : Condition}
    (hc : ∀ s params w, (condition s params).Obeys c w) :
    (m.registerCondition name condition).Obeys c where
  listeners := h.listeners
  actions := h.actions
  conditions := by
    intro a hmem
    rcases Dict.mem_insert hmem with hmem | hmem
    · exact h.conditions a hmem
    · rw [hmem]
      exact hc

end Machine

/-! ## Scripts that behave -/

namespace Script

variable {c : Conduct} {α β : Type}

theorem Obeys.bind {s : Script α} {f : α → Script β} {w : World} (hc : c.Relies)
    (hs : s.Obeys c w) (hf : ∀ a w', c.rely w w' → (f a).Obeys c w') : (s.bind f).Obeys c w := by
  induction hs with
  | done => exact hf _ _ (hc.refl _)
  | read _ ih => exact .read (ih hf)
  | write hw _ ih =>
    exact .write hw (ih fun a w' hrel => hf a w' (hc.trans (hc.step hw) hrel))
  | emit he _ ih =>
    exact .emit he fun v hv => ih v hv fun a w' hrel => hf a w' (hc.trans hv hrel)
  | perform hp _ ih =>
    exact .perform hp fun v hv => ih v hv fun a w' hrel => hf a w' (hc.trans hv hrel)
  | check hq _ ih =>
    exact .check hq fun b v hv => ih b v hv fun a w' hrel => hf a w' (hc.trans hv hrel)
  | subscribe hr hl _ _ ih => exact .subscribe hr hl fun id => ih id hf
  | unsubscribe hr _ ih => exact .unsubscribe hr fun b => ih b hf
  | registerAction hr ha _ _ ih => exact .registerAction hr ha (ih hf)
  | registerCondition hr ha _ _ ih => exact .registerCondition hr ha (ih hf)
  | part hp _ ih =>
    -- What follows the script follows the part, too.
    rw [bind_assoc]
    exact .part hp fun b v hv => ih b v hv fun a w' hrel => hf a w' (hc.trans hv hrel)

theorem Obeys.ite {p : Prop} [Decidable p] {a b : Script α} {w : World}
    (ha : p → a.Obeys c w) (hb : ¬ p → b.Obeys c w) : (if p then a else b).Obeys c w := by
  by_cases hp : p
  · rw [if_pos hp]
    exact ha hp
  · rw [if_neg hp]
    exact hb hp

/-- What obeys one conduct obeys another that allows as much and promises as much. -/
theorem Obeys.mono {c' : Conduct} (hc : c'.Relies) (hle : c.Within c') {s : Script α} {w : World}
    (hs : s.Obeys c w) : s.Obeys c' w := by
  induction hs with
  | done => exact .done
  | read _ ih => exact .read ih
  | write hw _ ih => exact .write (hle.step hw) ih
  | emit he _ ih => exact .emit (hle.announces he) fun v hv => ih v (hle.rely hv)
  | perform hp _ ih => exact .perform (hle.performs hp) fun v hv => ih v (hle.rely hv)
  | check hq _ ih => exact .check (hle.checks hq) fun b v hv => ih b v (hle.rely hv)
  | subscribe hr _ _ ihl ih => exact .subscribe (hle.registers hr) ihl ih
  | unsubscribe hr _ ih => exact .unsubscribe (hle.registers hr) ih
  | registerAction hr _ _ iha ih => exact .registerAction (hle.registers hr) iha ih
  | registerCondition hr _ _ iha ih => exact .registerCondition (hle.registers hr) iha ih
  | part hp _ ih => exact .bind hc (hle.part hp _) fun b v hv => ih b v (hle.rely hv)

/-- Behaviours that rely on nothing may as well rely on something. -/
theorem Obeys.under {R : World → World → Prop} (hc : (c.under R).Relies)
    (hrely : ∀ v w, c.rely v w) (hpart : ∀ {β : Type} {p : Script β}, ¬ c.part p) {s : Script α}
    {w : World} (hs : s.Obeys c w) : s.Obeys (c.under R) w := by
  have hle : c.Within (c.under R) :=
    { step := fun h => h
      part := fun hp => absurd hp hpart
      announces := fun h => h
      performs := fun h => h
      checks := fun h => h
      registers := fun h => h
      rely := fun _ => hrely _ _ }
  exact hs.mono hc hle

theorem Obeys.forEach (hc : c.Relies) {items : List α} {body : α → Script Unit} {w : World}
    (h : ∀ a ∈ items, ∀ w', c.rely w w' → (body a).Obeys c w') :
    (Script.forEach items body).Obeys c w := by
  induction items generalizing w with
  | nil => exact .done
  | cons a rest ih =>
    refine .bind hc (h a List.mem_cons_self w (hc.refl w)) fun _ v hv => ih fun b hb w' hw' => ?_
    exact h b (List.mem_cons_of_mem _ hb) w' (hc.trans hv hw')

/-- What a script asks for, and what it writes, keeps a relation that its conduct keeps. -/
theorem run_obeys {G : World → World → Prop} {service : Service} (hG : c.Keeps G)
    (hservice : service.Keeps c G) {s : Script α} {w : World} (hs : s.Obeys c w) :
    ∀ m : Machine, m.world = w → m.Obeys c → ∀ {a m'}, s.run service m = some (a, m') →
      m.Leads c G m' := by
  -- By induction on how the script obeys. Requests leave another machine behind, so the rest of
  -- the script is followed from any machine that behaves.
  induction hs with
  | done =>
    intro m _ hm a m' h
    rw [run] at h
    cases h
    exact .refl hG.toSteady hm
  | read _ ih =>
    intro m hw hm a m' h
    rw [run, hw] at h
    exact ih m hw hm h
  | write hstep _ ih =>
    intro m hw hm a m' h
    rw [run] at h
    obtain ⟨hm', hrel⟩ := ih _ rfl (hm.withWorld _) h
    exact ⟨hm', hG.trans (hw ▸ hG.step hstep) hrel⟩
  | emit _ _ ih =>
    intro m hw hm a m' h
    rw [run] at h
    obtain ⟨m₁, hdeliver, h⟩ := Option.bind_eq_some_iff.mp h
    obtain ⟨hm₁, hrel₁⟩ := hservice.deliver (hm.withWorld _) hdeliver
    have hlead : m.Leads c G m₁ := ⟨hm₁, hG.trans (hG.emitted _ _) hrel₁⟩
    exact hlead.trans hG.toSteady (ih _ (hG.rely (hw ▸ hlead.2)) _ rfl hm₁ h)
  | perform _ _ ih =>
    intro m hw hm a m' h
    rw [run] at h
    obtain ⟨m₁, hperform, h⟩ := Option.bind_eq_some_iff.mp h
    have hlead := hservice.perform hm hperform
    exact hlead.trans hG.toSteady (ih _ (hG.rely (hw ▸ hlead.2)) _ rfl hlead.1 h)
  | check _ _ ih =>
    intro m hw hm a m' h
    rw [run] at h
    obtain ⟨⟨b, m₁⟩, hcheck, h⟩ := Option.bind_eq_some_iff.mp h
    have hlead := hservice.check hm hcheck
    exact hlead.trans hG.toSteady (ih b _ (hG.rely (hw ▸ hlead.2)) _ rfl hlead.1 h)
  | subscribe _ hl _ _ ih =>
    intro m hw hm a m' h
    exact ih _ (m.subscribe _).2 hw (hm.subscribe hl) h
  | unsubscribe _ _ ih =>
    intro m hw hm a m' h
    exact ih _ (m.unsubscribe _).2 hw (hm.unsubscribe _) h
  | registerAction _ ha _ _ ih =>
    intro m hw hm a m' h
    exact ih (m.registerAction _ _) hw (hm.registerAction _ ha) h
  | registerCondition _ hc _ _ ih =>
    intro m hw hm a m' h
    exact ih (m.registerCondition _ _) hw (hm.registerCondition _ hc) h
  | part hp _ ih =>
    intro m hw hm a m' h
    rw [run_bind] at h
    obtain ⟨⟨b, m₁⟩, hpart, h⟩ := Option.bind_eq_some_iff.mp h
    have hlead := hG.part hp hservice hm hpart
    exact hlead.trans hG.toSteady (ih b _ (hG.rely (hw ▸ hlead.2)) _ rfl hlead.1 h)

/-- A script that registers nothing leaves the behaviours as they are. If its own writes keep a
relation, and the answers to its requests do, then so does the whole. -/
theorem Obeys.leads {G : World → World → Prop} {c' : Conduct} {service : Service} (hG : Steady G)
    (hservice : service.Keeps c G) (hstep : ∀ {v w}, c'.step v w → G v w)
    (hemitted : ∀ w e, G w (w.record (.emitted e))) (hregisters : ¬ c'.registers)
    (hpart : ∀ {β : Type} {p : Script β}, ¬ c'.part p) (hrely : ∀ v w, c'.rely v w) {s : Script α}
    {w : World} (hs : s.Obeys c' w) :
    ∀ m : Machine, m.world = w → m.Obeys c → ∀ {a m'}, s.run service m = some (a, m') →
      m.Leads c G m' := by
  induction hs with
  | done =>
    intro m _ hm a m' h
    rw [run] at h
    cases h
    exact .refl hG hm
  | read _ ih =>
    intro m hw hm a m' h
    rw [run, hw] at h
    exact ih m hw hm h
  | write hwrite _ ih =>
    intro m hw hm a m' h
    rw [run] at h
    obtain ⟨hm', hrel⟩ := ih _ rfl (hm.withWorld _) h
    exact ⟨hm', hG.trans (hw ▸ hstep hwrite) hrel⟩
  | emit _ _ ih =>
    intro m _ hm a m' h
    rw [run] at h
    obtain ⟨m₁, hdeliver, h⟩ := Option.bind_eq_some_iff.mp h
    obtain ⟨hm₁, hrel₁⟩ := hservice.deliver (hm.withWorld _) hdeliver
    have hlead : m.Leads c G m₁ := ⟨hm₁, hG.trans (hemitted _ _) hrel₁⟩
    exact hlead.trans hG (ih _ (hrely _ _) m₁ rfl hm₁ h)
  | perform _ _ ih =>
    intro m _ hm a m' h
    rw [run] at h
    obtain ⟨m₁, hperform, h⟩ := Option.bind_eq_some_iff.mp h
    have hlead := hservice.perform hm hperform
    exact hlead.trans hG (ih _ (hrely _ _) m₁ rfl hlead.1 h)
  | check _ _ ih =>
    intro m _ hm a m' h
    rw [run] at h
    obtain ⟨⟨b, m₁⟩, hcheck, h⟩ := Option.bind_eq_some_iff.mp h
    have hlead := hservice.check hm hcheck
    exact hlead.trans hG (ih b _ (hrely _ _) m₁ rfl hlead.1 h)
  | subscribe hr => exact absurd hr hregisters
  | unsubscribe hr => exact absurd hr hregisters
  | registerAction hr => exact absurd hr hregisters
  | registerCondition hr => exact absurd hr hregisters
  | part hp => exact absurd hp hpart

/-- The behaviours stay as they are, whatever they make of the world meanwhile. -/
theorem Obeys.leaves {G : World → World → Prop} {c' : Conduct} {service : Service}
    (hservice : service.Keeps c G) (hregisters : ¬ c'.registers)
    (hpart : ∀ {β : Type} {p : Script β}, ¬ c'.part p) (hrely : ∀ v w, c'.rely v w) {s : Script α}
    {w : World} (hs : s.Obeys c' w) {m : Machine} (hw : m.world = w) (hm : m.Obeys c) {a : α}
    {m' : Machine} (hrun : s.run service m = some (a, m')) : m'.Obeys c := by
  have hobeying : service.Keeps c fun _ _ => True :=
    ⟨fun hm h => ⟨(hservice.deliver hm h).1, trivial⟩,
      fun hm h => ⟨(hservice.perform hm h).1, trivial⟩,
      fun hm h => ⟨(hservice.check hm h).1, trivial⟩⟩
  have hlead := hs.leads ⟨fun _ => trivial, fun _ _ => trivial⟩ hobeying (fun _ => trivial)
    (fun _ _ => trivial) hregisters hpart hrely m hw hm hrun
  exact hlead.1

end Script

theorem Machine.Obeys.mono {c c' : Conduct} {m : Machine} (hc : c'.Relies) (hle : c.Within c')
    (hm : m.Obeys c) : m.Obeys c' where
  listeners := fun l hl e w => (hm.listeners l hl e w).mono hc hle
  actions := fun a ha s params w => (hm.actions a ha s params w).mono hc hle
  conditions := fun a ha s params w => (hm.conditions a ha s params w).mono hc hle

/-! ## Services to any depth -/

namespace Service

variable {c : Conduct} {G : World → World → Prop} {service : Service}

theorem deliverTo_leads (hG : c.Keeps G) (hservice : service.Keeps c G) {e : Event} :
    ∀ {listeners : List Listener}, (∀ l ∈ listeners, ∀ w, (l e).Obeys c w) →
      ∀ {m m' : Machine}, m.Obeys c → deliverTo service e listeners m = some m' →
        m.Leads c G m' := by
  intro listeners
  induction listeners with
  | nil =>
    intro _ m m' hm h
    cases h
    exact .refl hG.toSteady hm
  | cons l rest ih =>
    intro hl m m' hm h
    rw [deliverTo] at h
    obtain ⟨⟨_, m₁⟩, hrun, h⟩ := Option.bind_eq_some_iff.mp h
    have hlead := Script.run_obeys hG hservice (hl l List.mem_cons_self m.world) m rfl hm hrun
    have hrest := ih (fun l' h' => hl l' (List.mem_cons_of_mem _ h')) hlead.1 h
    exact hlead.trans hG.toSteady hrest

theorem Keeps.above (hG : c.Keeps G) (hservice : service.Keeps c G) :
    (above service).Keeps c G where
  deliver := by
    intro e m m' hm h
    refine deliverTo_leads hG hservice ?_ hm h
    intro l hl w
    obtain ⟨entry, hentry, rfl⟩ := List.mem_map.mp hl
    exact hm.listeners entry hentry e w
  perform := by
    intro name s params m m' hm h
    simp only [Service.above] at h
    split at h
    · cases h
      exact .refl hG.toSteady hm
    · next action hget =>
      obtain ⟨⟨_, m₁⟩, hrun, heq⟩ := Option.map_eq_some_iff.mp h
      rw [← heq]
      exact Script.run_obeys hG hservice
        (hm.actions _ (Dict.mem_of_get? hget) s params m.world) m rfl hm hrun
  check := by
    intro name s params m b m' hm h
    simp only [Service.above] at h
    split at h
    · cases h
      exact .refl hG.toSteady hm
    · next condition hget =>
      obtain ⟨⟨_, m₁⟩, hrun, heq⟩ := Option.map_eq_some_iff.mp h
      cases heq
      exact Script.run_obeys hG hservice
        (hm.conditions _ (Dict.mem_of_get? hget) s params m.world) m rfl hm hrun

/-- However deep scripts set each other off, the answers keep what each of them keeps. -/
theorem keeps_atDepth (hG : c.Keeps G) : ∀ depth, (atDepth depth).Keeps c G
  | 0 => { deliver := nofun, perform := nofun, check := nofun }
  | depth + 1 =>
    let below := (keeps_atDepth hG depth).above hG
    ⟨below.deliver, below.perform, below.check⟩

end Service

/-! ## Runs -/

/-- A run: one after the other, the host carries out scripts that are allowed. -/
inductive Machine.Runs (c : Conduct) (m : Machine) : Machine → Prop
  | refl : Runs c m m
  | script {m₁ m₂ : Machine} {depth : Nat} {α : Type} {s : Script α} {a : α} : Runs c m m₁ →
      s.Obeys c m₁.world → s.run (Service.atDepth depth) m₁ = some (a, m₂) → Runs c m m₂

/-- A run keeps what each script of it keeps. -/
theorem Machine.Runs.leads {c : Conduct} {G : World → World → Prop} (hG : c.Keeps G)
    {m m' : Machine} (hm : m.Obeys c) (h : m.Runs c m') : m.Leads c G m' := by
  induction h with
  | refl => exact .refl hG.toSteady hm
  | @script m₁ m₂ depth _ s a _ hs hrun ih =>
    have hservice := Service.keeps_atDepth hG depth
    exact ih.trans hG.toSteady (Script.run_obeys hG hservice hs m₁ rfl ih.1 hrun)

/-! ## What a script leads to -/

namespace Script

variable {service : Service} {c : Conduct} {G H : World → World → Prop} {α β : Type}

/-- Carried out from the world by a machine that behaves, the script keeps the relation, and if
it ends, then with such a result in such a world. -/
def Yields (service : Service) (c : Conduct) (H : World → World → Prop) (s : Script α) (w : World)
    (Q : α → World → Prop) : Prop :=
  ∀ m : Machine, m.world = w → m.Obeys c → ∀ {a m'}, s.run service m = some (a, m') →
    m.Leads c H m' ∧ Q a m'.world

theorem Yields.mono {s : Script α} {w : World} {Q R : α → World → Prop}
    (h : s.Yields service c H w Q) (hQ : ∀ a w', H w w' → Q a w' → R a w') :
    s.Yields service c H w R := by
  intro m hw hm a m' hrun
  obtain ⟨hlead, hpost⟩ := h m hw hm hrun
  exact ⟨hlead, hQ _ _ (hw ▸ hlead.2) hpost⟩

/-- What a script keeps of its own is also known at its end. -/
theorem Yields.loosen {s : Script α} {w : World} {Q : α → World → Prop}
    (h : s.Yields service c G w Q) (hGH : ∀ {u v}, G u v → H u v) :
    s.Yields service c H w fun a w' => G w w' ∧ Q a w' := by
  intro m hw hm a m' hrun
  obtain ⟨⟨hm', hrel⟩, hpost⟩ := h m hw hm hrun
  exact ⟨⟨hm', hGH hrel⟩, hw ▸ hrel, hpost⟩

theorem Yields.done (hH : Steady H) {a : α} {w : World} {Q : α → World → Prop} (h : Q a w) :
    (Script.done a).Yields service c H w Q := by
  intro m hw hm a' m' hrun
  rw [run] at hrun
  cases hrun
  exact ⟨⟨hm, hH.refl _⟩, hw ▸ h⟩

theorem Yields.read {k : World → Script α} {w : World} {Q : α → World → Prop}
    (h : (k w).Yields service c H w Q) : (Script.read k).Yields service c H w Q := by
  intro m hw hm a m' hrun
  rw [run, hw] at hrun
  exact h m hw hm hrun

theorem Yields.write (hH : Steady H) {k : Script α} {w w' : World} {Q : α → World → Prop}
    (hstep : H w w') (h : k.Yields service c H w' Q) :
    (Script.write w' k).Yields service c H w Q := by
  intro m hw hm a m' hrun
  rw [run] at hrun
  obtain ⟨⟨hm', hrel⟩, hpost⟩ := h _ rfl (hm.withWorld _) hrun
  exact ⟨⟨hm', hH.trans (hw ▸ hstep) hrel⟩, hpost⟩

theorem Yields.bind (hH : Steady H) {s : Script α} {f : α → Script β} {w : World}
    {R : α → World → Prop} {Q : β → World → Prop} (hs : s.Yields service c H w R)
    (hf : ∀ a w', H w w' → R a w' → (f a).Yields service c H w' Q) :
    (s.bind f).Yields service c H w Q := by
  intro m hw hm b m' hrun
  rw [run_bind] at hrun
  obtain ⟨⟨a, m₁⟩, hrun₁, hrun⟩ := Option.bind_eq_some_iff.mp hrun
  obtain ⟨hlead, hmid⟩ := hs m hw hm hrun₁
  obtain ⟨hlead', hpost⟩ := hf a _ (hw ▸ hlead.2) hmid m₁ rfl hlead.1 hrun
  exact ⟨hlead.trans hH hlead', hpost⟩

/-- A request keeps what the service keeps, which may be more than the script does. -/
theorem Yields.perform (hH : Steady H) (hservice : service.Keeps c G)
    (hGH : ∀ {u v}, G u v → H u v) {name : String} {s : Situation} {params : Params}
    {k : Script α} {w : World} {Q : α → World → Prop}
    (h : ∀ w', G w w' → k.Yields service c H w' Q) :
    (Script.perform name s params k).Yields service c H w Q := by
  intro m hw hm a m' hrun
  rw [run] at hrun
  obtain ⟨m₁, hperform, hrun⟩ := Option.bind_eq_some_iff.mp hrun
  obtain ⟨hm₁, hrel₁⟩ := hservice.perform hm hperform
  obtain ⟨⟨hm', hrel⟩, hpost⟩ := h _ (hw ▸ hrel₁) m₁ rfl hm₁ hrun
  exact ⟨⟨hm', hH.trans (hGH hrel₁) hrel⟩, hpost⟩

theorem Yields.record (hH : Steady H) {e : Happening} {w : World} (h : H w (w.record e)) :
    (Script.record e).Yields service c H w fun _ w' => w' = w.record e :=
  .read (.write hH h (.done hH rfl))

end Script

end SceneLogic
