import SceneLogic.Proofs.Defaults
import SceneLogic.Proofs.Director.Routing
import SceneLogic.Proofs.Senses.Telling

/-!
# Machines with the default behaviours only

A `Standard` machine has no behaviours but the director's and the default ones. It obeys every
conduct that is wide enough for these three; in particular it reaches the modules by calls only.

A conduct that is about the changes of the world alone, and allows all tame ones, is wide enough for
updates as well: `Conduct.Roomy`.
-/

namespace SceneLogic

/-- Nobody listens but the director, and only default actions and conditions are registered. -/
structure Machine.Standard (m : Machine) : Prop where
  listeners : m.listeners.map (·.2) = [Director.listener]
  actions : ∀ a ∈ m.actions, a ∈ defaultActions
  conditions : ∀ a ∈ m.conditions, a ∈ Conditions.conditions

namespace Machine

theorem Standard.listener {m : Machine} (h : m.Standard) {l : SubscriptionId × Listener}
    (hl : l ∈ m.listeners) : l.2 = Director.listener :=
  List.mem_singleton.mp (h.listeners ▸ List.mem_map_of_mem hl)

/-- Registering actions changes nothing else, and registers no others. -/
theorem registerActions_spec (actions : List (String × Action)) (m : Machine) :
    let m' := actions.foldl (fun m a => m.registerAction a.1 a.2) m
    m'.listeners = m.listeners ∧ m'.conditions = m.conditions ∧
      ∀ a ∈ m'.actions, a ∈ m.actions ∨ a ∈ actions := by
  induction actions generalizing m with
  | nil => exact ⟨rfl, rfl, fun a ha => Or.inl ha⟩
  | cons b rest ih =>
    obtain ⟨hlisteners, hconditions, hactions⟩ := ih (m.registerAction b.1 b.2)
    refine ⟨hlisteners, hconditions, fun a ha => ?_⟩
    rcases hactions a ha with ha | ha
    · rcases Dict.mem_insert ha with ha | ha
      · exact Or.inl ha
      · exact Or.inr (ha ▸ List.mem_cons_self)
    · exact Or.inr (List.mem_cons_of_mem _ ha)

/-- Registering conditions changes nothing else, and registers no others. -/
theorem registerConditions_spec (conditions : List (String × Condition)) (m : Machine) :
    let m' := conditions.foldl (fun m c => m.registerCondition c.1 c.2) m
    m'.listeners = m.listeners ∧ m'.actions = m.actions ∧
      ∀ a ∈ m'.conditions, a ∈ m.conditions ∨ a ∈ conditions := by
  induction conditions generalizing m with
  | nil => exact ⟨rfl, rfl, fun a ha => Or.inl ha⟩
  | cons b rest ih =>
    obtain ⟨hlisteners, hactions, hconditions⟩ := ih (m.registerCondition b.1 b.2)
    refine ⟨hlisteners, hactions, fun a ha => ?_⟩
    rcases hconditions a ha with ha | ha
    · rcases Dict.mem_insert ha with ha | ha
      · exact Or.inl ha
      · exact Or.inr (ha ▸ List.mem_cons_self)
    · exact Or.inr (List.mem_cons_of_mem _ ha)

/-- The defaults, registered where nothing was, and the director as the one who listens. -/
theorem standard_withDefaults {m : Machine}
    (hlisteners : m.listeners.map (·.2) = [Director.listener])
    (hactions : m.actions = []) (hconditions : m.conditions = []) :
    m.withDefaultActions.withDefaultConditions.Standard := by
  obtain ⟨hlisteners₁, hconditions₁, hactions₁⟩ := registerActions_spec defaultActions m
  obtain ⟨hlisteners₂, hactions₂, hconditions₂⟩ :=
    registerConditions_spec Conditions.conditions m.withDefaultActions
  refine ⟨?_, fun a ha => ?_, fun a ha => ?_⟩
  · exact (congrArg (List.map (·.2)) (hlisteners₂.trans hlisteners₁)).trans hlisteners
  · refine (hactions₁ a (hactions₂ ▸ ha)).resolve_left ?_
    rw [hactions]
    exact List.not_mem_nil
  · refine (hconditions₂ a ha).resolve_left ?_
    rw [withDefaultActions, hconditions₁, hconditions]
    exact List.not_mem_nil

end Machine

/-! ## What the default behaviours obey -/

/-- The conduct of a director that may request anything, and relies on nothing. -/
abbrev Conduct.directing : Conduct :=
  .routing (fun _ => True) (fun _ _ => True) fun w w' => w.Acted w' ∧ w.senses.Told w'.senses

/-- The changes of a director that touches nothing: it acts, or a component asks for its turn. -/
inductive World.Ruled : World → World → Prop
  | act {w w' : World} : w.Acted w' → w.senses.SameContacts w'.senses → Ruled w w'
  | turn (w : World) (id : EntityId) (component : String) :
      Ruled w (Director.takeTurn w id component).2

/-- The conduct of a director that touches nothing, but may run updates. -/
abbrev Conduct.ruling : Conduct :=
  .routing (fun _ => True) (fun _ _ => True) World.Ruled

theorem Conduct.routing_relies {O : Request → Prop} {S : World → World → Prop} :
    (Conduct.routing O (fun _ _ => True) S).Relies where
  refl _ := trivial
  trans _ _ := trivial
  step _ := trivial

/-- The director as a listener. -/
theorem Director.listener_directs (e : Event) (w : World) : (listener e).Obeys .directing w := by
  refine listener_obeys Conduct.routing_relies (fun hacted hcontacts => ⟨hacted, hcontacts.told⟩)
    (fun _ _ _ _ => trivial) (fun _ _ => trivial) fun _ u v a b c c' hacted hsenses => ?_
  refine ⟨hacted, ?_⟩
  rw [hsenses]
  exact told_touch u.senses e.type a b c c'

/-- Whatever is no collision is handled without touching anything. -/
theorem Director.handle_rules {e : Event} (h : isCollision e.type = false) (w : World) :
    (handle e).Obeys .ruling w :=
  handle_obeys Conduct.routing_relies .act (fun _ _ _ _ => trivial) (fun _ _ => trivial)
    fun hcollision => absurd hcollision (Bool.eq_false_iff.mp h)

theorem Director.updateEntities_rules (dt : Float) (ids : List EntityId) (w : World) :
    (Script.forEach ids (updateEntity dt)).Obeys .ruling w :=
  updateEntities_obeys Conduct.routing_relies .act (fun _ _ _ _ => trivial) .turn ids
    fun _ _ => trivial

/-- What is wide enough for the director as a listener is so when it touches nothing. Then updates
may be run, too, if components may ask for their turns. -/
theorem Conduct.ruling_within {c : Conduct} (h : directing.Within c)
    (hturn : ∀ w id component, c.step w (Director.takeTurn w id component).2) :
    ruling.Within c where
  step hw := by
    cases hw with
    | act hacted hcontacts => exact h.step ⟨hacted, hcontacts.told⟩
    | turn id component => exact hturn _ id component
  part := h.part
  announces := h.announces
  performs := h.performs
  checks := h.checks
  registers := h.registers
  rely := h.rely

/-- The requests of a director obey whatever lets requests be judged and actions be performed. -/
theorem Conduct.part_directing {c : Conduct} (hjudge : ∀ w r, c.step w (w.judge r).2)
    (hperforms : c.performs) {β : Type} {p : Script β} (hp : directing.part p) (w : World) :
    p.Obeys c w := by
  cases hp with
  | mk s call _ =>
    rw [Director.request_eq]
    refine .read (.write (hjudge w _) (.ite ?_ ?_))
    · exact fun _ => .perform hperforms fun _ _ => .done
    · exact fun _ => .done

/-- The machine obeys whatever is wide enough for the director and the default behaviours. -/
theorem Machine.Standard.obeys {m : Machine} (h : m.Standard) {c : Conduct} (hc : c.Relies)
    (hdirecting : Conduct.directing.Within c) (hacting : Conduct.acting.Within c)
    (hlooking : Conduct.looking.Within c) : m.Obeys c where
  listeners := by
    intro l hl e w
    rw [h.listener hl]
    exact (Director.listener_directs e w).mono hc hdirecting
  actions := fun a ha s params w =>
    (defaultActions_act a (h.actions a ha) s params w).mono hc hacting
  conditions := fun a ha s params w =>
    (Conditions.conditions_look a (h.conditions a ha) s params w).mono hc hlooking

/-- An update obeys whatever is wide enough for a director that touches nothing, allows the update of
the modules, and lets it open a frame and begin one for the senses. -/
theorem Director.update_obeys {c : Conduct} (hc : c.Relies)
    (hopen : ∀ w now threshold, c.step w (w.openFrame now threshold).2)
    (hsenses : ∀ (w : World) (senses : Senses), w.senses.SameContacts senses →
      c.step w { w with senses })
    (hruling : Conduct.ruling.Within c) {dt : Float}
    (hmodules : ∀ w, (updateModules 0 dt).Obeys c w) (w : World) : (update dt).Obeys c w := by
  refine .read (.write (hopen w w.clock w.settings.threshold) ?_)
  have hend : ∀ (newFrame : Bool) (v : World), c.step v
      (if newFrame then { v with senses := v.senses.beginFrame } else v) := by
    intro newFrame v
    cases newFrame with
    | false => exact hsenses v v.senses (.refl _)
    | true => exact hsenses v _ v.senses.sameContacts_beginFrame
  refine .bind hc ?_ fun _ u _ => .bind hc ?_ fun _ v _ => .read (.write (hend _ v) .done)
  · exact (updateEntities_rules dt _ (w.openFrame w.clock w.settings.threshold).2).mono hc hruling
  · exact hmodules u

/-! ## Conducts with room for all of it -/

/-- The conduct has room for the director, the default behaviours and updates: it allows whatever
they change, lets them ask for all that they ask for, and does not rely on anything. -/
structure Conduct.Roomy (c : Conduct) : Prop where
  tame : ∀ {w w' : World}, w.Tame w' → w.senses.Told w'.senses → c.step w w'
  opens : ∀ (w : World) (now threshold : Float), c.step w (w.openFrame now threshold).2
  requests : ∀ {β : Type} {p : Script β}, Conduct.directing.part p → ∀ w, p.Obeys c w
  announces : ∀ target, c.announces target
  performs : c.performs
  checks : c.checks
  rely : ∀ v w, c.rely v w

namespace Conduct.Roomy

variable {c : Conduct}

theorem relies (h : c.Roomy) : c.Relies where
  refl _ := h.rely _ _
  trans _ _ := h.rely _ _
  step _ := h.rely _ _

theorem directing (h : c.Roomy) : Conduct.directing.Within c where
  step hstep := h.tame hstep.1.toTame hstep.2
  part := h.requests
  announces := nofun
  performs := nofun
  checks _ := h.checks
  registers := nofun
  rely _ := trivial

theorem acting (h : c.Roomy) : Conduct.acting.Within c where
  step hstep := h.tame hstep.toTame hstep.contacts.told
  part := nofun
  announces _ := h.announces _
  performs := nofun
  checks := nofun
  registers := nofun
  rely _ := trivial

theorem looking (h : c.Roomy) : Conduct.looking.Within c where
  step hstep := h.tame hstep.toTame hstep.contacts.told
  part := nofun
  announces := nofun
  performs := nofun
  checks := nofun
  registers := nofun
  rely _ := trivial

theorem stepping (h : c.Roomy) : Conduct.stepping.Within c where
  step hstep := h.tame hstep.toTame hstep.contacts.told
  part := nofun
  announces := nofun
  performs _ := h.performs
  checks := nofun
  registers := nofun
  rely _ := trivial

theorem turns (h : c.Roomy) (w : World) (id : EntityId) (component : String) :
    c.step w (Director.takeTurn w id component).2 := by
  refine h.tame (w.tame_takeTurn id component) ?_
  rw [Director.senses_takeTurn]

end Conduct.Roomy

theorem Machine.Standard.obeys_roomy {m : Machine} (h : m.Standard) {c : Conduct} (hc : c.Roomy) :
    m.Obeys c :=
  h.obeys hc.relies hc.directing hc.acting hc.looking

theorem updateModules_obeys_roomy {c : Conduct} (hc : c.Roomy) (time dt : Float) (w : World) :
    (updateModules time dt).Obeys c w :=
  (updateModules_steps time dt w).mono hc.relies hc.stepping

theorem Director.update_obeys_roomy {c : Conduct} (hc : c.Roomy) (dt : Float) (w : World) :
    (update dt).Obeys c w := by
  refine update_obeys hc.relies hc.opens (fun w senses hcontacts => ?_)
    (Conduct.ruling_within hc.directing hc.turns) (updateModules_obeys_roomy hc 0 dt) w
  have htame : w.Tame { w with senses } :=
    World.tame_of_director rfl (World.quiet_of_journal rfl) rfl rfl rfl (.refl w.store)
      (World.pictured_of_store rfl rfl rfl)
  exact hc.tame htame hcontacts.told

/-! ## Modules -/

theorem Conduct.modules_relies : Conduct.modules.Relies where
  refl _ := trivial
  trans _ _ := trivial
  step _ := trivial

/-- The default behaviours reach the modules by calls only. -/
theorem Machine.Standard.obeys_modules {m : Machine} (h : m.Standard) : m.Obeys .modules := by
  refine h.obeys Conduct.modules_relies ?_ ?_ ?_
  · have hjudge : ∀ (w : World) (r : Request), Conduct.modules.step w (w.judge r).2 :=
      fun w r => .single (.other (w.aside_judge r).same)
    exact ⟨fun hw => hw.1.calls, Conduct.part_directing hjudge trivial, nofun, nofun,
      fun _ => trivial, nofun, fun _ => trivial⟩
  · exact ⟨fun hw => hw.calls, nofun, fun _ => trivial, nofun, nofun, nofun, fun _ => trivial⟩
  · exact ⟨fun hw => hw.calls, nofun, nofun, nofun, nofun, nofun, fun _ => trivial⟩

end SceneLogic
