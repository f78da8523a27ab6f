import SceneLogic.Proofs.Announcing
import SceneLogic.Proofs.Director.Answering
import SceneLogic.Proofs.Director.Enacting

/-!
# Death logic

Death logic is evaluated only while the director handles an event that tells of a death, and the
event is aimed at the entity or at nobody. The second case is the rule: of the default actions only
the taking of damage tells of a death, and it tells everybody. So the death logic of all that live
on is evaluated, whoever died, while the one who died does not react.

* `Machine.ComesTo.mourns` — what leads to death logic
* `Director.obituary_run` — what becomes of a death that everybody is told of
* `death_logic_hears_of_all_deaths` — both together, and what the default actions tell
* `not_only_own_death` — death logic runs, though the entity did not die
-/

namespace SceneLogic

/-- The rule is death logic. -/
def Rule.IsDeathLogic (r : Rule) : Prop :=
  r.event = "OnDeath" ∨ r.event = "OnDestroy"

/-- Only deaths have the names of death logic as aliases. -/
theorem EventType.not_mem_aliases {type : String} (h : type ≠ entityDied) :
    "OnDeath" ∉ aliases type ∧ "OnDestroy" ∉ aliases type := by
  unfold aliases
  rw [if_neg h]
  repeat' split
  all_goals decide

namespace Rule.IsDeathLogic

variable {r : Rule} {type : String}

/-- Death logic answers to its own name and to deaths. -/
theorem type_of_answers (hr : r.IsDeathLogic) (h : EventType.answers r.event type = true) :
    type = EventType.entityDied ∨ type = r.event := by
  rcases Bool.or_eq_true_iff.mp h with h | h
  · exact Or.inr (beq_iff_eq.mp h).symm
  by_cases hdied : type = EventType.entityDied
  · exact Or.inl hdied
  have hmem := List.contains_iff_mem.mp h
  rcases hr with hr | hr
  · exact absurd (hr ▸ hmem) (EventType.not_mem_aliases hdied).1
  · exact absurd (hr ▸ hmem) (EventType.not_mem_aliases hdied).2

theorem tellsOfDeath_of_answers (hr : r.IsDeathLogic)
    (h : EventType.answers r.event type = true) : EventType.tellsOfDeath type = true := by
  rcases hr with hr | hr
  · rw [hr] at h
    rw [EventType.tellsOfDeath, h, Bool.true_or]
  · rw [hr] at h
    rw [EventType.tellsOfDeath, h, Bool.or_true]

theorem not_ticks (hr : r.IsDeathLogic) (id : EntityId) : ¬ Director.Ticks id r := by
  unfold Director.Ticks
  rcases hr with hr | hr
  · rw [hr]
    decide
  · rw [hr]
    decide

end Rule.IsDeathLogic

/-! ## What leads to death logic -/

/-- Whenever death logic is evaluated in a run, the director is handling an event that tells of a
death and is aimed at nobody else. -/
theorem Machine.ComesTo.mourns {m n : Machine} {id : EntityId} {r : Rule} (hm : m.Staffed)
    (hr : r.IsDeathLogic) (h : m.ComesTo n (n.world.record (.evaluated id r))) :
    ∃ depth m₁ e, m.Handles e depth m₁ ∧
      (Director.listener e).Evaluates (Service.atDepth depth) m₁ id r n ∧
      (e.type = EventType.entityDied ∨ e.type = r.event) ∧
      (e.target = none ∨ e.target = some id) := by
  obtain ⟨depth, m₁, ⟨e, hhandles, heval⟩ | ⟨dt, heval⟩⟩ := h.evaluates hm
  · obtain ⟨hanswers, hconcerns⟩ := Director.listener_answers m₁ id r n heval
    exact ⟨depth, m₁, e, hhandles, heval, hr.type_of_answers hanswers,
      of_decide_eq_true hconcerns⟩
  · exact absurd (Director.update_ticks dt m₁ id r n heval) (hr.not_ticks id)

/-- No default action but the taking of damage tells of a death. It tells everybody that it is the
acting entity's. -/
theorem mourned_by_defaults {r : Rule} (hr : r.IsDeathLogic) {a : String × Action}
    (ha : a ∈ defaultActions) {s : Situation} {params : Params} {service : Service}
    {n m : Machine} {type : String} {data : Params} {target : Option EntityId}
    (hbegin : (Script.announce type data target).Begins service n (a.2 s params) m)
    (hanswers : EventType.answers r.event type = true) :
    a = ("TakeDamage", Combat.takeDamage) ∧ type = EventType.entityDied ∧
      data = [("entityId", .text s.entity.name)] ∧ target = none := by
  have htells := hr.tellsOfDeath_of_answers hanswers
  rcases defaultActions_spare a ha with rfl | hspares
  · exact ⟨rfl, (Combat.takeDamage_mourns s params).announces hbegin htells⟩
  · have hspared : EventType.tellsOfDeath type = false := (hspares s params).announces hbegin
    rw [htells] at hspared
    cases hspared

/-- A death that everybody is told of is offered to one entity after the other, and each evaluates
its rules that react if it is live when its turn comes. Nobody asks who died. -/
theorem Director.obituary_run {e : Event} (htype : e.type = EventType.entityDied)
    (htarget : e.target = none) {m : Machine} (hplaying : m.world.isPlaying = true)
    (service : Service) :
    (listener e).run service m =
        ((Script.forEach m.world.store.ids fun id => offer e id e.data false).bind fun _ =>
          .done (.ok ())).run service m ∧
      ∀ (id : EntityId) (n : Machine), (offer e id e.data false).run service n =
        (evaluateAll (n.world.situationFor id e.data).1 (n.world.reacting e id)).run service
          { n with world := noticing n.world e id e.data } := by
  constructor
  · have hcollision : isCollision e.type = false := by
      rw [htype]
      rfl
    have hroute : handle e = .read fun w => if !w.isPlaying then .done () else route e := by
      rw [handle, hcollision]
      simp [htype, EventType.entityDied, EventType.onStart, EventType.onClick, EventType.tick,
        EventType.onUpdate, EventType.eventSignal]
    unfold listener
    rw [hroute, route, htarget, Script.run_bind, Script.run_bind]
    simp only [Script.run, hplaying, Bool.not_true, Bool.false_eq_true, if_false]
  · intro id n
    have hconcerns : e.concerns id = true := by
      simp [Event.concerns, htarget]
    rw [offer_run, if_pos hconcerns]

/-- In every run death logic is evaluated for an entity only while the director handles an event
that was announced, that tells of a death or has the name of the logic, and that is aimed at the
entity or at nobody. Of the default actions only the taking of damage announces such an event, which
names the acting entity and is aimed at nobody. What everybody is told is offered to all entities,
and those evaluate their death logic that are live when their turn comes. -/
theorem death_logic_hears_of_all_deaths {m n : Machine} {id : EntityId} {r : Rule}
    (hm : m.Staffed) (hr : r.IsDeathLogic)
    (h : m.ComesTo n (n.world.record (.evaluated id r))) :
    (∃ depth m₁ e, m.Handles e depth m₁ ∧
      (Director.listener e).Evaluates (Service.atDepth depth) m₁ id r n ∧
      (e.type = EventType.entityDied ∨ e.type = r.event) ∧
      (e.target = none ∨ e.target = some id)) ∧
    (∀ a ∈ defaultActions, ∀ (s : Situation) (params : Params) (service : Service) (n m : Machine)
      (type : String) (data : Params) (target : Option EntityId),
      (Script.announce type data target).Begins service n (a.2 s params) m →
      EventType.answers r.event type = true →
      a = ("TakeDamage", Combat.takeDamage) ∧ type = EventType.entityDied ∧
        data = [("entityId", .text s.entity.name)] ∧ target = none) ∧
    ∀ (service : Service) (m : Machine) (e : Event), e.type = EventType.entityDied →
      e.target = none → m.world.isPlaying = true →
      (Director.listener e).run service m =
          ((Script.forEach m.world.store.ids fun id => Director.offer e id e.data false).bind
            fun _ => .done (.ok ())).run service m ∧
        ∀ (id : EntityId) (n : Machine), (Director.offer e id e.data false).run service n =
          (Director.evaluateAll (n.world.situationFor id e.data).1 (n.world.reacting e id)).run
            service { n with world := Director.noticing n.world e id e.data } := by
  refine ⟨h.mourns hm hr, ?_, ?_⟩
  · intro a ha s params service n m type data target hbegin hanswers
    exact mourned_by_defaults hr ha hbegin hanswers
  · intro service m e htype htarget hplaying
    exact Director.obituary_run htype htarget hplaying service

/-! ## A hero and a slime -/

namespace Hunt

/-- Tells that the hero dies. -/
def lament : Rule :=
  { event := "OnDeath", actions := [⟨"ShowDialogue", [("text", .text "dies")]⟩] }

def hero : Entity :=
  { id := ⟨"hero"⟩, components := [⟨"laments", true, lament⟩] }

def slime : Entity :=
  { id := ⟨"slime"⟩, vars := [⟨"hp", .int 5, .int⟩] }

def machine : Machine :=
  let m : Machine :=
    { world := { director := some {}, store := (Store.empty.insert hero).insert slime }
      listeners := [(1, Director.listener)] }
  m.withDefaultActions.withDefaultConditions

theorem machine_standard : machine.Standard :=
  Machine.standard_withDefaults rfl rfl rfl

/-- The slime takes as much damage as it can. -/
def slay : Script Unit :=
  Script.act "TakeDamage" ⟨⟨"slime"⟩, [], none, none, none⟩ [("amount", .int 5)]

set_option maxRecDepth 1000 in
/-- The slime dies, and the hero is lamented. -/
theorem hero_lamented : ∃ n,
    slay.Makes (Service.atDepth 3) (Watch.atDepth 3) n
      (n.world.record (.evaluated ⟨"hero"⟩ lament)) machine := by
  -- The moment is found on the way to it.
  apply Exists.intro
  refine Or.inr (Or.inl ⟨Combat.takeDamage, rfl, ?_⟩)
  refine Or.inr (Or.inr (Or.inr (Or.inr ⟨_, rfl, ?_⟩)))
  refine Or.inr (Or.inl (Or.inl ?_))
  iterate 6 apply Or.inr
  exact Or.inl ⟨rfl, rfl⟩

set_option maxRecDepth 1000 in
/-- The slime is the only one whose death is announced. -/
theorem slime_died : ∃ m, slay.run (Service.atDepth 4) machine = some ((), m) ∧
    m.world.evaluations = [(⟨"hero"⟩, lament)] ∧
    (m.world.announced.map fun e => (e.type, e.target, e.text? "entityId")) =
      [("DIALOGUE_SHOW", none, some "hero"), ("ENTITY_DIED", none, some "slime"),
        ("HP_CHANGED", none, some "slime")] :=
  ⟨_, rfl, rfl, rfl⟩

end Hunt

/-- What leads to the evaluation of the hero's death logic is a death that everybody is told of, and
it is not the hero's. -/
theorem hero_lamented_for_slime : ∃ n depth m₁ e, Hunt.machine.Staffed ∧
    Hunt.lament.IsDeathLogic ∧
    Hunt.machine.ComesTo n (n.world.record (.evaluated ⟨"hero"⟩ Hunt.lament)) ∧
    Hunt.machine.Handles e depth m₁ ∧
    (Director.listener e).Evaluates (Service.atDepth depth) m₁ ⟨"hero"⟩ Hunt.lament n ∧
    (e.target = none ∨ e.target = some ⟨"hero"⟩) := by
  have hslay : Hunt.slay.Obeys .hosting Hunt.machine.world :=
    .perform trivial fun _ _ => .done
  obtain ⟨n, hmake⟩ := Hunt.hero_lamented
  have hcomes : Hunt.machine.ComesTo n (n.world.record (.evaluated ⟨"hero"⟩ Hunt.lament)) :=
    .script .refl hslay hmake
  obtain ⟨⟨depth, m₁, e, hhandles, heval, -, htarget⟩, -, -⟩ :=
    death_logic_hears_of_all_deaths Hunt.machine_standard.staffed (Or.inl rfl) hcomes
  exact ⟨n, depth, m₁, e, Hunt.machine_standard.staffed, Or.inl rfl, hcomes, hhandles, heval,
    htarget⟩

/-- With none but the default behaviours, and nothing done by the host but to have one entity take
damage, death logic may be evaluated for an entity though its death was never announced. -/
theorem not_only_own_death : ¬ ∀ (depth : Nat) (m m' : Machine) (s : Situation) (params : Params)
    (id : EntityId) (r : Rule), m.Standard → m.world.journal = [] →
    (Script.act "TakeDamage" s params).run (Service.atDepth depth) m = some ((), m') →
    r.IsDeathLogic → (id, r) ∈ m'.world.evaluations →
    ∃ e ∈ m'.world.announced, e.type = EventType.entityDied ∧
      (e.target = some id ∨ e.text? "entityId" = some id.name) := by
  intro hclaim
  obtain ⟨m, hrun, hevaluations, hannounced⟩ := Hunt.slime_died
  obtain ⟨e, he, htype, htold⟩ := hclaim 4 _ m _ _ ⟨"hero"⟩ Hunt.lament Hunt.machine_standard rfl
    hrun (Or.inl rfl) (by rw [hevaluations]; exact List.mem_cons_self)
  have hmem : (e.type, e.target, e.text? "entityId") ∈ _ := hannounced ▸ List.mem_map_of_mem he
  simp [htype, EventType.entityDied] at hmem
  rcases htold with htold | htold
  · rw [hmem.1] at htold
    exact absurd htold (by decide)
  · rw [hmem.2] at htold
    exact absurd htold (by decide)

end SceneLogic
