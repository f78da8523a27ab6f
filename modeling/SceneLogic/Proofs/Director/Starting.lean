import SceneLogic.Proofs.Director.Answering
import SceneLogic.Proofs.Upholding

/-!
# When start logic runs

A component claims its start logic at the first start event that comes to it, and only then is it
looked whether the data of the event has what the component asks for. If not, the component has
claimed in vain: its start logic does not run at a later event either, until the director forgets
the entity.

* `Machine.Visits.claimed` — at every moment of a run the claims are those of the first start events
* `Director.startEntity_run` — what a start event comes to for an entity
* `start_logic_runs_at_the_first_start` — both together
* `not_always_run_at_first_match` — a start event with the right data may come too late
-/

namespace SceneLogic

namespace World

@[simp] theorem started?_grant (w : World) (f : Frame → Bool × Frame) :
    (w.grant f).2.started? = w.started? := by
  unfold grant
  cases hd : w.director with
  | none => rfl
  | some d => simp only [started?, hd, Option.map_some]

theorem sameClaims_grant (w : World) (f : Frame → Bool × Frame) : w.SameClaims (w.grant f).2 :=
  ⟨w.started?_grant f, by rw [startLog, w.journal_grant, startLog]⟩

theorem sameClaims_openFrame (w : World) (now threshold : Float) :
    w.SameClaims (w.openFrame now threshold).2 := by
  have hgrant := w.sameClaims_grant (·.begin now threshold)
  unfold openFrame
  dsimp only
  split
  · exact ⟨hgrant.started, hgrant.log⟩
  · exact hgrant

theorem sameClaims_judge (w : World) (r : Request) : w.SameClaims (w.judge r).2 :=
  have hgrant := w.sameClaims_grant (·.grantRequest r)
  ⟨hgrant.started, hgrant.log⟩

/-- The director takes down that it forgets an entity. -/
theorem startLog_removeEntity {w : World} (h : w.director ≠ none) (id : EntityId) :
    (w.removeEntity id).startLog = .forgotten id :: w.startLog := by
  obtain ⟨d, hd⟩ := Option.ne_none_iff_exists'.mp h
  unfold removeEntity
  rw [hd]
  rfl

end World

/-- Behaviours that reach the claims of start logic by start events and removals only. -/
def Conduct.starting : Conduct where
  step := Relation.ReflTransGen World.ClaimCall

/-- The director, the default behaviours and updates do not remove entities. -/
theorem Conduct.starting_roomy : Conduct.starting.Roomy where
  tame htame _ := htame.claimed
  opens w now threshold := .single (.other (w.sameClaims_openFrame now threshold))
  requests := by
    refine part_directing (fun w r => ?_) trivial
    exact .single (.other (w.sameClaims_judge r))
  announces _ := trivial
  performs := trivial
  checks := trivial
  rely _ _ := trivial

/-- At every moment of every run the claims are those of the first start events. -/
theorem Machine.Visits.claimed {m : Machine} {w : World} (hm : m.Obeys .starting)
    (hnew : m.world.NoStartsYet) (h : m.Visits .starting w) : w.Claimed :=
  h.holds (fun hcalls hv => hv.calls hcalls) (fun _ _ hv => hv.same ⟨rfl, rfl⟩) id
    (fun _ _ => trivial) hm hnew.claimed

/-! ## Start events -/

namespace Director

/-- The world in which start logic is run: the claims are made and, if any component claimed, the
entity senses. -/
def begun (w : World) (e : Event) (id : EntityId) : World :=
  if (freshStarts w e id).1.isEmpty then (freshStarts w e id).2
  else ((freshStarts w e id).2.situationFor id e.data).2

/-- The situation in which it is run. -/
def beginning (w : World) (e : Event) (id : EntityId) : Situation :=
  ((freshStarts w e id).2.situationFor id e.data).1

/-- The rules of the components that claim are evaluated if they accept the data. -/
theorem startEntity_evaluates_fresh (e : Event) (id : EntityId) (service : Service) (m : Machine) :
    (startEntity e id).run service m =
      (evaluateAll (beginning m.world e id)
        ((freshStarts m.world e id).1.filter (·.reactsTo e.type e.data))).run service
          { m with world := begun m.world e id } := by
  have hclaims : m.world.Claims (freshStarts m.world e id).2 := claimStarts_claims e id _ _
  have hentity := situationFor_entity (freshStarts m.world e id).2 id e.data
  have hunmoved := (freshStarts m.world e id).2.unmoved_situationFor id e.data
  unfold startEntity begun beginning
  rw [Script.run]
  dsimp only
  cases hrules : (freshStarts m.world e id).1 with
  | nil => rfl
  | cons r rest =>
    have hcomponents : m.world.startComponents id ≠ [] := by
      intro hnone
      rw [freshStarts, hnone] at hrules
      cases hrules
    have halive : ((freshStarts m.world e id).2.situationFor id e.data).2.isAlive id = true := by
      rw [hunmoved.isAlive, World.isAlive, hclaims.store, ← World.isAlive]
      exact World.isAlive_of_components hcomponents
    have hconcerns : Event.concerns { e with target := some id } id = true := by
      simp [Event.concerns]
    rw [List.isEmpty_cons, if_neg Bool.false_ne_true, if_neg Bool.false_ne_true, Script.run,
      react_eq, Script.run, hentity]
    simp only [halive, hconcerns, and_self, if_true]

/-- The rules of start components react to a start event if they accept its data. -/
theorem reactsTo_of_startComponents {e : Event} (htype : e.type = EventType.onStart) {w : World}
    {id : EntityId} {c : Component} (hc : c ∈ w.startComponents id) :
    c.rule.reactsTo e.type e.data = c.rule.accepts e.data := by
  have htrigger : c.rule.event = EventType.onStart := beq_iff_eq.mp (componentsOf_accepted hc)
  rw [Rule.reactsTo, htrigger, htype, EventType.answers, beq_self_eq_true, Bool.true_or,
    Bool.true_and]

/-- Of the enabled start components of an entity, a start event has those claim to which none has
come yet. Their rules are evaluated if they accept the data, and nothing else becomes of the event,
but that it has come to all of them. -/
theorem startEntity_run {e : Event} (htype : e.type = EventType.onStart) {id : EntityId}
    {m : Machine} (hclaimed : m.world.Claimed)
    (hnodup : ((m.world.startComponents id).map (·.id)).Nodup) (service : Service) :
    ∃ fresh : List Component, fresh.Sublist (m.world.startComponents id) ∧
      (∀ c ∈ m.world.startComponents id, c ∈ fresh ↔ ¬ Heard id c.id m.world.startLog) ∧
      (∀ c ∈ m.world.startComponents id, Heard id c.id (begun m.world e id).startLog) ∧
      (startEntity e id).run service m =
        (evaluateAll (beginning m.world e id)
          ((fresh.filter (·.rule.accepts e.data)).map (·.rule))).run service
            { m with world := begun m.world e id } := by
  obtain ⟨started, hstarted, hheard⟩ := hclaimed.started
  obtain ⟨answers, hcomponents, hrules, hlog, hfresh⟩ :=
    claimStarts_spec hstarted e id (m.world.startComponents id)
  replace hrules : (freshStarts m.world e id).1 = (answers.filter (·.2)).map (·.1.rule) := hrules
  have hbegun : (begun m.world e id).startLog =
      (answers.map fun a => .heard e id a.1 a.2).reverse ++ m.world.startLog := by
    rw [← hlog]
    unfold begun
    split
    · rfl
    · rw [World.startLog, World.journal_situationFor]
      rfl
  have hanswered : ∀ c ∈ m.world.startComponents id, ∃ granted, (c, granted) ∈ answers := by
    intro c hc
    obtain ⟨a, ha, rfl⟩ := List.mem_map.mp (hcomponents ▸ hc)
    exact ⟨a.2, ha⟩
  have hsublist : ((answers.filter (·.2)).map (·.1)).Sublist (m.world.startComponents id) := by
    rw [← hcomponents]
    exact List.filter_sublist.map _
  refine ⟨(answers.filter (·.2)).map (·.1), hsublist, fun c hc => ?_, fun c hc => ?_, ?_⟩
  · obtain ⟨granted, ha⟩ := hanswered c hc
    rw [← hheard]
    constructor
    · intro hmem
      obtain ⟨a, hfilter, rfl⟩ := List.mem_map.mp hmem
      obtain ⟨hanswer, hgranted⟩ := List.mem_filter.mp hfilter
      exact (hfresh hnodup a hanswer).mp hgranted
    · intro hnew
      have hgranted := (hfresh hnodup _ ha).mpr hnew
      exact List.mem_map.mpr ⟨(c, granted), List.mem_filter.mpr ⟨ha, hgranted⟩, rfl⟩
  · obtain ⟨granted, ha⟩ := hanswered c hc
    rw [hbegun]
    exact (heard_append_heard e id c.id answers _).mpr (Or.inl ⟨_, ha, rfl⟩)
  · rw [startEntity_evaluates_fresh, hrules]
    have hmap : (answers.filter (·.2)).map (·.1.rule) =
        ((answers.filter (·.2)).map (·.1)).map (·.rule) := by rw [List.map_map]; rfl
    rw [hmap, List.filter_map]
    refine congrArg (fun rules => (evaluateAll (beginning m.world e id) rules).run service _) ?_
    refine congrArg (List.map _) (List.filter_congr fun c hc => ?_)
    exact reactsTo_of_startComponents htype (hsublist.subset hc)

/-- While the scene is played, a start event comes to its target, or without one to all entities in
turn. -/
theorem listener_start {e : Event} (htype : e.type = EventType.onStart) (service : Service)
    {m : Machine} (hplaying : m.world.isPlaying = true) :
    (listener e).run service m =
      ((match e.target with
        | some target => startEntity e target
        | none => Script.forEach m.world.store.ids (startEntity e)).bind fun _ =>
          .done (.ok () : Except Failure Unit)).run service m := by
  have hcollision : isCollision e.type = false := by rw [htype]; decide
  have hhandle : (handle e).run service m = (start e).run service m := by
    unfold handle
    rw [if_neg (Bool.eq_false_iff.mp hcollision), Script.run, hplaying, if_neg (by decide),
      if_pos htype]
  rw [listener, Script.run_bind, hhandle, Script.run_bind]
  unfold start
  cases e.target with
  | some target => rfl
  | none => rfl

/-- Start logic answers to start events only. -/
theorem answers_onStart {type : String} :
    EventType.answers EventType.onStart type = true ↔ type = EventType.onStart := by
  constructor
  · intro h
    rcases Bool.or_eq_true_iff.mp h with h | h
    · exact (beq_iff_eq.mp h).symm
    · unfold EventType.aliases at h
      repeat' split at h
      all_goals exact absurd h (by decide)
  · rintro rfl
    decide

end Director

/-! ## Runs -/

/-- At every moment of every run just those start events had a component claim to which none had
come since the entity was last removed. While the scene is played, a start event comes to its target
or, without one, to all entities in turn. Of the enabled components of an entity that is live those
claim to which none has come yet, and of these the ones run whose rules accept the data. No other
event runs start logic, and no update does. -/
theorem start_logic_runs_at_the_first_start {m : Machine} {w : World} (hm : m.Obeys .starting)
    (hnew : m.world.NoStartsYet) (h : m.Visits .starting w) :
    (∀ later e id c granted earlier, w.startLog = later ++ .heard e id c granted :: earlier →
      (granted = true ↔ ¬ Heard id c.id earlier)) ∧
    (∀ id, (w.removeEntity id).startLog = .forgotten id :: w.startLog) ∧
    (∀ (service : Service) (n : Machine) (e : Event), e.type = EventType.onStart →
      n.world.isPlaying = true → (Director.listener e).run service n =
        ((match e.target with
          | some target => Director.startEntity e target
          | none => Script.forEach n.world.store.ids (Director.startEntity e)).bind fun _ =>
            .done (.ok () : Except Failure Unit)).run service n) ∧
    (∀ (service : Service) (n : Machine) (e : Event) (id : EntityId), n.world = w →
      e.type = EventType.onStart → ((w.startComponents id).map (·.id)).Nodup →
      ∃ fresh : List Component, fresh.Sublist (w.startComponents id) ∧
        (∀ c ∈ w.startComponents id, c ∈ fresh ↔ ¬ Heard id c.id w.startLog) ∧
        (∀ c ∈ w.startComponents id, Heard id c.id (Director.begun w e id).startLog) ∧
        (Director.startEntity e id).run service n =
          (Director.evaluateAll (Director.beginning w e id)
            ((fresh.filter (·.rule.accepts e.data)).map (·.rule))).run service
              { n with world := Director.begun w e id }) ∧
    ∀ (service : Service) (n k : Machine) (id : EntityId) (r : Rule),
      r.event = EventType.onStart →
      (∀ e, (Director.listener e).Evaluates service n id r k → e.type = EventType.onStart) ∧
      ∀ dt, ¬ (Director.update dt).Evaluates service n id r k := by
  have hclaimed := h.claimed hm hnew
  obtain ⟨started, hstarted, -⟩ := hclaimed.started
  have hdirector : w.director ≠ none := by
    intro hnone
    rw [World.started?, hnone] at hstarted
    cases hstarted
  refine ⟨fun later e id c granted earlier => hclaimed.first.at_heard,
    World.startLog_removeEntity hdirector,
    fun service n e htype hplaying => Director.listener_start htype service hplaying, ?_, ?_⟩
  · rintro service n e id rfl htype hnodup
    exact Director.startEntity_run htype hclaimed hnodup service
  · intro service n k id r hr
    refine ⟨fun e heval => ?_, fun dt heval => ?_⟩
    · have hanswers := (Director.listener_answers n id r k heval).1
      rw [hr] at hanswers
      exact Director.answers_onStart.mp hanswers
    · have hticks : EventType.answers r.event EventType.tick = true :=
        Director.update_ticks dt n id r k heval
      rw [hr] at hticks
      exact absurd hticks (by decide)

/-! ## A hero who waits for the second chapter -/

namespace Chapters

/-- When the second chapter starts, the hero has something to say. -/
def opens : Component :=
  ⟨"opens", true,
    { event := "OnStart"
      eventParams := some [("chapter", .text "two")]
      actions := [⟨"ShowDialogue", [("text", .text "Again?")]⟩] }⟩

def machine : Machine :=
  let m : Machine :=
    { world :=
        { director := some {}
          store := Store.empty.insert { id := ⟨"hero"⟩, components := [opens] } }
      listeners := [(1, Director.listener)] }
  m.withDefaultActions.withDefaultConditions

theorem machine_standard : machine.Standard :=
  Machine.standard_withDefaults rfl rfl rfl

theorem machine_obeys : machine.Obeys .starting :=
  machine_standard.obeys_roomy Conduct.starting_roomy

theorem machine_new : machine.world.NoStartsYet :=
  ⟨rfl, rfl⟩

/-- The data of the start of a chapter. -/
def chapter (number : String) : Params :=
  [("chapter", .text number)]

/-- The start of a chapter, as the hero hears of it. -/
def opening (number : String) : Event :=
  ⟨EventType.onStart, some ⟨"hero"⟩, chapter number, 0⟩

/-- The host starts a chapter for the hero. -/
def start (number : String) : Script Unit :=
  Script.announce EventType.onStart (chapter number) (some ⟨"hero"⟩)

theorem start_obeys (number : String) (w : World) : (start number).Obeys .starting w :=
  .emit trivial fun _ _ => .done

/-- The first chapter starts, and the hero says nothing. -/
theorem first_chapter : ∃ m, machine.Runs .starting m ∧
    (start "one").run (Service.atDepth 4) machine = some ((), m) ∧
    m.world.startLog = [.heard (opening "one") ⟨"hero"⟩ opens true] ∧
    m.world.startComponents ⟨"hero"⟩ = [opens] ∧ m.world.isPlaying = true ∧
    m.world.evaluations = [] := by
  have hrun : ∃ m, (start "one").run (Service.atDepth 4) machine = some ((), m) ∧
      m.world.startLog = [.heard (opening "one") ⟨"hero"⟩ opens true] ∧
      m.world.startComponents ⟨"hero"⟩ = [opens] ∧ m.world.isPlaying = true ∧
      m.world.evaluations = [] := ⟨_, rfl, rfl, rfl, rfl, rfl⟩
  obtain ⟨m, hrun, hrest⟩ := hrun
  exact ⟨m, .script .refl (start_obeys "one" _) hrun, hrun, hrest⟩

end Chapters

/-- When the second chapter starts after the first one, no start logic of the hero is left to run. -/
theorem hero_has_claimed_in_vain : ∃ w, Chapters.machine.Obeys .starting ∧
    Chapters.machine.world.NoStartsYet ∧ Chapters.machine.Visits .starting w ∧
    Heard ⟨"hero"⟩ "opens" w.startLog ∧ ∀ (service : Service) (n : Machine), n.world = w →
      (Director.startEntity (Chapters.opening "two") ⟨"hero"⟩).run service n =
        (Director.evaluateAll (Director.beginning w (Chapters.opening "two") ⟨"hero"⟩) []).run
          service { n with world := Director.begun w (Chapters.opening "two") ⟨"hero"⟩ } := by
  obtain ⟨m, hruns, -, hlog, hcomponents, -, -⟩ := Chapters.first_chapter
  have hheard : Heard ⟨"hero"⟩ "opens" m.world.startLog := by
    rw [hlog]
    exact Or.inl rfl
  refine ⟨m.world, Chapters.machine_obeys, Chapters.machine_new, hruns.visits, hheard, ?_⟩
  intro service n hn
  obtain ⟨-, -, -, hcomes, -⟩ := start_logic_runs_at_the_first_start Chapters.machine_obeys
    Chapters.machine_new hruns.visits
  obtain ⟨fresh, hsublist, hfresh, -, hrun⟩ := hcomes service n (Chapters.opening "two") ⟨"hero"⟩
    hn rfl (by rw [hcomponents]; simp)
  rw [hcomponents] at hsublist hfresh
  have hnone : fresh = [] := by
    refine List.eq_nil_iff_forall_not_mem.mpr fun c hc => ?_
    obtain rfl := List.mem_singleton.mp (hsublist.subset hc)
    exact (hfresh _ List.mem_cons_self).mp hc hheard
  rw [hrun, hnone]
  rfl

/-- A component that has not run yet, though it is enabled and its entity is live, may stay silent
at a start event with all the data that it asks for. -/
theorem not_always_run_at_first_match : ¬ ∀ (depth : Nat) (m₀ m m' : Machine) (id : EntityId)
    (c : Component) (data : Params), m₀.Standard → m₀.world.NoStartsYet → m₀.Runs .starting m →
    m.world.isPlaying = true → ((m.world.startComponents id).map (·.id)).Nodup →
    c ∈ m.world.startComponents id → (id, c.rule) ∉ m.world.evaluations →
    c.rule.accepts data = true →
    (Script.announce EventType.onStart data (some id)).run (Service.atDepth depth) m =
      some ((), m') → (id, c.rule) ∈ m'.world.evaluations := by
  intro hclaim
  have hrun : ∃ m m', (Chapters.start "one").run (Service.atDepth 4) Chapters.machine =
      some ((), m) ∧ (Chapters.start "two").run (Service.atDepth 4) m = some ((), m') ∧
      m.world.startComponents ⟨"hero"⟩ = [Chapters.opens] ∧ m.world.isPlaying = true ∧
      m.world.evaluations = [] ∧ m'.world.evaluations = [] :=
    ⟨_, _, rfl, rfl, rfl, rfl, rfl, rfl⟩
  obtain ⟨m, m', h₁, h₂, hcomponents, hplaying, hbefore, hafter⟩ := hrun
  have hruns : Chapters.machine.Runs .starting m := .script .refl (Chapters.start_obeys _ _) h₁
  have hevaluated := hclaim 4 _ m m' ⟨"hero"⟩ Chapters.opens (Chapters.chapter "two")
    Chapters.machine_standard Chapters.machine_new hruns hplaying
    (by rw [hcomponents]; simp)
    (by rw [hcomponents]; exact List.mem_cons_self)
    (by rw [hbefore]; exact List.not_mem_nil) (by decide) h₂
  rw [hafter] at hevaluated
  exact List.not_mem_nil hevaluated

end SceneLogic
