import SceneLogic.Proofs.Director.Routing

/-!
# What an offered event comes to

When the director offers an event to an entity, the rules of the entity that react to it are
evaluated one after the other, and that is all. `Director.offer_run` says so.

The director itself leaves the scene as it is: it keeps the books of the frame and the journal,
and entities come to sense that did not. `World.Unmoved` says just that.
-/

namespace SceneLogic

/-! ## What the director changes by itself -/

/-- Entities came to sense that did not, and nothing was sensed. -/
structure Senses.Attends (s s' : Senses) : Prop where
  groundTags : s'.groundTags = s.groundTags
  cells : ∃ n, s'.cells = s.cells ++ List.replicate n default
  cellOf : ∀ id cell, Dict.get? s.cellOf id = some cell → Dict.get? s'.cellOf id = some cell

namespace Senses

theorem Attends.refl (s : Senses) : s.Attends s :=
  ⟨rfl, ⟨0, (List.append_nil _).symm⟩, fun _ _ h => h⟩

theorem Attends.trans {s t u : Senses} (h : s.Attends t) (h' : t.Attends u) : s.Attends u where
  groundTags := h'.groundTags.trans h.groundTags
  cells := by
    obtain ⟨n, hn⟩ := h.cells
    obtain ⟨k, hk⟩ := h'.cells
    exact ⟨n + k, by rw [hk, hn, List.append_assoc, List.replicate_append_replicate]⟩
  cellOf := fun id cell hcell => h'.cellOf id cell (h.cellOf id cell hcell)

theorem attends_attend (s : Senses) (id : EntityId) : s.Attends (s.attend id).2 := by
  unfold attend
  split
  · exact .refl s
  · next hnone =>
    refine ⟨rfl, ⟨1, rfl⟩, fun id' cell hcell => ?_⟩
    have hne : id ≠ id' := by
      rintro rfl
      rw [hnone] at hcell
      cases hcell
    exact (Dict.get?_insert_of_ne _ _ hne).trans hcell

end Senses

namespace World

/-- The scene is as it was. Only the books of the frame and the journal may have gone on, and
entities may have come to sense. -/
structure Unmoved (w w' : World) : Prop where
  senses : w.senses.Attends w'.senses
  director : w'.director.map (fun d => { d with frame := {} }) =
    w.director.map fun d => { d with frame := {} }
  others : { w' with senses := {}, director := none, journal := [] } =
    { w with senses := {}, director := none, journal := [] }

variable {w w' : World}

theorem Unmoved.refl (w : World) : w.Unmoved w :=
  ⟨.refl _, rfl, rfl⟩

theorem Unmoved.trans {u v w : World} (h : u.Unmoved v) (h' : v.Unmoved w) : u.Unmoved w :=
  ⟨h.senses.trans h'.senses, h'.director.trans h.director, h'.others.trans h.others⟩

theorem unmoved_record (w : World) (h : Happening) : w.Unmoved (w.record h) :=
  ⟨.refl _, rfl, rfl⟩

theorem unmoved_judge (w : World) (r : Request) : w.Unmoved (w.judge r).2 := by
  unfold judge grant
  cases hd : w.director with
  | none => exact unmoved_record w _
  | some d => exact ⟨.refl _, by simp only [record, hd, Option.map_some], rfl⟩

theorem unmoved_situationFor (w : World) (id : EntityId) (data : Params) :
    w.Unmoved (w.situationFor id data).2 := by
  unfold situationFor
  split
  · exact .refl w
  · exact ⟨w.senses.attends_attend id, rfl, rfl⟩

theorem journal_situationFor (w : World) (entity : EntityId) (data : Params) :
    (w.situationFor entity data).2.journal = w.journal := by
  unfold situationFor
  split
  · rfl
  · rfl

/-- The rules of the enabled components of an entity, in order. One that is absent, inactive or
dead has none. -/
def rulesOf (w : World) (id : EntityId) : List Rule :=
  match w.store.get? id with
  | some e => if e.isLive then (e.components.filter (·.enabled)).map (·.rule) else []
  | none => []

/-- The rules of an entity that react to an event. -/
def reacting (w : World) (e : Event) (id : EntityId) : List Rule :=
  (w.rulesOf id).filter (·.reactsTo e.type e.data)

namespace Unmoved

theorem store (h : w.Unmoved w') : w'.store = w.store :=
  (congrArg World.store h.others :)

theorem sceneRules (h : w.Unmoved w') : w'.sceneRules = w.sceneRules := by
  have hrules := congrArg (fun d => (d.map Director.rules).getD []) h.director
  simpa only [World.sceneRules, Option.map_map, Function.comp_def] using hrules

theorem isAlive (h : w.Unmoved w') (id : EntityId) : w'.isAlive id = w.isAlive id := by
  rw [World.isAlive, World.isAlive, h.store]

theorem rulesOf (h : w.Unmoved w') (id : EntityId) : w'.rulesOf id = w.rulesOf id := by
  rw [World.rulesOf, World.rulesOf, h.store]

end Unmoved

/-- The components that answer to the type of an event are picked first. Of their rules those that
react are the ones of the entity that do. -/
theorem filter_componentsOf (w : World) (e : Event) (id : EntityId) :
    ((w.componentsOf id fun t => EventType.answers t e.type).map (·.rule)).filter
      (·.reactsTo e.type e.data) = w.reacting e id := by
  unfold reacting rulesOf componentsOf
  cases w.store.get? id with
  | none => rfl
  | some x =>
    dsimp only
    cases x.isLive with
    | false => rfl
    | true =>
      simp only [if_true, List.filter_map, List.filter_filter]
      refine congrArg _ (List.filter_congr fun c _ => ?_)
      -- A rule that reacts answers to the type.
      simp only [Function.comp_apply, Rule.reactsTo, Component.trigger]
      cases EventType.answers c.rule.event e.type with
      | false => simp
      | true => simp

theorem isAlive_of_isLive {id : EntityId} (h : w.isLive id = true) : w.isAlive id = true := by
  unfold isLive at h
  unfold isAlive
  cases hfound : w.store.get? id with
  | none => rfl
  | some x =>
    rw [hfound] at h
    exact (Bool.and_eq_true_iff.mp h).2

theorem isAlive_of_components {id : EntityId} {accept : String → Bool}
    (h : w.componentsOf id accept ≠ []) : w.isAlive id = true := by
  obtain ⟨c, hc⟩ := List.exists_mem_of_ne_nil _ h
  exact isAlive_of_isLive (isLive_of_component hc)

end World

/-! ## Offers -/

/-- The event is aimed at nobody else. -/
def Event.concerns (e : Event) (id : EntityId) : Bool :=
  e.target = none ∨ e.target = some id

namespace Director

/-- Evaluates rules one after the other. -/
def evaluateAll (s : Situation) (rules : List Rule) : Script Unit :=
  Script.forEach rules fun r => (r.evaluate s (request s)).bind fun _ => .done ()

/-- The dead do not react, and nobody does to what is aimed at another. -/
theorem react_eq (e : Event) (s : Situation) (rules : List Rule) :
    react e s rules (request s) = .read fun w =>
      evaluateAll s (if w.isAlive s.entity ∧ e.concerns s.entity then
        rules.filter (·.reactsTo e.type e.data) else []) := by
  unfold react
  refine congrArg Script.read (funext fun w => ?_)
  dsimp only
  unfold Event.concerns
  cases halive : w.isAlive s.entity with
  | false => simp [evaluateAll, Script.forEach]
  | true =>
    cases htarget : e.target with
    | none => simp [evaluateAll]
    | some target =>
      by_cases hentity : target = s.entity
      · simp [hentity, evaluateAll]
      · simp [hentity, evaluateAll, Script.forEach]

/-- The world in which the rules of an entity are evaluated: if any component answers to the type
of the event, the entity senses. -/
def noticing (w : World) (e : Event) (id : EntityId) (data : Params) : World :=
  if (w.componentsOf id fun t => EventType.answers t e.type).isEmpty then w
  else (w.situationFor id data).2

theorem unmoved_noticing (w : World) (e : Event) (id : EntityId) (data : Params) :
    w.Unmoved (noticing w e id data) := by
  unfold noticing
  split
  · exact .refl w
  · exact w.unmoved_situationFor id data

/-- An offer to an entity alone: if any of its components answers to the event, it senses, and
reacts by their rules. -/
theorem offer_alone_eq (e : Event) (id : EntityId) (data : Params) :
    offer e id data false = .read fun w =>
      if (w.componentsOf id fun t => EventType.answers t e.type).isEmpty then .done ()
      else .write (w.situationFor id data).2
        (react e (w.situationFor id data).1
          ((w.componentsOf id fun t => EventType.answers t e.type).map (·.rule))
          (request (w.situationFor id data).1)) := by
  unfold offer
  refine congrArg Script.read (funext fun w => ?_)
  cases w.componentsOf id fun t => EventType.answers t e.type with
  | nil => rfl
  | cons x rest => exact congrArg (Script.write _) (Script.bind_done _)

/-- Of an offer to an entity alone holds what holds of the evaluation of those of its rules that
react, or of none if the event is aimed at another. It has to hold whether or not one looks at the
world before, or changes it without an entry in the journal. -/
theorem offer_alone_by (P : Script Unit → Machine → Prop)
    (hread : ∀ {k : World → Script Unit} {m : Machine}, P (k m.world) m → P (.read k) m)
    (hwrite : ∀ {w : World} {k : Script Unit} {m : Machine}, w.journal = m.world.journal →
      P k { m with world := w } → P (.write w k) m)
    {e : Event} {id : EntityId} {data : Params} {m : Machine}
    (h : P (evaluateAll (m.world.situationFor id data).1
      (if e.concerns id then m.world.reacting e id else []))
        { m with world := noticing m.world e id data }) : P (offer e id data false) m := by
  have hentity := situationFor_entity m.world id data
  have hunmoved := m.world.unmoved_situationFor id data
  rw [← m.world.filter_componentsOf, noticing] at h
  rw [offer_alone_eq]
  refine hread ?_
  cases hcomps : m.world.componentsOf id fun t => EventType.answers t e.type with
  | nil =>
    rw [hcomps] at h
    simpa [evaluateAll, Script.forEach] using h
  | cons x rest =>
    have halive : (m.world.situationFor id data).2.isAlive id = true := by
      rw [hunmoved.isAlive]
      exact World.isAlive_of_components (by rw [hcomps]; exact List.cons_ne_nil _ _)
    rw [hcomps] at h
    simp only [List.isEmpty_cons, Bool.false_eq_true, if_false] at h ⊢
    refine hwrite (m.world.journal_situationFor id data) ?_
    rw [react_eq]
    refine hread ?_
    simpa only [hentity, halive, true_and] using h

/-- An offer to an entity alone evaluates those of its rules that react, if the event is aimed at
nobody else. -/
theorem offer_run (e : Event) (id : EntityId) (data : Params) (service : Service) (m : Machine) :
    (offer e id data false).run service m =
      (evaluateAll (m.world.situationFor id data).1
        (if e.concerns id then m.world.reacting e id else [])).run service
          { m with world := noticing m.world e id data } := by
  generalize heval : (evaluateAll _ _).run service _ = result
  exact offer_alone_by (fun s m => s.run service m = result) (fun h => h) (fun _ h => h) heval

end Director

end SceneLogic
