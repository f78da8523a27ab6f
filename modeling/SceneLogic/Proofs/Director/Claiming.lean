import Mathlib.Logic.Relation
import SceneLogic.Director
import SceneLogic.Proofs.Conduct

/-!
# Which components claim their start logic

A start event comes to the enabled start components of an entity that is live. The first one that
comes to a component has it claim its start logic, and later ones do not, until the director forgets
the entity. The claim is all that the director remembers; whether the data of the event is what the
component asks for is looked at later.

* `Heard` — a start event came to a component since its entity was last forgotten
* `World.Claimed` — the director remembers just the components to which one came, and those that
  claimed were the first
* `World.ClaimCall` — what may become of the claims, and `Claimed.calls`: it keeps all of that
* `Director.claimStarts_spec` — the claims of one start event that comes to an entity
-/

namespace SceneLogic

/-! ## Reading the journal -/

/-- The entry as something that became of start logic. -/
def Happening.start? : Happening → Option StartEvent
  | .ofStart event => some event
  | _ => none

/-- What became of start logic, the latest first. -/
def World.startLog (w : World) : List StartEvent :=
  w.journal.filterMap Happening.start?

/-- A start event came to the component since its entity was last forgotten. -/
def Heard (entity : EntityId) (component : String) : List StartEvent → Prop
  | [] => False
  | .heard _ id c _ :: earlier => (id, c.id) = (entity, component) ∨ Heard entity component earlier
  | .forgotten id :: earlier => id ≠ entity ∧ Heard entity component earlier

/-- Just those start events had a component claim to which none of the earlier ones had come. -/
def FirstHeard : List StartEvent → Prop
  | [] => True
  | .heard _ id c granted :: earlier => (granted = true ↔ ¬ Heard id c.id earlier) ∧ FirstHeard earlier
  | .forgotten _ :: earlier => FirstHeard earlier

theorem FirstHeard.at_heard {log later earlier : List StartEvent} {e : Event} {id : EntityId}
    {c : Component} {granted : Bool} (h : FirstHeard log)
    (heq : log = later ++ .heard e id c granted :: earlier) :
    granted = true ↔ ¬ Heard id c.id earlier := by
  subst heq
  induction later with
  | nil => exact h.1
  | cons x rest ih =>
    cases x with
    | heard _ _ _ _ => exact ih h.2
    | forgotten _ => exact ih h

namespace World

variable {w w' : World}

/-- The components that claimed their start logic, as the director has them. -/
def started? (w : World) : Option (List (EntityId × String)) :=
  w.director.map (·.started)

@[simp] theorem started?_record (w : World) (h : Happening) :
    (w.record h).started? = w.started? := rfl

/-- The claims of start logic, and what the journal tells of it, stay. -/
structure SameClaims (w w' : World) : Prop where
  started : w'.started? = w.started?
  log : w'.startLog = w.startLog

/-- What may become of the claims: a start event comes to a component, an entity is removed, or all
stays as it is. -/
inductive ClaimCall : World → World → Prop
  | claim (w : World) (e : Event) (id : EntityId) (c : Component) :
      ClaimCall w (Director.claimStart w e id c).2
  | remove (w : World) (id : EntityId) : ClaimCall w (w.removeEntity id)
  | other {w w' : World} : w.SameClaims w' → ClaimCall w w'

/-- The director remembers just the components to which a start event came since their entities were
last forgotten, and each of them claimed at the first one. -/
structure Claimed (w : World) : Prop where
  started : ∃ started, w.started? = some started ∧
    ∀ entity component, (entity, component) ∈ started ↔ Heard entity component w.startLog
  first : FirstHeard w.startLog

/-- No start event has come to anybody yet. -/
structure NoStartsYet (w : World) : Prop where
  started : w.started? = some []
  log : w.startLog = []

theorem NoStartsYet.claimed (h : w.NoStartsYet) : w.Claimed where
  started := by
    refine ⟨[], h.started, fun entity component => ?_⟩
    rw [h.log]
    exact ⟨fun hmem => absurd hmem List.not_mem_nil, False.elim⟩
  first := by
    rw [h.log]
    trivial

/-- The claim of a component is granted unless it is remembered. -/
theorem claimStart_cases {started : List (EntityId × String)} (h : w.started? = some started)
    (e : Event) (id : EntityId) (c : Component) :
    ∃ granted w', Director.claimStart w e id c = (granted, w') ∧
      w'.startLog = .heard e id c granted :: w.startLog ∧
      ((id, c.id) ∈ started ∧ granted = false ∧ w'.started? = some started ∨
        (id, c.id) ∉ started ∧ granted = true ∧ w'.started? = some ((id, c.id) :: started)) := by
  obtain ⟨d, hd, rfl⟩ := Option.map_eq_some_iff.mp h
  unfold Director.claimStart
  rw [hd]
  dsimp only
  by_cases hmem : (id, c.id) ∈ d.started
  · rw [Frame.grant, if_pos hmem]
    exact ⟨false, _, rfl, rfl, Or.inl ⟨hmem, rfl, rfl⟩⟩
  · rw [Frame.grant, if_neg hmem]
    exact ⟨true, _, rfl, rfl, Or.inr ⟨hmem, rfl, rfl⟩⟩

theorem Claimed.claim (h : w.Claimed) (e : Event) (id : EntityId) (c : Component) :
    (Director.claimStart w e id c).2.Claimed := by
  obtain ⟨started, hstarted, hheard⟩ := h.started
  obtain ⟨granted, w', hclaim, hlog, hcases⟩ := claimStart_cases hstarted e id c
  rw [hclaim]
  rcases hcases with ⟨hmem, rfl, hsame⟩ | ⟨hmem, rfl, hgrown⟩
  · have hbefore := (hheard id c.id).mp hmem
    refine ⟨⟨started, hsame, fun entity component => ?_⟩, ?_⟩
    · rw [hlog, hheard]
      refine ⟨Or.inr, Or.rec (fun hkey => ?_) fun hearlier => hearlier⟩
      cases hkey
      exact hbefore
    · rw [hlog]
      exact ⟨by simp [hbefore], h.first⟩
  · have hbefore : ¬ Heard id c.id w.startLog := fun hheard' => hmem ((hheard id c.id).mpr hheard')
    refine ⟨⟨_, hgrown, fun entity component => ?_⟩, ?_⟩
    · rw [hlog, List.mem_cons, hheard, eq_comm (a := (entity, component))]
      exact Iff.rfl
    · rw [hlog]
      exact ⟨by simp [hbefore], h.first⟩

/-- What the director forgets about an entity is what start events left with it. -/
theorem Claimed.remove (h : w.Claimed) (id : EntityId) : (w.removeEntity id).Claimed := by
  obtain ⟨started, hstarted, hheard⟩ := h.started
  obtain ⟨d, hd, rfl⟩ := Option.map_eq_some_iff.mp hstarted
  have hremove : w.removeEntity id = w.forgetEntity id := by
    unfold removeEntity
    rw [hd]
  have hforget : (w.forgetEntity id).started? = some (d.started.filter fun c => c.1 ≠ id) := by
    simp [forgetEntity, started?, modifyDirector, cancelModules, record, hd]
  have hlog : (w.forgetEntity id).startLog = .forgotten id :: w.startLog := rfl
  rw [hremove]
  refine ⟨⟨_, hforget, fun entity component => ?_⟩, ?_⟩
  · rw [hlog, List.mem_filter, hheard, decide_eq_true_iff, ne_comm, and_comm]
    exact Iff.rfl
  · rw [hlog]
    exact h.first

theorem Claimed.same (h : w.Claimed) (hsame : w.SameClaims w') : w'.Claimed where
  started := by
    rw [hsame.started, hsame.log]
    exact h.started
  first := hsame.log ▸ h.first

theorem Claimed.calls (h : w.Claimed) (hcalls : Relation.ReflTransGen ClaimCall w w') :
    w'.Claimed := by
  induction hcalls with
  | refl => exact h
  | tail _ hcall ih =>
    cases hcall with
    | claim e id c => exact ih.claim e id c
    | remove id => exact ih.remove id
    | other hsame => exact ih.same hsame

/-- Nothing changed but the director, and the journal tells of nothing but start logic. -/
structure Claims (w w' : World) : Prop where
  others : { w' with director := none, journal := [] } = { w with director := none, journal := [] }
  journal : ∃ new, w'.journal = new ++ w.journal ∧ ∀ x ∈ new, ∃ event, x = .ofStart event

theorem Claims.refl (w : World) : w.Claims w :=
  ⟨rfl, [], rfl, fun _ hmem => absurd hmem List.not_mem_nil⟩

theorem Claims.trans {u v w : World} (h : u.Claims v) (h' : v.Claims w) : u.Claims w := by
  obtain ⟨new, hnew, hstarts⟩ := h.journal
  obtain ⟨new', hnew', hstarts'⟩ := h'.journal
  refine ⟨h'.others.trans h.others, new' ++ new, by rw [hnew', hnew, List.append_assoc], ?_⟩
  intro x hx
  exact (List.mem_append.mp hx).elim (hstarts' x) (hstarts x)

theorem Claims.store (h : w.Claims w') : w'.store = w.store :=
  (congrArg World.store h.others :)

theorem Claims.senses (h : w.Claims w') : w'.senses = w.senses :=
  (congrArg World.senses h.others :)

end World

namespace Director

/-! ## One start event -/

variable {w : World}

theorem claimStart_claims (w : World) (e : Event) (id : EntityId) (c : Component) :
    w.Claims (claimStart w e id c).2 := by
  unfold claimStart
  split
  · exact .refl w
  · exact ⟨rfl, [_], rfl, fun _ hmem => ⟨_, List.mem_singleton.mp hmem⟩⟩

theorem claimStarts_claims (e : Event) (id : EntityId) (components : List Component) (w : World) :
    w.Claims (claimStarts e id components w).2 := by
  induction components generalizing w with
  | nil => exact .refl w
  | cons c rest ih => exact (claimStart_claims w e id c).trans (ih _)

/-- Only components to which the event came have their rules run. -/
theorem claimStarts_sublist (e : Event) (id : EntityId) (components : List Component) (w : World) :
    (claimStarts e id components w).1.Sublist (components.map (·.rule)) := by
  induction components generalizing w with
  | nil => exact List.nil_sublist _
  | cons c rest ih =>
    rw [claimStarts]
    dsimp only
    split
    · exact (ih _).cons_cons _
    · exact (ih _).cons _

/-- What start events that come to components of an entity leave behind. -/
theorem heard_append_heard (e : Event) (id : EntityId) (component : String)
    (answers : List (Component × Bool)) (log : List StartEvent) :
    Heard id component ((answers.map fun a => .heard e id a.1 a.2).reverse ++ log) ↔
      (∃ a ∈ answers, a.1.id = component) ∨ Heard id component log := by
  induction answers generalizing log with
  | nil => simp
  | cons a rest ih =>
    rw [List.map_cons, List.reverse_cons, List.append_assoc, List.singleton_append, ih]
    simp only [Heard, Prod.mk.injEq, true_and, List.mem_cons, exists_eq_or_imp]
    rw [or_left_comm, or_assoc]

/-- A start event that comes to components of an entity is taken down for each of them, in their
order, and the rules of those that claim are kept. If the components are told apart by name, those
claim that are not remembered. -/
theorem claimStarts_spec {started : List (EntityId × String)} (h : w.started? = some started)
    (e : Event) (id : EntityId) (components : List Component) :
    ∃ answers : List (Component × Bool),
      answers.map (·.1) = components ∧
      (claimStarts e id components w).1 = (answers.filter (·.2)).map (·.1.rule) ∧
      (claimStarts e id components w).2.startLog =
        (answers.map fun a => .heard e id a.1 a.2).reverse ++ w.startLog ∧
      ((components.map (·.id)).Nodup →
        ∀ a ∈ answers, a.2 = true ↔ (id, a.1.id) ∉ started) := by
  induction components generalizing w started with
  | nil => exact ⟨[], rfl, rfl, rfl, fun _ a ha => absurd ha List.not_mem_nil⟩
  | cons c rest ih =>
    obtain ⟨granted, w', hclaim, hlog, hcases⟩ := World.claimStart_cases h e id c
    -- What is remembered of the other components stays as it was.
    have hothers : ∃ started', w'.started? = some started' ∧
        (granted = true ↔ (id, c.id) ∉ started) ∧
        ∀ component, component ≠ c.id → ((id, component) ∈ started' ↔ (id, component) ∈ started) := by
      rcases hcases with ⟨hmem, rfl, hsame⟩ | ⟨hmem, rfl, hgrown⟩
      · exact ⟨_, hsame, by simp [hmem], fun _ _ => Iff.rfl⟩
      · exact ⟨_, hgrown, by simp [hmem], fun component hne => by simp [hne]⟩
    obtain ⟨started', hstarted', hgranted, hothers⟩ := hothers
    obtain ⟨answers, hcomponents, hrules, hrest, hfresh⟩ := ih hstarted'
    refine ⟨(c, granted) :: answers, ?_, ?_, ?_, fun hnodup a ha => ?_⟩
    · rw [List.map_cons, hcomponents]
    · rw [claimStarts, hclaim]
      dsimp only
      rw [hrules]
      cases granted with
      | false => rfl
      | true => rfl
    · rw [claimStarts, hclaim]
      dsimp only
      rw [hrest, hlog, List.map_cons, List.reverse_cons, List.append_assoc, List.singleton_append]
    · rw [List.map_cons, List.nodup_cons] at hnodup
      rcases List.mem_cons.mp ha with rfl | ha
      · exact hgranted
      · have hmem : a.1.id ∈ rest.map (·.id) :=
          List.mem_map_of_mem (hcomponents ▸ List.mem_map_of_mem ha)
        have hne : a.1.id ≠ c.id := fun heq => hnodup.1 (heq ▸ hmem)
        rw [hfresh hnodup.2 a ha, hothers _ hne]

end Director

end SceneLogic
