import SceneLogic.Proofs.Director.Offering
import SceneLogic.Proofs.Module.Tame
import SceneLogic.Proofs.Moments
import SceneLogic.Proofs.Standard

/-!
# Whose rules are evaluated

An update looks before each component whether its entity is still live. An event does not: the
rules that react are picked together while the entity is live, and are then evaluated one after the
other, though an earlier one may have killed the entity, switched it off or removed it.

All statements here are about what the director does by itself. They hold for whatever its requests
lead to, so that they hold for every update and every event of a run, however deep it is nested.

* `evaluateAll_evaluates` — the moment at which each rule of a batch is evaluated
* `update_evaluates`, `listener_batched` — the evaluations of an update and of an event
* `rules_evaluated_while_live` — each of them, but for the later ones of a batch, is for an entity
  that is live
* `not_always_live` — the dead run logic
-/

namespace SceneLogic

/-- While the script is carried out, it begins by itself to evaluate a rule for an entity, and the
second machine is the one at that moment. -/
def Script.Evaluates {α : Type} (service : Service) (s : Script α) (m : Machine) (id : EntityId)
    (r : Rule) (n : Machine) : Prop :=
  s.Makes service .blind n (n.world.record (.evaluated id r)) m

/-- Whatever begins no evaluation may be done. -/
def Conduct.plain : Conduct where
  step u v := ∀ id r, v ≠ u.record (.evaluated id r)

theorem Conduct.plain_relies : Conduct.plain.Relies where
  refl _ := trivial
  trans _ _ := trivial
  step _ := trivial

section Plain

variable {service : Service} {m n : Machine} {id : EntityId} {r r' : Rule} {u v w : World}
  {s : Situation}

/-- Without an entry in the journal no evaluation begins. -/
theorem plain_of_journal (h : v.journal = u.journal) (id : EntityId) (r : Rule) :
    v ≠ u.record (.evaluated id r) := by
  rintro rfl
  exact List.cons_ne_self _ _ h

/-- Another entry than that of an evaluation. -/
theorem plain_of_record {x : Happening} (hx : ∀ id r, x ≠ .evaluated id r) (id : EntityId)
    (r : Rule) : v.record x ≠ u.record (.evaluated id r) :=
  fun heq => hx id r (List.cons.inj (congrArg World.journal heq)).1

/-- Other entries than those of evaluations. -/
theorem plain_of_claims (h : u.Claims v) (hw : w.journal = v.journal) (id : EntityId) (r : Rule) :
    w ≠ u.record (.evaluated id r) := by
  obtain ⟨new, hjournal, hstarts⟩ := h.journal
  rintro rfl
  have hlog : .evaluated id r :: u.journal = new ++ u.journal := hw.trans hjournal
  cases new with
  | nil => exact List.cons_ne_self _ _ hlog
  | cons x rest =>
    obtain ⟨event, rfl⟩ := hstarts x List.mem_cons_self
    cases (List.cons.inj hlog).1

theorem plain_judge (w : World) (q : Request) (id : EntityId) (r : Rule) :
    (w.judge q).2 ≠ w.record (.evaluated id r) :=
  plain_of_record (fun _ _ heq => by cases heq) id r

theorem plain_openFrame (w : World) (now threshold : Float) (id : EntityId) (r : Rule) :
    (w.openFrame now threshold).2 ≠ w.record (.evaluated id r) := by
  unfold World.openFrame
  dsimp only
  split
  · exact plain_of_record (fun _ _ heq => by cases heq) id r
  · exact plain_of_journal (World.journal_grant _ _) id r

theorem OwnStep.plain (h : OwnStep u v) (id : EntityId) (r : Rule) :
    v ≠ u.record (.evaluated id r) := by
  cases h with
  | note i e => exact plain_of_record (fun _ _ heq => by cases heq) id r
  | write h =>
    cases h with
    | publish name x => exact plain_of_record (fun _ _ heq => by cases heq) id r
    | assign name x =>
      refine plain_of_journal ?_ id r
      rfl
  | sense entity data => exact plain_of_journal (u.journal_situationFor entity data) id r

theorem Conduct.working_within_plain : Conduct.working.Within .plain where
  step := OwnStep.plain
  part := fun h => absurd h id
  announces := fun _ => trivial
  performs := id
  checks := fun _ => trivial
  registers := fun _ => trivial
  rely := fun _ => trivial

theorem Script.Obeys.not_evaluates {α : Type} {p : Script α} (hp : p.Obeys .plain m.world) :
    ¬ p.Evaluates service m id r n := by
  intro h
  rcases hp.own (fun _ _ => trivial) (fun h => h) m rfl h with heq | hstep | ⟨e, heq⟩
  · exact n.world.ne_record _ heq
  · exact hstep id r rfl
  · exact plain_of_record (fun _ _ heq => by cases heq) id r heq.symm

namespace Script

variable {α β : Type}

theorem Evaluates.read {k : World → Script α}
    (h : (Script.read k).Evaluates service m id r n) : (k m.world).Evaluates service m id r n := by
  rcases h with ⟨rfl, heq⟩ | h
  · exact absurd heq (World.ne_record _ _)
  · exact h

theorem Evaluates.write {k : Script α} (h : (Script.write w k).Evaluates service m id r n)
    (hplain : w ≠ m.world.record (.evaluated id r)) :
    k.Evaluates service { m with world := w } id r n := by
  rcases h with ⟨rfl, heq⟩ | h
  · exact absurd heq hplain
  · exact h

theorem not_evaluates_done {a : α} : ¬ (Script.done a).Evaluates service m id r n :=
  fun h => World.ne_record _ _ (h.1 ▸ h.2)

theorem Evaluates.read_iff {k : World → Script α} :
    (Script.read k).Evaluates service m id r n ↔ (k m.world).Evaluates service m id r n :=
  ⟨Evaluates.read, Or.inr⟩

theorem Evaluates.write_iff {k : Script α} (hplain : w ≠ m.world.record (.evaluated id r)) :
    (Script.write w k).Evaluates service m id r n ↔
      k.Evaluates service { m with world := w } id r n :=
  ⟨fun h => h.write hplain, Or.inr⟩

theorem Evaluates.bind_iff {s : Script α} {f : α → Script β} :
    (s.bind f).Evaluates service m id r n ↔ s.Evaluates service m id r n ∨
      ∃ a m', s.run service m = some (a, m') ∧ (f a).Evaluates service m' id r n := by
  constructor
  · exact makes_bind
  · rintro (h | ⟨a, m', hrun, h⟩)
    · exact makes_bind_of_first h (World.ne_record _ _)
    · exact makes_bind_of_run hrun h

end Script

/-- The modules are updated without any evaluation. -/
theorem updateModules_plain (time dt : Float) (w : World) :
    (updateModules time dt).Obeys .plain w := by
  refine .read (.write (plain_of_record fun _ _ heq => by cases heq) ?_)
  refine .bind Conduct.plain_relies
    ((stepAll_works dt _ _).mono Conduct.plain_relies Conduct.working_within_plain) fun _ _ _ => ?_
  exact .read (.write (plain_of_record fun _ _ heq => by cases heq) .done)

end Plain

namespace Director

variable {service : Service} {m n : Machine} {id : EntityId} {r : Rule} {s : Situation} {e : Event}
  {dt : Float}

/-! ## Batches -/

theorem request_plain (s : Situation) (call : ActionCall) (w : World) :
    (request s call).Obeys .plain w := by
  rw [request_eq]
  exact .read (.write (plain_judge w _) (.ite (fun _ => .perform trivial fun _ _ => .done)
    fun _ => .done))

/-- The evaluation begins with its entry in the journal, and there is only one. -/
theorem evaluate_evaluates {r' : Rule}
    (h : (r'.evaluate s (request s)).Evaluates service m id r n) :
    s.entity = id ∧ r' = r ∧ m = n := by
  rcases Script.makes_bind h with h | ⟨_, m', -, h⟩
  · rcases Script.Evaluates.read h with ⟨rfl, heq⟩ | h
    · injection (List.cons.inj (congrArg World.journal heq)).1 with hid hr
      exact ⟨hid, hr, rfl⟩
    · exact absurd h Script.not_evaluates_done
  · refine absurd h (Script.Obeys.not_evaluates ?_)
    refine select_obeys Conduct.plain_relies trivial fun calls w' _ _ => ?_
    refine .bind Conduct.plain_relies ?_ fun _ _ _ => .done
    exact .forEach Conduct.plain_relies fun call _ w' _ => request_plain s call w'

/-- Each rule of a batch is evaluated in the world that the earlier ones have left, whatever that
is like. -/
theorem evaluateAll_evaluates {rules : List Rule} :
    (evaluateAll s rules).Evaluates service m id r n ↔ s.entity = id ∧
      ∃ earlier later, rules = earlier ++ r :: later ∧
        (evaluateAll s earlier).run service m = some ((), n) := by
  constructor
  · intro h
    obtain ⟨earlier, r', later, m', rfl, hrun, h⟩ := Script.makes_forEach h (World.ne_record _ _)
    rcases Script.makes_bind h with h | ⟨_, m'', -, h⟩
    · obtain ⟨hid, rfl, rfl⟩ := evaluate_evaluates h
      exact ⟨hid, earlier, later, rfl, hrun⟩
    · exact absurd h Script.not_evaluates_done
  · rintro ⟨rfl, earlier, later, rfl, hrun⟩
    unfold Script.Evaluates
    rw [evaluateAll, Script.forEach_append]
    refine Script.makes_bind_of_run hrun ?_
    exact Or.inr (Or.inl ⟨rfl, rfl⟩)

end Director

/-- In the course of the script the rule is evaluated for the entity after earlier ones of a batch.
The batch was picked from these rules of the world. -/
inductive InBatch {α : Type} (service : Service) (script : Script α) (m : Machine)
    (rules : World → List Rule) (id : EntityId) (r : Rule) (n : Machine) :
    World → List Rule → Prop
  | mk {s : Situation} {earlier later : List Rule} {m₀ : Machine} : s.entity = id →
      (earlier ++ r :: later).Sublist (rules m₀.world) →
      (Director.evaluateAll s (earlier ++ r :: later)).Begins service m₀ script m →
      (Director.evaluateAll s earlier).run service m₀ = some ((), n) →
      InBatch service script m rules id r n m₀.world earlier

/-- A batch of the entity's rules or, of an event that is aimed at the entity, of the scene's. -/
def InSomeBatch {α : Type} (service : Service) (e : Event) (script : Script α) (m : Machine)
    (id : EntityId) (r : Rule) (n : Machine) : Prop :=
  (∃ start earlier, InBatch service script m (·.rulesOf id) id r n start earlier) ∨
    e.target = some id ∧
      ∃ start earlier, InBatch service script m World.sceneRules id r n start earlier

/-- Each evaluation that the script begins by itself is one of a batch. -/
def Batched {α : Type} (service : Service) (e : Event) (script : Script α) (m : Machine) : Prop :=
  ∀ id r n, script.Evaluates service m id r n → InSomeBatch service e script m id r n

section Batched

variable {service : Service} {e : Event} {m m' n : Machine} {id : EntityId} {r : Rule} {w : World}
  {α β : Type}

/-- Where one script comes to all that another one comes to, it evaluates in the same batches. -/
theorem InSomeBatch.mono {script : Script α} {script' : Script β}
    (h : InSomeBatch service e script m id r n)
    (hbegins : ∀ {p : Script Unit} {m₀}, p.Begins service m₀ script m →
      p.Begins service m₀ script' m') : InSomeBatch service e script' m' id r n := by
  have hmono : ∀ {rules : World → List Rule} {start : World} {earlier : List Rule},
      InBatch service script m rules id r n start earlier →
      InBatch service script' m' rules id r n start earlier := by
    intro rules start earlier h
    cases h with
    | mk hid hrules hbegin hrun => exact .mk hid hrules (hbegins hbegin) hrun
  rcases h with ⟨start, earlier, h⟩ | ⟨htarget, start, earlier, h⟩
  · exact Or.inl ⟨start, earlier, hmono h⟩
  · exact Or.inr ⟨htarget, start, earlier, hmono h⟩

theorem Batched.done {a : α} : Batched service e (.done a) m :=
  fun _ _ _ h => absurd h Script.not_evaluates_done

theorem Batched.read {k : World → Script α} (h : Batched service e (k m.world) m) :
    Batched service e (.read k) m :=
  fun id r n heval => (h id r n heval.read).mono .read

theorem Batched.write {k : Script α} (hplain : ∀ id r, w ≠ m.world.record (.evaluated id r))
    (h : Batched service e k { m with world := w }) : Batched service e (.write w k) m :=
  fun id r n heval => (h id r n (heval.write (hplain id r))).mono .write

theorem Batched.bind {s : Script α} {f : α → Script β} (hs : Batched service e s m)
    (hf : ∀ a m', Batched service e (f a) m') : Batched service e (s.bind f) m := by
  intro id r n heval
  rcases Script.makes_bind heval with heval | ⟨a, m', hrun, heval⟩
  · exact (hs id r n heval).mono fun h => h.bind f
  · exact (hf a m' id r n heval).mono fun h => h.after hrun

theorem Batched.forEach {items : List α} {body : α → Script Unit}
    (hbody : ∀ a m, Batched service e (body a) m) (m : Machine) :
    Batched service e (Script.forEach items body) m := by
  induction items generalizing m with
  | nil => exact .done
  | cons a rest ih => exact .bind (hbody a m) fun _ m' => ih m'

end Batched

namespace Director

variable {service : Service} {m n : Machine} {id : EntityId} {r : Rule} {s : Situation} {e : Event}
  {dt : Float}

/-! ## Events -/

/-- An entity that reacts by rules evaluates some of them in a batch. -/
theorem react_inBatch (rules : World → List Rule) {e : Event} {picked : List Rule}
    (hpicked : picked.Sublist (rules m.world))
    (h : (react e s picked (request s)).Evaluates service m id r n) : s.entity = id ∧
      ∃ start earlier, InBatch service (react e s picked (request s)) m rules id r n start
        earlier := by
  rw [react_eq] at h ⊢
  obtain ⟨hid, earlier, later, hrules, hrun⟩ := evaluateAll_evaluates.mp h.read
  have hsub : (earlier ++ r :: later).Sublist (rules m.world) := by
    rw [← hrules]
    split
    · exact List.filter_sublist.trans hpicked
    · exact List.nil_sublist _
  refine ⟨hid, m.world, earlier, .mk hid hsub (.read ?_) hrun⟩
  rw [hrules]
  exact Script.begins_self _ m

theorem react_batched {e' : Event} {picked : List Rule}
    (hpicked : picked.Sublist (m.world.rulesOf s.entity)) :
    Batched service e (react e' s picked (request s)) m := by
  intro id r n h
  obtain ⟨rfl, hbatch⟩ := react_inBatch (·.rulesOf s.entity) hpicked h
  exact Or.inl hbatch

theorem react_scene_batched (htarget : e.target = some s.entity) :
    Batched service e (react e s m.world.sceneRules (request s)) m := by
  intro id r n h
  obtain ⟨rfl, hbatch⟩ := react_inBatch World.sceneRules (List.Sublist.refl _) h
  exact Or.inr ⟨htarget, hbatch⟩

theorem components_sublist (w : World) (id : EntityId) (accept : String → Bool) :
    ((w.componentsOf id accept).map (·.rule)).Sublist (w.rulesOf id) := by
  unfold World.componentsOf World.rulesOf
  cases w.store.get? id with
  | none => exact List.nil_sublist _
  | some x =>
    dsimp only
    cases x.isLive with
    | false => exact List.nil_sublist _
    | true =>
      rw [if_pos rfl, if_pos rfl, ← List.filter_filter]
      exact (List.filter_sublist.filter _).map _

theorem isLive_of_rulesOf {w : World} (h : r ∈ w.rulesOf id) : w.isLive id = true := by
  unfold World.rulesOf at h
  unfold World.isLive
  cases hfound : w.store.get? id with
  | none =>
    rw [hfound] at h
    exact absurd h List.not_mem_nil
  | some x =>
    rw [hfound] at h
    dsimp only at h ⊢
    cases hlive : x.isLive with
    | false =>
      rw [hlive] at h
      exact absurd h List.not_mem_nil
    | true => rfl

theorem offer_batched {target : EntityId} {data : Params} {withSceneRules : Bool}
    (htarget : withSceneRules = true → e.target = some target) (m : Machine) :
    Batched service e (offer e target data withSceneRules) m := by
  have hunmoved := m.world.unmoved_situationFor target data
  have hentity := situationFor_entity m.world target data
  refine .read ?_
  dsimp only
  split
  · exact .done
  refine .write (plain_of_journal (m.world.journal_situationFor target data)) (.bind ?_ ?_)
  · split
    · exact .done
    · refine react_batched ?_
      rw [hentity]
      exact hunmoved.rulesOf target ▸ components_sublist m.world target _
  · intro _ m'
    split
    · next hscene =>
      refine .read (react_scene_batched ?_)
      rw [hentity]
      exact htarget (Bool.and_eq_true_iff.mp hscene).1
    · exact .done

/-- An offer that leaves the rules of the scene aside. -/
theorem offer_alone_batched (target : EntityId) (data : Params) (m : Machine) :
    Batched service e (offer e target data false) m :=
  offer_batched (fun heq => absurd heq Bool.false_ne_true) m

/-- The rules that start logic runs are some of the entity's. -/
theorem freshStarts_sublist (w : World) (e : Event) (id : EntityId) :
    (freshStarts w e id).1.Sublist ((freshStarts w e id).2.rulesOf id) := by
  have hstore : (freshStarts w e id).2.store = w.store := (claimStarts_claims e id _ w).store
  rw [World.rulesOf, hstore]
  exact (claimStarts_sublist e id _ w).trans (components_sublist w id _)

theorem startEntity_batched (target : EntityId) (m : Machine) :
    Batched service e (startEntity e target) m := by
  have hclaims : m.world.Claims (freshStarts m.world e target).2 := claimStarts_claims e target _ _
  have hpicked := freshStarts_sublist m.world e target
  refine .read ?_
  dsimp only
  split
  · exact .write (plain_of_claims hclaims rfl) .done
  · have hunmoved := (freshStarts m.world e target).2.unmoved_situationFor target e.data
    have hentity := situationFor_entity (freshStarts m.world e target).2 target e.data
    refine .write (plain_of_claims hclaims (World.journal_situationFor _ target e.data))
      (react_batched ?_)
    rw [hentity]
    exact hunmoved.rulesOf target ▸ hpicked

theorem collide_batched (m : Machine) : Batched service e (collide e) m := by
  unfold collide
  split
  · refine .read ?_
    dsimp only
    split
    · refine .write (plain_of_journal ?_) .done
      rfl
    · refine .write (plain_of_record fun _ _ heq => by cases heq) ?_
      split
      · exact .bind (offer_alone_batched _ _ _) fun _ _ => offer_alone_batched _ _ _
      · exact .done
  · exact .done

theorem route_batched (m : Machine) : Batched service e (route e) m := by
  unfold route
  split
  · next target htarget => exact offer_batched (fun _ => htarget) m
  · exact .read (.forEach (fun _ _ => offer_alone_batched _ _ _) m)

theorem start_batched (m : Machine) : Batched service e (start e) m := by
  unfold start
  split
  · exact startEntity_batched _ m
  · exact .read (.forEach startEntity_batched m)

theorem plain_takeSignal (w : World) (id : EntityId) (r : Rule) :
    takeSignal w e ≠ w.record (.evaluated id r) := by
  intro heq
  have hjournal := w.journal_takeSignal e
  rw [heq] at hjournal
  cases (List.cons.inj hjournal).1

/-- Each evaluation that the director begins because of an event is one of a batch. -/
theorem listener_batched (m : Machine) : Batched service e (listener e) m := by
  refine .bind ?_ fun _ _ => .done
  unfold handle
  split
  · exact collide_batched m
  · refine .read ?_
    split
    · exact .done
    · split
      · exact start_batched m
      · split
        · split
          · exact offer_alone_batched _ _ _
          · exact .done
        · split
          · exact .done
          · split
            · exact .write (plain_takeSignal m.world) (route_batched _)
            · exact route_batched m

/-! ## Updates -/

theorem isLive_situationFor (w : World) (target : EntityId) (data : Params) (id : EntityId) :
    (w.situationFor target data).2.isLive id = w.isLive id := by
  rw [World.isLive, (w.unmoved_situationFor target data).store, World.isLive]

/-- A turn is no evaluation yet. -/
theorem plain_takeTurn (w : World) (target : EntityId) (component : String) (id : EntityId)
    (r : Rule) : (takeTurn w target component).2 ≠ w.record (.evaluated id r) := by
  unfold takeTurn
  dsimp only
  split
  · exact plain_of_record (fun _ _ heq => by cases heq) id r
  · exact plain_of_journal (World.journal_grant _ _) id r

/-- Before each component it is looked whether the entity is live. -/
theorem updateComponents_evaluates {target : EntityId} {components : List Component}
    (h : (updateComponents target dt components).Evaluates service m id r n) :
    n.world.isLive id = true := by
  induction components generalizing m with
  | nil => exact absurd h Script.not_evaluates_done
  | cons c rest ih =>
    replace h := h.read
    dsimp only at h
    replace h := h.write (plain_takeTurn _ _ _ id r)
    split at h
    · exact ih h
    split at h
    · exact absurd h Script.not_evaluates_done
    next hlive =>
    replace h := h.write (plain_of_journal (World.journal_situationFor _ _ _) id r)
    rcases Script.makes_bind h with h | ⟨_, m', -, h⟩
    · obtain ⟨hid, -, rfl⟩ := evaluate_evaluates h
      rw [situationFor_entity] at hid
      rw [isLive_situationFor, ← hid]
      simpa using hlive
    · exact ih h

theorem journal_endFrame (newFrame : Bool) (w : World) :
    (if newFrame then { w with senses := w.senses.beginFrame } else w).journal = w.journal := by
  cases newFrame with
  | false => rfl
  | true => rfl

/-- Each evaluation that an update begins is for an entity that is live. -/
theorem update_evaluates (h : (update dt).Evaluates service m id r n) :
    n.world.isLive id = true := by
  replace h := h.read.write (plain_openFrame _ _ _ id r)
  rcases Script.makes_bind h with h | ⟨_, m', -, h⟩
  · obtain ⟨-, target, -, m'', -, -, h⟩ := Script.makes_forEach h (World.ne_record _ _)
    exact updateComponents_evaluates (Script.Evaluates.read h)
  rcases Script.makes_bind h with h | ⟨reports, m'', -, h⟩
  · exact absurd h (updateModules_plain 0 dt m'.world).not_evaluates
  · exact absurd ((Script.Evaluates.read h).write (plain_of_journal (journal_endFrame _ _) id r))
      Script.not_evaluates_done

end Director

/-- In an update each evaluation begins while the entity is live. Each that an event leads to is one
of a batch. If it is one of the entity's own rules, the entity was live when the batch was picked,
and is live when the first rule is evaluated; the later rules are evaluated in whatever world the
earlier ones have left. -/
theorem rules_evaluated_while_live (service : Service) (m : Machine) (id : EntityId) (r : Rule)
    (n : Machine) :
    (∀ dt, (Director.update dt).Evaluates service m id r n → n.world.isLive id = true) ∧
    (∀ e, (Director.listener e).Evaluates service m id r n →
      (∃ start earlier,
        InBatch service (Director.listener e) m (·.rulesOf id) id r n start earlier ∧
          start.isLive id = true ∧ (earlier = [] → n.world.isLive id = true)) ∨
      e.target = some id ∧ ∃ start earlier,
        InBatch service (Director.listener e) m World.sceneRules id r n start earlier) ∧
    ∀ s rules, (Director.evaluateAll s rules).Evaluates service m id r n ↔ s.entity = id ∧
      ∃ earlier later, rules = earlier ++ r :: later ∧
        (Director.evaluateAll s earlier).run service m = some ((), n) := by
  refine ⟨fun dt => Director.update_evaluates, fun e h => ?_,
    fun s rules => Director.evaluateAll_evaluates⟩
  rcases Director.listener_batched m id r n h with ⟨start, earlier, hbatch⟩ | hscene
  · refine Or.inl ⟨start, earlier, hbatch, ?_⟩
    cases hbatch with
    | mk hid hrules _ hrun =>
      have hlive := Director.isLive_of_rulesOf
        (hrules.subset (List.mem_append_right _ List.mem_cons_self))
      refine ⟨hlive, ?_⟩
      rintro rfl
      cases hrun
      exact hlive
  · exact Or.inr hscene

/-! ## A lamp that breaks -/

namespace Dusk

/-- Tells that the lamp glows. -/
def glow : Rule :=
  { event := "DUSK", actions := [⟨"ShowDialogue", [("text", .text "glows")]⟩] }

/-- At dusk it switches itself off, and after that would glow. -/
def lamp : Entity :=
  { id := ⟨"lamp"⟩
    components :=
      [⟨"breaks", true, { event := "DUSK", actions := [⟨"Disable", []⟩] }⟩, ⟨"glows", true, glow⟩] }

def machine : Machine :=
  let m : Machine :=
    { world := { director := some {}, store := Store.empty.insert lamp }
      listeners := [(1, Director.listener)] }
  m.withDefaultActions.withDefaultConditions

theorem machine_standard : machine.Standard :=
  Machine.standard_withDefaults rfl rfl rfl

/-- Dusk falls for everybody. -/
def nightfall : Event :=
  ⟨"DUSK", none, [], 0⟩

/-- The lamp is off when the second rule is evaluated. -/
theorem glows : ∃ n,
    (Director.listener nightfall).Evaluates (Service.atDepth 1) machine ⟨"lamp"⟩ glow n ∧
      n.world.isLive ⟨"lamp"⟩ = false := by
  -- The moment is found on the way to it.
  apply Exists.intro
  apply And.intro
  · iterate 9 apply Or.inr
    exact Or.inr (Or.inr ⟨_, rfl, Or.inr (Or.inl ⟨rfl, rfl⟩)⟩)
  · rfl

end Dusk

/-- The lamp was on when the batch was picked in which it is found to glow. -/
theorem lamp_glows_in_batch : ∃ n start earlier, Dusk.machine.Standard ∧
    (Director.listener Dusk.nightfall).Evaluates (Service.atDepth 1) Dusk.machine ⟨"lamp"⟩
      Dusk.glow n ∧
    n.world.isLive ⟨"lamp"⟩ = false ∧
    InBatch (Service.atDepth 1) (Director.listener Dusk.nightfall) Dusk.machine (·.rulesOf ⟨"lamp"⟩)
      ⟨"lamp"⟩ Dusk.glow n start earlier ∧
    start.isLive ⟨"lamp"⟩ = true ∧ earlier ≠ [] := by
  obtain ⟨n, heval, hdead⟩ := Dusk.glows
  obtain ⟨-, hevent, -⟩ :=
    rules_evaluated_while_live (Service.atDepth 1) Dusk.machine ⟨"lamp"⟩ Dusk.glow n
  rcases hevent Dusk.nightfall heval with ⟨start, earlier, hbatch, hlive, hfirst⟩ | ⟨htarget, -⟩
  · refine ⟨n, start, earlier, Dusk.machine_standard, heval, hdead, hbatch, hlive, fun hnone => ?_⟩
    rw [hfirst hnone] at hdead
    cases hdead
  · cases htarget

/-- Not every rule that is evaluated because of an event is evaluated while its entity is live, even
of an event that concerns no rules of the scene, and with none but the default behaviours. -/
theorem not_always_live :
    ¬ ∀ (depth : Nat) (m n : Machine) (e : Event) (id : EntityId) (r : Rule), m.Standard →
      e.target = none → (Director.listener e).Evaluates (Service.atDepth depth) m id r n →
      n.world.isLive id = true := by
  intro h
  obtain ⟨n, heval, hdead⟩ := Dusk.glows
  have hlive := h 1 _ n _ _ _ Dusk.machine_standard rfl heval
  rw [hdead] at hlive
  cases hlive

end SceneLogic
