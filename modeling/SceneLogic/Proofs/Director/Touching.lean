import SceneLogic.Proofs.Director.Forgetting
import SceneLogic.Proofs.Senses.Collisions

/-!
# Contacts follow the collisions that were announced

When a collision is announced the director has both sides keep track of it before anybody reacts.
Whatever the reactions announce in turn finds the contacts up to date. So when all is over the
contacts of all entities are those that the announced collisions leave, in the order in which they
were announced, be the scene played or edited.

This needs that the director is the first to announce anything about an event: a listener that
hears of it earlier and announces another collision has that tracked first.

* `Conduct.reserved`, `Conduct.silent` — behaviours that touch nothing, and those that moreover ask
  for nothing
* `Service.Restores` — answers after which a property of the machine holds again
* `Director.handle_touches` — what the director does about a collision first
* `contacts_follow_collisions` — the contacts at the end of a run
-/

namespace SceneLogic

namespace World

/-- The collisions that were announced, the latest first. -/
def collisions (w : World) : List Collision :=
  w.announced.filterMap Event.collision?

theorem collisions_of_announced {w w' : World} (h : w'.announced = w.announced) :
    w'.collisions = w.collisions := by
  rw [collisions, h, collisions]

/-- An entry of the journal that is no announcement. -/
theorem announced_record {w w' : World} (h : w'.journal = w.journal) {x : Happening}
    (hx : x.event? = none) : (w'.record x).announced = w.announced := by
  have hjournal : (w'.record x).journal = x :: w.journal := congrArg (x :: ·) h
  rw [announced, hjournal, List.filterMap_cons_none hx, announced]

theorem collisions_emitted (w : World) (e : Event) :
    (w.record (.emitted e)).collisions = e.collision?.toList ++ w.collisions := by
  have hannounced : (w.record (.emitted e)).announced = e :: w.announced := rfl
  rw [collisions, hannounced, List.filterMap_cons, collisions]
  cases e.collision? with
  | none => rfl
  | some x => rfl

end World

/-! ## Behaviours that touch nothing -/

/-- Behaviours that leave all contacts alone, announce by requests only, and register nothing. -/
def Conduct.reserved : Conduct where
  step w w' := w.senses.SameContacts w'.senses ∧ w'.announced = w.announced
  registers := False

/-- The same of behaviours that ask for nothing. -/
def Conduct.silent : Conduct where
  step w w' := w.senses.SameContacts w'.senses ∧ w'.announced = w.announced
  announces _ := False
  performs := False
  checks := False
  registers := False

namespace Conduct

theorem reserved_relies : Conduct.reserved.Relies where
  refl _ := trivial
  trans _ _ := trivial
  step _ := trivial

theorem acting_within_reserved : Conduct.acting.Within .reserved where
  step h := ⟨h.contacts, h.announced⟩
  part := nofun
  announces _ := trivial
  performs := nofun
  checks := nofun
  registers := nofun
  rely _ := trivial

theorem looking_within_reserved : Conduct.looking.Within .reserved where
  step h := ⟨h.contacts, h.announced⟩
  part := nofun
  announces := nofun
  performs := nofun
  checks := nofun
  registers := nofun
  rely _ := trivial

theorem stepping_within_reserved : Conduct.stepping.Within .reserved where
  step h := ⟨h.contacts, h.announced⟩
  part := nofun
  announces := nofun
  performs _ := trivial
  checks := nofun
  registers := nofun
  rely _ := trivial

theorem ruling_within_reserved : Conduct.ruling.Within .reserved where
  step h := by
    cases h with
    | act hacted hcontacts => exact ⟨hcontacts, hacted.announced⟩
    | turn id component =>
      refine ⟨?_, (World.tame_takeTurn _ id component).announced⟩
      rw [Director.senses_takeTurn]
      exact .refl _
  part := by
    refine part_directing (fun w r => ?_) trivial
    have hsenses : (w.judge r).2.senses = w.senses := w.senses_grant (·.grantRequest r)
    have hannounced : (w.judge r).2.announced = w.announced :=
      World.announced_record (w.journal_grant (·.grantRequest r)) rfl
    exact ⟨hsenses ▸ .refl _, hannounced⟩
  announces := nofun
  performs := nofun
  checks _ := trivial
  registers := nofun
  rely _ := trivial

end Conduct

theorem Director.update_obeys_reserved (dt : Float) (w : World) :
    (update dt).Obeys .reserved w := by
  refine update_obeys Conduct.reserved_relies (fun w now threshold => ?_)
    (fun _ _ hcontacts => ⟨hcontacts, rfl⟩) Conduct.ruling_within_reserved
    (fun v => (updateModules_steps 0 dt v).mono Conduct.reserved_relies
      Conduct.stepping_within_reserved) w
  refine ⟨by rw [w.senses_openFrame]; exact .refl _, ?_⟩
  have hjournal := w.journal_grant (·.begin now threshold)
  unfold World.openFrame
  dsimp only
  split
  · exact World.announced_record hjournal rfl
  · rw [World.announced, hjournal, World.announced]

/-! ## Answers that restore a property -/

/-- Whatever a conduct lets a script ask for, a property of the machine holds again when it is
answered. That an event was taken down may break the property until then. -/
structure Service.Restores (service : Service) (c : Conduct) (I : Machine → Prop) : Prop where
  deliver : ∀ {e m m'}, c.announces e.target → I m →
    service.deliver e (m.record (.emitted e)) = some m' → I m'
  perform : ∀ {name s params m m'}, c.performs → I m →
    service.perform name s params m = some m' → I m'
  check : ∀ {name s params m b m'}, c.checks → I m →
    service.check name s params m = some (b, m') → I m'

section Restores

variable {service : Service} {c : Conduct} {I : Machine → Prop}
  (hservice : service.Restores c I)
  (hstep : ∀ {m w}, c.step m.world w → I m → I { m with world := w })
  (hregisters : ¬ c.registers) (hpart : ∀ {β : Type} {p : Script β}, ¬ c.part p)
  (hrely : ∀ v w, c.rely v w)

include hservice hstep hregisters hpart hrely

/-- A property that writes keep and answers restore holds when a script has ended. -/
theorem Script.Obeys.restores {α : Type} {s : Script α} {w : World} (hs : s.Obeys c w) :
    ∀ m : Machine, m.world = w → I m → ∀ {a m'}, s.run service m = some (a, m') → I m' := by
  induction hs with
  | done =>
    intro m _ hm a m' hrun
    rw [run] at hrun
    cases hrun
    exact hm
  | read _ ih =>
    intro m hw hm a m' hrun
    rw [run, hw] at hrun
    exact ih m hw hm hrun
  | write hwrite _ ih =>
    intro m hw hm a m' hrun
    rw [run] at hrun
    exact ih _ rfl (hstep (hw ▸ hwrite) hm) hrun
  | emit hannounces _ ih =>
    intro m _ hm a m' hrun
    rw [run] at hrun
    obtain ⟨m₁, hdeliver, hrun⟩ := Option.bind_eq_some_iff.mp hrun
    exact ih _ (hrely _ _) m₁ rfl (hservice.deliver hannounces hm hdeliver) hrun
  | perform hperforms _ ih =>
    intro m _ hm a m' hrun
    rw [run] at hrun
    obtain ⟨m₁, hperform, hrun⟩ := Option.bind_eq_some_iff.mp hrun
    exact ih _ (hrely _ _) m₁ rfl (hservice.perform hperforms hm hperform) hrun
  | check hchecks _ ih =>
    intro m _ hm a m' hrun
    rw [run] at hrun
    obtain ⟨⟨b, m₁⟩, hcheck, hrun⟩ := Option.bind_eq_some_iff.mp hrun
    exact ih b _ (hrely _ _) m₁ rfl (hservice.check hchecks hm hcheck) hrun
  | subscribe hr => exact absurd hr hregisters
  | unsubscribe hr => exact absurd hr hregisters
  | registerAction hr => exact absurd hr hregisters
  | registerCondition hr => exact absurd hr hregisters
  | part hp => exact absurd hp hpart

theorem Service.Restores.deliverTo {e : Event} {listeners : List Listener}
    (hl : ∀ l ∈ listeners, ∀ w, (l e).Obeys c w) {m m' : Machine} (hm : I m)
    (hrun : service.deliverTo e listeners m = some m') : I m' := by
  induction listeners generalizing m with
  | nil =>
    cases hrun
    exact hm
  | cons l rest ih =>
    rw [Service.deliverTo] at hrun
    obtain ⟨⟨a, m₁⟩, hfirst, hrun⟩ := Option.bind_eq_some_iff.mp hrun
    have hm₁ : I m₁ := Script.Obeys.restores hservice hstep hregisters hpart hrely
      (hl l List.mem_cons_self m.world) m rfl hm hfirst
    exact ih (fun l' h => hl l' (List.mem_cons_of_mem _ h)) hm₁ hrun

end Restores

/-! ## Hearing of a collision -/

namespace Director

variable {e : Event} {x : Collision}

/-- What the director does about a collision first, be the scene played or edited: both sides keep
track of it. It touches nothing more. -/
theorem handle_touches (h : e.collision? = some x) (service : Service) (m : Machine) :
    ∃ (w : World) (rest : Script Unit),
      (handle e).run service m = rest.run service { m with world := w } ∧
      w.senses = m.world.senses.touch x ∧ w.announced = m.world.announced ∧
      rest.Obeys .ruling w := by
  unfold Event.collision? at h
  split at h
  · next hcollision =>
    split at h
    · next a b ha hb =>
      cases h
      have hoffer : ∀ (side : EntityId) (data : Params) (w : World),
          (offer e side data false).Obeys .ruling w := by
        intro side data w
        have hoffers : ∀ q ∈ w.offers none, True := fun _ _ => trivial
        exact offer_obeys Conduct.routing_relies .act (fun _ _ _ _ => trivial) hoffers nofun
      rw [handle, if_pos hcollision, collide, ha, hb, Script.run]
      dsimp only
      split
      · exact ⟨_, .done (), rfl, rfl, rfl, .done⟩
      · rw [Script.run]
        refine ⟨_, _, rfl, ?_, ?_, .ite (fun _ => ?_) fun _ => .done⟩
        · exact World.senses_meet _ e a b
        · exact World.announced_record (World.journal_grant _ _) rfl
        · exact .bind Conduct.routing_relies (hoffer _ _ _) fun _ v _ => hoffer _ _ v
    · cases h
  · cases h

/-- An event that tells of no collision of two entities is handled without touching anything. -/
theorem handle_of_no_collision (h : e.collision? = none) (w : World) :
    (handle e).Obeys .ruling w := by
  unfold Event.collision? at h
  split at h
  · next hcollision =>
    rw [handle, if_pos hcollision, collide]
    cases ha : e.entity? "entityA" with
    | none => exact .done
    | some a =>
      cases hb : e.entity? "entityB" with
      | none => exact .done
      | some b =>
        rw [ha, hb] at h
        cases h
  · next hcollision => exact handle_rules (Bool.eq_false_iff.mpr hcollision) w

end Director

/-! ## Machines that keep track -/

namespace Machine

/-- The director listens, those who hear of events before it ask for nothing, and all behaviours
but the director's touch nothing. -/
structure Heedful (m : Machine) : Prop where
  listeners : ∃ earlier later, m.listeners.map (·.2) = earlier ++ Director.listener :: later ∧
    (∀ l ∈ earlier, ∀ e w, (l e).Obeys .silent w) ∧ ∀ l ∈ later, ∀ e w, (l e).Obeys .reserved w
  actions : ∀ a ∈ m.actions, ∀ s params w, (a.2 s params).Obeys .reserved w
  conditions : ∀ a ∈ m.conditions, ∀ s params w, (a.2 s params).Obeys .reserved w

/-- The contacts are those that the announced collisions leave, and some tags count as ground. -/
structure Tracks (tags : List String) (m : Machine) : Prop extends m.Heedful where
  follows : m.world.senses.Follows m.world.collisions
  groundTags : m.world.senses.groundTags = tags

/-- The same but for an event that was taken down last, and that the director has not heard of. -/
structure Owes (tags : List String) (e : Event) (m : Machine) : Prop extends m.Heedful where
  follows : ∃ history, m.world.collisions = e.collision?.toList ++ history ∧
    m.world.senses.Follows history
  groundTags : m.world.senses.groundTags = tags

variable {tags : List String} {e : Event} {m : Machine} {w : World}

theorem Standard.heedful (h : m.Standard) : m.Heedful where
  listeners := ⟨[], [], h.listeners, nofun, nofun⟩
  actions a ha s params w := (defaultActions_act a (h.actions a ha) s params w).mono
    Conduct.reserved_relies Conduct.acting_within_reserved
  conditions a ha s params w := (Conditions.conditions_look a (h.conditions a ha) s params w).mono
    Conduct.reserved_relies Conduct.looking_within_reserved

theorem Heedful.withWorld (h : m.Heedful) (w : World) : Heedful { m with world := w } :=
  ⟨h.listeners, h.actions, h.conditions⟩

theorem Tracks.write (hstep : Conduct.reserved.step m.world w) (h : m.Tracks tags) :
    Tracks tags { m with world := w } where
  toHeedful := h.toHeedful.withWorld w
  follows := by
    rw [World.collisions_of_announced hstep.2]
    exact h.follows.same hstep.1
  groundTags := hstep.1.groundTags.trans h.groundTags

theorem Owes.write (hstep : Conduct.silent.step m.world w) (h : m.Owes tags e) :
    Owes tags e { m with world := w } where
  toHeedful := h.toHeedful.withWorld w
  follows := by
    obtain ⟨history, hcollisions, hfollows⟩ := h.follows
    exact ⟨history, (World.collisions_of_announced hstep.2).trans hcollisions,
      hfollows.same hstep.1⟩
  groundTags := hstep.1.groundTags.trans h.groundTags

theorem Tracks.owes (h : m.Tracks tags) (e : Event) : (m.record (.emitted e)).Owes tags e where
  toHeedful := h.toHeedful.withWorld _
  follows := ⟨m.world.collisions, m.world.collisions_emitted e, h.follows⟩
  groundTags := h.groundTags

/-- A machine that owes nothing keeps track. -/
theorem Owes.tracks (h : m.Owes tags e) (he : e.collision? = none) : m.Tracks tags where
  toHeedful := h.toHeedful
  follows := by
    obtain ⟨history, hcollisions, hfollows⟩ := h.follows
    rw [he] at hcollisions
    exact hcollisions ▸ hfollows
  groundTags := h.groundTags

end Machine

/-! ## Answers -/

namespace Service

variable {service : Service} {tags : List String} {e : Event} {m m' : Machine}

/-- Those who ask for nothing need no answers. -/
theorem restores_silent (service : Service) (I : Machine → Prop) :
    service.Restores .silent I where
  deliver h := h.elim
  perform h := h.elim
  check h := h.elim

theorem Restores.script (hservice : service.Restores .reserved (·.Tracks tags)) {α : Type}
    {s : Script α} (hs : s.Obeys .reserved m.world) (hm : m.Tracks tags) {a : α}
    (hrun : s.run service m = some (a, m')) : m'.Tracks tags :=
  Script.Obeys.restores hservice (fun hstep h => h.write hstep) id id (fun _ _ => trivial) hs m rfl
    hm hrun

/-- Once the director has heard of the event nothing is owed any more. -/
theorem Restores.listener (hservice : service.Restores .reserved (·.Tracks tags))
    (hm : m.Owes tags e) {a : Except Failure Unit}
    (hrun : (Director.listener e).run service m = some (a, m')) : m'.Tracks tags := by
  rw [Director.listener, Script.run_bind] at hrun
  obtain ⟨⟨u, m₁⟩, hhandle, hrun⟩ := Option.bind_eq_some_iff.mp hrun
  cases hrun
  cases hx : e.collision? with
  | none =>
    have hobeys := (Director.handle_of_no_collision hx m.world).mono Conduct.reserved_relies
      Conduct.ruling_within_reserved
    exact hservice.script hobeys (hm.tracks hx) hhandle
  | some x =>
    obtain ⟨w, rest, heq, hsenses, hannounced, hrest⟩ := Director.handle_touches hx service m
    have htracks : Machine.Tracks tags { m with world := w } := by
      obtain ⟨history, hcollisions, hfollows⟩ := hm.follows
      refine ⟨hm.toHeedful.withWorld w, ?_, ?_⟩
      · rw [World.collisions_of_announced hannounced, hcollisions, hx, hsenses]
        exact hfollows.touch x
      · rw [hsenses, (m.world.senses.told_touch x).groundTags]
        exact hm.groundTags
    rw [heq] at hhandle
    exact hservice.script (hrest.mono Conduct.reserved_relies Conduct.ruling_within_reserved)
      htracks hhandle

theorem deliverTo_append (e : Event) (earlier later : List Listener) (m : Machine) :
    service.deliverTo e (earlier ++ later) m =
      (service.deliverTo e earlier m).bind (service.deliverTo e later) := by
  induction earlier generalizing m with
  | nil => rfl
  | cons l rest ih =>
    rw [List.cons_append, deliverTo, deliverTo, Option.bind_assoc]
    refine congrArg _ (funext fun r => ?_)
    exact ih r.2

/-- An event that was taken down is heard of by silent listeners, by the director, and then by the
others. -/
theorem Restores.above (hservice : service.Restores .reserved (·.Tracks tags)) :
    service.above.Restores .reserved (·.Tracks tags) where
  deliver := by
    intro e m m' _ hm hrun
    obtain ⟨earlier, later, hlisteners, hearlier, hlater⟩ := hm.listeners
    have hrun : service.deliverTo e (m.listeners.map (·.2)) (m.record (.emitted e)) =
      some m' := hrun
    rw [hlisteners, deliverTo_append] at hrun
    obtain ⟨m₁, hfirst, hrun⟩ := Option.bind_eq_some_iff.mp hrun
    rw [Service.deliverTo] at hrun
    obtain ⟨⟨a, m₂⟩, hlistener, hrun⟩ := Option.bind_eq_some_iff.mp hrun
    have howes : m₁.Owes tags e := (service.restores_silent (·.Owes tags e)).deliverTo
      (fun hstep h => h.write hstep) id id (fun _ _ => trivial) (fun l hl => hearlier l hl e)
      (hm.owes e) hfirst
    exact hservice.deliverTo (fun hstep h => h.write hstep) id id (fun _ _ => trivial)
      (fun l hl => hlater l hl e) (hservice.listener howes hlistener) hrun
  perform := by
    intro name s params m m' _ hm hrun
    simp only [Service.above] at hrun
    split at hrun
    · cases hrun
      exact hm
    · next action hget =>
      obtain ⟨⟨a, m₁⟩, haction, rfl⟩ := Option.map_eq_some_iff.mp hrun
      exact hservice.script (hm.actions _ (Dict.mem_of_get? hget) s params _) hm haction
  check := by
    intro name s params m b m' _ hm hrun
    simp only [Service.above] at hrun
    split at hrun
    · cases hrun
      exact hm
    · next condition hget =>
      obtain ⟨⟨a, m₁⟩, hcondition, heq⟩ := Option.map_eq_some_iff.mp hrun
      cases heq
      exact hservice.script (hm.conditions _ (Dict.mem_of_get? hget) s params _) hm hcondition

/-- However deep events set each other off, each is tracked before the next one is announced. -/
theorem restores_atDepth (tags : List String) :
    ∀ depth, (atDepth depth).Restores .reserved (·.Tracks tags)
  | 0 => { deliver := nofun, perform := nofun, check := nofun }
  | depth + 1 =>
    have below := (restores_atDepth tags depth).above
    ⟨below.deliver, below.perform, below.check⟩

end Service

/-- Along a run that touches nothing by itself the contacts follow the collisions. -/
theorem Machine.Runs.tracks {m m' : Machine} {tags : List String} (hm : m.Tracks tags)
    (h : m.Runs .reserved m') : m'.Tracks tags := by
  induction h with
  | refl => exact hm
  | @script m₁ m₂ depth α s a _ hs hrun ih =>
    exact (Service.restores_atDepth tags depth).script hs ih hrun

/-- At the end of every run, be the scene played or edited meanwhile, an entity has at most one
contact with another one, and has one just in case the latest report that names both, in either
order, does not tell of an end. Then the other one has one with it, too. The two contacts mirror
each other, and each tag is the one that was given last since the contact began. The ground flag
equals whether some contact has a tag that is configured. -/
theorem contacts_follow_collisions {m m' : Machine} (hm : m.Heedful)
    (hnew : m.world.NothingSensedYet) (hnone : m.world.collisions = [])
    (h : m.Runs .reserved m') (hdistinct : ∀ x ∈ m'.world.collisions, x.first ≠ x.second)
    (a b : EntityId) :
    let history := m'.world.collisions
    let current (id : EntityId) : List Contact := (m'.world.senses.awareness id).current
    (Contact.withEntity b (current a)).length ≤ 1 ∧
    ((∃ c ∈ current a, c.other = b) ↔
      ∃ x, history.find? (fun x => x.joins a b) = some x ∧ x.type ≠ EventType.collisionExit) ∧
    ((∃ c ∈ current a, c.other = b) ↔ ∃ c ∈ current b, c.other = a) ∧
    (∀ c ∈ current a, ∀ c' ∈ current b, c.other = b → c'.other = a →
      c.otherTag = c'.selfTag ∧ c.selfTag = c'.otherTag) ∧
    (∀ c ∈ current a, c.other = b → c.otherTag = Collision.lastTag history a b b ∧
      c.selfTag = Collision.lastTag history a b a) ∧
    ((m'.world.senses.awareness a).grounded = true ↔
      (m'.world.senses.awareness a).OnGround m.world.settings.groundTags) := by
  intro history current
  have htracks : m'.Tracks m.world.settings.groundTags := by
    refine h.tracks ⟨hm, ?_, by rw [hnew]⟩
    rw [hnew, hnone]
    exact Senses.follows_new _
  -- What the history leaves, from either side.
  have hleft : ∀ {a b : EntityId} {c : Contact}, c ∈ current a ∧ c.other = b ↔
      Collision.sinceBegan history a b ≠ [] ∧
        c = ⟨b, Collision.lastTag history a b b, Collision.lastTag history a b a⟩ :=
    (htracks.follows.mem_iff (Or.inr hdistinct)).trans Collision.contact_eq_some_iff
  have hexists : ∀ {a b : EntityId}, (∃ c ∈ current a, c.other = b) ↔
      Collision.sinceBegan history a b ≠ [] :=
    ⟨fun ⟨_, hc⟩ => (hleft.mp hc).1, fun hsince => ⟨_, hleft.mpr ⟨hsince, rfl⟩⟩⟩
  refine ⟨htracks.follows.single a b, ?_, ?_, ?_, ?_, ?_⟩
  · rw [hexists, Collision.sinceBegan_ne_nil_iff]
    exact exists_congr fun x => and_congr_right fun _ => decide_eq_false_iff_not
  · rw [hexists, hexists, Collision.sinceBegan_comm]
  · intro c hc c' hc' hb ha
    obtain ⟨-, rfl⟩ := hleft.mp ⟨hc, hb⟩
    obtain ⟨-, rfl⟩ := hleft.mp ⟨hc', ha⟩
    exact ⟨Collision.lastTag_comm _ _ _ _, Collision.lastTag_comm _ _ _ _⟩
  · intro c hc hb
    obtain ⟨-, rfl⟩ := hleft.mp ⟨hc, hb⟩
    exact ⟨rfl, rfl⟩
  · rw [← htracks.groundTags]
    exact (htracks.follows.judged a).iff

/-! ## A landing in an edited scene -/

namespace Landing

/-- The director of a scene that is edited, and the default behaviours. -/
def machine : Machine :=
  let m : Machine :=
    { world := (Director.appoint {} {}).setMode .editing
      listeners := [(1, Director.listener)] }
  m.withDefaultActions.withDefaultConditions

theorem machine_heedful : machine.Heedful :=
  have hstandard : machine.Standard := Machine.standard_withDefaults rfl rfl rfl
  hstandard.heedful

/-- The host tells of a collision. -/
def tell (type a b : String) (tags : Params) : Script Unit :=
  Script.announce type (("entityA", .text a) :: ("entityB", .text b) :: tags) none

theorem tell_obeys (type a b : String) (tags : Params) (w : World) :
    (tell type a b tags).Obeys .reserved w :=
  .emit trivial fun _ _ => .done

/-- What is reported: the hero lands on the floor, and stays there, which is told the other way
round and with the hero's tag only. -/
def reports : List Collision :=
  [⟨"COLLISION_STAY", ⟨"floor"⟩, ⟨"hero"⟩, none, some "Player", rfl⟩,
    ⟨"COLLISION_ENTER", ⟨"hero"⟩, ⟨"floor"⟩, none, some "Wall", rfl⟩]

theorem machine_runs : ∃ m, machine.Runs .reserved m ∧ m.world.collisions = reports := by
  have hrun : ∃ m₁ m₂ m₃,
      (tell "COLLISION_ENTER" "hero" "floor" [("tagB", .text "Wall")]).run (Service.atDepth 3)
        machine = some ((), m₁) ∧
      (Director.update 0).run (Service.atDepth 3) m₁ = some ([], m₂) ∧
      (tell "COLLISION_STAY" "floor" "hero" [("tagB", .text "Player")]).run (Service.atDepth 3)
        m₂ = some ((), m₃) ∧ m₃.world.collisions = reports :=
    ⟨_, _, _, rfl, rfl, rfl, rfl⟩
  obtain ⟨m₁, m₂, m₃, h₁, h₂, h₃, hreports⟩ := hrun
  refine ⟨m₃, ?_, hreports⟩
  exact .script (.script (.script .refl (tell_obeys _ _ _ _ _) h₁)
    (Director.update_obeys_reserved 0 _) h₂) (tell_obeys _ _ _ _ _) h₃

end Landing

/-- The hero has one contact with the floor, with the tags of both reports, and stands on it. -/
theorem hero_lands : ∃ m, Landing.machine.Heedful ∧ Landing.machine.world.NothingSensedYet ∧
    Landing.machine.world.collisions = [] ∧ Landing.machine.Runs .reserved m ∧
    (∀ x ∈ m.world.collisions, x.first ≠ x.second) ∧
    (∃ c ∈ (m.world.senses.awareness ⟨"hero"⟩).current, c.other = ⟨"floor"⟩) ∧
    ∀ c ∈ (m.world.senses.awareness ⟨"hero"⟩).current, c.other = ⟨"floor"⟩ →
      c.otherTag = some "Wall" ∧ c.selfTag = some "Player" := by
  obtain ⟨m, hruns, hreports⟩ := Landing.machine_runs
  have hdistinct : ∀ x ∈ m.world.collisions, x.first ≠ x.second := by
    rw [hreports]
    simp [Landing.reports]
  obtain ⟨-, hexists, -, -, htags, -⟩ := contacts_follow_collisions Landing.machine_heedful rfl rfl
    hruns hdistinct ⟨"hero"⟩ ⟨"floor"⟩
  rw [hreports] at hexists htags
  refine ⟨m, Landing.machine_heedful, rfl, rfl, hruns, hdistinct, hexists.mpr ?_, htags⟩
  exact ⟨_, rfl, by decide⟩

end SceneLogic
