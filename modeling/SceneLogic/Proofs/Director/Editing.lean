import SceneLogic.Proofs.Defaults.Blindness
import SceneLogic.Proofs.Director.Blindness
import SceneLogic.Proofs.Director.Touching

/-!
# A scene that is edited

While the scene is edited the director keeps track of contacts and does nothing else. This is seen
from two sides.

* `Director.listener_edited` — the reaction to one event, which asks for nothing, so that no rule is
  evaluated and no action performed
* `Machine.tell_edited` — what is left when the host has announced some events: what was taken
  down, and what the collisions among them had entities sense

Nothing reads what was taken down (`Script.run_veiled`). So an event that tells of no collision
might as well not have been announced: whatever comes next is the same, with another past. Both are
put together in `edited_scene_is_inert`.
-/

namespace SceneLogic

/-! ## What a collision has entities sense -/

/-- The signals are the same. -/
structure Awareness.SameSignals (a a' : Awareness) : Prop where
  signalFlags : a'.signalFlags = a.signalFlags
  signalValues : a'.signalValues = a.signalValues

namespace Senses

/-- At most the contacts and the ground flags of two entities are other ones. -/
structure SameBut (s : Senses) (a b : EntityId) (s' : Senses) : Prop where
  groundTags : s'.groundTags = s.groundTags
  others : ∀ id, id ≠ a → id ≠ b → s'.awareness id = s.awareness id
  signals : ∀ id, (s.awareness id).SameSignals (s'.awareness id)

variable {s : Senses}

/-- A report of a contact is about one entity and not about its signals. -/
theorem trackContact_sameBut (h : s.Sound) (type : String) (id : EntityId) (c : Contact) :
    s.SameBut id id (Director.trackContact s type id c) := by
  have hmodify : ∀ f : Awareness → Awareness, (∀ a : Awareness, a.SameSignals (f a)) →
      s.SameBut id id (s.modify id f) := by
    intro f hf
    refine ⟨s.groundTags_modify id f, fun a ha _ => ?_, fun a => ?_⟩
    · rw [awareness_modify h, if_neg ha]
    · rw [awareness_modify h]
      by_cases ha : a = id
      · rw [if_pos ha]
        exact hf _
      · rw [if_neg ha]
        exact ⟨rfl, rfl⟩
  unfold Director.trackContact
  by_cases henter : type = EventType.collisionEnter
  · rw [if_pos henter]
    exact hmodify _ fun _ => ⟨rfl, rfl⟩
  · rw [if_neg henter]
    by_cases hstay : type = EventType.collisionStay
    · rw [if_pos hstay]
      exact hmodify _ fun _ => ⟨rfl, rfl⟩
    · rw [if_neg hstay]
      exact hmodify _ fun _ => ⟨rfl, rfl⟩

/-- A collision is about two entities. -/
theorem touch_sameBut (h : s.Sound) (x : Collision) : s.SameBut x.first x.second (s.touch x) := by
  have hsound : (Director.trackContact s x.type x.first ⟨x.second, x.secondTag, x.firstTag⟩).Sound := by
    rw [Director.trackContact_eq]
    exact h.carryOut _
  obtain ⟨htags, hothers, hsignals⟩ :=
    trackContact_sameBut h x.type x.first ⟨x.second, x.secondTag, x.firstTag⟩
  obtain ⟨htags', hothers', hsignals'⟩ :=
    trackContact_sameBut hsound x.type x.second ⟨x.first, x.firstTag, x.secondTag⟩
  refine ⟨htags'.trans htags, fun id ha hb => ?_, fun id => ?_⟩
  · exact (hothers' id hb hb).trans (hothers id ha ha)
  · obtain ⟨hflags, hvalues⟩ := hsignals id
    obtain ⟨hflags', hvalues'⟩ := hsignals' id
    exact ⟨hflags'.trans hflags, hvalues'.trans hvalues⟩

/-- What is sensed when the director has heard of an event in a scene that is edited. -/
def heard (s : Senses) (e : Event) : Senses :=
  match e.collision? with
  | some x => s.touch x
  | none => s

end Senses

/-! ## The reaction to an event -/

namespace Director

/-- Whatever the event, all that the director does about it is to keep track of a collision. -/
theorem handle_edited {e : Event} {m : Machine} (h : m.world.isPlaying = false)
    (service : Service) : (handle e).run service m =
      some ((), { m with world := { m.world with senses := m.world.senses.heard e } }) := by
  unfold handle Senses.heard Event.collision?
  by_cases hcollision : isCollision e.type = true
  · rw [if_pos hcollision, dif_pos hcollision]
    unfold collide
    cases e.entity? "entityA" with
    | none => rfl
    | some a =>
      cases e.entity? "entityB" with
      | none => rfl
      | some b =>
        have hedited : ∀ senses : Senses, ({ m.world with senses } : World).isPlaying = false :=
          fun _ => h
        simp only [Script.run, hedited, Bool.not_false, if_true]
        rfl
  · rw [if_neg hcollision, dif_neg hcollision]
    simp only [Script.run, h, Bool.not_false, if_true]

theorem listener_edited {e : Event} {m : Machine} (h : m.world.isPlaying = false)
    (service : Service) : (listener e).run service m =
      some (.ok (), { m with world := { m.world with senses := m.world.senses.heard e } }) := by
  rw [listener, Script.run_bind, handle_edited h]
  rfl

end Director

/-! ## What the host announces -/

/-- An event that the host announces. -/
structure Notice where
  type : String
  data : Params := []
  target : Option EntityId := none

namespace Notice

/-- The host announces the event. -/
def tell (n : Notice) : Script Unit :=
  Script.announce n.type n.data n.target

/-- The event at a reading of the clock. -/
def event (n : Notice) (clock : Float) : Event :=
  ⟨n.type, n.target, n.data, clock⟩

/-- The event tells of a collision. -/
def isCollision (n : Notice) : Bool :=
  Director.isCollision n.type

theorem collision?_eq_none {n : Notice} (h : n.isCollision = false) (clock : Float) :
    (n.event clock).collision? = none := by
  have hnot : ¬ Director.isCollision (n.event clock).type = true := Bool.eq_false_iff.mp h
  rw [Event.collision?, dif_neg hnot]

end Notice

namespace World

/-- The world of an edited scene when an event was announced. -/
def noticed (w : World) (n : Notice) : World :=
  { w.record (.emitted (n.event w.clock)) with senses := w.senses.heard (n.event w.clock) }

/-- The world of an edited scene when some events were announced one after the other. -/
def noticedAll (w : World) (ns : List Notice) : World :=
  ns.foldl noticed w

/-- What is taken down of some events, the latest first. -/
def noticesOf (w : World) (ns : List Notice) : List Happening :=
  (ns.map fun n => .emitted (n.event w.clock)).reverse

/-- Some events leave their entries behind, and what their collisions have entities sense. -/
theorem noticedAll_eq (ns : List Notice) (w : World) : w.noticedAll ns =
    { w with
      journal := w.noticesOf ns ++ w.journal
      senses := (ns.map fun n => n.event w.clock).foldl Senses.heard w.senses } := by
  induction ns generalizing w with
  | nil => rfl
  | cons n rest ih =>
    rw [noticedAll, List.foldl_cons, ← noticedAll, ih]
    simp [noticed, noticesOf, record]

/-- Nothing is sensed of an event that tells of no collision. -/
theorem senses_without_others (ns : List Notice) (s : Senses) (clock : Float) :
    ((ns.filter Notice.isCollision).map fun n => n.event clock).foldl Senses.heard s =
      (ns.map fun n => n.event clock).foldl Senses.heard s := by
  induction ns generalizing s with
  | nil => rfl
  | cons n rest ih =>
    cases hn : n.isCollision with
    | true =>
      rw [List.filter_cons_of_pos hn, List.map_cons, List.map_cons, List.foldl_cons,
        List.foldl_cons, ih]
    | false =>
      rw [List.filter_cons_of_neg (by simp [hn]), List.map_cons, List.foldl_cons, ih,
        Senses.heard, Notice.collision?_eq_none hn]

end World

namespace Machine

variable {m : Machine}

/-- The host announces an event in an edited scene in which nobody listens but the director. -/
theorem tell_edited (hlisteners : m.listeners.map (·.2) = [Director.listener])
    (h : m.world.isPlaying = false) (n : Notice) (depth : Nat) :
    n.tell.run (Service.atDepth (depth + 1)) m =
      some ((), { m with world := m.world.noticed n }) := by
  have hdeliver : (Service.atDepth (depth + 1)).deliver (n.event m.world.clock)
      (m.record (.emitted (n.event m.world.clock))) =
        some { m with world := m.world.noticed n } := by
    show Service.deliverTo (Service.atDepth depth) _ (m.listeners.map (·.2)) _ = _
    rw [hlisteners, Service.deliverTo, Director.listener_edited (by exact h)]
    rfl
  show ((Service.atDepth (depth + 1)).deliver (n.event m.world.clock)
    (m.record (.emitted (n.event m.world.clock)))).bind _ = _
  rw [hdeliver]
  rfl

theorem tellAll_edited (hlisteners : m.listeners.map (·.2) = [Director.listener])
    (h : m.world.isPlaying = false) (ns : List Notice) (depth : Nat) :
    (Script.forEach ns Notice.tell).run (Service.atDepth (depth + 1)) m =
      some ((), { m with world := m.world.noticedAll ns }) := by
  induction ns generalizing m with
  | nil => rfl
  | cons n rest ih =>
    rw [Script.forEach, Script.run_bind, tell_edited hlisteners h]
    exact ih (m := { m with world := m.world.noticed n }) hlisteners h

end Machine

/-- The director and the default behaviours do not see what is hidden. -/
theorem Machine.Standard.blind {m : Machine} (h : m.Standard) (v : Veil) : m.Blind v where
  listeners := by
    intro l hl e
    rw [h.listener hl]
    exact Director.listener_blind e
  actions := fun a ha => defaultActions_blind a (h.actions a ha)
  conditions := fun c hc => Conditions.conditions_blind c (h.conditions c hc)

/-- While the scene is edited and nobody listens but the director, whatever event the host announces
is taken down, and nothing more comes of it than that the two entities of a collision, if it tells
of one, have other contacts: the director asks for nothing when it hears of the event, be it that an
action is performed or a condition checked, so that it is over at whatever depth and whatever is
registered.

So let the host announce some events and then go on, say by switching to playing. It comes to the
same run from the events that tell of collisions alone, just with another past in the journal. This
is for behaviours that depend on the world and not on the journal. -/
theorem edited_scene_is_inert {m : Machine} {d : Director}
    (hlisteners : m.listeners.map (·.2) = [Director.listener]) (hd : m.world.director = some d)
    (hediting : d.mode = .editing) (hsound : m.world.senses.Sound) :
    (∀ n : Notice,
      let e := n.event m.world.clock
      ∃ senses : Senses,
        let m' : Machine := { m with world := { m.world.record (.emitted e) with senses } }
        (∀ service, (Director.listener e).run service (m.record (.emitted e)) =
          some (.ok (), m')) ∧
        (∀ depth, n.tell.run (Service.atDepth (depth + 1)) m = some ((), m')) ∧
        (e.collision? = none → senses = m.world.senses) ∧
        ∀ x, e.collision? = some x → m.world.senses.SameBut x.first x.second senses) ∧
    ((∀ past, m.Blind { past }) → ∀ {α : Type} (ns : List Notice) (s : Script α),
      (∀ past, s.Blind { past }) → ∀ depth, ∃ run : Option (α × Machine),
        ∀ told ∈ [ns, ns.filter Notice.isCollision],
          ((Script.forEach told Notice.tell).bind fun _ => s).run (Service.atDepth (depth + 1)) m =
            run.map (Veil.over { past := m.world.noticesOf told ++ m.world.journal })) := by
  have hplaying : m.world.isPlaying = false := by
    rw [World.isPlaying, hd, Option.map_some, hediting]
    rfl
  refine ⟨fun n => ?_, fun hblind α ns s hs depth => ?_⟩
  · refine ⟨m.world.senses.heard (n.event m.world.clock), fun service => ?_, fun depth => ?_,
      fun hnone => ?_, fun x hx => ?_⟩
    · rw [Director.listener_edited (by exact hplaying)]
      rfl
    · exact Machine.tell_edited hlisteners hplaying n depth
    · rw [Senses.heard, hnone]
    · rw [Senses.heard, hx]
      exact Senses.touch_sameBut hsound x
  · -- The same start for both, without any past.
    let start : Machine :=
      { m with
        world := { m.world with
          journal := []
          senses := (ns.map fun n => n.event m.world.clock).foldl Senses.heard m.world.senses } }
    refine ⟨s.run (Service.atDepth (depth + 1)) start, fun told htold => ?_⟩
    have hsenses : (told.map fun n => n.event m.world.clock).foldl Senses.heard m.world.senses =
        start.world.senses := by
      rcases List.mem_cons.mp htold with rfl | htold
      · rfl
      · rw [List.mem_singleton.mp htold, World.senses_without_others]
    have hveiled : ({ m with world := m.world.noticedAll told } : Machine) =
        start.veiled { past := m.world.noticesOf told ++ m.world.journal } := by
      rw [World.noticedAll_eq, hsenses]
      rfl
    have hstart : start.Blind { past := m.world.noticesOf told ++ m.world.journal } :=
      (hblind _).withWorld _
    rw [Script.run_bind, Machine.tellAll_edited hlisteners hplaying]
    show s.run _ { m with world := m.world.noticedAll told } = _
    rw [hveiled]
    exact Script.run_veiled hstart (hs _) _

/-! ## A rehearsal -/

namespace Rehearsal

/-- When the scene starts the hero wakes up. -/
def hero : Entity where
  id := ⟨"hero"⟩
  components :=
    [⟨"wakes", true,
      { event := "OnStart"
        actions := [⟨"SetVar", [("name", .text "awake"), ("value", .bool true)]⟩] }⟩]

/-- The scene is edited. -/
def machine : Machine :=
  let m : Machine :=
    { world := (Director.appoint { store := Store.empty.insert hero } {}).setMode .editing
      listeners := [(1, Director.listener)] }
  m.withDefaultActions.withDefaultConditions

theorem machine_standard : machine.Standard :=
  Machine.standard_withDefaults rfl rfl rfl

/-- The scene starts while it is edited, and the hero lands. -/
def notices : List Notice :=
  [{ type := "OnStart" },
    { type := "COLLISION_ENTER"
      data := [("entityA", .text "hero"), ("entityB", .text "floor")] }]

/-- The curtain rises: the scene is played, and starts. -/
def curtain : Script Unit :=
  (Script.modifyWorld (·.setMode .playing)).bind fun _ => Script.announce "OnStart" [] none

theorem curtain_blind (v : Veil) : curtain.Blind v :=
  .bind (.modifyWorld fun _ => rfl) fun _ => .announce _ _ _

/-- The hero is awake. -/
def Awake (m : Machine) : Prop :=
  (m.world.store.get? ⟨"hero"⟩).bind (·.value? "awake") = some (.bool true)

theorem wakes_after_collision : ∃ m,
    ((Script.forEach (notices.filter Notice.isCollision) Notice.tell).bind fun _ => curtain).run
      (Service.atDepth 5) machine = some ((), m) ∧ Awake m :=
  ⟨_, rfl, rfl⟩

end Rehearsal

/-- The start that was announced in vain does not keep the hero from waking up when the scene is
played. -/
theorem hero_wakes_when_played : ∃ m,
    Rehearsal.machine.listeners.map (·.2) = [Director.listener] ∧
    Rehearsal.machine.world.senses.Sound ∧ (∀ past, Rehearsal.machine.Blind { past }) ∧
    (∀ past, Rehearsal.curtain.Blind { past }) ∧
    ((Script.forEach Rehearsal.notices Notice.tell).bind fun _ => Rehearsal.curtain).run
      (Service.atDepth 5) Rehearsal.machine = some ((), m) ∧ Rehearsal.Awake m := by
  have hlisteners : Rehearsal.machine.listeners.map (·.2) = [Director.listener] := rfl
  have hsound : Rehearsal.machine.world.senses.Sound := Senses.sound_new _
  have hblind : ∀ past, Rehearsal.machine.Blind { past } :=
    fun past => Rehearsal.machine_standard.blind { past }
  have hcurtain : ∀ past, Rehearsal.curtain.Blind { past } :=
    fun past => Rehearsal.curtain_blind { past }
  obtain ⟨run, hrun⟩ := (edited_scene_is_inert hlisteners rfl rfl hsound).2 hblind
    Rehearsal.notices Rehearsal.curtain hcurtain 4
  obtain ⟨m, hwithout, hawake⟩ := Rehearsal.wakes_after_collision
  -- The run after the collision alone tells what the run is.
  rw [hrun _ (List.mem_cons_of_mem _ List.mem_cons_self)] at hwithout
  obtain ⟨⟨_, m₁⟩, rfl, hm⟩ := Option.map_eq_some_iff.mp hwithout
  cases hm
  exact ⟨_, hlisteners, hsound, hblind, hcurtain, hrun _ List.mem_cons_self, hawake⟩

end SceneLogic
