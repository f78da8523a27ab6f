import SceneLogic.Proofs.Director.Answering
import SceneLogic.Proofs.Director.Meetings

/-!
# What collision rules are filtered on

Each side of a collision is handed the data of the event with its own view of the contact put in:
who the other is, and the tags of both. Its rules are picked before that, by the data as it was
announced. A rule that demands something of the contact, as its conditions and actions will see it,
is picked only if the announcement says the same.

* `Rule.accepts_iff` — what a rule demands
* `Director.offer_evaluates_iff` — what an offer has evaluated
* `Director.HearsOf` — what becomes of one side of a collision
* `collision_rules_filtered_on_announced_data` — both sides, one after the other
* `not_always_filtered_on_handed_data` — a rule that waits for a certain other in vain
-/

namespace SceneLogic

/-! ## Demands -/

namespace Rule

/-- The rule demands a value under a key. -/
def Demands (r : Rule) (key : String) (expected : Value) : Prop :=
  ∃ demands, r.eventParams = some demands ∧ (key, expected) ∈ demands

theorem accepts_iff {r : Rule} {data : Params} : r.accepts data = true ↔
    ∀ key expected, r.Demands key expected →
      ∃ actual, Dict.get? data key = some actual ∧ demandMet expected actual = true := by
  unfold accepts Demands
  cases r.eventParams with
  | none => simp
  | some demands =>
    simp only [List.all_eq_true, Prod.forall, Option.some.injEq, exists_eq_left']
    refine forall_congr' fun key => forall_congr' fun expected => forall_congr' fun _ => ?_
    cases Dict.get? data key with
    | none => simp
    | some actual => simp

/-- Data that agree where the rule demands something are accepted alike. -/
theorem accepts_congr {r : Rule} {data data' : Params}
    (h : ∀ key expected, r.Demands key expected → Dict.get? data key = Dict.get? data' key) :
    r.accepts data = r.accepts data' := by
  rw [Bool.eq_iff_iff, accepts_iff, accepts_iff]
  refine forall_congr' fun key => forall_congr' fun expected => forall_congr' fun hdemand => ?_
  rw [h key expected hdemand]

end Rule

/-! ## Evaluations -/

namespace Director

variable {service : Service} {m n m' : Machine} {id id' : EntityId} {r : Rule} {s : Situation}
  {e : Event} {c : Contact} {data : Params}

/-- Where a batch comes to its end, each of its rules is evaluated. -/
theorem evaluateAll_reaches {rules : List Rule}
    (hrun : (evaluateAll s rules).run service m = some ((), m')) :
    (∃ n, (evaluateAll s rules).Evaluates service m s.entity r n) ↔ r ∈ rules := by
  constructor
  · rintro ⟨n, heval⟩
    obtain ⟨-, earlier, later, rfl, -⟩ := evaluateAll_evaluates.mp heval
    exact List.mem_append_right _ List.mem_cons_self
  · intro hmem
    obtain ⟨earlier, later, rfl⟩ := List.append_of_mem hmem
    rw [evaluateAll, Script.forEach_append, Script.run_bind] at hrun
    obtain ⟨⟨⟨⟩, n⟩, hearlier, -⟩ := Option.bind_eq_some_iff.mp hrun
    exact ⟨n, evaluateAll_evaluates.mpr ⟨rfl, earlier, later, rfl, hearlier⟩⟩

/-- Each evaluation of a batch is one in the situation of the batch. -/
theorem evaluateAll_begins {rules : List Rule}
    (h : (evaluateAll s rules).Evaluates service m id r n) :
    (r.evaluate s (request s)).Begins service n (evaluateAll s rules) m := by
  obtain ⟨-, earlier, later, rfl, hrun⟩ := evaluateAll_evaluates.mp h
  rw [evaluateAll, Script.forEach_append]
  refine .after hrun ?_
  exact ((Script.begins_self _ n).bind _).bind _

/-- The rules of an entity are picked by the event, and are evaluated in a situation with the data
of the offer. -/
theorem offer_evaluates_iff : (offer e id data false).Evaluates service m id' r n ↔
    (evaluateAll (m.world.situationFor id data).1
      (if e.concerns id then m.world.reacting e id else [])).Evaluates service
        { m with world := noticing m.world e id data } id' r n := by
  generalize heval : (evaluateAll _ _).Evaluates service _ id' r n = evaluated
  refine offer_alone_by (fun s m => s.Evaluates service m id' r n ↔ evaluated) (fun h => ?_)
    (fun hjournal h => ?_) (Iff.of_eq heval)
  · rwa [Script.Evaluates.read_iff]
  · rwa [Script.Evaluates.write_iff (plain_of_journal hjournal _ _)]

theorem offer_begins {β : Type} {p : Script β} (h : p.Begins service n
    (evaluateAll (m.world.situationFor id data).1
      (if e.concerns id then m.world.reacting e id else []))
        { m with world := noticing m.world e id data }) :
    p.Begins service n (offer e id data false) m :=
  offer_alone_by (fun s m => p.Begins service n s m) .read (fun _ => .write) h

/-! ## Sides -/

/-- What becomes of the offer to one side of a collision. -/
structure HearsOf (service : Service) (e : Event) (id : EntityId) (c : Contact) (m : Machine) :
    Prop where
  /-- Of the components that answer, those are evaluated whose demands the announced data meet. -/
  picked : ∀ x ∈ m.world.componentsOf id fun t => EventType.answers t e.type,
    (∃ n, (offerSide e id c).Evaluates service m id x.rule n) ↔ e.concerns id = true ∧
      ∀ key expected, x.rule.Demands key expected →
        ∃ actual, e.get? key = some actual ∧ demandMet expected actual = true
  /-- Nothing else is evaluated, and the conditions and actions are handed the view of the side. -/
  handed : ∀ id' r n, (offerSide e id c).Evaluates service m id' r n → id' = id ∧
    (∃ x ∈ m.world.componentsOf id fun t => EventType.answers t e.type, x.rule = r) ∧
    ∃ s : Situation, s.entity = id ∧ s.eventData = sideData e.data c ∧
      (r.evaluate s (request s)).Begins service n (offerSide e id c) m
  /-- It is the same as picking by the view of the side, unless a rule demands something of which
  that view differs from what was announced. -/
  agreed : ∀ x ∈ m.world.componentsOf id fun t => EventType.answers t e.type,
    (∀ key expected, x.rule.Demands key expected →
      sideValue? c key = none ∨ sideValue? c key = e.get? key) →
    ((∃ n, (offerSide e id c).Evaluates service m id x.rule n) ↔ e.concerns id = true ∧
      ∀ key expected, x.rule.Demands key expected →
        ∃ actual, Dict.get? (sideData e.data c) key = some actual ∧
          demandMet expected actual = true)

/-- The rules of an entity that react are those of its answering components that accept the data. -/
theorem mem_reacting_iff {w : World} : r ∈ w.reacting e id ↔
    ∃ x ∈ w.componentsOf id fun t => EventType.answers t e.type,
      x.rule = r ∧ r.accepts e.data = true := by
  rw [← w.filter_componentsOf, List.mem_filter, List.mem_map]
  constructor
  · rintro ⟨⟨x, hx, rfl⟩, hreacts⟩
    exact ⟨x, hx, rfl, (Bool.and_eq_true_iff.mp hreacts).2⟩
  · rintro ⟨x, hx, rfl, haccepts⟩
    exact ⟨⟨x, hx, rfl⟩, Bool.and_eq_true_iff.mpr ⟨componentsOf_accepted hx, haccepts⟩⟩

/-- An entity evaluates the rules of its answering components that accept the announced data. -/
theorem offerSide_evaluates {x : Component}
    (hrun : (offerSide e id c).run service m = some ((), m'))
    (hx : x ∈ m.world.componentsOf id fun t => EventType.answers t e.type) :
    (∃ n, (offerSide e id c).Evaluates service m id x.rule n) ↔
      e.concerns id = true ∧ x.rule.accepts e.data = true := by
  have hentity := situationFor_entity m.world id (sideData e.data c)
  rw [offerSide, offer_run] at hrun
  have hreaches := evaluateAll_reaches (r := x.rule) hrun
  rw [hentity] at hreaches
  simp only [offerSide, offer_evaluates_iff]
  rw [hreaches]
  by_cases hconcerns : e.concerns id = true
  · rw [if_pos hconcerns, mem_reacting_iff]
    refine ⟨?_, fun ⟨_, haccepts⟩ => ⟨x, hx, rfl, haccepts⟩⟩
    rintro ⟨y, -, heq, haccepts⟩
    exact ⟨hconcerns, haccepts⟩
  · rw [if_neg hconcerns]
    exact ⟨nofun, fun ⟨htrue, _⟩ => absurd htrue hconcerns⟩

theorem hearsOf_of_run (hrun : (offerSide e id c).run service m = some ((), m')) :
    HearsOf service e id c m where
  picked := by
    intro x hx
    rw [offerSide_evaluates hrun hx, Rule.accepts_iff]
    rfl
  handed := by
    intro id' r n heval
    rw [offerSide, offer_evaluates_iff] at heval
    have hentity := situationFor_entity m.world id (sideData e.data c)
    obtain ⟨hid, earlier, later, hrules, -⟩ := evaluateAll_evaluates.mp heval
    have hmem : r ∈ m.world.reacting e id := by
      have hmem : r ∈ if e.concerns id then m.world.reacting e id else [] := by
        rw [hrules]
        exact List.mem_append_right _ List.mem_cons_self
      split at hmem
      · exact hmem
      · exact nomatch hmem
    obtain ⟨x, hx, hrule, -⟩ := mem_reacting_iff.mp hmem
    exact ⟨hid.symm.trans hentity, ⟨x, hx, hrule⟩, _, hentity, situationFor_eventData _ _ _,
      offer_begins (evaluateAll_begins heval)⟩
  agreed := by
    intro x hx hagree
    rw [offerSide_evaluates hrun hx, ← Rule.accepts_iff]
    refine and_congr_right fun _ => Bool.eq_iff_iff.mp (Rule.accepts_congr ?_)
    intro key expected hdemand
    rw [get?_sideData]
    rcases hagree key expected hdemand with hnone | hsame
    · rw [hnone, Option.none_or]
    · rw [hsame]
      exact (Option.or_self).symm

/-- What a collision that is handled has evaluated is evaluated by one of its sides. -/
theorem listener_evaluates_iff {a b : EntityId} (hcollision : isCollision e.type = true)
    (ha : e.entity? "entityA" = some a) (hb : e.entity? "entityB" = some b)
    (hplaying : m.world.isPlaying = true) :
    (listener e).Evaluates service m id r n ↔
      ((touched m.world e a b).meet e a b).1 = true ∧
        ((offerSide e a (firstContact e b)).bind fun _ =>
          offerSide e b (secondContact e a)).Evaluates service
            { m with world := ((touched m.world e a b).meet e a b).2 } id r n := by
  have hplain : ((touched m.world e a b).meet e a b).2 ≠ m.world.record (.evaluated id r) :=
    plain_of_record (u := m.world) (fun _ _ heq => by cases heq) id r
  rw [listener, Script.Evaluates.bind_iff, handle_collision hcollision ha hb,
    Script.Evaluates.read_iff, touched_isPlaying, hplaying]
  simp only [Bool.not_true, Bool.false_eq_true, if_false]
  rw [Script.Evaluates.write_iff hplain]
  cases ((touched m.world e a b).meet e a b).1 with
  | false => simp [Script.not_evaluates_done]
  | true => simp [Script.not_evaluates_done]

end Director

/-! ## Collisions -/

/-- A collision that claims its pair is offered to its first entity and then to its second, and each
of them evaluates the rules of those of its enabled components that answer to it, if it is live and
the event is aimed at nobody else, and if the data as it was announced meet the demands of the rule.
What conditions and actions are handed are the data with the view of the side put in. So a rule that
demands who the other is, or of what tag, is evaluated only if the announcement has that, too. A
collision that does not claim its pair has nothing evaluated. -/
theorem collision_rules_filtered_on_announced_data {service : Service} {m m' : Machine} {e : Event}
    {a b : EntityId} (hcollision : Director.isCollision e.type = true)
    (ha : e.entity? "entityA" = some a) (hb : e.entity? "entityB" = some b)
    (hplaying : m.world.isPlaying = true)
    (hrun : (Director.listener e).run service m = some (.ok (), m')) :
    (((Director.touched m.world e a b).meet e a b).1 = false →
      ∀ id r n, ¬ (Director.listener e).Evaluates service m id r n) ∧
    (((Director.touched m.world e a b).meet e a b).1 = true →
      ∃ n₁ n₂ : Machine,
        n₁ = { m with world := ((Director.touched m.world e a b).meet e a b).2 } ∧
        (Director.offerSide e a (Director.firstContact e b)).run service n₁ = some ((), n₂) ∧
        (Director.offerSide e b (Director.secondContact e a)).run service n₂ = some ((), m') ∧
        (∀ id r n, (Director.listener e).Evaluates service m id r n ↔
          (Director.offerSide e a (Director.firstContact e b)).Evaluates service n₁ id r n ∨
          (Director.offerSide e b (Director.secondContact e a)).Evaluates service n₂ id r n) ∧
        Director.HearsOf service e a (Director.firstContact e b) n₁ ∧
        Director.HearsOf service e b (Director.secondContact e a) n₂) := by
  refine ⟨fun hrefused id r n heval => ?_, fun hgranted => ?_⟩
  · rw [Director.listener_evaluates_iff hcollision ha hb hplaying, hrefused] at heval
    exact Bool.false_ne_true heval.1
  · rw [Director.listener_met hcollision ha hb service m hplaying] at hrun
    dsimp only at hrun
    rw [if_pos hgranted, Script.run_bind] at hrun
    obtain ⟨⟨⟨⟩, n₂⟩, hfirst, hrest⟩ := Option.bind_eq_some_iff.mp hrun
    dsimp only at hrest
    rw [Script.run_bind] at hrest
    obtain ⟨⟨⟨⟩, n₃⟩, hsecond, hend⟩ := Option.bind_eq_some_iff.mp hrest
    cases hend
    refine ⟨_, n₂, rfl, hfirst, hsecond, fun id r n => ?_, Director.hearsOf_of_run hfirst,
      Director.hearsOf_of_run hsecond⟩
    rw [Director.listener_evaluates_iff hcollision ha hb hplaying, Script.Evaluates.bind_iff]
    refine (and_iff_right hgranted).trans (or_congr_right ⟨?_, fun h => ⟨(), n₂, hfirst, h⟩⟩)
    rintro ⟨⟨⟩, n, hfirst', heval⟩
    cases hfirst.symm.trans hfirst'
    exact heval

namespace Bumps

/-- Tells of a bump, if the event has the blue ball under a key. -/
def bump (key : String) : Rule where
  event := "OnCollision"
  eventParams := some [(key, .text "blue")]
  actions := [⟨"ShowDialogue", [("text", .text "bump")]⟩]

/-- The red ball looks for the blue one under a key. -/
def red (key : String) : Entity where
  id := ⟨"red"⟩
  components := [⟨"bumps", true, bump key⟩]

def blue : Entity where
  id := ⟨"blue"⟩

def machine (key : String) : Machine where
  world :=
    { director := some {}
      store := (Store.empty.insert (red key)).insert blue }
  listeners := [(1, Director.listener)]

/-- The balls collide, and nobody says more about it. -/
def event : Event :=
  ⟨"COLLISION_ENTER", none, [("entityA", .text "red"), ("entityB", .text "blue")], 0⟩

theorem demands_met {key key' : String} {expected : Value} (h : (bump key).Demands key' expected) :
    key' = key ∧ expected = .text "blue" := by
  obtain ⟨demands, hdemands, hmem⟩ := h
  cases hdemands
  exact Prod.mk.inj (List.mem_singleton.mp hmem)

end Bumps

/-- The red ball finds the blue one under the key that the announcement has, and is told of it as
the other, which the announcement does not do. -/
theorem red_bumps_into_blue : ∃ (m' n₁ n : Machine) (s : Situation),
    (Director.listener Bumps.event).run (Service.atDepth 1) (Bumps.machine "entityB") =
      some (.ok (), m') ∧
    (Director.listener Bumps.event).Evaluates (Service.atDepth 1) (Bumps.machine "entityB") ⟨"red"⟩
      (Bumps.bump "entityB") n ∧
    ((Bumps.bump "entityB").evaluate s (Director.request s)).Begins (Service.atDepth 1) n
      (Director.offerSide Bumps.event ⟨"red"⟩ (Director.firstContact Bumps.event ⟨"blue"⟩)) n₁ ∧
    Dict.get? s.eventData "otherId" = some (.text "blue") ∧
    Bumps.event.get? "otherId" = none := by
  obtain ⟨m', hrun⟩ : ∃ m', (Director.listener Bumps.event).run (Service.atDepth 1)
      (Bumps.machine "entityB") = some (.ok (), m') := ⟨_, rfl⟩
  obtain ⟨-, hclaimed⟩ :=
    collision_rules_filtered_on_announced_data (a := ⟨"red"⟩) (b := ⟨"blue"⟩) rfl rfl rfl rfl hrun
  obtain ⟨n₁, n₂, rfl, -, -, hboth, hred, -⟩ := hclaimed rfl
  obtain ⟨n, heval⟩ := (hred.picked ⟨"bumps", true, Bumps.bump "entityB"⟩ List.mem_cons_self).mpr
    ⟨rfl, fun key expected hdemand => by
      obtain ⟨rfl, rfl⟩ := Bumps.demands_met hdemand
      exact ⟨_, rfl, rfl⟩⟩
  obtain ⟨-, -, s, -, hdata, hbegins⟩ := hred.handed _ _ _ heval
  refine ⟨m', _, n, s, hrun, (hboth _ _ _).mpr (.inl heval), hbegins, ?_, rfl⟩
  rw [hdata]
  rfl

/-- The red ball waits for the blue one to be the other. The blue one is, and this is what
conditions and actions would be told, but the rule is not evaluated. -/
theorem not_always_filtered_on_handed_data : ¬ ∀ (service : Service) (m m' : Machine) (e : Event)
    (a b : EntityId) (x : Component), Director.isCollision e.type = true →
    e.entity? "entityA" = some a → e.entity? "entityB" = some b → a ≠ b → e.target = none →
    m.world.isPlaying = true → ((Director.touched m.world e a b).meet e a b).1 = true →
    (Director.listener e).run service m = some (.ok (), m') →
    x ∈ m.world.componentsOf a (fun t => EventType.answers t e.type) →
    ((∃ n, (Director.listener e).Evaluates service m a x.rule n) ↔
      x.rule.accepts (Director.sideData e.data (Director.firstContact e b)) = true) := by
  intro h
  obtain ⟨m', hrun⟩ : ∃ m', (Director.listener Bumps.event).run (Service.atDepth 1)
      (Bumps.machine "otherId") = some (.ok (), m') := ⟨_, rfl⟩
  obtain ⟨n, heval⟩ := (h _ _ _ _ ⟨"red"⟩ ⟨"blue"⟩ ⟨"bumps", true, Bumps.bump "otherId"⟩ rfl rfl rfl
    (by decide) rfl rfl rfl hrun List.mem_cons_self).mpr rfl
  rw [Director.listener_evaluates_iff (a := ⟨"red"⟩) (b := ⟨"blue"⟩) rfl rfl rfl rfl,
    Script.Evaluates.bind_iff] at heval
  rcases heval.2 with hred | ⟨⟨⟩, n₂, -, hblue⟩
  · obtain ⟨-, earlier, later, hrules, -⟩ :=
      Director.evaluateAll_evaluates.mp (Director.offer_evaluates_iff.mp hred)
    have hnone : [] = earlier ++ Bumps.bump "otherId" :: later := hrules
    exact List.append_ne_nil_of_right_ne_nil _ (List.cons_ne_nil _ _) hnone.symm
  · obtain ⟨hid, -⟩ := Director.evaluateAll_evaluates.mp (Director.offer_evaluates_iff.mp hblue)
    rw [Director.situationFor_entity] at hid
    exact absurd hid (by decide)

end SceneLogic
