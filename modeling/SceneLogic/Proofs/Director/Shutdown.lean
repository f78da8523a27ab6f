import SceneLogic.Proofs.Director.Hearing
import SceneLogic.Proofs.Module.Turns

/-!
# What a shutdown comes to

A shutdown ends the director's subscription and drops all modules. Both are for good. An event
that is announced after it leads to no evaluation of a rule, and an instance that was dropped does
nothing any more and is not reported.

It does not reach what is under way. An event goes to those who are subscribed when it is announced,
so the director still reacts to one that was announced before; and the instances that an update took
out are not in the pool, and are not dropped. Between updates nobody is out.

* `Dropping` — what the dropping of all modules comes to, as a property of the course around it
* `shutdown_final_but_for_what_is_under_way` — in each run, wherever the director is shut down
* `not_always_final` — both exceptions happen
-/

namespace SceneLogic

/-- What the dropping of all modules comes to. Before it there was `earlier`, and `later` came
after; the pool is the one at the end. -/
structure Dropping (later earlier : List Happening) (p : Pool) : Prop where
  /-- Whoever was not out does nothing any more, is not reported, and is not left. -/
  silent : ∀ id entity, StartedIn earlier id entity → (id, entity) ∉ (rosterOf earlier).out →
    ¬ ActsIn later id ∧ ¬ ReportedIn later id ∧ (id, entity) ∉ keysOf p.instances
  /-- Between updates nobody is out. -/
  idle : (rosterOf earlier).updating = false → (rosterOf earlier).out = []
  /-- Those are out that waited when the update under way opened. -/
  busy : ∀ during before, earlier = during ++ .ofPool .opened :: before → ¬ ClosesIn during →
    (rosterOf earlier).out = (rosterOf before).waiting

namespace Orderly

variable {earlier later : List Happening} {id : InstanceId} {entity : EntityId}

/-- Whoever is not out when all modules are dropped has vanished. -/
theorem vanished_cleared (h : Orderly (.ofPool .cleared :: earlier))
    (hstart : StartedIn earlier id entity) (hout : (id, entity) ∉ (rosterOf earlier).out) :
    (rosterOf (.ofPool .cleared :: earlier)).Vanished id := by
  refine ⟨h.tail.started_lt hstart, fun k hk hid => hout ?_⟩
  rw [rosterOf_cons, Roster.present, Roster.enter_clear, List.append_nil, List.append_nil] at hk
  have hentity := h.tail.entity_of_present hstart (Roster.mem_present.mpr (Or.inl hk)) hid
  rw [← hid, ← hentity]
  exact hk

/-- What the dropping of all modules comes to when no update is under way at the end. -/
theorem dropping {p : Pool} (h : Orderly (later ++ .ofPool .cleared :: earlier))
    (hidle : (rosterOf (later ++ .ofPool .cleared :: earlier)).updating = false)
    (hpool : keysOf p.instances = (rosterOf (later ++ .ofPool .cleared :: earlier)).waiting) :
    Dropping later earlier p where
  silent := by
    intro id entity hstart hout
    have hvanished := h.of_append.vanished_cleared hstart hout
    obtain ⟨hacts, hreported⟩ := h.vanished_silent hvanished
    refine ⟨hacts, hreported, fun hmem => ?_⟩
    rw [hpool] at hmem
    exact (h.vanished hvanished).absent _ (Roster.mem_present.mpr (Or.inr (Or.inl hmem))) rfl
  idle := fun hup => (h.of_append.tail.sound.idle hup).1
  busy := by
    rintro during before rfl hcloses
    exact (h.of_append.tail.underway hcloses).2.1

end Orderly

/-- Whatever the director's number is, a shutdown takes it away, and empties the pool. -/
theorem Director.shutdown_done (service : Service) (m : Machine) :
    ∃ m', shutdown.run service m = some ((), m') ∧ m'.world.subscription? = none ∧
      m'.world.pool.known = [] ∧ m'.world.course = .ofPool .cleared :: m.world.course := by
  cases hknown : m.world.subscription? with
  | none => exact ⟨_, shutdown_run_idle hknown, hknown, rfl, rfl⟩
  | some id => exact ⟨_, shutdown_run hknown, subscription?_resigned m.world, rfl, rfl⟩

/-- In each run, wherever all modules are dropped, it is for good but for those that an update has
taken out. Wherever an event is announced while the director has no subscription, no evaluation
begins because of it; and the director does not get its subscription back. A shutdown always ends,
without a subscription and with an empty pool. -/
theorem shutdown_final_but_for_what_is_under_way {m m' : Machine} {sub : SubscriptionId}
    (hnew : m.world.NoModulesYet) (hbound : 0 < m.world.pool.stepBound) (hm : m.Attended sub)
    (hrun : m.Directs m') :
    (∀ later earlier, m'.world.course = later ++ .ofPool .cleared :: earlier →
      Dropping later earlier m'.world.pool) ∧
    (∀ n v, m.ComesTo n v →
      (n.world.subscription? = none → v.subscription? = none) ∧
      ∀ e, v = n.world.record (.emitted e) → n.world.subscription? = none →
        ∀ depth n' id r, ¬ (Watch.atDepth depth).deliver e { n with world := v } n'
          (n'.world.record (.evaluated id r))) ∧
    ∀ service n, ∃ n', Director.shutdown.run service n = some ((), n') ∧
      n'.world.subscription? = none ∧ n'.world.pool.known = [] ∧
      n'.world.course = .ofPool .cleared :: n.world.course := by
  refine ⟨fun later earlier hcall => ?_, fun n v hmoment => ?_, Director.shutdown_done⟩
  · obtain ⟨updates, hplays⟩ := hrun.plays
    obtain ⟨-, hw, hidle⟩ := hplays.enrolled hnew hbound hm.pools
    have hpool := hw.waiting
    rw [World.roster, hcall] at hidle hpool
    exact Orderly.dropping (hcall ▸ hw.orderly) hidle hpool
  · have hhears := hmoment.hears hm
    refine ⟨hhears.resigned, ?_⟩
    rintro e rfl hnone depth n' id r
    exact (hhears.attended e rfl).deaf hnone

/-! ## A curtain that falls -/

namespace Curtain

/-- Shuts the director down. -/
def fall : Script (Except Failure Unit) :=
  Director.shutdown.bind fun _ => .done (.ok ())

theorem fall_obeys (w : World) : fall.Obeys .hosting w :=
  .part .mk fun _ _ _ => .done

/-- Three nodes in a row, the second of which has the curtain fall. -/
def graph : Graph where
  id := "falls"
  entry := "a"
  nodes := [⟨"a", .entry⟩, ⟨"b", .flow .instant "Fall" []⟩, ⟨"c", .merge⟩]
  edges := [.flow "a" "out" "b" "in", .flow "b" "out" "c" "in"]

def machine : Machine :=
  let m : Machine :=
    { world := { director := some { subscription := some 1 }, library := .ofList [graph] }
      listeners := [(1, Director.listener)]
      nextSubscription := 2 }
  m.withDefaultActions.withDefaultConditions

/-- Registers the action and starts the graph. -/
def start : Script Unit :=
  .registerAction "Fall" (fun _ _ => fall)
    (.read fun w => .write (w.startGraph ⟨"one"⟩ 0 []).2 (.done ()))

theorem start_obeys (w : World) : start.Obeys .hosting w := by
  refine .registerAction trivial (fun _ _ w => fall_obeys w) (.read (.write ⟨?_, ?_, ?_⟩ .done))
  · exact .single (.start w ⟨"one"⟩ 0 [])
  · exact w.evaluations_startGraph ⟨"one"⟩ 0 []
  · exact (w.acted_startGraph ⟨"one"⟩ 0 []).subscription

/-- What happens up to the shutdown. -/
def earlier : List Happening :=
  [.atNode 1 (.entered "b"), .atNode 1 (.left "a" "out"), .atNode 1 (.entered "a"),
    .ofPool .opened, .ofPool (.started 1 ⟨"one"⟩ 0)]

/-- What happens after it: the instance runs another node and is reported. -/
def later : List Happening :=
  [.ofPool (.closed [⟨1, ⟨"one"⟩, "falls", none⟩]), .atNode 1 (.left "c" "out"),
    .atNode 1 (.entered "c"), .atNode 1 (.left "b" "out")]

theorem machine_new : machine.world.NoModulesYet :=
  ⟨rfl, rfl, rfl, rfl, rfl, fun _ => rfl⟩

theorem machine_attended : machine.Attended 1 := by
  have hstandard : machine.Standard := Machine.standard_withDefaults rfl rfl rfl
  refine hstandard.attended (by decide) (fun l hl => ?_) rfl
  rw [List.mem_singleton.mp hl]

/-- An update in which the curtain falls. -/
theorem directs : ∃ m, machine.Directs m ∧
    m.world.course = later ++ .ofPool .cleared :: earlier := by
  have hrun : ∃ m₁, start.run (Service.atDepth 0) machine = some ((), m₁) ∧
      ∃ m₂, (Director.update 0).run (Service.atDepth 1) m₁ =
        some ([⟨1, ⟨"one"⟩, "falls", none⟩], m₂) ∧
        m₂.world.course = later ++ .ofPool .cleared :: earlier :=
    ⟨_, rfl, _, rfl, rfl⟩
  obtain ⟨m₁, hstart, m₂, hupdate, hcourse⟩ := hrun
  exact ⟨m₂, .update (.script .refl (start_obeys _) hstart) hupdate, hcourse⟩

theorem started_earlier : StartedIn earlier 1 ⟨"one"⟩ :=
  ⟨0, by simp [earlier]⟩

/-- Glows at dusk. -/
def glow : Rule :=
  { event := "DUSK" }

def lamp : Entity :=
  { id := ⟨"lamp"⟩, components := [⟨"glows", true, glow⟩] }

/-- Somebody hears of each event before the director does, and has the curtain fall. -/
def hall : Machine where
  world := { director := some { subscription := some 2 }, store := Store.empty.insert lamp }
  listeners := [(1, fun _ => fall), (2, Director.listener)]
  nextSubscription := 3

theorem hall_attended : hall.Attended 2 where
  given := by decide
  listeners := by
    intro l hl
    rcases List.mem_cons.mp hl with rfl | hl
    · exact Or.inr ⟨by decide, fun _ w => fall_obeys w⟩
    · rw [List.mem_singleton.mp hl]
      exact Or.inl ⟨rfl, rfl⟩
  actions a ha := absurd ha List.not_mem_nil
  conditions a ha := absurd ha List.not_mem_nil
  known := Or.inl rfl

/-- At dusk the lamp glows, though the director was shut down. -/
theorem glows : ∃ n, (Script.announce "DUSK" [] none).Makes (Service.atDepth 1) (Watch.atDepth 1) n
    (n.world.record (.evaluated ⟨"lamp"⟩ glow)) hall ∧ n.world.subscription? = none := by
  -- The moment is found on the way to it.
  apply Exists.intro
  apply And.intro
  · refine Or.inr (Or.inl (Or.inr ⟨_, _, rfl, Or.inl ?_⟩))
    iterate 6 apply Or.inr
    exact Or.inl ⟨rfl, rfl⟩
  · rfl

end Curtain

/-- The curtain falls within an update, and the instance that has it fall is out. -/
theorem falling_curtain_drops : ∃ m, Curtain.machine.world.NoModulesYet ∧
    0 < Curtain.machine.world.pool.stepBound ∧ Curtain.machine.Attended 1 ∧
    Curtain.machine.Directs m ∧
    m.world.course = Curtain.later ++ .ofPool .cleared :: Curtain.earlier ∧
    (rosterOf Curtain.earlier).out = [(1, ⟨"one"⟩)] ∧
    Dropping Curtain.later Curtain.earlier m.world.pool := by
  obtain ⟨m, hdirects, hcourse⟩ := Curtain.directs
  have hbound : 0 < Curtain.machine.world.pool.stepBound := by decide
  obtain ⟨hdropping, -⟩ := shutdown_final_but_for_what_is_under_way Curtain.machine_new hbound
    Curtain.machine_attended hdirects
  exact ⟨m, Curtain.machine_new, hbound, Curtain.machine_attended, hdirects, hcourse, rfl,
    hdropping _ _ hcourse⟩

/-- Neither do all instances fall silent when all modules are dropped, nor is no rule evaluated any
more because of an event once the director is shut down. -/
theorem not_always_final :
    (¬ ∀ (m m' : Machine) (sub : SubscriptionId) (later earlier : List Happening),
      m.world.NoModulesYet → 0 < m.world.pool.stepBound → m.Attended sub → m.Directs m' →
      m'.world.course = later ++ .ofPool .cleared :: earlier →
      ∀ id entity, StartedIn earlier id entity →
        (∀ node, .atNode id (.entered node) ∉ later) ∧ ¬ ReportedIn later id) ∧
    ¬ ∀ (m n : Machine) (sub : SubscriptionId) (depth : Nat) (type : String) (data : Params)
      (target : Option EntityId) (id : EntityId) (r : Rule), m.Attended sub →
      (Script.announce type data target).Makes (Service.atDepth depth) (Watch.atDepth depth) n
        (n.world.record (.evaluated id r)) m → n.world.subscription? ≠ none := by
  constructor
  · intro h
    obtain ⟨m, hdirects, hcourse⟩ := Curtain.directs
    obtain ⟨hsilent, -⟩ := h _ m 1 _ _ Curtain.machine_new (by decide) Curtain.machine_attended
      hdirects hcourse 1 _ Curtain.started_earlier
    exact hsilent "c" (by simp [Curtain.later])
  · intro h
    obtain ⟨n, hmake, hnone⟩ := Curtain.glows
    exact h _ n 2 1 _ _ _ _ _ Curtain.hall_attended hmake hnone

end SceneLogic
