import SceneLogic.Proofs.Standard
import SceneLogic.Proofs.Upholding

/-!
# Signals are consumed once

Signals come in when the director hears of events that send them, or are sent without an event, and
they are consumed by the condition `OnEventSignal`. An event goes to all listeners, and the rules of
all entities are evaluated because of it; the signal that it brought is there for the first of them
that asks.

* `Conditions.onEventSignal_run`, `Director.handle_run` — what the condition and the director do
* `Conduct.signalling` — behaviours that come to signals in these ways only
* `signals_are_conserved` — what came in waits or was consumed, and nobody is told otherwise
-/

namespace SceneLogic

namespace World

@[simp] theorem signals_grant (w : World) (f : Frame → Bool × Frame) :
    (w.grant f).2.signals = w.signals := by
  unfold grant
  split
  · rfl
  · rfl

theorem sameSignals_grant (w : World) (f : Frame → Bool × Frame) : w.SameSignals (w.grant f).2 :=
  ⟨w.signals_grant f, by rw [signalLog, w.journal_grant f, signalLog]⟩

theorem sameSignals_openFrame (w : World) (now threshold : Float) :
    w.SameSignals (w.openFrame now threshold).2 := by
  have hgrant := w.sameSignals_grant (·.begin now threshold)
  unfold openFrame
  dsimp only
  split
  · exact ⟨hgrant.queue, hgrant.log⟩
  · exact hgrant

theorem sameSignals_judge (w : World) (r : Request) : w.SameSignals (w.judge r).2 :=
  have hgrant := w.sameSignals_grant (·.grantRequest r)
  ⟨hgrant.queue, hgrant.log⟩

end World

/-! ## What the condition and the director do -/

/-- The condition is told whether the signal waits, and takes the one that came first. -/
theorem Conditions.onEventSignal_run (s : Situation) (params : Params) (service : Service)
    (m : Machine) :
    (onEventSignal s params).run service m =
      match params.text? "signal" with
      | none => some (.error (.missingParameter "signal"), m)
      | some signal =>
        some (.ok (decide (signal ∈ m.world.signals.pending)),
          { m with world := (m.world.seekSignal signal).2 }) := by
  unfold onEventSignal Script.withText
  cases params.text? "signal" with
  | none => rfl
  | some signal =>
    simp only [Script.run]
    rw [World.seekSignal_eq]

/-- The director takes down a signal before it lets anybody react to the event, and only while the
scene is played. -/
theorem Director.handle_run {e : Event} (htype : e.type = EventType.eventSignal)
    (service : Service) (m : Machine) :
    (handle e).run service m =
      if m.world.isPlaying then
        (route e).run service { m with world := takeSignal m.world e }
      else some ((), m) := by
  have hcollision : isCollision e.type = false := by rw [htype]; decide
  have hstart : ¬ e.type = EventType.onStart := by rw [htype]; decide
  have hclick : ¬ e.type = EventType.onClick := by rw [htype]; decide
  have hupdate : ¬ (e.type = EventType.tick ∨ e.type = EventType.onUpdate) := by
    rw [htype]
    decide
  rw [handle, hcollision, if_neg Bool.false_ne_true, Script.run]
  cases m.world.isPlaying with
  | false => rfl
  | true =>
    rw [if_neg hstart, if_neg hclick, if_neg hupdate, if_pos htype]
    rfl

/-! ## Runs -/

/-- Behaviours that come to signals by such calls only. -/
def Conduct.signalling : Conduct where
  step := Relation.ReflTransGen World.SignalCall

/-- The director, the default behaviours and updates do so. -/
theorem Conduct.signalling_roomy : Conduct.signalling.Roomy where
  tame htame _ := htame.signals
  opens w now threshold := .single (.other (w.sameSignals_openFrame now threshold))
  requests := by
    refine part_directing (fun w r => ?_) trivial
    exact .single (.other (w.sameSignals_judge r))
  announces _ := trivial
  performs := trivial
  checks := trivial
  rely _ _ := trivial

/-- Signals may be sent without an event. -/
theorem Conduct.signalling_send (signal : String) (w : World) :
    (Script.modifyWorld (·.sendSignal signal)).Obeys .signalling w :=
  .read (.write (.single (.send w signal)) .done)

/-- At every moment of every run the queue is what the journal tells. -/
theorem Machine.Visits.tallied {m : Machine} {w : World} (hm : m.Obeys .signalling)
    (hnew : m.world.NoSignalsYet) (h : m.Visits .signalling w) : w.Tallied :=
  h.holds (fun hcalls hv => hv.calls hcalls) (fun _ _ hv => hv.same ⟨rfl, rfl⟩) id
    (fun _ _ => trivial) hm hnew.tallied

/-- **Signals are conserved.** Let the conditions be default ones, and let whoever acts or listens
do no more about signals than to send them or ask for them. Then at every moment of every run, for
each signal, as many wait as came in by events, while the scene was played, and without an event,
less those that were consumed; so no more are ever consumed than came in. Whoever asked for a signal
was told whether it waited at that moment, and took the one that came first; all others kept their
places. -/
theorem signals_are_conserved {m : Machine} {w : World}
    (hconditions : ∀ a ∈ m.conditions, a ∈ Conditions.conditions)
    (hactions : ∀ a ∈ m.actions, ∀ s params v, (a.2 s params).Obeys .signalling v)
    (hlisteners : ∀ l ∈ m.listeners, l.2 = Director.listener ∨ ∀ e v, (l.2 e).Obeys .signalling v)
    (hnew : m.world.NoSignalsYet) (h : m.Visits .signalling w) :
    (∀ signal,
      w.signals.pending.count signal + w.signalLog.countP (SignalEvent.consumes signal) =
        w.signalLog.countP (SignalEvent.hears signal) +
          w.signalLog.countP (SignalEvent.sends signal)) ∧
    (∀ later earlier, w.signalLog = later ++ earlier → ∀ signal,
      earlier.countP (SignalEvent.consumes signal) ≤
        earlier.countP (SignalEvent.hears signal) + earlier.countP (SignalEvent.sends signal)) ∧
    (∀ later signal found earlier, w.signalLog = later ++ .sought signal found :: earlier →
      (found = true ↔ signal ∈ waitingOf earlier)) ∧
    w.signals.pending = waitingOf w.signalLog ∧
    (∀ e, .heard e ∈ w.signalLog → e.type = EventType.eventSignal) ∧
    (∀ (s : Situation) (params : Params) (service : Service) (n : Machine),
      (Conditions.onEventSignal s params).run service n =
        match params.text? "signal" with
        | none => some (.error (.missingParameter "signal"), n)
        | some signal =>
          some (.ok (decide (signal ∈ n.world.signals.pending)),
            { n with world := (n.world.seekSignal signal).2 })) ∧
    (∀ (v : World) (signal : String),
      (v.seekSignal signal).2.signalLog =
        .sought signal (decide (signal ∈ v.signals.pending)) :: v.signalLog ∧
      (signal ∉ v.signals.pending →
        (v.seekSignal signal).2.signals.pending = v.signals.pending) ∧
      ∀ before after, v.signals.pending = before ++ signal :: after → signal ∉ before →
        (v.seekSignal signal).2.signals.pending = before ++ after) ∧
    ∀ (e : Event) (service : Service) (n : Machine), e.type = EventType.eventSignal →
      ((Director.handle e).run service n =
        if n.world.isPlaying then
          (Director.route e).run service { n with world := Director.takeSignal n.world e }
        else some ((), n)) ∧
      (Director.takeSignal n.world e).signalLog = .heard e :: n.world.signalLog ∧
      (Director.takeSignal n.world e).signals.pending =
        n.world.signals.pending ++ (e.text? "signal").toList := by
  have hroomy := Conduct.signalling_roomy
  have hm : m.Obeys .signalling :=
    { listeners := by
        intro l hl e v
        rcases hlisteners l hl with heq | hobeys
        · rw [heq]
          exact (Director.listener_directs e v).mono hroomy.relies hroomy.directing
        · exact hobeys e v
      actions := hactions
      conditions := fun a ha s params v =>
        (Conditions.conditions_look a (hconditions a ha) s params v).mono hroomy.relies
          hroomy.looking }
  have htallied := h.tallied hm hnew
  refine ⟨fun signal => ?_, fun later earlier heq signal => ?_,
    fun later signal found earlier heq => ?_, htallied.queue, htallied.types,
    Conditions.onEventSignal_run, fun v signal => ?_, fun e service n htype => ?_⟩
  · rw [htallied.queue]
    exact htallied.honest.balance signal
  · have hbalance := (Honest.of_append (heq ▸ htallied.honest)).balance signal
    omega
  · have hhonest : Honest (.sought signal found :: earlier) := .of_append (heq ▸ htallied.honest)
    exact hhonest.1
  · rw [World.seekSignal_eq]
    refine ⟨rfl, fun hnone => List.erase_of_not_mem hnone, fun before after heq hfirst => ?_⟩
    have herase : v.signals.pending.erase signal = before ++ after := by
      rw [heq, List.erase_append_right _ hfirst, List.erase_cons_head]
    exact herase
  · exact ⟨Director.handle_run htype service n, World.signalLog_takeSignal _ e,
      World.signals_takeSignal _ e⟩

/-! ## A bell and two doors -/

namespace Bell

/-- A door opens when the bell rings. -/
def door (name : String) : Entity :=
  { id := ⟨name⟩
    components :=
      [⟨"opens", true,
        { event := "EVENT_SIGNAL"
          conditions := [⟨"OnEventSignal", [("signal", .text "bell")], []⟩]
          actions := [⟨"SetVar", [("name", .text "open"), ("value", .bool true)]⟩] }⟩] }

def machine : Machine :=
  let m : Machine :=
    { world :=
        { director := some {}
          store := (Store.empty.insert (door "left")).insert (door "right") }
      listeners := [(1, Director.listener)] }
  m.withDefaultActions.withDefaultConditions

theorem machine_standard : machine.Standard :=
  Machine.standard_withDefaults rfl rfl rfl

theorem machine_new : machine.world.NoSignalsYet :=
  ⟨rfl, rfl⟩

/-- The left door rings the bell. -/
def ring : Script Unit :=
  Script.act "EmitEventSignal" ⟨⟨"left"⟩, [], none, none, none⟩ [("signal", .text "bell")]

/-- How often the bell was heard of, sent and consumed, and how much became of signals at all. -/
def tally (log : List SignalEvent) : Nat × Nat × Nat × Nat :=
  (log.countP (SignalEvent.hears "bell"), log.countP (SignalEvent.sends "bell"),
    log.countP (SignalEvent.consumes "bell"), log.length)

/-- Both doors ask for the bell, and one of them hears it. -/
theorem rung : (ring.run (Service.atDepth 8) machine).map (fun r => tally r.2.world.signalLog) =
    some (1, 0, 1, 3) := by
  decide +kernel

theorem machine_visits : ∃ w, machine.Visits .signalling w ∧ tally w.signalLog = (1, 0, 1, 3) := by
  obtain ⟨⟨_, m⟩, hrun, htally⟩ := Option.map_eq_some_iff.mp rung
  have hring : ∀ w, ring.Obeys .signalling w := fun _ => .perform trivial fun _ _ => .done
  have hruns : machine.Runs .signalling m := .script .refl (hring _) hrun
  exact ⟨_, hruns.visits, htally⟩

end Bell

/-- The bell rings once and opens one door. -/
theorem bell_opens_one_door : ∃ w,
    (∀ a ∈ Bell.machine.conditions, a ∈ Conditions.conditions) ∧
    Bell.machine.world.NoSignalsYet ∧ Bell.machine.Visits .signalling w ∧
    Bell.tally w.signalLog = (1, 0, 1, 3) ∧ w.signals.pending.count "bell" = 0 := by
  obtain ⟨w, hvisits, htally⟩ := Bell.machine_visits
  have hobeys := Bell.machine_standard.obeys_roomy Conduct.signalling_roomy
  obtain ⟨hbalance, -⟩ :=
    signals_are_conserved Bell.machine_standard.conditions hobeys.actions
      (fun l hl => .inl (Bell.machine_standard.listener hl)) Bell.machine_new hvisits
  refine ⟨w, Bell.machine_standard.conditions, Bell.machine_new, hvisits, htally, ?_⟩
  have hbell := hbalance "bell"
  simp only [Bell.tally, Prod.mk.injEq] at htally
  omega

end SceneLogic
