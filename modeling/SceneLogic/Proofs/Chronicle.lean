import SceneLogic.Machine

/-!
# The chronicle of a run

A run is known by its result, but what listeners are told happens on the way. `Script.trace` carries
a script out and keeps a log of it: who subscribes and who leaves, when the clock is set, which
events are announced, and who reacts to them and how. What a listener does about an event is a log
again, and so on to any depth, for listeners announce events, too.

* `Script.trace_run` — keeping a log changes nothing about a run
* `chronicle` — all deeds of a log in the order in which they began, however deep they are
-/

namespace SceneLogic

/-- A listener was given an event, and did something about it. -/
structure Reaction (Deed : Type) where
  id : SubscriptionId
  event : Event
  deeds : List Deed
  result : Except Failure Unit

/-- What a run does that matters to listeners. -/
inductive Deed where
  /-- The world was replaced, and its clock shows a time. -/
  | timed (clock : Float)
  | subscribed (id : SubscriptionId)
  | unsubscribed (id : SubscriptionId) (found : Bool)
  /-- An event was announced, and listeners reacted to it, one after the other. -/
  | announced (event : Event) (reactions : List (Reaction Deed))

mutual

/-- The deed, and then what it led to. -/
def Deed.chronicle : Deed → List Deed
  | .announced event reactions => .announced event reactions :: chronicleOfReactions reactions
  | .timed clock => [.timed clock]
  | .subscribed id => [.subscribed id]
  | .unsubscribed id found => [.unsubscribed id found]

/-- What one listener did, and then the others. -/
def chronicleOfReactions : List (Reaction Deed) → List Deed
  | [] => []
  | ⟨_, _, deeds, _⟩ :: rest => chronicle deeds ++ chronicleOfReactions rest

/-- All deeds in the order in which they began, those that others led to included. -/
def chronicle : List Deed → List Deed
  | [] => []
  | deed :: rest => deed.chronicle ++ chronicle rest

end

theorem chronicle_append (earlier later : List Deed) :
    chronicle (earlier ++ later) = chronicle earlier ++ chronicle later := by
  induction earlier with
  | nil => rfl
  | cons deed rest ih => rw [List.cons_append, chronicle, ih, chronicle, List.append_assoc]

/-! ## Keeping the log -/

/-- How the requests of a script are answered, and what is done about them. -/
structure Scribe where
  deliver : Event → Machine → Option (List (Reaction Deed) × Machine)
  perform : String → Situation → Params → Machine → Option (List Deed × Machine)
  check : String → Situation → Params → Machine → Option (Bool × List Deed × Machine)

/-- A result of which the log begins with some more deeds. -/
def Deed.before {α : Type} (earlier : List Deed) (r : α × List Deed × Machine) :
    α × List Deed × Machine :=
  (r.1, earlier ++ r.2.1, r.2.2)

/-- Carries out a script as `Script.run` does, and keeps a log of it. -/
def Script.trace {α : Type} (scribe : Scribe) :
    Script α → Machine → Option (α × List Deed × Machine)
  | .done a, m => some (a, [], m)
  | .read k, m => (k m.world).trace scribe m
  | .write w k, m => (k.trace scribe { m with world := w }).map (Deed.before [.timed w.clock])
  | .emit type data target k, m =>
    let e := m.event type data target
    (scribe.deliver e (m.record (.emitted e))).bind fun (reactions, m) =>
      (k.trace scribe m).map (Deed.before [.announced e reactions])
  | .perform name s params k, m =>
    (scribe.perform name s params m).bind fun (deeds, m) =>
      (k.trace scribe m).map (Deed.before deeds)
  | .check name s params k, m =>
    (scribe.check name s params m).bind fun (b, deeds, m) =>
      ((k b).trace scribe m).map (Deed.before deeds)
  | .subscribe listener k, m =>
    let (id, m) := m.subscribe listener
    ((k id).trace scribe m).map (Deed.before [.subscribed id])
  | .unsubscribe id k, m =>
    let (b, m) := m.unsubscribe id
    ((k b).trace scribe m).map (Deed.before [.unsubscribed id b])
  | .registerAction name action k, m => k.trace scribe (m.registerAction name action)
  | .registerCondition name condition k, m =>
    k.trace scribe (m.registerCondition name condition)

namespace Scribe

/-- Gives an event to listeners, one after the other, and takes down how they react. -/
def deliverTo (scribe : Scribe) (e : Event) :
    List (SubscriptionId × Listener) → Machine → Option (List (Reaction Deed) × Machine)
  | [], m => some ([], m)
  | (id, listener) :: rest, m =>
    ((listener e).trace scribe m).bind fun (result, deeds, m) =>
      (deliverTo scribe e rest m).map fun (reactions, m) =>
        (⟨id, e, deeds, result⟩ :: reactions, m)

/-- Takes down what scripts do whose requests another one takes down. -/
def above (scribe : Scribe) : Scribe where
  deliver e m := deliverTo scribe e m.listeners m
  perform name s params m :=
    match Dict.get? m.actions name with
    | none => some ([], m)
    | some action => ((action s params).trace scribe m).map (·.2)
  check name s params m :=
    match Dict.get? m.conditions name with
    | none => some (true, [], m)
    | some condition =>
      ((condition s params).trace scribe m).map fun (found, deeds, m) =>
        (match found with
          | .ok b => b
          | .error _ => false, deeds, m)

/-- Without answers there is nothing to take down. -/
def exhausted : Scribe where
  deliver _ _ := none
  perform _ _ _ _ := none
  check _ _ _ _ := none

/-- Takes down all that is done in cascades up to a depth. -/
def atDepth : Nat → Scribe
  | 0 => exhausted
  | depth + 1 =>
    { deliver := fun e m => (above (atDepth depth)).deliver e m
      perform := fun name s params m => (above (atDepth depth)).perform name s params m
      check := fun name s params m => (above (atDepth depth)).check name s params m }

/-- Whoever takes down the answers does not change them. -/
structure Follows (scribe : Scribe) (service : Service) : Prop where
  deliver : ∀ e m, (scribe.deliver e m).map (·.2) = service.deliver e m
  perform : ∀ name s params m,
    (scribe.perform name s params m).map (·.2) = service.perform name s params m
  check : ∀ name s params m,
    (scribe.check name s params m).map (fun r => (r.1, r.2.2)) = service.check name s params m

end Scribe

/-! ## The run is the same -/

namespace Script

variable {scribe : Scribe} {service : Service} {α : Type}

/-- What is left of a result without its log. -/
theorem unlogged_before (earlier : List Deed) (r : Option (α × List Deed × Machine)) :
    (r.map (Deed.before earlier)).map (fun r => (r.1, r.2.2)) = r.map fun r => (r.1, r.2.2) := by
  cases r with
  | none => rfl
  | some r => rfl

/-- Keeping a log changes nothing about what a script comes to. -/
theorem trace_run (h : scribe.Follows service) (s : Script α) (m : Machine) :
    (s.trace scribe m).map (fun r => (r.1, r.2.2)) = s.run service m := by
  induction s generalizing m with
  | done a => rfl
  | read k ih => exact ih m.world m
  | write w k ih =>
    rw [trace, unlogged_before, run]
    exact ih _
  | emit type data target k ih =>
    rw [trace, run, ← h.deliver, Option.map_bind, Option.bind_map]
    congr 1
    funext r
    exact (unlogged_before _ _).trans (ih r.2)
  | perform name s params k ih =>
    rw [trace, run, ← h.perform, Option.map_bind, Option.bind_map]
    congr 1
    funext r
    exact (unlogged_before _ _).trans (ih r.2)
  | check name s params k ih =>
    rw [trace, run, ← h.check, Option.map_bind, Option.bind_map]
    congr 1
    funext r
    exact (unlogged_before _ _).trans (ih r.1 r.2.2)
  | subscribe listener k _ ih =>
    rw [trace, run]
    exact (unlogged_before _ _).trans (ih _ _)
  | unsubscribe id k ih =>
    rw [trace, run]
    exact (unlogged_before _ _).trans (ih _ _)
  | registerAction name action k _ ih => exact ih _
  | registerCondition name condition k _ ih => exact ih _

end Script

namespace Scribe

variable {scribe : Scribe} {service : Service}

theorem deliverTo_run (h : scribe.Follows service) (e : Event)
    (listeners : List (SubscriptionId × Listener)) (m : Machine) :
    (deliverTo scribe e listeners m).map (·.2) =
      Service.deliverTo service e (listeners.map (·.2)) m := by
  induction listeners generalizing m with
  | nil => rfl
  | cons l rest ih =>
    rw [deliverTo, List.map_cons, Service.deliverTo, ← Script.trace_run h, Option.map_bind,
      Option.bind_map]
    congr 1
    funext r
    rw [Function.comp_apply, Function.comp_apply, Option.map_map]
    exact ih r.2.2

theorem Follows.above (h : scribe.Follows service) : (above scribe).Follows (.above service) where
  deliver e m := deliverTo_run h e m.listeners m
  perform name s params m := by
    simp only [Scribe.above, Service.above]
    cases Dict.get? m.actions name with
    | none => rfl
    | some action =>
      dsimp only
      rw [← Script.trace_run h, Option.map_map, Option.map_map]
      rfl
  check name s params m := by
    simp only [Scribe.above, Service.above]
    cases Dict.get? m.conditions name with
    | none => rfl
    | some condition =>
      dsimp only
      rw [← Script.trace_run h, Option.map_map, Option.map_map]
      rfl

theorem atDepth_follows : ∀ depth, (atDepth depth).Follows (Service.atDepth depth)
  | 0 => ⟨fun _ _ => rfl, fun _ _ _ _ => rfl, fun _ _ _ _ => rfl⟩
  | depth + 1 =>
    let below := (atDepth_follows depth).above
    ⟨below.deliver, below.perform, below.check⟩

end Scribe

/-- Each run that has a result has a log. -/
theorem Script.exists_trace {α : Type} {s : Script α} {depth : Nat} {m m' : Machine} {a : α}
    (h : s.run (Service.atDepth depth) m = some (a, m')) :
    ∃ log, s.trace (Scribe.atDepth depth) m = some (a, log, m') := by
  rw [← trace_run (Scribe.atDepth_follows depth)] at h
  obtain ⟨⟨a', log, m''⟩, htrace, hresult⟩ := Option.map_eq_some_iff.mp h
  cases hresult
  exact ⟨log, htrace⟩

end SceneLogic
