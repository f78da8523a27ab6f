import Mathlib.Data.List.Count
import Mathlib.Logic.Relation
import SceneLogic.Director

/-!
# Signals and what becomes of them

Signals wait in a queue until a condition asks for them. The journal tells which events brought
signals, which signals were sent without an event, and which were asked for.

* `waitingOf` — the signals that wait, as the journal tells
* `Honest` — whoever asked was answered by what waited at that moment
* `Honest.balance` — then what waits and what was consumed is what came in
* `World.Tallied` — the queue is what the journal tells, and the answers were honest
* `World.SignalCall` — what may become of the queue, all of which keeps it that way

The queue holds a signal as often as it came in. Who asks takes one of them, the one that came
first, so the queue is `List.erase`d and not filtered.
-/

namespace SceneLogic

/-! ## Reading the journal -/

/-- The entry as something that became of a signal. -/
def Happening.signal? : Happening → Option SignalEvent
  | .ofSignal event => some event
  | _ => none

/-- What became of signals, the latest first. -/
def World.signalLog (w : World) : List SignalEvent :=
  w.journal.filterMap Happening.signal?

namespace SignalEvent

/-- The director heard of an event that sends the signal. -/
def hears (signal : String) : SignalEvent → Bool
  | .heard e => e.text? "signal" = some signal
  | _ => false

/-- The signal was sent without an event. -/
def sends (signal : String) : SignalEvent → Bool
  | .sent s => s = signal
  | _ => false

/-- The signal was asked for and consumed. -/
def consumes (signal : String) : SignalEvent → Bool
  | .sought s found => s = signal && found
  | _ => false

/-- What waits after the entry, by what waited before it. -/
def after (waiting : List String) : SignalEvent → List String
  | .heard e => waiting ++ (e.text? "signal").toList
  | .sent s => waiting ++ [s]
  | .sought s _ => waiting.erase s

end SignalEvent

/-- The signals that wait when these entries were made, the one that came first at the front. -/
def waitingOf (log : List SignalEvent) : List String :=
  log.foldr (fun x waiting => x.after waiting) []

/-- Whoever asked for a signal was told whether it waited. -/
def Honest : List SignalEvent → Prop
  | [] => True
  | .sought s found :: earlier => (found = true ↔ s ∈ waitingOf earlier) ∧ Honest earlier
  | _ :: earlier => Honest earlier

@[simp] theorem waitingOf_cons (x : SignalEvent) (log : List SignalEvent) :
    waitingOf (x :: log) = x.after (waitingOf log) := rfl

namespace Honest

variable {log : List SignalEvent}

theorem tail {x : SignalEvent} (h : Honest (x :: log)) : Honest log := by
  cases x with
  | sought s found => exact h.2
  | _ => exact h

theorem of_append {later earlier : List SignalEvent} (h : Honest (later ++ earlier)) :
    Honest earlier := by
  induction later with
  | nil => exact h
  | cons x rest ih => exact ih h.tail

/-- What waits, and what was consumed, is what events brought and what was sent. -/
theorem balance (h : Honest log) (signal : String) :
    (waitingOf log).count signal + log.countP (SignalEvent.consumes signal) =
      log.countP (SignalEvent.hears signal) + log.countP (SignalEvent.sends signal) := by
  induction log with
  | nil => rfl
  | cons x rest ih =>
    have hrest := ih h.tail
    simp only [List.countP_cons, waitingOf_cons]
    cases x with
    | heard e =>
      have hcount : (e.text? "signal").toList.count signal =
          if SignalEvent.hears signal (.heard e) then 1 else 0 := by
        cases htext : e.text? "signal" with
        | none => simp [SignalEvent.hears, htext]
        | some s => simp [SignalEvent.hears, htext, List.count_singleton]
      simp only [SignalEvent.after, List.count_append, hcount, SignalEvent.consumes,
        SignalEvent.sends, Bool.false_eq_true, if_false]
      omega
    | sent s =>
      simp only [SignalEvent.after, List.count_append, List.count_singleton, SignalEvent.consumes,
        SignalEvent.sends, SignalEvent.hears, beq_iff_eq, decide_eq_true_eq, Bool.false_eq_true,
        if_false]
      omega
    | sought s found =>
      simp only [SignalEvent.after, SignalEvent.consumes, SignalEvent.sends, SignalEvent.hears,
        Bool.and_eq_true, decide_eq_true_eq, Bool.false_eq_true, if_false]
      by_cases hs : s = signal
      · subst hs
        rw [List.count_erase_self]
        cases found with
        | true =>
          have hpos := List.count_pos_iff.mpr (h.1.mp rfl)
          simp only [and_self, if_true]
          omega
        | false =>
          have hzero := List.count_eq_zero.mpr fun hmem => Bool.false_ne_true (h.1.mpr hmem)
          simp only [Bool.false_eq_true, and_false, if_false]
          omega
      · rw [List.count_erase_of_ne (Ne.symm hs)]
        simp only [hs, false_and, if_false]
        omega

end Honest

/-! ## The queue -/

namespace World

variable {w w' : World}

/-- The queue, and what the journal tells of signals, stay. -/
structure SameSignals (w w' : World) : Prop where
  queue : w'.signals = w.signals
  log : w'.signalLog = w.signalLog

/-- What may become of the queue: the director hears of an event that sends signals, while the
scene is played, a signal is sent or asked for, or all stays as it is. -/
inductive SignalCall : World → World → Prop
  | hear (w : World) (e : Event) : e.type = EventType.eventSignal → w.isPlaying = true →
      SignalCall w (Director.takeSignal w e)
  | send (w : World) (signal : String) : SignalCall w (w.sendSignal signal)
  | seek (w : World) (signal : String) : SignalCall w (w.seekSignal signal).2
  | other {w w' : World} : w.SameSignals w' → SignalCall w w'

/-- The queue is what the journal tells, whoever asked for a signal was told the truth, and only one
type of events sends signals. -/
structure Tallied (w : World) : Prop where
  queue : w.signals.pending = waitingOf w.signalLog
  honest : Honest w.signalLog
  types : ∀ e, .heard e ∈ w.signalLog → e.type = EventType.eventSignal

/-- No signal has come in yet. -/
structure NoSignalsYet (w : World) : Prop where
  queue : w.signals.pending = []
  log : w.signalLog = []

theorem signals_takeSignal (w : World) (e : Event) :
    (Director.takeSignal w e).signals.pending =
      w.signals.pending ++ (e.text? "signal").toList := by
  unfold Director.takeSignal
  cases e.text? "signal" with
  | none => exact (List.append_nil _).symm
  | some s =>
    cases e.target with
    | none => rfl
    | some target => rfl

theorem journal_takeSignal (w : World) (e : Event) :
    (Director.takeSignal w e).journal = .ofSignal (.heard e) :: w.journal := by
  unfold Director.takeSignal
  cases e.text? "signal" with
  | none => rfl
  | some s =>
    cases e.target with
    | none => rfl
    | some target => rfl

theorem signalLog_takeSignal (w : World) (e : Event) :
    (Director.takeSignal w e).signalLog = .heard e :: w.signalLog := by
  rw [signalLog, journal_takeSignal]
  rfl

/-- Who asks for a signal is told whether it waits, and has it taken out of the queue. -/
theorem seekSignal_eq (w : World) (signal : String) :
    w.seekSignal signal =
      (decide (signal ∈ w.signals.pending),
        { w with signals := ⟨w.signals.pending.erase signal⟩ }.record
          (.ofSignal (.sought signal (decide (signal ∈ w.signals.pending))))) := by
  unfold seekSignal PendingSignals.consume PendingSignals.has
  by_cases h : signal ∈ w.signals.pending
  · simp only [List.contains_eq_mem, h, decide_true, if_true]
  · simp only [List.contains_eq_mem, h, decide_false, Bool.false_eq_true, if_false,
      List.erase_of_not_mem h]

theorem NoSignalsYet.tallied (h : w.NoSignalsYet) : w.Tallied where
  queue := by
    rw [h.queue, h.log]
    rfl
  honest := by
    rw [h.log]
    trivial
  types := by
    rw [h.log]
    exact fun _ hmem => absurd hmem List.not_mem_nil

theorem Tallied.same (h : w.Tallied) (hsame : w.SameSignals w') : w'.Tallied where
  queue := by
    rw [hsame.queue, hsame.log]
    exact h.queue
  honest := hsame.log ▸ h.honest
  types := hsame.log ▸ h.types

theorem Tallied.calls (h : w.Tallied) (hcalls : Relation.ReflTransGen SignalCall w w') :
    w'.Tallied := by
  induction hcalls with
  | refl => exact h
  | @tail v _ _ hcall ih =>
    have htypes : ∀ x : SignalEvent, (∀ e, x = .heard e → e.type = EventType.eventSignal) →
        ∀ e, .heard e ∈ x :: v.signalLog → e.type = EventType.eventSignal := by
      intro x hx e hmem
      rcases List.mem_cons.mp hmem with heq | hmem
      · exact hx e heq.symm
      · exact ih.types e hmem
    cases hcall with
    | hear e htype =>
      refine ⟨?_, ?_, ?_⟩
      · rw [signals_takeSignal, signalLog_takeSignal, ih.queue]
        rfl
      · rw [signalLog_takeSignal]
        exact ih.honest
      · rw [signalLog_takeSignal]
        exact htypes _ fun e' heq => SignalEvent.heard.inj heq ▸ htype
    | send signal => exact ⟨congrArg (· ++ [signal]) ih.queue, ih.honest, htypes _ nofun⟩
    | seek signal =>
      rw [seekSignal_eq]
      refine ⟨congrArg (·.erase signal) ih.queue, ⟨?_, ih.honest⟩, htypes _ nofun⟩
      rw [decide_eq_true_iff, ih.queue]
      exact Iff.rfl
    | other hsame => exact ih.same hsame

end World

end SceneLogic
