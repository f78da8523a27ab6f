import SceneLogic.Proofs.Director.Repeats
import SceneLogic.Proofs.Standard

/-!
# Runs of the director

Every behaviour that leaves the frames alone, and every request as a whole, keeps the books of the
director, however deep actions and events set each other off: a request is taken down before its
action is performed. So in every frame of every run exactly the first of equal requests are
performed.
-/

namespace SceneLogic

/-! ## Behaviours -/

/-- The changes of the frames that a write may make: it reports an update, or leaves them alone. -/
inductive FrameCall : World → World → Prop
  | update (w : World) (now threshold : Float) : FrameCall w (w.openFrame now threshold).2
  | other {w w' : World} : w.SameFrames w' → FrameCall w w'

/-- Behaviours that reach the frames by reports of updates and by whole requests only. -/
def Conduct.frames : Conduct where
  step := FrameCall
  part := IsRequest fun _ => True

namespace Conduct

theorem frames_keeps : Conduct.frames.Keeps fun w w' => w.Accounted → w'.Accounted where
  refl _ h := h
  trans h h' hw := h' (h hw)
  step := by
    intro v w hstep hv
    cases hstep with
    | update now threshold => exact hv.openFrame now threshold
    | other hsame => exact hv.same hsame
  rely _ := trivial
  emitted w e h := h.same ⟨rfl, rfl⟩
  part := by
    intro β p hp service hservice m b m' hm hrun
    cases hp with
    | mk s call _ =>
      have hsteady : Steady fun w w' : World => w.Accounted → w'.Accounted :=
        ⟨fun _ h => h, fun h h' hw => h' (h hw)⟩
      -- The judgement keeps the books by itself, before the action is performed.
      have hyields : (Director.request s call).Yields service .frames
          (fun w w' => w.Accounted → w'.Accounted) m.world fun _ _ => True := by
        rw [Director.request_eq]
        refine .read (.write hsteady (fun h => h.judge _) ?_)
        split
        · exact .perform hsteady hservice (fun h => h) fun _ _ => .done hsteady trivial
        · exact .done hsteady trivial
      exact (hyields m rfl hm hrun).1

/-- The director, the default behaviours and updates leave the frames alone but for requests. -/
theorem frames_roomy : Conduct.frames.Roomy where
  tame htame _ := .other htame.toSameFrames
  opens := .update
  requests := by
    intro β p hp w
    -- A whole script is allowed as the first part of a script that does no more.
    rw [← Script.bind_done p]
    exact .part hp fun _ _ _ => .done
  announces _ := trivial
  performs := trivial
  checks := trivial
  rely _ _ := trivial

end Conduct

/-! ## Runs -/

/-- A run: the host announces events, runs updates, and carries out other scripts that obey. -/
inductive Machine.Directed (m : Machine) : Machine → Prop
  | refl : Directed m m
  | announce {m₁ m₂ : Machine} {depth : Nat} {type : String} {data : Params}
      {target : Option EntityId} : Directed m m₁ →
      (Script.announce type data target).run (Service.atDepth depth) m₁ = some ((), m₂) →
      Directed m m₂
  | update {m₁ m₂ : Machine} {depth : Nat} {dt : Float} {reports : List ModuleReport} :
      Directed m m₁ →
      (Director.update dt).run (Service.atDepth depth) m₁ = some (reports, m₂) → Directed m m₂
  | script {m₁ m₂ : Machine} {depth : Nat} {α : Type} {s : Script α} {a : α} : Directed m m₁ →
      s.Obeys .frames m₁.world → s.run (Service.atDepth depth) m₁ = some (a, m₂) → Directed m m₂

theorem Machine.Directed.runs {m m' : Machine} (h : m.Directed m') : m.Runs .frames m' := by
  induction h with
  | refl => exact .refl
  | announce _ hrun ih => exact .script ih (.emit trivial fun _ _ => .done) hrun
  | update _ hrun ih => exact .script ih (Director.update_obeys_roomy Conduct.frames_roomy _ _) hrun
  | script _ hs hrun ih => exact .script ih hs hrun

/-- In every frame of every run the director grants the requests that repeat no earlier one of the
frame, and those that nest too deep to be compared; which is what granting by texts comes to. A
request is judged before its action is performed, and the action is performed only then. -/
theorem director_grants_first_requests {m m' : Machine} (hm : m.Obeys .frames)
    (hnew : m.world.NoFramesYet) (h : m.Directed m') :
    (∀ asks ∈ m'.world.frameLog.frames,
      grantedOf asks = withoutRepeats (requestsOf asks) ∧
      (∀ later a earlier, asks = later ++ a :: earlier →
        (a.granted = true ↔ a.request.tooDeep = true ∨ a.request ∉ requestsOf earlier)) ∧
      ∀ sign, Faithful sign (requestsOf asks) →
        grantedOf asks = (claimBySignature sign (requestsOf asks)).1) ∧
    (∀ (service : Service) (m : Machine) (s : Situation) (call : ActionCall),
      (Director.request s call).run service m =
        let (granted, w) := m.world.judge (call.by s.entity)
        if granted then
          (service.perform call.kind s call.params { m with world := w }).map fun m => ((), m)
        else some ((), { m with world := w })) ∧
    ToldApart := by
  obtain ⟨_, hbooks⟩ := h.runs.leads Conduct.frames_keeps hm
  have haccounted := hbooks hnew.accounted
  refine ⟨fun asks hasks => ?_, fun service m s call => ?_, toldApart⟩
  · have hjudged := haccounted.judged asks hasks
    refine ⟨hjudged.grantedOf_eq, fun _ _ _ heq => hjudged.at_request heq, fun sign hsign => ?_⟩
    rw [claimBySignature_eq hsign, hjudged.grantedOf_eq]
  · rw [Director.request_eq, Script.run, Script.run]
    cases m.world.judge (call.by s.entity) with
    | mk granted w =>
      cases granted with
      | false => rfl
      | true =>
        simp only [if_true, Script.act, Script.run]
        cases service.perform call.kind s call.params { m with world := w } with
        | none => rfl
        | some m => rfl

/-! ## A lamp that signals itself -/

namespace Lamp

/-- Sends the signal that the lamp reacts to. -/
def signal : ActionCall :=
  ⟨"EmitEventSignal", [("signal", .text "on")]⟩

/-- The director, and a lamp that answers each signal by sending two. -/
def machine : Machine :=
  let m : Machine :=
    { world :=
        { director := some {}
          store := .insert {}
            { id := ⟨"lamp"⟩
              components := [⟨"glow", true, { event := "EVENT_SIGNAL", actions := [signal, signal] }⟩] } }
      listeners := [(1, Director.listener)] }
  m.withDefaultActions.withDefaultConditions

theorem machine_standard : machine.Standard :=
  Machine.standard_withDefaults rfl rfl rfl

/-- What the lamp requests. -/
def request : Request :=
  signal.by ⟨"lamp"⟩

/-- The text of that request. -/
def text : String :=
  "(entity:\"lamp\",action:\"EmitEventSignal\",params:\x7b\"signal\":String(\"on\")\x7d)"

/-- The requests of one frame: the first one is granted, and while it is performed the lamp makes
two more. -/
def asks : List Ask :=
  [⟨request, false⟩, ⟨request, false⟩, ⟨request, false⟩, ⟨request, true⟩]

/-- A signal before the first update and one after it. -/
theorem machine_directed : ∃ m, machine.Directed m ∧ m.world.frameLog.frames = [asks, asks] := by
  have hrun : ∃ m₁ m₂ m₃,
      (Script.announce "EVENT_SIGNAL" [("signal", .text "on")] none).run (Service.atDepth 4)
        machine = some ((), m₁) ∧
      (Director.update 0).run (Service.atDepth 4) m₁ = some ([], m₂) ∧
      (Script.announce "EVENT_SIGNAL" [("signal", .text "on")] none).run (Service.atDepth 4)
        m₂ = some ((), m₃) ∧
      m₃.world.frameLog.frames = [asks, asks] := by
    refine ⟨_, _, _, rfl, rfl, rfl, ?_⟩
    rfl
  obtain ⟨m₁, m₂, m₃, h₁, h₂, h₃, hframes⟩ := hrun
  exact ⟨m₃, .announce (.update (.announce .refl h₁) h₂) h₃, hframes⟩

/-- The texts of the requests that the lamp makes. -/
def sign (r : Request) : Option String :=
  if r = request then some text else none

theorem sign_faithful : Faithful sign (requestsOf asks) := by
  have hrequest : ∀ r ∈ requestsOf asks, r = request := by decide
  refine ⟨fun r hr => ?_, fun r hr q hq _ _ _ => (hrequest r hr).trans (hrequest q hq).symm⟩
  rw [hrequest r hr]
  decide

end Lamp

/-- In both frames the first request of the lamp is granted, and none that is made meanwhile. -/
theorem lamp_grants_first_requests : ∃ m, Lamp.machine.Obeys .frames ∧
    Lamp.machine.world.NoFramesYet ∧ Lamp.machine.Directed m ∧
    m.world.frameLog.frames = [Lamp.asks, Lamp.asks] ∧
    Faithful Lamp.sign (requestsOf Lamp.asks) ∧
    [Lamp.request] = withoutRepeats (requestsOf Lamp.asks) ∧
    [Lamp.request] = (claimBySignature Lamp.sign (requestsOf Lamp.asks)).1 := by
  obtain ⟨m, hdirected, hframes⟩ := Lamp.machine_directed
  have hobeys := Lamp.machine_standard.obeys_roomy Conduct.frames_roomy
  have hnew : Lamp.machine.world.NoFramesYet := ⟨rfl, rfl⟩
  have hasks : Lamp.asks ∈ m.world.frameLog.frames := by
    rw [hframes]
    exact List.mem_cons_self
  obtain ⟨hfilter, _, hsign⟩ :=
    (director_grants_first_requests hobeys hnew hdirected).1 Lamp.asks hasks
  exact ⟨m, hobeys, hnew, hdirected, hframes, Lamp.sign_faithful, hfilter,
    hsign Lamp.sign Lamp.sign_faithful⟩

end SceneLogic
