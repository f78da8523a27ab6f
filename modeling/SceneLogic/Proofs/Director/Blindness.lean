import SceneLogic.Director
import SceneLogic.Proofs.Module.Blindness

/-!
# The director is blind

The director does not read the journal in which it takes down what it does. So it routes an event,
runs an update and shuts down in the same way whatever happened before.

* `Director.listener_blind` — as a listener
* `Director.update_blind` — in an update, under a veil that hides no step bound
* `Director.shutdown_blind` — in its end
-/

namespace SceneLogic

variable {v : Veil}

namespace World

variable (v : Veil) (w : World)

theorem veiled_settings : (w.veiled v).settings = w.settings := rfl

theorem veiled_isPlaying : (w.veiled v).isPlaying = w.isPlaying := rfl

theorem veiled_isLive (id : EntityId) : (w.veiled v).isLive id = w.isLive id := rfl

theorem grant_veiled (f : Frame → Bool × Frame) :
    (w.veiled v).grant f = ((w.grant f).1, (w.grant f).2.veiled v) := by
  unfold grant
  rw [veiled_director]
  cases w.director with
  | none => rfl
  | some d => rfl

end World

/-! ## Rules -/

namespace Script

theorem allHold_blind (s : Situation) (conditions : List ConditionCall) :
    (allHold s conditions).Blind v := by
  induction conditions with
  | nil => exact .done
  | cons c rest ih => exact fun _ => .check fun _ w => .ite (fun _ => ih w) fun _ => .done

theorem firstHolding_blind (s : Situation) (conditions : List ConditionCall) :
    (firstHolding s conditions).Blind v := by
  induction conditions with
  | nil => exact .done
  | cons c rest ih => exact fun _ => .check fun _ w => .ite (fun _ => .done) fun _ => ih w

end Script

theorem Rule.select_blind (r : Rule) (s : Situation) : (r.select s).Blind v := by
  unfold select
  cases r.logic with
  | all => exact .bind (Script.allHold_blind s _) fun _ => .done
  | any =>
    exact fun w => .ite (fun _ => .done) fun _ =>
      (Script.firstHolding_blind s _ w).bind fun _ _ => .done
  | branch => exact .bind (Script.firstHolding_blind s _) fun _ => .done

theorem Rule.evaluate_blind (r : Rule) (s : Situation) {perform : ActionCall → Script Unit}
    (hperform : ∀ call, (perform call).Blind v) : (r.evaluate s perform).Blind v :=
  .bind (.record _) fun _ => .bind (r.select_blind s) fun _ =>
    .bind (.forEach hperform) fun _ => .done

theorem react_blind (e : Event) (s : Situation) (rules : List Rule)
    {perform : ActionCall → Script Unit} (hperform : ∀ call, (perform call).Blind v) :
    (react e s rules perform).Blind v := by
  intro w
  refine .read (.ite (fun _ => .done) fun _ => ?_)
  exact Script.Blind.forEach (fun r => .bind (r.evaluate_blind s hperform) fun _ => .done) w

namespace Director

theorem request_blind (s : Situation) (call : ActionCall) : (request s call).Blind v := by
  intro w
  refine .read ?_
  dsimp only
  rw [World.grant_veiled]
  exact .write rfl (.ite (fun _ => Script.Blind.act _ _ _ _) fun _ => .done)

/-! ## Events -/

theorem offer_blind (e : Event) (id : EntityId) (data : Params) (withSceneRules : Bool) :
    (offer e id data withSceneRules).Blind v := by
  intro w
  refine .read (.ite (fun _ => .done) fun _ => ?_)
  dsimp only
  rw [World.situationFor_veiled]
  refine .write rfl (Script.Alike.bind ?_ fun _ w₁ => .ite (fun _ => ?_) fun _ => .done)
  · exact .ite (fun _ => .done) fun _ => react_blind e _ _ (request_blind _) _
  · exact .read (react_blind e _ _ (request_blind _) _)

theorem route_blind (e : Event) : (route e).Blind v := by
  intro w
  unfold route
  cases e.target with
  | some target => exact offer_blind e target _ _ w
  | none => exact .read (Script.Blind.forEach (fun id => offer_blind e id _ _) w)

theorem collide_blind (e : Event) : (collide e).Blind v := by
  intro w
  unfold collide
  cases e.entity? "entityA" with
  | none => exact .done
  | some a =>
    cases e.entity? "entityB" with
    | none => exact .done
    | some b =>
      refine .read (.ite (fun _ => .write rfl .done) fun _ => ?_)
      dsimp only
      -- What the two sides track is written together with the grant.
      have htracked : ∀ senses : Senses, { w.veiled v with senses } =
          World.veiled v { w with senses } := fun _ => rfl
      rw [World.veiled_senses, htracked, World.grant_veiled]
      refine .write rfl (.ite (fun _ => ?_) fun _ => .done)
      exact (offer_blind e a _ _ _).bind fun _ => offer_blind e b _ _

theorem claimStart_veiled (w : World) (e : Event) (id : EntityId) (c : Component) :
    claimStart (w.veiled v) e id c =
      ((claimStart w e id c).1, (claimStart w e id c).2.veiled v) := by
  unfold claimStart
  rw [World.veiled_director]
  cases w.director with
  | none => rfl
  | some d => rfl

theorem claimStarts_veiled (e : Event) (id : EntityId) (cs : List Component) (w : World) :
    claimStarts e id cs (w.veiled v) =
      ((claimStarts e id cs w).1, (claimStarts e id cs w).2.veiled v) := by
  induction cs generalizing w with
  | nil => rfl
  | cons c rest ih =>
    simp only [claimStarts]
    rw [claimStart_veiled, ih]

theorem startEntity_blind (e : Event) (id : EntityId) : (startEntity e id).Blind v := by
  intro w
  refine .read ?_
  have hstarts : freshStarts (w.veiled v) e id =
      ((freshStarts w e id).1, (freshStarts w e id).2.veiled v) := claimStarts_veiled e id _ w
  rw [hstarts]
  refine .ite (fun _ => .write rfl .done) fun _ => ?_
  dsimp only
  rw [World.situationFor_veiled]
  exact .write rfl (react_blind _ _ _ (request_blind _) _)

theorem start_blind (e : Event) : (start e).Blind v := by
  intro w
  unfold start
  cases e.target with
  | some target => exact startEntity_blind e target w
  | none => exact .read (Script.Blind.forEach (startEntity_blind e) w)

theorem takeSignal_veiled (w : World) (e : Event) :
    takeSignal (w.veiled v) e = (takeSignal w e).veiled v := by
  unfold takeSignal
  cases e.text? "signal" with
  | none => rfl
  | some signal =>
    cases e.target with
    | none => rfl
    | some target => rfl

theorem handle_blind (e : Event) : (handle e).Blind v := by
  intro w
  refine .ite (fun _ => collide_blind e w) fun _ => .read ?_
  rw [World.veiled_isPlaying]
  refine .ite (fun _ => .done) fun _ => .ite (fun _ => start_blind e w) fun _ =>
    .ite (fun _ => ?_) fun _ => .ite (fun _ => .done) fun _ => .ite (fun _ => ?_) fun _ =>
      route_blind e w
  · cases e.target with
    | some target => exact offer_blind e target _ _ w
    | none => exact .done
  · exact .write (takeSignal_veiled w e) (route_blind e _)

/-- The director as a listener does not see what is hidden. -/
theorem listener_blind (e : Event) : (listener e).Blind v :=
  .bind (handle_blind e) fun _ => .done

/-! ## Updates -/

theorem takeTurn_veiled (w : World) (id : EntityId) (component : String) :
    takeTurn (w.veiled v) id component =
      ((takeTurn w id component).1, (takeTurn w id component).2.veiled v) := by
  unfold takeTurn
  rw [World.grant_veiled]
  dsimp only
  rw [World.veiled_isLive]
  split
  · rfl
  · rfl

theorem updateComponents_blind (id : EntityId) (dt : Float) (cs : List Component) :
    (updateComponents id dt cs).Blind v := by
  induction cs with
  | nil => exact .done
  | cons c rest ih =>
    intro w
    refine .read ?_
    rw [takeTurn_veiled]
    refine .write rfl (.ite (fun _ => ih _) fun _ => ?_)
    rw [World.veiled_isLive]
    refine .ite (fun _ => .done) fun _ => ?_
    dsimp only
    rw [World.situationFor_veiled]
    exact .write rfl ((c.rule.evaluate_blind _ (request_blind _) _).bind fun _ => ih)

theorem updateEntity_blind (dt : Float) (id : EntityId) : (updateEntity dt id).Blind v :=
  fun w => .read (updateComponents_blind id dt _ w)

/-- An update is the same under a veil that hides no step bound. -/
theorem update_blind (hv : v.stepBound = none) (dt : Float) : (update dt).Blind v := by
  intro w
  refine .read ?_
  dsimp only
  rw [World.veiled_clock, World.veiled_settings, World.grant_veiled]
  generalize w.grant (·.begin w.clock w.settings.threshold) = opened
  obtain ⟨newFrame, w₁⟩ := opened
  have hopened : (if newFrame then (w₁.veiled v).record .frameBegan else w₁.veiled v) =
      (if newFrame then w₁.record .frameBegan else w₁).veiled v := by
    cases newFrame with
    | true => rfl
    | false => rfl
  refine .write hopened ((Script.Blind.forEach (updateEntity_blind dt) _).bind fun _ w₂ => ?_)
  refine (updateModules_blind hv 0 dt w₂).bind fun _ w₃ => .read (.write ?_ .done)
  cases newFrame with
  | true => rfl
  | false => rfl

/-! ## Shutting down -/

theorem resign_blind : resign.Blind v := by
  intro w
  refine .read ?_
  rw [World.veiled_director]
  cases (w.director).bind (·.subscription) with
  | none => exact .done
  | some id => exact .write rfl (.unsubscribe fun _ => .done)

theorem shutdown_blind : shutdown.Blind v :=
  .bind resign_blind fun _ => .modifyWorld fun _ => rfl

end Director

end SceneLogic
