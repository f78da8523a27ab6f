import SceneLogic.Defaults
import SceneLogic.Proofs.Blindness

/-!
# The default actions and conditions are blind

None of them reads the journal, and none asks how many nodes a module may pass in an update. What
they do to the world they do behind the veil as well.

* `defaultActions_blind`, `Conditions.conditions_blind`
-/

namespace SceneLogic

variable {v : Veil}

namespace World

variable (v : Veil) (w : World)

theorem veiled_sprite? (id : EntityId) : (w.veiled v).sprite? id = w.sprite? id := rfl

theorem veiled_positionOf? (id : EntityId) : (w.veiled v).positionOf? id = w.positionOf? id := rfl

/-- Whether a module starts is not up to what is hidden, and it starts behind the veil, too. -/
theorem startGraph_veiled (entity : EntityId) (cell : GraphRef) (overrides : Params) :
    (w.veiled v).startGraph entity cell overrides =
      ((w.startGraph entity cell overrides).1,
        (w.startGraph entity cell overrides).2.veiled v) := by
  unfold startGraph
  rw [veiled_library]
  dsimp only
  cases (w.library.read cell).entryNode? with
  | none => rfl
  | some _ =>
    -- The new instance waits if an update is under way.
    have hupdating : (w.veiled v).pool.updating = w.pool.updating := rfl
    simp only [Pool.add, hupdating]
    cases w.pool.updating with
    | true => rfl
    | false => rfl

theorem startModule_veiled (entity : EntityId) (moduleId : String) (overrides : Params) :
    (w.veiled v).startModule entity moduleId overrides =
      ((w.startModule entity moduleId overrides).1,
        (w.startModule entity moduleId overrides).2.veiled v) := by
  unfold startModule startFromLibrary
  rw [veiled_store, veiled_library]
  by_cases hmem : w.store.contains entity = true
  · rw [if_pos hmem, if_pos hmem]
    cases Dict.get? w.library.cellOf moduleId with
    | none => rfl
    | some cell =>
      dsimp only
      rw [startGraph_veiled]
      obtain ⟨_ | _, _⟩ := w.startGraph entity cell overrides
      · rfl
      · rfl
  · rw [if_neg hmem, if_neg hmem]

theorem startBySpawner_veiled (entity : EntityId) (moduleId : String) (overrides : Params) :
    (w.veiled v).startBySpawner entity moduleId overrides =
      (w.startBySpawner entity moduleId overrides).map fun r => (r.1, r.2.veiled v) := by
  unfold startBySpawner
  rw [veiled_spawner]
  cases w.spawner with
  | none => rfl
  | some s =>
    simp only [Option.map_some]
    cases s.kind with
    | recording => rfl
    | passing =>
      by_cases hattached : s.attached = true
      · simp only [hattached, if_true]
        rw [startModule_veiled]
        obtain ⟨_ | _, _⟩ := w.startModule entity moduleId overrides
        · rfl
        · rfl
      · simp [hattached]

end World

namespace Script

variable {α : Type}

theorem Alike.finish {w w₁ w₂ : World} (h : w₂ = w₁.veiled v) :
    (Script.finish w₁).Alike v (Script.finish w₂) w :=
  .write h .done

theorem Blind.withText {params : Params} {key : String}
    {next : String → Script (Except Failure α)} (h : ∀ text, (next text).Blind v) :
    (withText params key next).Blind v := by
  unfold Script.withText
  cases params.text? key with
  | none => exact .done
  | some text => exact h text

end Script

/-- In no situation does the action see what is hidden. -/
def Action.Blind (v : Veil) (action : Action) : Prop :=
  ∀ s params, (action s params).Blind v

/-- In no situation does the condition see what is hidden. -/
def Condition.Blind (v : Veil) (condition : Condition) : Prop :=
  ∀ s params, (condition s params).Blind v

namespace Movement

theorem approach_veiled (w : World) (s : Situation) (target : Point) (speed : Float) :
    approach (w.veiled v) s target speed = (approach w s target speed).map (World.veiled v) := by
  unfold approach
  rw [World.veiled_positionOf?]
  cases w.positionOf? s.entity with
  | none => rfl
  | some start =>
    dsimp only
    cases step? start target speed s.dt with
    | none => rfl
    | some place => rfl

theorem finishStep_alike (w : World) (s : Situation) (target : Point) (speed : Float) :
    (finishStep w s target speed).Alike v (finishStep (w.veiled v) s target speed) w := by
  unfold finishStep
  rw [approach_veiled]
  cases approach w s target speed with
  | error e => exact .done
  | ok w₁ => exact .finish rfl

theorem move_blind : Action.Blind v move := by
  intro s params w
  refine .read (.ite (fun _ => .done) fun _ => ?_)
  rw [World.veiled_positionOf?]
  cases w.positionOf? s.entity with
  | none => exact .done
  | some start => exact .finish rfl

theorem jump_blind : Action.Blind v jump :=
  fun _ _ => .done

theorem moveToward_blind : Action.Blind v moveToward := by
  intro s params w
  refine .read (.ite (fun _ => .done) fun _ => ?_)
  split
  · exact .done
  · exact .done
  · exact finishStep_alike w s _ _

theorem chaseTarget_blind : Action.Blind v chaseTarget := by
  intro s params w
  refine .read (.ite (fun _ => .done) fun _ => ?_)
  have hgoal : (quarry? (w.veiled v) s params).bind (w.veiled v).positionOf? =
      (quarry? w s params).bind w.positionOf? := rfl
  rw [hgoal]
  cases (quarry? w s params).bind w.positionOf? with
  | none => exact .done
  | some goal => exact finishStep_alike w s goal _

theorem actions_blind : ∀ a ∈ actions, Action.Blind v a.2 := by
  simp only [actions, List.forall_mem_cons, List.not_mem_nil, false_implies, implies_true,
    and_true]
  exact ⟨move_blind, jump_blind, moveToward_blind, chaseTarget_blind⟩

end Movement

namespace Combat

theorem wound_blind (target : EntityId) (damage : Float) : (wound target damage).Blind v := by
  intro w
  refine .read ?_
  rw [World.veiled_store]
  cases w.store.get? target with
  | none => exact .done
  | some e => exact .write rfl (.emit fun _ => .done)

theorem strike_blind (attacker : EntityId) (origin : Point) (range damage : Float)
    (ids : List EntityId) (hit : Bool) : (strike attacker origin range damage ids hit).Blind v := by
  induction ids generalizing hit with
  | nil => exact .done
  | cons id rest ih =>
    intro w
    refine .read (.ite (fun _ => ?_) fun _ => ih hit w)
    exact (wound_blind id damage w).bind fun h => ih (hit || h)

theorem attack_blind (weapon : Nat) : Action.Blind v (attack weapon) := by
  intro s params w
  refine .read (.ite (fun _ => .done) fun _ => .ite (fun _ => .done) fun _ => ?_)
  rw [World.veiled_positionOf?]
  cases w.positionOf? s.entity with
  | none => exact .done
  | some origin =>
    refine .write rfl ((strike_blind _ _ _ _ _ _ _).bind fun hit w' => .ite (fun _ => ?_) fun _ => .done)
    exact .read (.finish rfl)

theorem fireProjectile_blind : Action.Blind v fireProjectile := by
  intro s params w
  refine .read ?_
  rw [World.veiled_positionOf?]
  cases w.positionOf? s.entity with
  | none => exact .done
  | some origin =>
    have haim : aim? (w.veiled v) params = aim? w params := rfl
    rw [haim]
    cases aim? w params with
    | none => exact .done
    | some target => exact .ite (fun _ => .done) fun _ => .emit fun _ => .done

theorem takeDamage_blind : Action.Blind v takeDamage := by
  intro s params w
  refine .read ?_
  rw [World.veiled_store]
  cases w.store.get? s.entity with
  | none => exact .done
  | some e =>
    refine .write rfl (.emit fun _ => .ite (fun _ => ?_) fun _ => .done)
    exact .emit fun _ => .done

theorem heal_blind : Action.Blind v heal := by
  intro s params w
  refine .read ?_
  rw [World.veiled_store]
  cases w.store.get? s.entity with
  | none => exact .done
  | some e => exact .write rfl (.emit fun _ => .done)

theorem actions_blind : ∀ a ∈ actions, Action.Blind v a.2 := by
  simp only [actions, List.forall_mem_cons, List.not_mem_nil, false_implies, implies_true,
    and_true]
  exact ⟨attack_blind 0, fireProjectile_blind, takeDamage_blind, heal_blind⟩

end Combat

namespace Control

theorem setVar_blind : Action.Blind v setVar := by
  intro s params
  refine .withText fun name w => .read ?_
  rw [World.veiled_store]
  cases w.store.get? s.entity with
  | none => exact .done
  | some e =>
    dsimp only
    cases modified e name params with
    | error f => exact .done
    | ok value => exact .finish rfl

theorem enable_blind : Action.Blind v enable := by
  intro s params w
  refine .read (.ite (fun _ => ?_) fun _ => .done)
  exact .write rfl (.emit fun _ => .done)

theorem disable_blind : Action.Blind v disable := by
  intro s params w
  refine .read ?_
  have hdespawn : (w.veiled v).despawn s.entity =
      (w.despawn s.entity).map fun r => (r.1, r.2.veiled v) := by
    unfold World.despawn
    rw [World.veiled_spawner]
    cases w.spawner with
    | none => rfl
    | some spawner => rfl
  rw [hdespawn]
  cases w.despawn s.entity with
  | none => exact .finish rfl
  | some r => exact .finish rfl

theorem spawnEntity_blind : Action.Blind v spawnEntity := by
  intro s params w
  refine .read ?_
  have hspawn : (w.veiled v).spawn (spawnOrder (w.veiled v) s params) =
      (w.spawn (spawnOrder w s params)).map fun r => (r.1, r.2.veiled v) := by
    unfold World.spawn
    rw [World.veiled_spawner]
    cases w.spawner with
    | none => rfl
    | some spawner => rfl
  rw [hspawn]
  cases w.spawn (spawnOrder w s params) with
  | none => exact .done
  | some r => exact .finish rfl

theorem startModule_blind : Action.Blind v startModule := by
  intro s params
  refine .withText fun moduleId w => .read ?_
  dsimp only
  rw [World.startBySpawner_veiled]
  cases w.startBySpawner (s.subject params) moduleId
      (((Dict.get? params "overrides").bind Value.map?).getD []) with
  | none => exact .done
  | some r =>
    obtain ⟨started, w₁⟩ := r
    cases started with
    | true => exact .finish rfl
    | false => exact .write rfl .done

theorem actions_blind : ∀ a ∈ actions, Action.Blind v a.2 := by
  simp only [actions, List.forall_mem_cons, List.not_mem_nil, false_implies, implies_true,
    and_true]
  exact ⟨setVar_blind, enable_blind, disable_blind, spawnEntity_blind, startModule_blind⟩

end Control

namespace Presentation

theorem rotate_blind : Action.Blind v rotate := by
  intro s params w
  refine .read ?_
  dsimp only
  rw [World.veiled_store, World.veiled_sprite?]
  split
  · exact .done
  · exact .finish rfl

theorem pulse_blind : Action.Blind v pulse :=
  fun _ _ _ => .read (.finish rfl)

theorem showDialogue_blind : Action.Blind v showDialogue :=
  fun _ _ => .withText fun _ _ => .emit fun _ => .done

theorem playSound_blind : Action.Blind v playSound :=
  fun _ _ => .withText fun _ _ => .emit fun _ => .done

theorem actions_blind : ∀ a ∈ actions, Action.Blind v a.2 := by
  simp only [actions, List.forall_mem_cons, List.not_mem_nil, false_implies, implies_true,
    and_true]
  exact ⟨rotate_blind, pulse_blind, showDialogue_blind, playSound_blind⟩

end Presentation

namespace Staging

theorem changeSceneBy_blind (key : String) : Action.Blind v (changeSceneBy key) := by
  intro s params
  refine .withText fun target w => .read ?_
  rw [World.veiled_stage]
  cases w.stage with
  | none => exact .done
  | some stage => exact .emit fun _ => .read (.finish rfl)

theorem setSceneFlag_blind : Action.Blind v setSceneFlag :=
  fun _ _ => .withText fun _ _ => .read (.finish rfl)

theorem emitEventSignal_blind : Action.Blind v emitEventSignal :=
  fun _ _ => .withText fun _ _ => .emit fun _ => .done

theorem clearSignal_blind : Action.Blind v clearSignal := by
  intro s params
  refine .withText fun key w => .read ?_
  cases s.awareness with
  | none => exact .done
  | some cell => exact .finish rfl

theorem actions_blind : ∀ a ∈ actions, Action.Blind v a.2 := by
  simp only [actions, List.forall_mem_cons, List.not_mem_nil, false_implies, implies_true,
    and_true]
  exact ⟨changeSceneBy_blind _, changeSceneBy_blind _, setSceneFlag_blind, emitEventSignal_blind,
    clearSignal_blind⟩

end Staging

/-- No default action sees what is hidden. -/
theorem defaultActions_blind : ∀ a ∈ defaultActions, Action.Blind v a.2 := by
  intro a ha
  simp only [defaultActions, List.mem_append] at ha
  rcases ha with (((ha | ha) | ha) | ha) | ha
  · exact Movement.actions_blind a ha
  · exact Combat.actions_blind a ha
  · exact Control.actions_blind a ha
  · exact Presentation.actions_blind a ha
  · exact Staging.actions_blind a ha

namespace Conditions

theorem pureCondition_blind {found : World → Situation → Params → Except Failure Bool}
    (h : ∀ w s params, found (w.veiled v) s params = found w s params) :
    Condition.Blind v (pureCondition found) := by
  intro s params w
  refine .read ?_
  rw [h]
  exact .done

theorem onEventSignal_blind : Condition.Blind v onEventSignal :=
  fun _ _ => .withText fun _ _ => .read (.write rfl .done)

/-- No default condition sees what is hidden. -/
theorem conditions_blind : ∀ c ∈ conditions, Condition.Blind v c.2 := by
  simp only [conditions, List.forall_mem_cons, List.not_mem_nil, false_implies, implies_true,
    and_true]
  exact ⟨pureCondition_blind fun _ _ _ => rfl, pureCondition_blind fun _ _ _ => rfl,
    pureCondition_blind fun _ _ _ => rfl, pureCondition_blind fun _ _ _ => rfl,
    pureCondition_blind fun _ _ _ => rfl, pureCondition_blind fun _ _ _ => rfl,
    pureCondition_blind fun _ _ _ => rfl, onEventSignal_blind,
    pureCondition_blind fun _ _ _ => rfl, pureCondition_blind fun _ _ _ => rfl⟩

end Conditions

end SceneLogic
