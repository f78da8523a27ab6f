import SceneLogic.Defaults
import SceneLogic.Proofs.Moments

/-!
# What actions announce

Which events a script announces by itself can be read off it, whatever the world is like and
whatever comes of its requests. So it can be read off the default actions that of all of them only
the taking of damage tells of a death.

* `Script.Tells` — all announcements in a script are such ones
* `Script.Tells.announces` — and so are those that it comes to when it is carried out
* `defaultActions_spare`, `Combat.takeDamage_mourns` — the default actions
-/

namespace SceneLogic

/-- All announcements in the script are such ones. -/
def Script.Tells (P : String → Params → Option EntityId → Prop) : {α : Type} → Script α → Prop
  | _, .done _ => True
  | _, .read k => ∀ w, (k w).Tells P
  | _, .write _ k => k.Tells P
  | _, .emit type data target k => P type data target ∧ k.Tells P
  | _, .perform _ _ _ k => k.Tells P
  | _, .check _ _ _ k => ∀ b, (k b).Tells P
  | _, .subscribe _ k => ∀ id, (k id).Tells P
  | _, .unsubscribe _ k => ∀ b, (k b).Tells P
  | _, .registerAction _ _ k => k.Tells P
  | _, .registerCondition _ _ k => k.Tells P

namespace Script

variable {P : String → Params → Option EntityId → Prop} {α β : Type}

/-- Whatever the script announces by itself when it is carried out stands in it. -/
theorem Tells.announces {service : Service} {s : Script α} {m n : Machine} {type : String}
    {data : Params} {target : Option EntityId} (h : s.Tells P)
    (hbegin : (announce type data target).Begins service n s m) : P type data target := by
  induction hbegin with
  | here k => exact h.1
  | read _ ih => exact ih (h _)
  | write _ ih => exact ih h
  | emit _ _ ih => exact ih h.2
  | perform _ _ ih => exact ih h
  | check _ _ ih => exact ih (h _)
  | subscribe _ ih => exact ih (h _)
  | unsubscribe _ ih => exact ih (h _)
  | registerAction _ ih => exact ih h
  | registerCondition _ ih => exact ih h

theorem Tells.bind {s : Script α} {f : α → Script β} (hs : s.Tells P) (hf : ∀ a, (f a).Tells P) :
    (s.bind f).Tells P := by
  induction s with
  | done a => exact hf a
  | read k ih => exact fun w => ih w (hs w) hf
  | write w k ih => exact ih hs hf
  | emit type data target k ih => exact ⟨hs.1, ih hs.2 hf⟩
  | perform name situation params k ih => exact ih hs hf
  | check name situation params k ih => exact fun b => ih b (hs b) hf
  | subscribe listener k _ ih => exact fun id => ih id (hs id) hf
  | unsubscribe id k ih => exact fun b => ih b (hs b) hf
  | registerAction name action k _ ih => exact ih hs hf
  | registerCondition name condition k _ ih => exact ih hs hf

theorem Tells.withText {params : Params} {key : String}
    {next : String → Script (Except Failure α)} (h : ∀ text, (next text).Tells P) :
    (Script.withText params key next).Tells P := by
  unfold Script.withText
  split
  · exact h _
  · trivial

end Script

/-! ## Deaths -/

/-- The rules of death logic answer to events of the type. -/
def EventType.tellsOfDeath (type : String) : Bool :=
  answers "OnDeath" type || answers "OnDestroy" type

/-- In no situation does the action tell of a death. -/
def Action.Spares (action : Action) : Prop :=
  ∀ s params, (action s params).Tells fun type _ _ => EventType.tellsOfDeath type = false

/-- All deaths that the action tells of are the acting entity's, and it tells everybody. -/
def Action.Mourns (action : Action) : Prop :=
  ∀ s params, (action s params).Tells fun type data target => EventType.tellsOfDeath type = true →
    type = EventType.entityDied ∧ data = [("entityId", .text s.entity.name)] ∧ target = none

namespace Movement

theorem finishStep_spares (w : World) (s : Situation) (target : Point) (speed : Float) :
    (finishStep w s target speed).Tells fun type _ _ => EventType.tellsOfDeath type = false := by
  unfold finishStep
  split
  · trivial
  · trivial

theorem move_spares : Action.Spares move := by
  intro s params w
  dsimp only
  split
  · trivial
  · split
    · trivial
    · trivial

theorem jump_spares : Action.Spares jump :=
  fun _ _ => trivial

theorem moveToward_spares : Action.Spares moveToward := by
  intro s params w
  dsimp only
  split
  · trivial
  · split
    · trivial
    · trivial
    · exact finishStep_spares _ _ _ _

theorem chaseTarget_spares : Action.Spares chaseTarget := by
  intro s params w
  dsimp only
  split
  · trivial
  · split
    · trivial
    · exact finishStep_spares _ _ _ _

theorem actions_spare : ∀ a ∈ actions, Action.Spares a.2 := by
  simp only [actions, List.forall_mem_cons, List.not_mem_nil, false_implies, implies_true,
    and_true]
  exact ⟨move_spares, jump_spares, moveToward_spares, chaseTarget_spares⟩

end Movement

namespace Combat

theorem wound_spares (target : EntityId) (damage : Float) :
    (wound target damage).Tells fun type _ _ => EventType.tellsOfDeath type = false := by
  intro w
  dsimp only
  split
  · trivial
  · exact ⟨rfl, trivial⟩

theorem strike_spares (attacker : EntityId) (origin : Point) (range damage : Float)
    (ids : List EntityId) (hit : Bool) :
    (strike attacker origin range damage ids hit).Tells
      fun type _ _ => EventType.tellsOfDeath type = false := by
  induction ids generalizing hit with
  | nil => trivial
  | cons id rest ih =>
    intro w
    dsimp only
    split
    · exact .bind (wound_spares id damage) fun h => ih _
    · exact ih hit

theorem attack_spares (weapon : Nat) : Action.Spares (attack weapon) := by
  intro s params w
  dsimp only
  split
  · trivial
  · split
    · trivial
    · split
      · trivial
      · refine .bind (strike_spares _ _ _ _ _ _) fun hit => ?_
        split
        · exact fun _ => trivial
        · trivial

theorem fireProjectile_spares : Action.Spares fireProjectile := by
  intro s params w
  dsimp only
  split
  · trivial
  · split
    · trivial
    · split
      · trivial
      · exact ⟨rfl, trivial⟩

theorem heal_spares : Action.Spares heal := by
  intro s params w
  dsimp only
  split
  · trivial
  · exact ⟨rfl, trivial⟩

/-- Whoever takes damage and has no hit points left is announced to everybody. -/
theorem takeDamage_mourns : Action.Mourns takeDamage := by
  intro s params w
  dsimp only
  split
  · trivial
  · refine ⟨nofun, ?_⟩
    split
    · exact ⟨fun _ => ⟨rfl, rfl, rfl⟩, trivial⟩
    · trivial

theorem actions_spare : ∀ a ∈ actions, a = ("TakeDamage", takeDamage) ∨ Action.Spares a.2 := by
  simp only [actions, List.forall_mem_cons, List.not_mem_nil, false_implies, implies_true,
    and_true]
  exact ⟨Or.inr (attack_spares 0), Or.inr fireProjectile_spares, Or.inl trivial, Or.inr heal_spares⟩

end Combat

namespace Control

theorem setVar_spares : Action.Spares setVar := by
  intro s params
  refine .withText fun name w => ?_
  dsimp only
  split
  · trivial
  · split
    · trivial
    · trivial

theorem enable_spares : Action.Spares enable := by
  intro s params w
  dsimp only
  split
  · refine ⟨?_, trivial⟩
    split
    · rfl
    · rfl
  · trivial

theorem disable_spares : Action.Spares disable := by
  intro s params w
  dsimp only
  split
  · trivial
  · trivial

theorem spawnEntity_spares : Action.Spares spawnEntity := by
  intro s params w
  dsimp only
  split
  · trivial
  · trivial

theorem startModule_spares : Action.Spares startModule := by
  intro s params
  refine .withText fun moduleId w => ?_
  dsimp only
  split
  · trivial
  · trivial
  · trivial

theorem actions_spare : ∀ a ∈ actions, Action.Spares a.2 := by
  simp only [actions, List.forall_mem_cons, List.not_mem_nil, false_implies, implies_true,
    and_true]
  exact ⟨setVar_spares, enable_spares, disable_spares, spawnEntity_spares, startModule_spares⟩

end Control

namespace Presentation

theorem rotate_spares : Action.Spares rotate := by
  intro s params w
  dsimp only
  split
  · trivial
  · trivial

theorem pulse_spares : Action.Spares pulse :=
  fun _ _ _ => trivial

theorem showDialogue_spares : Action.Spares showDialogue :=
  fun _ _ => .withText fun _ => ⟨rfl, trivial⟩

theorem playSound_spares : Action.Spares playSound :=
  fun _ _ => .withText fun _ => ⟨rfl, trivial⟩

theorem actions_spare : ∀ a ∈ actions, Action.Spares a.2 := by
  simp only [actions, List.forall_mem_cons, List.not_mem_nil, false_implies, implies_true,
    and_true]
  exact ⟨rotate_spares, pulse_spares, showDialogue_spares, playSound_spares⟩

end Presentation

namespace Staging

theorem changeSceneBy_spares (key : String) : Action.Spares (changeSceneBy key) := by
  intro s params
  refine .withText fun target w => ?_
  dsimp only
  split
  · trivial
  · exact ⟨rfl, fun _ => trivial⟩

theorem setSceneFlag_spares : Action.Spares setSceneFlag :=
  fun _ _ => .withText fun _ _ => trivial

theorem emitEventSignal_spares : Action.Spares emitEventSignal :=
  fun _ _ => .withText fun _ => ⟨rfl, trivial⟩

theorem clearSignal_spares : Action.Spares clearSignal := by
  intro s params
  refine .withText fun key w => ?_
  dsimp only
  split
  · trivial
  · trivial

theorem actions_spare : ∀ a ∈ actions, Action.Spares a.2 := by
  simp only [actions, List.forall_mem_cons, List.not_mem_nil, false_implies, implies_true,
    and_true]
  exact ⟨changeSceneBy_spares _, changeSceneBy_spares _, setSceneFlag_spares,
    emitEventSignal_spares, clearSignal_spares⟩

end Staging

/-- No default action but the taking of damage tells of a death. -/
theorem defaultActions_spare :
    ∀ a ∈ defaultActions, a = ("TakeDamage", Combat.takeDamage) ∨ Action.Spares a.2 := by
  intro a ha
  simp only [defaultActions, List.mem_append] at ha
  rcases ha with (((ha | ha) | ha) | ha) | ha
  · exact Or.inr (Movement.actions_spare a ha)
  · exact Combat.actions_spare a ha
  · exact Or.inr (Control.actions_spare a ha)
  · exact Or.inr (Presentation.actions_spare a ha)
  · exact Or.inr (Staging.actions_spare a ha)

end SceneLogic
