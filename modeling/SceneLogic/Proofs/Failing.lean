import SceneLogic.Defaults
import SceneLogic.Director
import SceneLogic.Proofs.Moments

/-!
# Actions that fail

An action may fail for many reasons, but all default actions find out before they change or
announce anything. From the first thing that they do on, nothing can go wrong any more.

* `Script.Succeeds` — the script does not fail, whatever its requests lead to
* `Script.Tests` — the script only looks at the world until it is sure to succeed
* `Script.Tests.traceless` — so it has done nothing when it fails
* `failure_leaves_no_trace` — the default actions
-/

namespace SceneLogic

/-- The script does not fail, whatever its requests lead to. -/
def Script.Succeeds {α : Type} (s : Script (Except Failure α)) : Prop :=
  ∀ (service : Service) (m m' : Machine) (f : Failure), s.run service m ≠ some (.error f, m')

/-- Carried out from the world, the script leaves the world as it is and asks for nothing, until
it has an answer or is sure to succeed. -/
inductive Script.Tests {α : Type} : Script (Except Failure α) → World → Prop
  | done {a : Except Failure α} {w : World} : Tests (.done a) w
  | read {k : World → Script (Except Failure α)} {w : World} : Tests (k w) w → Tests (.read k) w
  | stay {k : Script (Except Failure α)} {w : World} : Tests k w → Tests (.write w k) w
  | sure {s : Script (Except Failure α)} {w : World} : s.Succeeds → Tests s w

/-- The action does so in every situation, with whatever parameters, and in every world. -/
def Action.Tests (action : Action) : Prop :=
  ∀ s params w, (action s params).Tests w

namespace Script

variable {α β : Type} {w : World}

/-! ## Scripts that are sure to succeed -/

theorem succeed_succeeds : succeed.Succeeds :=
  fun _ _ _ _ h => nomatch h

theorem Succeeds.read {k : World → Script (Except Failure α)} (h : ∀ w, (k w).Succeeds) :
    (Script.read k).Succeeds :=
  fun service m m' f => h m.world service m m' f

theorem Succeeds.write {k : Script (Except Failure α)} (h : k.Succeeds) (w : World) :
    (Script.write w k).Succeeds :=
  fun service m m' f => h service { m with world := w } m' f

/-- What comes after a part that has an end decides, whatever that part does. -/
theorem Succeeds.bind {s : Script β} {k : β → Script (Except Failure α)}
    (h : ∀ b, (k b).Succeeds) : (s.bind k).Succeeds := by
  intro service m m' f hrun
  rw [run_bind] at hrun
  obtain ⟨⟨b, m₁⟩, -, hrun⟩ := Option.bind_eq_some_iff.mp hrun
  exact h b service m₁ m' f hrun

theorem Succeeds.emit {k : Script (Except Failure α)} (h : k.Succeeds) (type : String)
    (data : Params) (target : Option EntityId) : (Script.emit type data target k).Succeeds := by
  intro service m m' f hrun
  obtain ⟨m₁, -, hrun⟩ := Option.bind_eq_some_iff.mp hrun
  exact h service m₁ m' f hrun

theorem finish_succeeds (w : World) : (finish w).Succeeds :=
  succeed_succeeds.write w

/-! ## Scripts that test first -/

theorem fail_tests (f : Failure) : (fail f : Script (Except Failure α)).Tests w :=
  .done

theorem finish_tests (w' : World) : (finish w').Tests w :=
  .sure (finish_succeeds w')

theorem Tests.withText {params : Params} {key : String}
    {next : String → Script (Except Failure α)} (h : ∀ text, (next text).Tests w) :
    (Script.withText params key next).Tests w := by
  unfold Script.withText
  split
  · exact h _
  · exact .done

/-- When such a script fails, the machine is as before, and was so at every moment. -/
theorem Tests.traceless {s : Script (Except Failure α)} (h : s.Tests w) {service : Service}
    (watch : Watch) {m m' : Machine} {f : Failure} (hw : m.world = w)
    (hrun : s.run service m = some (.error f, m')) :
    m' = m ∧ ∀ n v, s.Makes service watch n v m → n = m ∧ v = m.world := by
  induction h with
  | done =>
    cases hrun
    exact ⟨rfl, fun n v hmake => ⟨hmake.1.symm, hmake.2.symm⟩⟩
  | read _ ih =>
    rw [run, hw] at hrun
    obtain ⟨hend, hmoments⟩ := ih hw hrun
    refine ⟨hend, fun n v hmake => ?_⟩
    rcases hmake with ⟨rfl, rfl⟩ | hmake
    · exact ⟨rfl, rfl⟩
    · exact hmoments n v (hw ▸ hmake)
  | stay _ ih =>
    -- The world is replaced by itself, so the machine stays the same.
    subst hw
    obtain ⟨hend, hmoments⟩ := ih rfl hrun
    refine ⟨hend, fun n v hmake => ?_⟩
    rcases hmake with ⟨rfl, rfl⟩ | hmake
    · exact ⟨rfl, rfl⟩
    · exact hmoments n v hmake
  | sure hsure => exact absurd hrun (hsure service m m' f)

end Script

open Script

/-! ## Movement -/

namespace Movement

theorem finishStep_tests (v w : World) (s : Situation) (target : Point) (speed : Float) :
    (finishStep v s target speed).Tests w := by
  unfold finishStep
  split
  · exact finish_tests _
  · exact fail_tests _

theorem move_tests : Action.Tests move := by
  intro s params w
  refine .read ?_
  split
  · exact .done
  · split
    · exact fail_tests _
    · exact finish_tests _

theorem moveToward_tests : Action.Tests moveToward := by
  intro s params w
  refine .read ?_
  split
  · exact .done
  · split
    · exact fail_tests _
    · exact fail_tests _
    · exact finishStep_tests w w s _ _

theorem chaseTarget_tests : Action.Tests chaseTarget := by
  intro s params w
  refine .read ?_
  split
  · exact .done
  · split
    · exact .done
    · exact finishStep_tests w w s _ _

theorem actions_test : ∀ a ∈ actions, Action.Tests a.2 := by
  simp only [actions, List.forall_mem_cons, List.not_mem_nil, false_implies, implies_true,
    and_true]
  exact ⟨move_tests, fun _ _ _ => .done, moveToward_tests, chaseTarget_tests⟩

end Movement

/-! ## Combat -/

namespace Combat

/-- The targets are hit only when it is known where the attacker is. -/
theorem attack_tests (weapon : Nat) : Action.Tests (attack weapon) := by
  intro s params w
  refine .read ?_
  dsimp only
  split
  · exact .done
  · split
    · exact .done
    · split
      · exact fail_tests _
      · refine .sure (.write (.bind fun hit => ?_) _)
        split
        · exact .read fun _ => finish_succeeds _
        · exact succeed_succeeds

theorem fireProjectile_tests : Action.Tests fireProjectile := by
  intro s params w
  refine .read ?_
  split
  · exact fail_tests _
  · split
    · exact fail_tests _
    · dsimp only
      split
      · exact fail_tests _
      · exact .sure (succeed_succeeds.emit _ _ _)

theorem takeDamage_tests : Action.Tests takeDamage := by
  intro s params w
  refine .read ?_
  split
  · exact fail_tests _
  · refine .sure (.write (.emit ?_ _ _ _) _)
    split
    · exact succeed_succeeds.emit _ _ _
    · exact succeed_succeeds

theorem heal_tests : Action.Tests heal := by
  intro s params w
  refine .read ?_
  split
  · exact fail_tests _
  · exact .sure ((succeed_succeeds.emit _ _ _).write _)

theorem actions_test : ∀ a ∈ actions, Action.Tests a.2 := by
  simp only [actions, List.forall_mem_cons, List.not_mem_nil, false_implies, implies_true,
    and_true]
  exact ⟨attack_tests 0, fireProjectile_tests, takeDamage_tests, heal_tests⟩

end Combat

/-! ## Control -/

namespace Control

/-- A spawner that does not agree to start a module has changed nothing. -/
theorem startBySpawner_refused {w w' : World} {entity : EntityId} {moduleId : String}
    {overrides : Params} (h : w.startBySpawner entity moduleId overrides = some (false, w')) :
    w' = w := by
  have hgraph : ∀ cell f v, w.startGraph entity cell overrides = (.error f, v) → v = w := by
    intro cell f v h
    unfold World.startGraph at h
    dsimp only at h
    split at h
    · cases h
      rfl
    · cases h
  have hlibrary : ∀ f v, w.startFromLibrary entity moduleId overrides = (.error f, v) → v = w := by
    intro f v h
    unfold World.startFromLibrary at h
    split at h
    · cases h
      rfl
    · exact hgraph _ f v h
  have hmodule : ∀ f v, w.startModule entity moduleId overrides = (.error f, v) → v = w := by
    intro f v h
    unfold World.startModule at h
    split at h
    · split at h
      · cases h
      · next hstart =>
        cases h
        exact hlibrary _ _ hstart
    · cases h
      rfl
  obtain ⟨s, -, hanswer⟩ := Option.map_eq_some_iff.mp h
  split at hanswer
  · cases hanswer
  · split at hanswer
    · split at hanswer
      · cases hanswer
      · next hstart =>
        cases hanswer
        exact hmodule _ _ hstart
    · cases hanswer
      rfl

theorem setVar_tests : Action.Tests setVar := by
  intro s params w
  refine .withText fun name => .read ?_
  split
  · exact fail_tests _
  · split
    · exact fail_tests _
    · exact finish_tests _

theorem enable_tests : Action.Tests enable := by
  intro s params w
  refine .read ?_
  dsimp only
  split
  · exact .sure ((succeed_succeeds.emit _ _ _).write _)
  · exact fail_tests _

theorem disable_tests : Action.Tests disable := by
  intro s params w
  refine .read ?_
  split
  · exact finish_tests _
  · exact finish_tests _

theorem spawnEntity_tests : Action.Tests spawnEntity := by
  intro s params w
  refine .read ?_
  split
  · exact fail_tests _
  · exact finish_tests _

theorem startModule_tests : Action.Tests startModule := by
  intro s params w
  refine .withText fun moduleId => .read ?_
  dsimp only
  split
  · exact fail_tests _
  · exact finish_tests _
  · next h =>
    rw [startBySpawner_refused h]
    exact .stay (fail_tests _)

theorem actions_test : ∀ a ∈ actions, Action.Tests a.2 := by
  simp only [actions, List.forall_mem_cons, List.not_mem_nil, false_implies, implies_true,
    and_true]
  exact ⟨setVar_tests, enable_tests, disable_tests, spawnEntity_tests, startModule_tests⟩

end Control

/-! ## Presentation -/

namespace Presentation

/-- The renderer and the store are turned together, after the entity has been found in one. -/
theorem rotate_tests : Action.Tests rotate := by
  intro s params w
  refine .read ?_
  dsimp only
  split
  · exact fail_tests _
  · exact finish_tests _

theorem pulse_tests : Action.Tests pulse :=
  fun _ _ _ => .read (finish_tests _)

theorem showDialogue_tests : Action.Tests showDialogue :=
  fun _ _ _ => .withText fun _ => .sure (succeed_succeeds.emit _ _ _)

theorem playSound_tests : Action.Tests playSound :=
  fun _ _ _ => .withText fun _ => .sure (succeed_succeeds.emit _ _ _)

theorem actions_test : ∀ a ∈ actions, Action.Tests a.2 := by
  simp only [actions, List.forall_mem_cons, List.not_mem_nil, false_implies, implies_true,
    and_true]
  exact ⟨rotate_tests, pulse_tests, showDialogue_tests, playSound_tests⟩

end Presentation

/-! ## Staging -/

namespace Staging

theorem changeSceneBy_tests (key : String) : Action.Tests (changeSceneBy key) := by
  intro s params w
  refine .withText fun target => .read ?_
  split
  · exact fail_tests _
  · exact .sure (.emit (.read fun _ => finish_succeeds _) _ _ _)

theorem setSceneFlag_tests : Action.Tests setSceneFlag :=
  fun _ _ _ => .withText fun _ => .read (finish_tests _)

theorem emitEventSignal_tests : Action.Tests emitEventSignal :=
  fun _ _ _ => .withText fun _ => .sure (succeed_succeeds.emit _ _ _)

theorem clearSignal_tests : Action.Tests clearSignal := by
  intro s params w
  refine .withText fun key => .read ?_
  split
  · exact .done
  · exact finish_tests _

theorem actions_test : ∀ a ∈ actions, Action.Tests a.2 := by
  simp only [actions, List.forall_mem_cons, List.not_mem_nil, false_implies, implies_true,
    and_true]
  exact ⟨changeSceneBy_tests _, changeSceneBy_tests _, setSceneFlag_tests, emitEventSignal_tests,
    clearSignal_tests⟩

end Staging

/-! ## The default actions -/

theorem defaultActions_test : ∀ a ∈ defaultActions, Action.Tests a.2 := by
  intro a ha
  simp only [defaultActions, List.mem_append] at ha
  rcases ha with (((ha | ha) | ha) | ha) | ha
  · exact Movement.actions_test a ha
  · exact Combat.actions_test a ha
  · exact Control.actions_test a ha
  · exact Presentation.actions_test a ha
  · exact Staging.actions_test a ha

/-- A default action that fails leaves the machine with all of its world exactly as it was, under
whatever name it was asked for. It was so at every moment while the action was carried out, and in
particular no event was announced. -/
theorem failure_leaves_no_trace {name : String} {action : Action}
    (hdefault : (name, action) ∈ defaultActions) (service : Service) (watch : Watch) (s : Situation)
    (params : Params) {m m' : Machine} {f : Failure}
    (hrun : (action s params).run service m = some (.error f, m')) :
    m' = m ∧
    (∀ n v, (action s params).Makes service watch n v m → n = m ∧ v = m.world) ∧
    (∀ n e, ¬ (action s params).Makes service watch n (n.world.record (.emitted e)) m) ∧
    ∀ key, Dict.get? m.actions key = some action →
      service.above.perform key s params m = some m := by
  obtain ⟨rfl, hmoments⟩ :=
    (defaultActions_test _ hdefault s params m.world).traceless watch rfl hrun
  refine ⟨rfl, hmoments, fun n e hmake => ?_, fun key hkey => ?_⟩
  · obtain ⟨rfl, hsame⟩ := hmoments n _ hmake
    exact List.cons_ne_self _ _ (congrArg World.journal hsame)
  · simp only [Service.above, hkey, hrun, Option.map_some]

/-! ## A module that nobody knows -/

namespace Stranger

/-- The director and a spawner that passes module starts on to it. -/
def machine : Machine :=
  let m : Machine :=
    { world :=
        { director := some {}
          store := Store.empty.insert { id := ⟨"hero"⟩ }
          spawner := some { kind := .passing, attached := true } }
      listeners := [(1, Director.listener)] }
  m.withDefaultActions

/-- The name of a module that is not in the library. -/
def params : Params :=
  [("moduleId", .text "patrol")]

end Stranger

/-- The spawner, the director and the library are asked, but the refusal leaves no trace. -/
theorem stranger_leaves_no_trace : ∃ f m',
    (Control.startModule ⟨⟨"hero"⟩, [], none, none, none⟩ Stranger.params).run Service.exhausted
      Stranger.machine = some (.error f, m') ∧ m' = Stranger.machine ∧
    Service.exhausted.above.perform "StartModule" ⟨⟨"hero"⟩, [], none, none, none⟩ Stranger.params
      Stranger.machine = some Stranger.machine := by
  have hdefault : ("StartModule", Control.startModule) ∈ defaultActions := by
    simp [defaultActions, Control.actions]
  have hrun : ∃ f m', (Control.startModule ⟨⟨"hero"⟩, [], none, none, none⟩ Stranger.params).run
      Service.exhausted Stranger.machine = some (.error f, m') := ⟨_, _, rfl⟩
  obtain ⟨f, m', hrun⟩ := hrun
  obtain ⟨hsame, -, -, hperform⟩ :=
    failure_leaves_no_trace hdefault Service.exhausted .blind _ _ hrun
  exact ⟨_, _, hrun, hsame, hperform "StartModule" rfl⟩

end SceneLogic
