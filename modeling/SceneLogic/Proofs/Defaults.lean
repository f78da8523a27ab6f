import SceneLogic.Defaults
import SceneLogic.Proofs.Director.Ledger
import SceneLogic.Proofs.Senses.Cells

/-!
# What the default actions and conditions do

The default actions announce events that are aimed at nobody, and ask for nothing else. What they
change is tame, they reach the modules by calls only, evaluate no rules, and leave all contacts
alone. The default conditions announce nothing, either. `Conduct.acting` and `Conduct.looking` have
these limits. They are narrow, so what is proved of behaviours under a wider conduct holds of the
default ones.
-/

namespace SceneLogic

/-- A spawned entity has no components yet. -/
theorem SpawnOrder.entity_components (order : SpawnOrder) (id : EntityId) :
    (order.entity id).components = [] := by
  have hfold : ∀ (vars : Params) (e : Entity),
      (vars.foldl (fun e v => e.assign v.1 v.2) e).components = e.components := by
    intro vars
    induction vars with
    | nil => exact fun _ => rfl
    | cons v rest ih => exact fun e => ih (e.assign v.1 v.2)
  exact hfold order.vars _

namespace World

/-- What an action does by itself, which evaluates no rule and touches nothing. -/
structure Performed (w w' : World) : Prop extends w.Acted w' where
  evaluations : w'.evaluations = w.evaluations
  contacts : w.senses.SameContacts w'.senses

variable {w w' : World}

theorem Performed.refl (w : World) : w.Performed w :=
  ⟨.refl w, rfl, .refl _⟩

theorem performed_of_same (hdirector : w'.director = w.director)
    (hjournal : w'.journal = w.journal) (hpool : w'.pool = w.pool)
    (hlibrary : w'.library = w.library) (hhits : w'.lastHits = w.lastHits)
    (hsignals : w'.signals = w.signals) (hcontacts : w.senses.SameContacts w'.senses)
    (hstore : w.store.Narrows w'.store) (hpictures : Relation.ReflTransGen PictureCall w w') :
    w.Performed w' where
  toActed := acted_of_same hdirector hjournal hpool hlibrary hhits hsignals hstore hpictures
  evaluations := by rw [evaluations, hjournal, evaluations]
  contacts := hcontacts

/-- A change of an entity that is not seen. -/
theorem performed_modifyEntity (w : World) (id : EntityId) {f : Entity → Entity}
    (hf : ∀ e, (f e).components = e.components) (hlook : ∀ e, (f e).look = e.look) :
    w.Performed (w.modifyEntity id f) :=
  performed_of_same rfl rfl rfl rfl rfl rfl (.refl _) (w.store.narrows_modify id hf)
    (.single (.other (w.samePictures_modifyEntity id hlook)))

/-- The same change on the canvas and in the store. -/
theorem performed_redraw (w : World) (id : EntityId) {f : Sprite → Sprite} {g : Entity → Entity}
    (hg : ∀ e, (g e).components = e.components) (hfg : ∀ e, f e.look = (g e).look) :
    w.Performed ((w.modifySprite id f).modifyEntity id g) :=
  performed_of_same rfl rfl rfl rfl rfl rfl (.refl _) (w.store.narrows_modify id hg)
    (.single (.redraw w id hfg))

/-- What is taken down about a blow is about nothing else. -/
theorem performed_of_blow (hdirector : w'.director = w.director) (hpool : w'.pool = w.pool)
    (hlibrary : w'.library = w.library) (hsenses : w'.senses = w.senses)
    (hcanvas : w'.canvas = w.canvas) (hstore : w'.store = w.store)
    (hsignals : w'.signals = w.signals) {event : BlowEvent}
    (hjournal : w'.journal = .ofBlow event :: w.journal) (hcall : BlowCall w w') :
    w.Performed w' where
  toActed := acted_of_item hdirector hpool hlibrary hcanvas hstore hjournal rfl (.single hcall)
    (.single (.other ⟨hsignals, by rw [signalLog, hjournal]; rfl⟩))
  evaluations := by rw [World.evaluations, hjournal]; rfl
  contacts := hsenses ▸ .refl w.senses

/-- Who asks for a signal may take it, and no more. -/
theorem performed_seekSignal (w : World) (signal : String) :
    w.Performed (w.seekSignal signal).2 where
  toActed := acted_of_item rfl rfl rfl rfl rfl rfl rfl (.single (.other ⟨rfl, rfl⟩))
    (.single (.seek w signal))
  evaluations := rfl
  contacts := .refl w.senses

theorem performed_place (w : World) (id : EntityId) (p : Point) : w.Performed (w.place id p) :=
  w.performed_redraw id (fun _ => rfl) fun _ => rfl

theorem contacts_startGraph (w : World) (entity : EntityId) (cell : GraphRef)
    (overrides : Params) :
    w.senses.SameContacts (w.startGraph entity cell overrides).2.senses := by
  unfold startGraph
  dsimp only
  split
  · exact .refl _
  · exact .refl _

theorem performed_startModule (w : World) (entity : EntityId) (moduleId : String)
    (overrides : Params) : w.Performed (w.startModule entity moduleId overrides).2 := by
  have hgraph : ∀ cell, w.Performed (w.startGraph entity cell overrides).2 := fun cell =>
    ⟨w.acted_startGraph entity cell overrides,
      w.evaluations_startGraph entity cell overrides, w.contacts_startGraph entity cell overrides⟩
  have hlibrary : w.Performed (w.startFromLibrary entity moduleId overrides).2 := by
    unfold startFromLibrary
    split
    · exact .refl w
    · exact hgraph _
  unfold startModule
  split
  · split
    · next heq =>
      rw [heq] at hlibrary
      exact hlibrary
    · next heq =>
      rw [heq] at hlibrary
      exact hlibrary
  · exact .refl w

/-! ## What spawners do -/

theorem performed_spawn {order : SpawnOrder} {r : EntityId × World} (h : w.spawn order = some r) :
    w.Performed r.2 := by
  have hpictures : Relation.ReflTransGen PictureCall w r.2 := .single (.spawn h)
  obtain ⟨s, _, rfl⟩ := Option.map_eq_some_iff.mp h
  have hstore := w.store.narrows_insert (SpawnOrder.entity_components order (s.nextId order))
  exact
    { toTame := tame_of_director rfl (quiet_of_entry rfl rfl) rfl rfl rfl hstore hpictures
      starts := .single (.aside ⟨rfl, rfl, .refl w⟩ ⟨rfl, rfl, fun _ => rfl⟩)
      sameTurns := ⟨rfl, rfl⟩
      evaluations := rfl
      contacts := .refl _ }

theorem performed_despawn {id : EntityId} {r : Bool × World} (h : w.despawn id = some r) :
    w.Performed r.2 := by
  have hpictures : Relation.ReflTransGen PictureCall w r.2 := .single (.despawn h)
  obtain ⟨s, _, rfl⟩ := Option.map_eq_some_iff.mp h
  exact performed_of_same rfl rfl rfl rfl rfl rfl (.refl _) (w.store.narrows_erase id) hpictures

theorem performed_startBySpawner {entity : EntityId} {moduleId : String} {overrides : Params}
    {r : Bool × World} (h : w.startBySpawner entity moduleId overrides = some r) :
    w.Performed r.2 := by
  obtain ⟨s, _, rfl⟩ := Option.map_eq_some_iff.mp h
  have hstart := w.performed_startModule entity moduleId overrides
  split
  · exact performed_of_same rfl rfl rfl rfl rfl rfl (.refl _) (.refl w.store)
      (pictured_of_store rfl rfl rfl)
  · split
    · split
      · next heq =>
        rw [heq] at hstart
        exact hstart
      · next heq =>
        rw [heq] at hstart
        exact hstart
    · exact .refl w

end World

/-- What the default actions may do. -/
def Conduct.acting : Conduct where
  step := World.Performed
  announces target := target = none
  performs := False
  checks := False
  registers := False

/-- What the default conditions may do. -/
def Conduct.looking : Conduct where
  step := World.Performed
  announces _ := False
  performs := False
  checks := False
  registers := False

theorem Conduct.acting_relies : Conduct.acting.Relies where
  refl _ := trivial
  trans _ _ := trivial
  step _ := trivial

/-- The action obeys in every situation, with whatever parameters, and in every world. -/
def Action.Acts (action : Action) : Prop :=
  ∀ s params w, (action s params).Obeys .acting w

/-- The condition obeys in every situation, with whatever parameters, and in every world. -/
def Condition.Looks (condition : Condition) : Prop :=
  ∀ s params w, (condition s params).Obeys .looking w

namespace Script

variable {w w' : World}

theorem Obeys.finish {c : Conduct} (h : c.step w w') : (Script.finish w').Obeys c w :=
  .write h .done

theorem Obeys.withText {α : Type} {c : Conduct} {params : Params} {key : String}
    {next : String → Script (Except Failure α)} (h : ∀ text, (next text).Obeys c w) :
    (Script.withText params key next).Obeys c w := by
  unfold Script.withText
  split
  · exact h _
  · exact .done

end Script

/-! ## Movement -/

namespace Movement

variable {w : World}

theorem approach_performed {s : Situation} {target : Point} {speed : Float} {w' : World}
    (h : approach w s target speed = .ok w') : w.Performed w' := by
  unfold approach at h
  split at h
  · cases h
  · split at h
    · cases h
      exact .refl w
    · cases h
      exact w.performed_place _ _

theorem finishStep_acts (s : Situation) (target : Point) (speed : Float) :
    (finishStep w s target speed).Obeys .acting w := by
  unfold finishStep
  split
  · next w' h => exact .finish (approach_performed h)
  · exact .done

theorem move_acts : Action.Acts move := by
  intro s params w
  refine .read ?_
  split
  · exact .done
  · split
    · exact .done
    · exact .finish (w.performed_place _ _)

theorem jump_acts : Action.Acts jump :=
  fun _ _ _ => .done

theorem moveToward_acts : Action.Acts moveToward := by
  intro s params w
  refine .read ?_
  split
  · exact .done
  · split
    · exact .done
    · exact .done
    · exact finishStep_acts s _ _

theorem chaseTarget_acts : Action.Acts chaseTarget := by
  intro s params w
  refine .read ?_
  split
  · exact .done
  · split
    · exact .done
    · exact finishStep_acts s _ _

theorem actions_act : ∀ a ∈ actions, Action.Acts a.2 := by
  simp only [actions, List.forall_mem_cons, List.not_mem_nil, false_implies, implies_true,
    and_true]
  exact ⟨move_acts, jump_acts, moveToward_acts, chaseTarget_acts⟩

end Movement

/-! ## Combat -/

namespace Combat

theorem withHp_components (e : Entity) : (withHp e).components = e.components := by
  unfold withHp
  split
  · rfl
  · rfl

theorem withHp_look (e : Entity) : (withHp e).look = e.look := by
  unfold withHp
  split
  · rfl
  · rfl

theorem wound_acts (target : EntityId) (damage : Float) (w : World) :
    (wound target damage).Obeys .acting w := by
  refine .read ?_
  split
  · exact .done
  · exact .write (w.performed_modifyEntity target withHp_components withHp_look)
      (.emit rfl fun _ _ => .done)

theorem strike_acts (attacker : EntityId) (origin : Point) (range damage : Float)
    (ids : List EntityId) (hit : Bool) (w : World) :
    (strike attacker origin range damage ids hit).Obeys .acting w := by
  induction ids generalizing hit w with
  | nil => exact .done
  | cons id rest ih =>
    refine .read ?_
    split
    · exact .bind Conduct.acting_relies (wound_acts id damage w) fun h v _ => ih _ v
    · exact ih hit w

theorem attack_acts (weapon : Nat) : Action.Acts (attack weapon) := by
  intro s params w
  refine .read ?_
  dsimp only
  split
  · exact .done
  · split
    · exact .done
    · next hrested =>
      split
      · exact .done
      · have hraise : w.Performed (w.raise _) :=
          World.performed_of_blow rfl rfl rfl rfl rfl rfl rfl rfl
            (.raise w ⟨weapon, s.entity, _, w.clock⟩ rfl (Bool.eq_false_iff.mpr hrested))
        refine .write hraise (.bind Conduct.acting_relies (strike_acts _ _ _ _ _ _ _) ?_)
        intro hit v _
        split
        · exact .read (.finish (World.performed_of_blow rfl rfl rfl rfl rfl rfl rfl rfl (.land v _)))
        · exact .done

theorem fireProjectile_acts : Action.Acts fireProjectile := by
  intro s params w
  refine .read ?_
  split
  · exact .done
  · split
    · exact .done
    · dsimp only
      split
      · exact .done
      · exact .emit rfl fun _ _ => .done

theorem takeDamage_acts : Action.Acts takeDamage := by
  intro s params w
  refine .read ?_
  split
  · exact .done
  · refine .write (w.performed_modifyEntity s.entity (fun _ => rfl) fun _ => rfl)
      (.emit rfl fun v _ => ?_)
    split
    · exact .emit rfl fun _ _ => .done
    · exact .done

theorem heal_acts : Action.Acts heal := by
  intro s params w
  refine .read ?_
  split
  · exact .done
  · exact .write (w.performed_modifyEntity s.entity (fun _ => rfl) fun _ => rfl)
      (.emit rfl fun _ _ => .done)

theorem actions_act : ∀ a ∈ actions, Action.Acts a.2 := by
  simp only [actions, List.forall_mem_cons, List.not_mem_nil, false_implies, implies_true,
    and_true]
  exact ⟨attack_acts 0, fireProjectile_acts, takeDamage_acts, heal_acts⟩

end Combat

/-! ## Control -/

namespace Control

theorem setActive_performed (w : World) (id : EntityId) (active : Bool) :
    w.Performed (setActive w id active) :=
  w.performed_redraw id (fun _ => rfl) fun _ => rfl

theorem setVar_acts : Action.Acts setVar := by
  intro s params w
  refine .withText fun name => .read ?_
  split
  · exact .done
  · split
    · exact .done
    · exact .finish (w.performed_modifyEntity s.entity (fun _ => rfl) fun _ => rfl)

theorem enable_acts : Action.Acts enable := by
  intro s params w
  refine .read ?_
  dsimp only
  split
  · exact .write (setActive_performed w _ _) (.emit rfl fun _ _ => .done)
  · exact .done

theorem disable_acts : Action.Acts disable := by
  intro s params w
  refine .read ?_
  split
  · next h => exact .finish (World.performed_despawn h)
  · exact .finish (setActive_performed w s.entity false)

theorem spawnEntity_acts : Action.Acts spawnEntity := by
  intro s params w
  refine .read ?_
  split
  · exact .done
  · next h => exact .finish (World.performed_spawn h)

theorem startModule_acts : Action.Acts startModule := by
  intro s params w
  refine .withText fun moduleId => .read ?_
  dsimp only
  split
  · exact .done
  · next h => exact .finish (World.performed_startBySpawner h)
  · next h => exact .write (World.performed_startBySpawner h) .done

theorem actions_act : ∀ a ∈ actions, Action.Acts a.2 := by
  simp only [actions, List.forall_mem_cons, List.not_mem_nil, false_implies, implies_true,
    and_true]
  exact ⟨setVar_acts, enable_acts, disable_acts, spawnEntity_acts, startModule_acts⟩

end Control

/-! ## Presentation -/

namespace Presentation

theorem rotate_acts : Action.Acts rotate := by
  intro s params w
  refine .read ?_
  dsimp only
  split
  · exact .done
  · next r _ => exact .finish (w.performed_redraw s.entity (g := ({ · with rotation := r + _ }))
      (fun _ => rfl) fun _ => rfl)

theorem pulse_acts : Action.Acts pulse := by
  intro s params w
  exact .read (.finish (w.performed_redraw s.entity (fun _ => rfl) fun _ => rfl))

theorem showDialogue_acts : Action.Acts showDialogue :=
  fun _ _ _ => .withText fun _ => .emit rfl fun _ _ => .done

theorem playSound_acts : Action.Acts playSound :=
  fun _ _ _ => .withText fun _ => .emit rfl fun _ _ => .done

theorem actions_act : ∀ a ∈ actions, Action.Acts a.2 := by
  simp only [actions, List.forall_mem_cons, List.not_mem_nil, false_implies, implies_true,
    and_true]
  exact ⟨rotate_acts, pulse_acts, showDialogue_acts, playSound_acts⟩

end Presentation

/-! ## Staging -/

namespace Staging

theorem changeScene_acts (target : String) (params : Params) (w : World) :
    (changeScene target params).Obeys .acting w := by
  refine .read ?_
  split
  · exact .done
  · refine .emit rfl fun v _ => .read (.finish ?_)
    exact World.performed_of_same rfl rfl rfl rfl rfl rfl (.refl _) (.refl v.store)
      (World.pictured_of_store rfl rfl rfl)

theorem changeSceneBy_acts (key : String) : Action.Acts (changeSceneBy key) :=
  fun _ params w => .withText fun target => changeScene_acts target params w

theorem setSceneFlag_acts : Action.Acts setSceneFlag :=
  fun _ _ w => .withText fun _ =>
    .read (.finish (World.performed_of_same rfl rfl rfl rfl rfl rfl (.refl _) (.refl w.store)
      (World.pictured_of_store rfl rfl rfl)))

theorem emitEventSignal_acts : Action.Acts emitEventSignal :=
  fun _ _ _ => .withText fun _ => .emit rfl fun _ _ => .done

theorem clearSignal_acts : Action.Acts clearSignal := by
  intro s params w
  refine .withText fun key => .read ?_
  split
  · exact .done
  · next cell _ =>
    refine .finish (World.performed_of_same rfl rfl rfl rfl rfl rfl ?_ (.refl w.store)
      (World.pictured_of_store rfl rfl rfl))
    exact w.senses.sameContacts_modifyCell cell fun _ => ⟨rfl, rfl⟩

theorem actions_act : ∀ a ∈ actions, Action.Acts a.2 := by
  simp only [actions, List.forall_mem_cons, List.not_mem_nil, false_implies, implies_true,
    and_true]
  exact ⟨changeSceneBy_acts _, changeSceneBy_acts _, setSceneFlag_acts, emitEventSignal_acts,
    clearSignal_acts⟩

end Staging

/-! ## Conditions -/

namespace Conditions

theorem pureCondition_looks (found : World → Situation → Params → Except Failure Bool) :
    Condition.Looks (pureCondition found) :=
  fun _ _ _ => .read .done

theorem onEventSignal_looks : Condition.Looks onEventSignal :=
  fun _ _ w => .withText fun signal => .read (.write (w.performed_seekSignal signal) .done)

theorem conditions_look : ∀ a ∈ conditions, Condition.Looks a.2 := by
  have hpure := pureCondition_looks
  simp only [conditions, List.forall_mem_cons, List.not_mem_nil, false_implies, implies_true,
    and_true]
  exact ⟨hpure _, hpure _, hpure _, hpure _, hpure _, hpure _, hpure _, onEventSignal_looks,
    hpure _, hpure _⟩

end Conditions

/-! ## The defaults as a whole -/

theorem defaultActions_act : ∀ a ∈ defaultActions, Action.Acts a.2 := by
  intro a ha
  simp only [defaultActions, List.mem_append] at ha
  rcases ha with (((ha | ha) | ha) | ha) | ha
  · exact Movement.actions_act a ha
  · exact Combat.actions_act a ha
  · exact Control.actions_act a ha
  · exact Presentation.actions_act a ha
  · exact Staging.actions_act a ha

end SceneLogic
