import Mathlib.Data.List.Nodup
import SceneLogic.Proofs.Standard
import SceneLogic.Proofs.Upholding

/-!
# Store and canvas stay in step

Seven of the default actions change how entities look, and they do so on both sides: what is drawn
of an entity is what the store says of it. Whether an action starts out from the store or from the
canvas, and whether one of the two is missing, makes no difference.

* `Conduct.drawing` — behaviours that touch the looks of entities on both sides alike; the default
  ones, the director and updates are of this kind
* `pictures_stay_in_step` — hence both sides stay in step at every moment of every run
-/

namespace SceneLogic

namespace World

theorem samePictures_grant (w : World) (f : Frame → Bool × Frame) :
    w.SamePictures (w.grant f).2 := by
  unfold grant
  split
  · exact samePictures_of_store rfl rfl rfl
  · exact samePictures_of_store rfl rfl rfl

theorem pictured_openFrame (w : World) (now threshold : Float) :
    Relation.ReflTransGen PictureCall w (w.openFrame now threshold).2 := by
  have hgrant : PictureCall w _ := .other (w.samePictures_grant (·.begin now threshold))
  unfold openFrame
  dsimp only
  split
  · exact .tail (.single hgrant) (.other (samePictures_of_store rfl rfl rfl))
  · exact .single hgrant

theorem pictured_judge (w : World) (r : Request) :
    Relation.ReflTransGen PictureCall w (w.judge r).2 :=
  .tail (.single (.other (w.samePictures_grant (·.grantRequest r))))
    (.other (samePictures_of_store rfl rfl rfl))

theorem samePictures_emitted (w : World) (e : Event) : w.SamePictures (w.record (.emitted e)) :=
  samePictures_of_store rfl rfl rfl

end World

/-- Behaviours that touch the looks of entities on both sides alike. -/
def Conduct.drawing : Conduct where
  step := Relation.ReflTransGen PictureCall

/-- The director, the default behaviours and updates are of this kind. -/
theorem Conduct.drawing_roomy : Conduct.drawing.Roomy where
  tame htame _ := htame.pictures
  opens w now threshold := w.pictured_openFrame now threshold
  requests := part_directing (fun w r => w.pictured_judge r) trivial
  announces _ := trivial
  performs := trivial
  checks := trivial
  rely _ _ := trivial

/-- At every moment of every run both sides are abreast of what they were. -/
theorem Machine.Visits.abreast {m : Machine} {w : World} (hm : m.Obeys .drawing)
    (h : m.Visits .drawing w) : m.world.Abreast w :=
  h.holds (fun hcalls hv => hv.trans (World.abreast_of_calls hcalls))
    (fun v e hv => hv.trans (v.samePictures_emitted e).abreast) id
    (fun _ _ => trivial) hm (.refl m.world)

/-- **Store and canvas stay in step.** Let all actions be default ones. If what is
in the store and on the canvas looks the same on both sides, it does so at every moment of every
run, unless the spawner gave an entity the name of an object that was drawn already. -/
theorem pictures_stay_in_step {m : Machine} {w : World}
    (hactions : ∀ a ∈ m.actions, a ∈ defaultActions)
    (hconditions : ∀ a ∈ m.conditions, a ∈ Conditions.conditions)
    (hlisteners : ∀ l ∈ m.listeners, ∀ e v, (l.2 e).Obeys .drawing v)
    (hunique : Dict.Unique m.world.store.entries) (hin : m.world.InStep)
    (h : m.Visits .drawing w) :
    ∃ new, w.spawned = new ++ m.world.spawned ∧
      ((∀ id ∈ new, m.world.sprite? id = none) → w.InStep) := by
  have hroomy := Conduct.drawing_roomy
  have hm : m.Obeys .drawing :=
    { listeners := hlisteners
      actions := fun a ha s params v =>
        (defaultActions_act a (hactions a ha) s params v).mono hroomy.relies hroomy.acting
      conditions := fun a ha s params v =>
        (Conditions.conditions_look a (hconditions a ha) s params v).mono hroomy.relies
          hroomy.looking }
  obtain ⟨new, hspawned, hstep⟩ := (h.abreast hm).step
  exact ⟨new, hspawned, fun hnew => hstep hunique hnew hin⟩

/-! ## A lantern that is switched off -/

namespace Lantern

/-- A lantern that is active. -/
def lantern : Entity where
  id := ⟨"lantern"⟩

/-- A scene with the lantern, its picture, a spawner, and all default behaviours. -/
def machine : Machine :=
  Machine.withDefaultConditions (Machine.withDefaultActions
    { world :=
        { store := Store.empty.insert lantern
          canvas := some (Canvas.draw {} ⟨"lantern"⟩ lantern.position)
          spawner := some { kind := .recording }
          director := some {} }
      listeners := [(1, Director.listener)] })

/-- The lantern pulses, has a moth spawned, and is switched off. -/
def evening : Script Unit :=
  .perform "Pulse" { entity := ⟨"lantern"⟩ } []
    (.perform "SpawnEntity" { entity := ⟨"lantern"⟩ } [("x", .float 1)]
      (.perform "Enable" { entity := ⟨"lantern"⟩ } [("enabled", .bool false)] (.done ())))

theorem evening_run : ∃ m, evening.run (Service.atDepth 3) machine = some ((), m) ∧
    m.world.spawned = [⟨"spawn-1"⟩] ∧
    (m.world.sprite? ⟨"lantern"⟩).map (·.visible) = some false :=
  ⟨_, rfl, rfl, rfl⟩

theorem machine_standard : machine.Standard :=
  Machine.standard_withDefaults rfl rfl rfl

/-- Its picture shows the lantern as it is. -/
theorem machine_inStep : machine.world.InStep := by
  intro id sprite e hsprite he
  have hsprite : Dict.get? [(lantern.id, lantern.look)] id = some sprite := hsprite
  have he : Dict.get? [(lantern.id, lantern)] id = some e := he
  rw [Dict.get?] at hsprite he
  split at hsprite
  · next hid =>
    rw [if_pos hid] at he
    cases hsprite
    cases he
    rfl
  · cases hsprite

end Lantern

/-- The moth has no picture, and the lantern is seen to be off. -/
theorem lantern_stays_in_step : ∃ m : Machine, Lantern.machine.world.InStep ∧
    Lantern.machine.Visits .drawing m.world ∧ m.world.spawned = [⟨"spawn-1"⟩] ∧
    (m.world.sprite? ⟨"lantern"⟩).map (·.visible) = some false ∧ m.world.InStep := by
  obtain ⟨m, hrun, hspawned, hoff⟩ := Lantern.evening_run
  have hobeys : Lantern.evening.Obeys .drawing Lantern.machine.world :=
    .perform trivial fun _ _ => .perform trivial fun _ _ => .perform trivial fun _ _ => .done
  have hvisits : Lantern.machine.Visits .drawing m.world :=
    (Machine.Runs.script .refl hobeys hrun).visits
  have hlisteners : ∀ l ∈ Lantern.machine.listeners, ∀ e v, (l.2 e).Obeys .drawing v :=
    (Lantern.machine_standard.obeys_roomy Conduct.drawing_roomy).listeners
  obtain ⟨new, hnew, hstep⟩ := pictures_stay_in_step Lantern.machine_standard.actions
    Lantern.machine_standard.conditions hlisteners (List.nodup_singleton _)
    Lantern.machine_inStep hvisits
  refine ⟨m, Lantern.machine_inStep, hvisits, hspawned, hoff, hstep fun id hid => ?_⟩
  have hnew : [⟨"spawn-1"⟩] = new ++ [] := hspawned ▸ hnew
  rw [List.append_nil] at hnew
  rw [← hnew] at hid
  rw [List.mem_singleton.mp hid]
  rfl

end SceneLogic
