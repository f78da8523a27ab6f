import SceneLogic.Proofs.Senses.Telling
import SceneLogic.Proofs.Standard
import SceneLogic.Proofs.Upholding

/-!
# What is left of an entity that was removed

A contact is kept on both sides. When an entity is taken out of play its own side is forgotten, but
the other sides stay: whoever was in contact with it still is, and still stands on it. Only the
report that such a contact has ended takes it away.

* `Conduct.sensing` — behaviours that do not replace the tags of things that count as ground
* `removal_forgets_one_side` — what everybody senses after a removal, at every moment of a run
* `not_always_forgotten` — a hero that stands on a floor that was removed
-/

namespace SceneLogic

/-- Nothing was sensed yet, and the tags that are configured count as ground. -/
def World.NothingSensedYet (w : World) : Prop :=
  w.senses = { groundTags := w.settings.groundTags }

theorem Director.appoint_sensesNothing (w : World) (settings : Settings) :
    (appoint w settings).NothingSensedYet := rfl

namespace Senses

variable {s s' : Senses}

theorem TellStep.groundTags (h : TellStep s s') : s'.groundTags = s.groundTags := by
  cases h with
  | call _ hcall => rw [groundTags_carryOut, hcall, Option.getD_none]
  | same hsame => exact hsame.groundTags

theorem Told.groundTags (h : s.Told s') : s'.groundTags = s.groundTags := by
  induction h with
  | refl => rfl
  | tail _ hstep ih => exact hstep.groundTags.trans ih

end Senses

/-! ## Behaviours -/

/-- Behaviours that may touch and forget, but do not replace the tags that count as ground. -/
def Conduct.sensing : Conduct where
  step w w' := w.senses.Told w'.senses

theorem World.senses_openFrame (w : World) (now threshold : Float) :
    (w.openFrame now threshold).2.senses = w.senses := by
  have hgrant := w.senses_grant (·.begin now threshold)
  unfold openFrame
  dsimp only
  split
  · exact hgrant
  · exact hgrant

/-- The director, the default behaviours and updates touch and forget only. -/
theorem Conduct.sensing_roomy : Conduct.sensing.Roomy where
  tame _ htold := htold
  opens w now threshold := by
    show w.senses.Told (w.openFrame now threshold).2.senses
    rw [w.senses_openFrame]
  requests := by
    refine part_directing (fun w r => ?_) trivial
    have hsenses : (w.judge r).2.senses = w.senses := w.senses_grant (·.grantRequest r)
    show w.senses.Told (w.judge r).2.senses
    rw [hsenses]
  announces _ := trivial
  performs := trivial
  checks := trivial
  rely _ _ := trivial

/-! ## Removals -/

namespace World

variable {w : World}

theorem senses_removeEntity (hd : w.director ≠ none) (e : EntityId) :
    (w.removeEntity e).senses = w.senses.forget e := by
  unfold removeEntity
  cases h : w.director with
  | none => exact absurd h hd
  | some d => rfl

end World

/-- At every moment of a run no entity has two contacts with another one, and each ground flag is
right by the tags that were configured. -/
theorem World.senses_orderly {m : Machine} {w : World} (hm : m.Obeys .sensing)
    (hnew : m.world.NothingSensedYet) (h : m.Visits .sensing w) :
    w.senses.Orderly ∧ w.senses.groundTags = m.world.settings.groundTags := by
  have hstep : ∀ {u v : World}, Conduct.sensing.step u v →
      (u.senses.Orderly ∧ u.senses.groundTags = m.world.settings.groundTags) →
        v.senses.Orderly ∧ v.senses.groundTags = m.world.settings.groundTags :=
    fun htold ⟨horderly, htags⟩ => ⟨horderly.told htold, htold.groundTags.trans htags⟩
  refine h.holds hstep (fun _ _ h => h) id (fun _ _ => trivial) hm ?_
  rw [hnew]
  exact ⟨Senses.orderly_new _, rfl⟩

/-- When an entity is removed, at whatever moment of a run, it senses nothing any more, and
everybody else senses exactly what they sensed before. So nobody has a contact with it just in case
nobody had one. The ground flags are right by the contacts that are left, those with the entity
included; and those go, one by one, when their end is reported. -/
theorem removal_forgets_one_side {m : Machine} {w : World} (hm : m.Obeys .sensing)
    (hnew : m.world.NothingSensedYet) (h : m.Visits .sensing w) (hd : w.director ≠ none)
    (e : EntityId) :
    let left := (w.removeEntity e).senses
    let tags := m.world.settings.groundTags
    left.awareness e = {} ∧
    (∀ a ≠ e, left.awareness a = w.senses.awareness a) ∧
    ((∀ a ≠ e, ∀ c ∈ (left.awareness a).current, c.other ≠ e) ↔
      ∀ a ≠ e, ∀ c ∈ (w.senses.awareness a).current, c.other ≠ e) ∧
    (∀ a, (left.awareness a).grounded = true ↔ (left.awareness a).OnGround tags) ∧
    (∀ a, let ended := (left.exit a e).awareness a
      (∀ c ∈ ended.current, c.other ≠ e) ∧ (ended.grounded = true ↔ ended.OnGround tags)) := by
  obtain ⟨horderly, htags⟩ := World.senses_orderly hm hnew h
  have hforgotten : (w.senses.forget e).Orderly := horderly.told (w.senses.told_forget e)
  have hforget := Senses.awareness_forget horderly.toSound e
  have hkept : ∀ a ≠ e, (w.senses.forget e).awareness a = w.senses.awareness a :=
    fun a ha => by rw [hforget, if_neg ha]
  rw [World.senses_removeEntity hd, ← htags]
  refine ⟨by rw [hforget, if_pos rfl], hkept, ?_, fun a => (hforgotten.judged a).iff, fun a => ?_⟩
  · refine forall₂_congr fun a ha => ?_
    rw [hkept a ha]
  · have hended : ((w.senses.forget e).exit a e).awareness a =
        ((w.senses.forget e).awareness a).exit w.senses.groundTags e := by
      rw [Senses.exit, Senses.awareness_modify hforgotten.toSound, if_pos rfl]
      rfl
    rw [hended]
    exact ⟨Awareness.exit_ends (hforgotten.single a) _ e, (Awareness.judged_exit _ _ e).iff⟩

/-! ## A floor that is taken away -/

namespace Trapdoor

/-- The director and the default behaviours, with the default settings. -/
def machine : Machine :=
  let m : Machine := { world := Director.appoint {} {}, listeners := [(1, Director.listener)] }
  m.withDefaultActions.withDefaultConditions

theorem machine_obeys : machine.Obeys .sensing :=
  have hstandard : machine.Standard := Machine.standard_withDefaults rfl rfl rfl
  hstandard.obeys_roomy Conduct.sensing_roomy

theorem machine_new : machine.world.NothingSensedYet :=
  Director.appoint_sensesNothing {} {}

/-- The hero lands on the floor. -/
def land : Script Unit :=
  Script.announce "COLLISION_ENTER"
    [("entityA", .text "hero"), ("entityB", .text "floor"), ("tagB", .text "Wall")] none

/-- The contact of the hero with the floor. -/
def footing : Contact :=
  ⟨⟨"floor"⟩, some "Wall", none⟩

theorem visits : ∃ w, machine.Visits .sensing w ∧ w.director ≠ none ∧
    ((w.removeEntity ⟨"floor"⟩).senses.awareness ⟨"hero"⟩).current = [footing] ∧
    ((w.removeEntity ⟨"floor"⟩).senses.awareness ⟨"hero"⟩).grounded = true := by
  have hrun : ∃ m, land.run (Service.atDepth 3) machine = some ((), m) ∧
      m.world.director ≠ none ∧
      ((m.world.removeEntity ⟨"floor"⟩).senses.awareness ⟨"hero"⟩).current = [footing] ∧
      ((m.world.removeEntity ⟨"floor"⟩).senses.awareness ⟨"hero"⟩).grounded = true :=
    ⟨_, rfl, nofun, rfl, rfl⟩
  obtain ⟨m, hland, hafter⟩ := hrun
  have hobeys : land.Obeys .sensing machine.world := .emit trivial fun _ _ => .done
  exact ⟨m.world, (Machine.Runs.script .refl hobeys hland).visits, hafter⟩

end Trapdoor

/-- The hero still stands on the floor when that is removed, and does not when it is told that it
left the floor. -/
theorem hero_stands_on_removed_floor : ∃ w, Trapdoor.machine.Obeys .sensing ∧
    Trapdoor.machine.world.NothingSensedYet ∧ Trapdoor.machine.Visits .sensing w ∧
    w.director ≠ none ∧
    ((w.removeEntity ⟨"floor"⟩).senses.awareness ⟨"hero"⟩).grounded = true ∧
    ∀ c ∈ (((w.removeEntity ⟨"floor"⟩).senses.exit ⟨"hero"⟩ ⟨"floor"⟩).awareness ⟨"hero"⟩).current,
      c.other ≠ ⟨"floor"⟩ := by
  obtain ⟨w, hvisits, hd, -, hgrounded⟩ := Trapdoor.visits
  obtain ⟨-, -, -, -, hended⟩ :=
    removal_forgets_one_side Trapdoor.machine_obeys Trapdoor.machine_new hvisits hd ⟨"floor"⟩
  exact ⟨w, Trapdoor.machine_obeys, Trapdoor.machine_new, hvisits, hd, hgrounded,
    (hended ⟨"hero"⟩).1⟩

/-- A removal does not always leave everybody without a contact with what was removed. -/
theorem not_always_forgotten : ¬ ∀ (m : Machine) (w : World) (e a : EntityId), m.Obeys .sensing →
    m.world.NothingSensedYet → m.Visits .sensing w → w.director ≠ none → a ≠ e →
      ∀ c ∈ ((w.removeEntity e).senses.awareness a).current, c.other ≠ e := by
  intro h
  obtain ⟨w, hvisits, hd, hcurrent, -⟩ := Trapdoor.visits
  refine h _ w ⟨"floor"⟩ ⟨"hero"⟩ Trapdoor.machine_obeys Trapdoor.machine_new hvisits hd (by decide)
    Trapdoor.footing ?_ rfl
  rw [hcurrent]
  exact List.mem_singleton_self _

end SceneLogic
