import Mathlib.Logic.Relation
import SceneLogic.Module.Start
import SceneLogic.Proofs.Senses.Cells

/-!
# Entities and their pictures

An entity has a place, a rotation, a scale and a state in the store, and the drawn object of the
same name has them on the canvas. The two are kept apart, so whatever changes the one has to change
the other.

* `Entity.look` — the object that shows an entity as it is
* `World.InStep` — all that are on both sides look the same on both
* `PictureCall` — the changes that touch the looks of entities, and whatever leaves them alone
* `World.Abreast` — such changes keep both sides in step, unless the spawner gives an entity the
  name of an object that is drawn already
-/

namespace SceneLogic

/-- The object that shows the entity as it is. -/
def Entity.look (e : Entity) : Sprite where
  position := e.position
  rotation := e.rotation
  scaleX := e.scaleX
  scaleY := e.scaleY
  visible := e.active

/-- The entry as an entity that the spawner created. -/
def Happening.spawned? : Happening → Option EntityId
  | .spawned id => some id
  | _ => none

/-- Variables are not seen. -/
theorem SpawnOrder.entity_id (order : SpawnOrder) (id : EntityId) : (order.entity id).id = id := by
  have hfold : ∀ (vars : Params) (e : Entity),
      (vars.foldl (fun e v => e.assign v.1 v.2) e).id = e.id := by
    intro vars
    induction vars with
    | nil => exact fun _ => rfl
    | cons v rest ih => exact fun e => ih (e.assign v.1 v.2)
  exact hfold order.vars _

namespace World

/-- The entities that the spawner created, the latest first. -/
def spawned (w : World) : List EntityId :=
  w.journal.filterMap Happening.spawned?

/-- What is in the store and on the canvas looks the same on both sides: it has the same position,
rotation and scale, and it is drawn visible if it is active. -/
def InStep (w : World) : Prop :=
  ∀ id sprite e, w.sprite? id = some sprite → w.store.get? id = some e → sprite = e.look

/-- The looks of all entities stay as they are, on both sides, and nothing is spawned. -/
structure SamePictures (w w' : World) : Prop where
  canvas : w'.canvas = w.canvas
  unique : Dict.Unique w.store.entries → Dict.Unique w'.store.entries
  looks : ∀ id, (w'.store.get? id).map Entity.look = (w.store.get? id).map Entity.look
  spawned : w'.spawned = w.spawned

end World

/-- The changes that touch the looks of entities: both sides are changed in the same way, or an
entity comes or goes by the spawner. Whatever else happens leaves the looks alone. -/
inductive PictureCall : World → World → Prop
  | redraw (w : World) (id : EntityId) {f : Sprite → Sprite} {g : Entity → Entity} :
      (∀ e, f e.look = (g e).look) → PictureCall w ((w.modifySprite id f).modifyEntity id g)
  | spawn {w : World} {order : SpawnOrder} {r : EntityId × World} : w.spawn order = some r →
      PictureCall w r.2
  | despawn {w : World} {id : EntityId} {r : Bool × World} : w.despawn id = some r →
      PictureCall w r.2
  | other {w w' : World} : w.SamePictures w' → PictureCall w w'

namespace World

variable {u v w w' : World} {id : EntityId}

theorem samePictures_of_store (hcanvas : w'.canvas = w.canvas) (hstore : w'.store = w.store)
    (hspawned : w'.spawned = w.spawned) : w.SamePictures w' :=
  ⟨hcanvas, by rw [hstore]; exact fun h => h, fun _ => by rw [hstore], hspawned⟩

/-- Neither side is touched. -/
theorem pictured_of_store (hcanvas : w'.canvas = w.canvas) (hstore : w'.store = w.store)
    (hspawned : w'.spawned = w.spawned) : Relation.ReflTransGen PictureCall w w' :=
  .single (.other (samePictures_of_store hcanvas hstore hspawned))

theorem store_get?_modifyEntity (w : World) (id : EntityId) (f : Entity → Entity) (id' : EntityId) :
    (w.modifyEntity id f).store.get? id' =
      if id = id' then (w.store.get? id').map f else w.store.get? id' :=
  Dict.get?_modify _ _ _ _

theorem sprite?_modifySprite (w : World) (id : EntityId) (f : Sprite → Sprite) (id' : EntityId) :
    (w.modifySprite id f).sprite? id' =
      if id = id' then (w.sprite? id').map f else w.sprite? id' := by
  unfold modifySprite sprite?
  cases w.canvas with
  | none => simp
  | some canvas => exact Dict.get?_modify _ _ _ _

/-- A change of an entity that is not seen. -/
theorem samePictures_modifyEntity (w : World) (id : EntityId) {f : Entity → Entity}
    (hf : ∀ e, (f e).look = e.look) : w.SamePictures (w.modifyEntity id f) where
  canvas := rfl
  unique := fun h => h.modify id f
  looks := by
    intro id'
    rw [store_get?_modifyEntity]
    split
    · rw [Option.map_map]
      exact congrArg (Option.map · _) (funext hf)
    · rfl
  spawned := rfl

/-- What became of the looks: the same objects are drawn, and if none of them was there for an
entity that was spawned, all that was in step still is. -/
structure Abreast (w w' : World) : Prop where
  unique : Dict.Unique w.store.entries → Dict.Unique w'.store.entries
  drawn : ∀ id, (w'.sprite? id).isSome = (w.sprite? id).isSome
  step : ∃ new, w'.spawned = new ++ w.spawned ∧
    (Dict.Unique w.store.entries → (∀ id ∈ new, w.sprite? id = none) → w.InStep → w'.InStep)

theorem Abreast.refl (w : World) : w.Abreast w :=
  ⟨fun h => h, fun _ => rfl, [], rfl, fun _ _ h => h⟩

theorem Abreast.trans (h : u.Abreast v) (h' : v.Abreast w) : u.Abreast w where
  unique := fun hu => h'.unique (h.unique hu)
  drawn := fun id => (h'.drawn id).trans (h.drawn id)
  step := by
    obtain ⟨new, hv, hstep⟩ := h.step
    obtain ⟨new', hw, hstep'⟩ := h'.step
    refine ⟨new' ++ new, by rw [hw, hv, List.append_assoc], fun hu hnew hin => ?_⟩
    have hfirst := hstep hu (fun id hid => hnew id (List.mem_append_right _ hid)) hin
    refine hstep' (h.unique hu) (fun id hid => ?_) hfirst
    have hnone := hnew id (List.mem_append_left _ hid)
    rw [← Option.isNone_iff_eq_none, ← Option.not_isSome, h.drawn id, hnone]
    rfl

/-- If the looks stay, both sides stay in step. -/
theorem SamePictures.abreast (h : w.SamePictures w') : w.Abreast w' where
  unique := h.unique
  drawn := fun id => by rw [sprite?, h.canvas, sprite?]
  step := by
    refine ⟨[], h.spawned, fun _ _ hin id sprite e hsprite he => ?_⟩
    rw [sprite?, h.canvas] at hsprite
    have hlook := h.looks id
    rw [he] at hlook
    obtain ⟨e₀, he₀, hsame⟩ := Option.map_eq_some_iff.mp hlook.symm
    rw [hin id sprite e₀ hsprite he₀, hsame]

theorem abreast_redraw (w : World) (id : EntityId) {f : Sprite → Sprite} {g : Entity → Entity}
    (hfg : ∀ e, f e.look = (g e).look) :
    w.Abreast ((w.modifySprite id f).modifyEntity id g) where
  unique := fun h => h.modify id g
  drawn := by
    intro id'
    show ((w.modifySprite id f).sprite? id').isSome = _
    rw [sprite?_modifySprite]
    split
    · exact Option.isSome_map
    · rfl
  step := by
    refine ⟨[], rfl, fun _ _ hin id' sprite e hsprite he => ?_⟩
    have hsprite : (w.modifySprite id f).sprite? id' = some sprite := hsprite
    rw [sprite?_modifySprite] at hsprite
    rw [store_get?_modifyEntity] at he
    split at hsprite
    · next heq =>
      rw [if_pos heq] at he
      obtain ⟨sprite₀, hsprite₀, rfl⟩ := Option.map_eq_some_iff.mp hsprite
      obtain ⟨e₀, he₀, rfl⟩ := Option.map_eq_some_iff.mp he
      rw [hin id' sprite₀ e₀ hsprite₀ he₀, hfg]
    · next hne =>
      rw [if_neg hne] at he
      exact hin id' sprite e hsprite he

theorem abreast_spawn {order : SpawnOrder} {r : EntityId × World} (h : w.spawn order = some r) :
    w.Abreast r.2 := by
  obtain ⟨s, _, rfl⟩ := Option.map_eq_some_iff.mp h
  have hid := SpawnOrder.entity_id order (s.nextId order)
  exact
    { unique := fun hu => Dict.Unique.insert hu _ _
      drawn := fun _ => rfl
      step := by
        refine ⟨[s.nextId order], rfl, fun _ hnew hin id sprite e hsprite he => ?_⟩
        have hne : (order.entity (s.nextId order)).id ≠ id := by
          rw [hid]
          rintro rfl
          have hsprite : w.sprite? (s.nextId order) = some sprite := hsprite
          rw [hnew _ List.mem_cons_self] at hsprite
          cases hsprite
        have he : Dict.get? (Dict.insert w.store.entries _ _) id = some e := he
        rw [Dict.get?_insert_of_ne _ _ hne] at he
        exact hin id sprite e hsprite he }

theorem abreast_despawn {r : Bool × World} (h : w.despawn id = some r) : w.Abreast r.2 := by
  obtain ⟨s, _, rfl⟩ := Option.map_eq_some_iff.mp h
  exact
    { unique := fun hu => Dict.Unique.erase hu _
      drawn := fun _ => rfl
      step := by
        refine ⟨[], rfl, fun hu _ hin id' sprite e hsprite he => ?_⟩
        have he : Dict.get? (Dict.erase w.store.entries id) id' = some e := he
        by_cases heq : id = id'
        · subst heq
          rw [Dict.get?_erase_self hu] at he
          cases he
        · rw [Dict.get?_erase_of_ne _ heq] at he
          exact hin id' sprite e hsprite he }

/-- No change of this kind brings the two sides out of step. -/
theorem abreast_of_calls (h : Relation.ReflTransGen PictureCall w w') : w.Abreast w' := by
  induction h with
  | refl => exact .refl w
  | tail _ hcall ih =>
    refine ih.trans ?_
    cases hcall with
    | redraw id hfg => exact abreast_redraw _ id hfg
    | spawn h => exact abreast_spawn h
    | despawn h => exact abreast_despawn h
    | other h => exact h.abreast

end World

end SceneLogic
