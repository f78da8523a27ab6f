import Mathlib.Logic.Relation
import SceneLogic.Director
import SceneLogic.Proofs.Senses.Grounding

/-!
# What entities are told

As long as the tags that count as ground are not replaced, what entities sense changes by the other
calls, and by whatever leaves all contacts alone: `Senses.Told`. Then the senses stay orderly: no
entity has two contacts with another one, and each ground flag is right.
-/

namespace SceneLogic

namespace Senses

/-- A call that does not replace the tags, or a change that leaves all contacts alone. -/
inductive TellStep : Senses → Senses → Prop
  | call (s : Senses) (call : SenseCall) : call.groundTags? = none → TellStep s (s.carryOut call)
  | same {s s' : Senses} : s.SameContacts s' → TellStep s s'

/-- Any number of such changes. -/
abbrev Told : Senses → Senses → Prop :=
  Relation.ReflTransGen TellStep

/-- No entity has two contacts with another one, and each ground flag is right. -/
structure Orderly (s : Senses) : Prop extends s.Sound where
  single : ∀ id, Contact.Single (s.awareness id).current
  judged : ∀ id, (s.awareness id).Judged s.groundTags

variable {s s' : Senses}

theorem orderly_new (tags : List String) : Orderly { groundTags := tags } where
  toSound := sound_new tags
  single _ := Contact.single_nil
  judged _ := Awareness.judged_new tags

theorem Orderly.same (h : s.Orderly) (hs : s.SameContacts s') : s'.Orderly where
  toSound := hs.sound h.toSound
  single id := by
    rw [(hs.awareness h.toSound id).current]
    exact h.single id
  judged id := by
    rw [hs.groundTags]
    exact (hs.awareness h.toSound id).judged (h.judged id)

/-- A report about one entity keeps the order among the contacts if it does for that entity. -/
theorem single_modify (h : s.Orderly) (id : EntityId) {f : Awareness → Awareness}
    (hf : ∀ a : Awareness, Contact.Single a.current → Contact.Single (f a).current) (a : EntityId) :
    Contact.Single ((s.modify id f).awareness a).current := by
  rw [awareness_modify h.toSound]
  split
  · exact hf _ (h.single a)
  · exact h.single a

theorem single_carryOut (h : s.Orderly) (call : SenseCall) (a : EntityId) :
    Contact.Single ((s.carryOut call).awareness a).current := by
  cases call with
  | enter id c => exact single_modify h id (fun _ hx => hx.upsert c) a
  | stay id c => exact single_modify h id (fun _ hx => hx.upsert c) a
  | exit id other => exact single_modify h id (fun _ hx => hx.takeOut other) a
  | beginFrame => exact (h.same s.sameContacts_beginFrame).single a
  | setSignal id key v => exact (h.same (s.sameContacts_setSignal id key v)).single a
  | clearSignal id key => exact (h.same (s.sameContacts_clearSignal id key)).single a
  | forget id =>
    rw [carryOut, awareness_forget h.toSound]
    split
    · exact Contact.single_nil
    · exact h.single a
  | setGroundTags tags => exact h.single a

theorem Orderly.carryOut (h : s.Orderly) {call : SenseCall} (hcall : call.groundTags? = none) :
    (s.carryOut call).Orderly where
  toSound := h.toSound.carryOut call
  single := single_carryOut h call
  judged id := by
    have hjudged := judged_carryOut h.toSound call (h.judged id)
    rw [ite_self] at hjudged
    rw [groundTags_carryOut, hcall]
    exact hjudged

theorem Orderly.told (h : s.Orderly) (ht : s.Told s') : s'.Orderly := by
  induction ht with
  | refl => exact h
  | tail _ hstep ih =>
    cases hstep with
    | call call hcall => exact ih.carryOut hcall
    | same hsame => exact ih.same hsame

theorem SameContacts.told (h : s.SameContacts s') : s.Told s' :=
  .single (.same h)

theorem told_forget (s : Senses) (id : EntityId) : s.Told (s.forget id) :=
  .single (.call s (.forget id) rfl)

end Senses

/-! ## Collisions -/

namespace Director

/-- The call by which one side of a collision is told. -/
def sideCall (type : String) (id : EntityId) (c : Contact) : SenseCall :=
  if type = EventType.collisionEnter then .enter id c
  else if type = EventType.collisionStay then .stay id c
  else .exit id c.other

theorem trackContact_eq (s : Senses) (type : String) (id : EntityId) (c : Contact) :
    trackContact s type id c = s.carryOut (sideCall type id c) := by
  unfold trackContact sideCall
  split
  · rfl
  · split
    · rfl
    · rfl

theorem groundTags?_sideCall (type : String) (id : EntityId) (c : Contact) :
    (sideCall type id c).groundTags? = none := by
  unfold sideCall
  split
  · rfl
  · split
    · rfl
    · rfl

theorem told_trackContact (s : Senses) (type : String) (id : EntityId) (c : Contact) :
    s.Told (trackContact s type id c) := by
  rw [trackContact_eq]
  exact .single (.call s _ (groundTags?_sideCall type id c))

/-- Both sides of a collision are told. -/
theorem told_touch (s : Senses) (type : String) (a b : EntityId) (c c' : Contact) :
    s.Told (trackContact (trackContact s type a c) type b c') :=
  (told_trackContact s type a c).trans (told_trackContact _ type b c')

end Director

end SceneLogic
