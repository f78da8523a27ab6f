import SceneLogic.Senses
import SceneLogic.Proofs.Conduct

/-!
# Whose awareness is in which cell

An entity's awareness is read through the number of its cell. `Senses.Sound` says that the numbers
are in order: they belong to cells that were taken, and to one entity each. Then a change of what
one entity senses leaves all others alone, and so does forgetting it.

Whatever leaves the contacts and the ground flags of all entities as they are has `SameContacts`:
signals may come and go, entities may be attended to, and a new frame may begin.
-/

namespace SceneLogic

/-! ## Contacts and ground flags -/

/-- The contacts and the ground flag are the same. -/
structure Awareness.SameContacts (a a' : Awareness) : Prop where
  current : a'.current = a.current
  grounded : a'.grounded = a.grounded

namespace Awareness

theorem SameContacts.refl (a : Awareness) : a.SameContacts a :=
  ⟨rfl, rfl⟩

theorem SameContacts.trans {a b c : Awareness} (h : a.SameContacts b) (h' : b.SameContacts c) :
    a.SameContacts c :=
  ⟨h'.current.trans h.current, h'.grounded.trans h.grounded⟩

theorem sameContacts_setFlag (a : Awareness) (key : String) (up : Bool) :
    a.SameContacts (a.setFlag key up) :=
  ⟨rfl, rfl⟩

theorem sameContacts_setSignal (a : Awareness) (key : String) (v : Value) :
    a.SameContacts (a.setSignal key v) :=
  ⟨rfl, rfl⟩

theorem sameContacts_beginFrame (a : Awareness) : a.SameContacts a.beginFrame :=
  ⟨rfl, rfl⟩

end Awareness

namespace Senses

/-- What an entity senses: nothing, as long as it has no cell. -/
def awareness (s : Senses) (id : EntityId) : Awareness :=
  match Dict.get? s.cellOf id with
  | some cell => s.read cell
  | none => {}

/-- The numbers of cells are in order: each belongs to a cell that was taken, and to one entity. -/
structure Sound (s : Senses) : Prop where
  unique : Dict.Unique s.cellOf
  taken : ∀ {id cell}, Dict.get? s.cellOf id = some cell → cell < s.cells.length
  own : ∀ {a b cell}, Dict.get? s.cellOf a = some cell → Dict.get? s.cellOf b = some cell → a = b

/-- The contacts and the ground flags of all entities are the same, and so is what counts as
ground. -/
structure SameContacts (s s' : Senses) : Prop where
  groundTags : s'.groundTags = s.groundTags
  sound : s.Sound → s'.Sound
  awareness : s.Sound → ∀ id, (s.awareness id).SameContacts (s'.awareness id)

variable {s s' : Senses}

theorem SameContacts.refl (s : Senses) : s.SameContacts s :=
  ⟨rfl, id, fun _ _ => .refl _⟩

theorem SameContacts.trans {t : Senses} (h : s.SameContacts s') (h' : s'.SameContacts t) :
    s.SameContacts t where
  groundTags := h'.groundTags.trans h.groundTags
  sound := h'.sound ∘ h.sound
  awareness hs id := (h.awareness hs id).trans (h'.awareness (h.sound hs) id)

/-- Before anything is sensed. -/
theorem sound_new (tags : List String) : Sound { groundTags := tags } where
  unique := List.nodup_nil
  taken h := by cases h
  own h := by cases h

/-! ## Cells -/

theorem read_modifyCell_self {cell : AwarenessRef} (h : cell < s.cells.length)
    (f : Awareness → Awareness) : (s.modifyCell cell f).read cell = f (s.read cell) := by
  simp [read, modifyCell, List.getElem?_eq_getElem h]

theorem read_modifyCell_of_ne {cell cell' : AwarenessRef} (h : cell ≠ cell')
    (f : Awareness → Awareness) : (s.modifyCell cell f).read cell' = s.read cell' := by
  simp [read, modifyCell, h]

theorem Sound.modifyCell (h : s.Sound) (cell : AwarenessRef) (f : Awareness → Awareness) :
    (s.modifyCell cell f).Sound where
  unique := h.unique
  taken hget := by
    rw [Senses.modifyCell, List.length_modify]
    exact h.taken hget
  own := h.own

/-- The change of an entity's cell is a change of what that entity senses. -/
theorem awareness_modifyCell (h : s.Sound) {id : EntityId} {cell : AwarenessRef}
    (hcell : Dict.get? s.cellOf id = some cell) (f : Awareness → Awareness) (a : EntityId) :
    (s.modifyCell cell f).awareness a = if a = id then f (s.awareness a) else s.awareness a := by
  have hkept : (s.modifyCell cell f).cellOf = s.cellOf := rfl
  unfold awareness
  rw [hkept]
  by_cases ha : a = id
  · rw [if_pos ha, ha, hcell]
    exact read_modifyCell_self (h.taken hcell) f
  · rw [if_neg ha]
    cases hget : Dict.get? s.cellOf a with
    | none => rfl
    | some other =>
      refine read_modifyCell_of_ne ?_ f
      rintro rfl
      exact ha (h.own hget hcell)

/-- Whosoever cell it is, forgotten or not: what leaves its contacts alone leaves those of all
entities alone. -/
theorem sameContacts_modifyCell (s : Senses) (cell : AwarenessRef) {f : Awareness → Awareness}
    (hf : ∀ a : Awareness, a.SameContacts (f a)) : s.SameContacts (s.modifyCell cell f) where
  groundTags := rfl
  sound h := h.modifyCell cell f
  awareness h id := by
    have hkept : (s.modifyCell cell f).cellOf = s.cellOf := rfl
    unfold awareness
    rw [hkept]
    cases hget : Dict.get? s.cellOf id with
    | none => exact .refl _
    | some other =>
      by_cases hcell : cell = other
      · subst hcell
        dsimp only
        rw [read_modifyCell_self (h.taken hget)]
        exact hf _
      · dsimp only
        rw [read_modifyCell_of_ne hcell]
        exact .refl _

/-! ## Attending to an entity -/

/-- A cell that was not taken reads as one that was just taken. -/
theorem read_append (s : Senses) (cell : AwarenessRef) (cellOf : Dict EntityId AwarenessRef)
    (tags : List String) : read ⟨cellOf, s.cells ++ [default], tags⟩ cell = s.read cell := by
  by_cases h : cell < s.cells.length
  · simp [read, List.getElem?_append_left h]
  · have hle := Nat.le_of_not_lt h
    simp only [read, List.getD_eq_getElem?_getD, List.getElem?_append_right hle,
      List.getElem?_eq_none hle]
    cases cell - s.cells.length <;> rfl

theorem attend_of_known {id : EntityId} {cell : AwarenessRef}
    (h : Dict.get? s.cellOf id = some cell) : s.attend id = (cell, s) := by
  rw [attend, h]

theorem attend_of_new {id : EntityId} (h : Dict.get? s.cellOf id = none) :
    s.attend id = (s.cells.length,
      { s with cellOf := Dict.insert s.cellOf id s.cells.length, cells := s.cells ++ [{}] }) := by
  rw [attend, h]

theorem get?_attend (s : Senses) (id : EntityId) :
    Dict.get? (s.attend id).2.cellOf id = some (s.attend id).1 := by
  cases hget : Dict.get? s.cellOf id with
  | some cell =>
    rw [attend_of_known hget]
    exact hget
  | none =>
    rw [attend_of_new hget]
    exact Dict.get?_insert_self _ _ _

theorem groundTags_attend (s : Senses) (id : EntityId) :
    (s.attend id).2.groundTags = s.groundTags := by
  cases hget : Dict.get? s.cellOf id with
  | some cell => rw [attend_of_known hget]
  | none => rw [attend_of_new hget]

theorem Sound.attend (h : s.Sound) (id : EntityId) : (s.attend id).2.Sound := by
  cases hget : Dict.get? s.cellOf id with
  | some cell =>
    rw [attend_of_known hget]
    exact h
  | none =>
    rw [attend_of_new hget]
    dsimp only
    -- The new cell is behind all cells that were taken before.
    have hcases : ∀ {a cell}, Dict.get? (Dict.insert s.cellOf id s.cells.length) a = some cell →
        a = id ∧ cell = s.cells.length ∨ Dict.get? s.cellOf a = some cell := by
      intro a cell ha
      rw [Dict.get?_insert] at ha
      split at ha
      · next heq => exact Or.inl ⟨heq.symm, (Option.some.inj ha).symm⟩
      · exact Or.inr ha
    constructor
    · exact h.unique.insert _ _
    · intro a cell ha
      dsimp only
      rw [List.length_append, List.length_singleton]
      rcases hcases ha with ⟨-, rfl⟩ | ha
      · exact Nat.lt_succ_self _
      · exact Nat.lt_succ_of_lt (h.taken ha)
    · intro a b cell ha hb
      rcases hcases ha with ⟨rfl, rfl⟩ | hold <;> rcases hcases hb with ⟨rfl, hlast⟩ | hold'
      · rfl
      · exact absurd (h.taken hold') (Nat.lt_irrefl _)
      · exact absurd (hlast ▸ h.taken hold) (Nat.lt_irrefl _)
      · exact h.own hold hold'

/-- An entity that is attended to for the first time senses nothing yet. -/
theorem awareness_attend (s : Senses) (id a : EntityId) :
    (s.attend id).2.awareness a = s.awareness a := by
  cases hget : Dict.get? s.cellOf id with
  | some cell => rw [attend_of_known hget]
  | none =>
    rw [attend_of_new hget]
    unfold awareness
    dsimp only
    by_cases ha : a = id
    · subst ha
      rw [Dict.get?_insert_self, hget]
      simp [read]
    · rw [Dict.get?_insert_of_ne _ _ (Ne.symm ha)]
      cases hother : Dict.get? s.cellOf a with
      | none => rfl
      | some cell => exact s.read_append cell _ _

theorem read_attend (s : Senses) (id : EntityId) :
    (s.attend id).2.read (s.attend id).1 = s.awareness id := by
  have h := s.awareness_attend id id
  rw [awareness, get?_attend] at h
  exact h

theorem sameContacts_attend (s : Senses) (id : EntityId) : s.SameContacts (s.attend id).2 where
  groundTags := s.groundTags_attend id
  sound h := h.attend id
  awareness _ a := by
    rw [awareness_attend]
    exact .refl _

/-! ## Changing what an entity senses -/

theorem modify_eq (s : Senses) (id : EntityId) (f : Awareness → Awareness) :
    s.modify id f = (s.attend id).2.modifyCell (s.attend id).1 f := rfl

theorem Sound.modify (h : s.Sound) (id : EntityId) (f : Awareness → Awareness) :
    (s.modify id f).Sound :=
  (h.attend id).modifyCell _ f

theorem groundTags_modify (s : Senses) (id : EntityId) (f : Awareness → Awareness) :
    (s.modify id f).groundTags = s.groundTags :=
  s.groundTags_attend id

theorem awareness_modify (h : s.Sound) (id : EntityId) (f : Awareness → Awareness)
    (a : EntityId) :
    (s.modify id f).awareness a = if a = id then f (s.awareness a) else s.awareness a := by
  rw [modify_eq, awareness_modifyCell (h.attend id) (s.get?_attend id), awareness_attend]

theorem sameContacts_modify (s : Senses) (id : EntityId) {f : Awareness → Awareness}
    (hf : ∀ a : Awareness, a.SameContacts (f a)) : s.SameContacts (s.modify id f) :=
  (s.sameContacts_attend id).trans (sameContacts_modifyCell _ _ hf)

theorem sameContacts_setSignal (s : Senses) (id : EntityId) (key : String) (v : Value) :
    s.SameContacts (s.setSignal id key v) :=
  s.sameContacts_modify id fun a => a.sameContacts_setSignal key v

theorem sameContacts_clearSignal (s : Senses) (id : EntityId) (key : String) :
    s.SameContacts (s.clearSignal id key) :=
  s.sameContacts_modify id fun a => a.sameContacts_setFlag key false

/-- A new frame leaves the contacts as they are. -/
theorem sameContacts_beginFrame (s : Senses) : s.SameContacts s.beginFrame := by
  unfold beginFrame
  -- The frame begins cell by cell, for the cells that belonged to somebody at the start.
  refine List.foldlRecOn (motive := fun t => s.SameContacts t) _ _ (.refl s) ?_
  intro t ht cell _
  exact ht.trans (t.sameContacts_modifyCell cell Awareness.sameContacts_beginFrame)

/-! ## Forgetting an entity -/

theorem Sound.forget (h : s.Sound) (id : EntityId) : (s.forget id).Sound := by
  have hkept : ∀ {a cell}, Dict.get? (Dict.erase s.cellOf id) a = some cell →
      Dict.get? s.cellOf a = some cell := by
    intro a cell ha
    by_cases heq : id = a
    · subst heq
      rw [Dict.get?_erase_self h.unique] at ha
      cases ha
    · rwa [Dict.get?_erase_of_ne _ heq] at ha
  exact ⟨h.unique.erase id, fun ha => h.taken (hkept ha), fun ha hb => h.own (hkept ha) (hkept hb)⟩

/-- An entity that is forgotten senses nothing, and nobody else notices. -/
theorem awareness_forget (h : s.Sound) (id a : EntityId) :
    (s.forget id).awareness a = if a = id then {} else s.awareness a := by
  unfold awareness forget
  dsimp only
  by_cases ha : a = id
  · rw [if_pos ha, ha, Dict.get?_erase_self h.unique]
  · rw [if_neg ha, Dict.get?_erase_of_ne _ (Ne.symm ha)]
    rfl

/-- Replacing what counts as ground leaves what is sensed alone. -/
theorem Sound.setGroundTags (h : s.Sound) (tags : List String) : (s.setGroundTags tags).Sound :=
  ⟨h.unique, h.taken, h.own⟩

end Senses

end SceneLogic
