import SceneLogic.Proofs.Senses.Cells

/-!
# The contacts with one entity

Reports of contacts are about one entity at a time: `Contact.upsert` and `Contact.takeOut` act on
the contacts with that entity as they would if there were no others, and leave the others alone. So
where there was at most one contact with each entity there still is.
-/

namespace SceneLogic

namespace Contact

/-- The contacts with an entity. -/
def withEntity (other : EntityId) (l : List Contact) : List Contact :=
  l.filter fun c => c.other = other

theorem withEntity_cons_of_eq {d : Contact} {b : EntityId} (l : List Contact) (h : d.other = b) :
    withEntity b (d :: l) = d :: withEntity b l := by
  simp [withEntity, h]

theorem withEntity_cons_of_ne {d : Contact} {b : EntityId} (l : List Contact) (h : d.other ≠ b) :
    withEntity b (d :: l) = withEntity b l := by
  simp [withEntity, h]

theorem mem_withEntity {c : Contact} {b : EntityId} {l : List Contact} :
    c ∈ withEntity b l ↔ c ∈ l ∧ c.other = b := by
  simp [withEntity]

theorem withEntity_upsert_of_ne {c : Contact} {b : EntityId} (h : c.other ≠ b)
    (l : List Contact) : withEntity b (upsert c l) = withEntity b l := by
  induction l with
  | nil => exact withEntity_cons_of_ne [] h
  | cons d rest ih =>
    rw [upsert]
    split
    · next heq =>
      have hd : d.other ≠ b := heq ▸ h
      rw [withEntity_cons_of_ne (d := d.merge c) _ hd, withEntity_cons_of_ne _ hd]
    · by_cases hd : d.other = b
      · rw [withEntity_cons_of_eq _ hd, withEntity_cons_of_eq _ hd, ih]
      · rw [withEntity_cons_of_ne _ hd, withEntity_cons_of_ne _ hd, ih]

/-- Where there was no contact with the entity there is the new one, and where there was one it
takes over the tags. -/
theorem withEntity_upsert {c : Contact} {l : List Contact} {before : Option Contact}
    (h : withEntity c.other l = before.toList) :
    withEntity c.other (upsert c l) = [(before.map (·.merge c)).getD c] := by
  induction l with
  | nil =>
    cases before with
    | none => exact withEntity_cons_of_eq [] rfl
    | some d => cases h
  | cons d rest ih =>
    rw [upsert]
    by_cases hd : d.other = c.other
    · rw [withEntity_cons_of_eq _ hd] at h
      rw [if_pos hd, withEntity_cons_of_eq (d := d.merge c) _ hd]
      cases before with
      | none => cases h
      | some b =>
        obtain ⟨rfl, hrest⟩ := List.cons.inj h
        rw [hrest]
        rfl
    · rw [withEntity_cons_of_ne _ hd] at h
      rw [if_neg hd, withEntity_cons_of_ne _ hd, ih h]

theorem withEntity_takeOut_of_ne {o b : EntityId} (h : o ≠ b) (l : List Contact) :
    withEntity b (takeOut o l).2 = withEntity b l := by
  induction l with
  | nil => rfl
  | cons d rest ih =>
    rw [takeOut]
    split
    · next heq => rw [withEntity_cons_of_ne _ (heq ▸ h)]
    · by_cases hd : d.other = b
      · rw [withEntity_cons_of_eq _ hd, withEntity_cons_of_eq _ hd, ih]
      · rw [withEntity_cons_of_ne _ hd, withEntity_cons_of_ne _ hd, ih]

/-- Of the contacts with the entity the first one is taken out. -/
theorem withEntity_takeOut (b : EntityId) (l : List Contact) :
    withEntity b (takeOut b l).2 = (withEntity b l).tail := by
  induction l with
  | nil => rfl
  | cons d rest ih =>
    rw [takeOut]
    by_cases hd : d.other = b
    · rw [if_pos hd, withEntity_cons_of_eq _ hd, List.tail_cons]
    · rw [if_neg hd, withEntity_cons_of_ne _ hd, withEntity_cons_of_ne _ hd, ih]

/-! ## At most one contact with each entity -/

/-- No two of the contacts are with the same entity. -/
def Single (l : List Contact) : Prop :=
  ∀ b, (withEntity b l).length ≤ 1

theorem single_nil : Single [] :=
  fun _ => Nat.zero_le 1

theorem toList_of_length {l : List Contact} (h : l.length ≤ 1) : ∃ o : Option Contact,
    l = o.toList := by
  match l, h with
  | [], _ => exact ⟨none, rfl⟩
  | [c], _ => exact ⟨some c, rfl⟩

theorem Single.upsert {l : List Contact} (h : Single l) (c : Contact) : Single (c.upsert l) := by
  intro b
  by_cases hb : c.other = b
  · subst hb
    obtain ⟨before, hbefore⟩ := toList_of_length (h c.other)
    rw [withEntity_upsert hbefore]
    exact Nat.le_refl 1
  · rw [withEntity_upsert_of_ne hb]
    exact h b

theorem Single.takeOut {l : List Contact} (h : Single l) (o : EntityId) :
    Single (takeOut o l).2 := by
  intro b
  by_cases hb : o = b
  · subst hb
    rw [withEntity_takeOut, List.length_tail]
    have := h o
    omega
  · rw [withEntity_takeOut_of_ne hb]
    exact h b

/-- What is single is gone when it is taken out. -/
theorem Single.withEntity_takeOut {l : List Contact} (h : Single l) (b : EntityId) :
    withEntity b (Contact.takeOut b l).2 = [] := by
  rw [Contact.withEntity_takeOut]
  refine List.eq_nil_of_length_eq_zero ?_
  have := h b
  rw [List.length_tail]
  omega

end Contact

/-! ## Reports -/

namespace Awareness

variable {a : Awareness} {tags : List String}

/-- Some contact is with a thing that has one of the tags. -/
def OnGround (a : Awareness) (tags : List String) : Prop :=
  ∃ c ∈ a.current, ∃ tag ∈ tags, c.otherTag = some tag

/-- The ground flag is what the contacts and some tags make of it. -/
def Judged (a : Awareness) (tags : List String) : Prop :=
  a.grounded = a.touchesGround tags

theorem touchesGround_iff (a : Awareness) (tags : List String) :
    a.touchesGround tags = true ↔ a.OnGround tags := by
  unfold touchesGround OnGround
  rw [List.any_eq_true]
  refine exists_congr fun c => and_congr_right fun _ => ?_
  cases htag : c.otherTag with
  | none => simp
  | some tag => simp

theorem Judged.iff (h : a.Judged tags) : a.grounded = true ↔ a.OnGround tags := by
  rw [h, touchesGround_iff]

theorem judged_new (tags : List String) : Judged {} tags := rfl

theorem SameContacts.judged {a' : Awareness} (h : a.SameContacts a') (ha : a.Judged tags) :
    a'.Judged tags := by
  unfold Judged touchesGround
  rw [h.grounded, h.current]
  exact ha

theorem judged_enter (a : Awareness) (tags : List String) (c : Contact) :
    (a.enter tags c).Judged tags := rfl

theorem judged_stay (a : Awareness) (tags : List String) (c : Contact) :
    (a.stay tags c).Judged tags := rfl

theorem judged_exit (a : Awareness) (tags : List String) (other : EntityId) :
    (a.exit tags other).Judged tags := rfl

@[simp] theorem current_exit (a : Awareness) (tags : List String) (other : EntityId) :
    (a.exit tags other).current = (Contact.takeOut other a.current).2 := rfl

/-- Where there was at most one contact with an entity there is none after its end. -/
theorem exit_ends (h : Contact.Single a.current) (tags : List String) (other : EntityId) :
    ∀ c ∈ (a.exit tags other).current, c.other ≠ other := by
  intro c hc heq
  have hmem := Contact.mem_withEntity.mpr ⟨hc, heq⟩
  rw [current_exit, h.withEntity_takeOut] at hmem
  exact List.not_mem_nil hmem

end Awareness

end SceneLogic
