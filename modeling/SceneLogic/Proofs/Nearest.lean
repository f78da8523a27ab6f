import SceneLogic.Store
import SceneLogic.Proofs.Dict
import SceneLogic.Proofs.Number.Patterns

/-!
# The nearest of the entities that have come in

A store is what its edits have made of it: entities were put in, replaced, removed and deactivated.
The names in it stand in the order in which they came in, where a name that was removed comes in
anew, and a replacement does not move it. The nearest entity of a role is found by going through
all of them in that order.

* `Store.CameIn` — when a name came in
* `Store.Standing` — which entity stands under a name
* `Store.leastBy_eq_some` — the first of the least ones of a list
* `Store.nearest_is_first_of_least` — which entity is the nearest, by the edits
-/

namespace SceneLogic

/-- The entity, but inactive. -/
def Entity.deactivated (e : Entity) : Entity :=
  { e with active := false }

@[simp] theorem Entity.deactivated_id (e : Entity) : e.deactivated.id = e.id := rfl

namespace Store

/-! ## Edits -/

/-- A change to the entities of a store. -/
inductive Edit where
  | put (e : Entity)
  | remove (id : EntityId)
  | deactivate (id : EntityId)

/-- The store after an edit. -/
def edit (s : Store) : Edit → Store
  | .put e => s.insert e
  | .remove id => s.erase id
  | .deactivate id => s.modify id Entity.deactivated

/-- The store that edits make of the empty one. -/
def after (edits : List Edit) : Store :=
  edits.foldl edit empty

/-- The name came in with the edit of this number: an entity was put in under it and has not been
removed since, and whenever one had been put in before, it was removed in between. -/
structure CameIn (edits : List Edit) (id : EntityId) (n : Nat) : Prop where
  put : ∃ e, edits[n]? = some (.put e) ∧ e.id = id
  kept : ∀ k, n < k → edits[k]? ≠ some (.remove id)
  anew : ∀ k < n, ∀ e, edits[k]? = some (.put e) → e.id = id →
    ∃ j, k < j ∧ j < n ∧ edits[j]? = some (.remove id)

/-- The one name came in before the other. -/
def Before (edits : List Edit) (id id' : EntityId) : Prop :=
  ∃ n n', CameIn edits id n ∧ CameIn edits id' n' ∧ n < n'

/-- These edits leave the entity under its name, but for deactivating it. -/
@[mk_iff]
structure Aged (since : List Edit) (e₀ e : Entity) : Prop where
  notReplaced : ∀ e', .put e' ∈ since → e'.id ≠ e₀.id
  notRemoved : .remove e₀.id ∉ since
  aged : .deactivate e₀.id ∉ since ∧ e = e₀ ∨
    .deactivate e₀.id ∈ since ∧ e = e₀.deactivated

/-- The entity stands under its name: it is the last one that was put in under it, has not been
removed since, and is inactive if it has been deactivated since. -/
def Standing (edits : List Edit) (e : Entity) : Prop :=
  ∃ earlier e₀ since, edits = earlier ++ .put e₀ :: since ∧ Aged since e₀ e

variable {edits : List Edit} {id id' : EntityId} {e e' : Entity} {n n' : Nat}

@[simp] theorem after_nil : after [] = empty := rfl

@[simp] theorem after_snoc (edits : List Edit) (x : Edit) :
    after (edits ++ [x]) = (after edits).edit x := by
  simp [after]

/-! ## Which entity stands under a name -/

theorem unique_after (edits : List Edit) : Dict.Unique (after edits).entries := by
  induction edits using List.reverseRecOn with
  | nil => exact List.nodup_nil
  | append_singleton edits x ih =>
    rw [after_snoc]
    cases x with
    | put e => exact ih.insert _ _
    | remove id => exact ih.erase _
    | deactivate id => exact ih.modify _ _

theorem get?_put (s : Store) (e : Entity) (id : EntityId) :
    (s.edit (.put e)).get? id = if e.id = id then some e else s.get? id :=
  Dict.get?_insert s.entries e.id e id

theorem get?_remove (edits : List Edit) (id₀ id : EntityId) :
    ((after edits).edit (.remove id₀)).get? id =
      if id₀ = id then none else (after edits).get? id := by
  split
  · next h => exact h ▸ Dict.get?_erase_self (unique_after edits) id₀
  · next h => exact Dict.get?_erase_of_ne _ h

theorem get?_deactivate (s : Store) (id₀ id : EntityId) :
    (s.edit (.deactivate id₀)).get? id =
      if id₀ = id then (s.get? id).map Entity.deactivated else s.get? id :=
  Dict.get?_modify s.entries id₀ _ id

variable {since : List Edit} {e₀ : Entity} {x : Edit}

theorem Aged.id_eq (h : Aged since e₀ e) : e.id = e₀.id := by
  rcases h.aged with ⟨-, rfl⟩ | ⟨-, rfl⟩ <;> rfl

theorem Aged.now (e : Entity) : Aged [] e e where
  notReplaced _ h := absurd h List.not_mem_nil
  notRemoved := List.not_mem_nil
  aged := Or.inl ⟨List.not_mem_nil, rfl⟩

theorem aged_snoc_put :
    Aged (since ++ [.put e']) e₀ e ↔ Aged since e₀ e ∧ e'.id ≠ e₀.id := by
  simp only [aged_iff, List.mem_append, List.mem_singleton, Edit.put.injEq, reduceCtorEq, or_false,
    or_imp, forall_and, forall_eq]
  tauto

theorem aged_snoc_remove :
    Aged (since ++ [.remove id]) e₀ e ↔ Aged since e₀ e ∧ id ≠ e₀.id := by
  simp only [aged_iff, List.mem_append, List.mem_singleton, Edit.remove.injEq, reduceCtorEq,
    or_false, not_or, eq_comm (a := e₀.id)]
  tauto

theorem aged_snoc_deactivate_of_ne (h : id ≠ e₀.id) :
    Aged (since ++ [.deactivate id]) e₀ e ↔ Aged since e₀ e := by
  simp only [aged_iff, List.mem_append, List.mem_singleton, Edit.deactivate.injEq, reduceCtorEq,
    or_false, h.symm]

theorem aged_snoc_deactivate : Aged (since ++ [.deactivate e₀.id]) e₀ e ↔
    ∃ e', Aged since e₀ e' ∧ e = e'.deactivated := by
  constructor
  · rintro ⟨hreplaced, hremoved, ⟨hnot, -⟩ | ⟨-, rfl⟩⟩
    · simp at hnot
    · simp only [List.mem_append, List.mem_singleton, reduceCtorEq, or_false] at hreplaced hremoved
      by_cases hbefore : .deactivate e₀.id ∈ since
      · exact ⟨_, ⟨hreplaced, hremoved, Or.inr ⟨hbefore, rfl⟩⟩, rfl⟩
      · exact ⟨_, ⟨hreplaced, hremoved, Or.inl ⟨hbefore, rfl⟩⟩, rfl⟩
  · rintro ⟨e', ⟨hreplaced, hremoved, haged⟩, rfl⟩
    refine ⟨by simpa using hreplaced, by simpa using hremoved, Or.inr ⟨by simp, ?_⟩⟩
    rcases haged with ⟨-, rfl⟩ | ⟨-, rfl⟩ <;> rfl

/-- What stands after one more edit was put in by it, or stood before and is aged by it. -/
theorem standing_snoc : Standing (edits ++ [x]) e ↔ x = .put e ∨
    ∃ earlier e₀ since, edits = earlier ++ .put e₀ :: since ∧ Aged (since ++ [x]) e₀ e := by
  constructor
  · rintro ⟨earlier, e₀, since, hedits, haged⟩
    rcases List.eq_nil_or_concat since with rfl | ⟨since, x', rfl⟩
    · obtain ⟨-, hx⟩ := List.append_inj' hedits rfl
      obtain rfl := List.head_eq_of_cons_eq hx
      rcases haged.aged with ⟨-, rfl⟩ | ⟨hmem, -⟩
      · exact Or.inl rfl
      · cases hmem
    · rw [List.concat_eq_append, ← List.cons_append, ← List.append_assoc] at hedits
      obtain ⟨rfl, hx⟩ := List.append_inj' hedits rfl
      obtain rfl := List.head_eq_of_cons_eq hx
      exact Or.inr ⟨earlier, e₀, since, rfl, by rwa [List.concat_eq_append] at haged⟩
  · rintro (rfl | ⟨earlier, e₀, since, rfl, haged⟩)
    · exact ⟨edits, e, [], rfl, .now e⟩
    · exact ⟨earlier, e₀, since ++ [x], by simp, haged⟩

/-- Where an edit spares the entities of all names but one, these stand as they stood. -/
theorem standing_of_aged_snoc
    (h : ∀ {since e₀ e}, Aged (since ++ [x]) e₀ e ↔ Aged since e₀ e ∧ id ≠ e₀.id) :
    (∃ earlier e₀ since, edits = earlier ++ .put e₀ :: since ∧ Aged (since ++ [x]) e₀ e) ↔
      Standing edits e ∧ id ≠ e.id := by
  constructor
  · rintro ⟨earlier, e₀, since, hedits, haged⟩
    obtain ⟨haged, hother⟩ := h.mp haged
    exact ⟨⟨earlier, e₀, since, hedits, haged⟩, haged.id_eq ▸ hother⟩
  · rintro ⟨⟨earlier, e₀, since, hedits, haged⟩, hother⟩
    exact ⟨earlier, e₀, since, hedits, h.mpr ⟨haged, haged.id_eq ▸ hother⟩⟩

theorem standing_snoc_put :
    Standing (edits ++ [.put e']) e ↔ e' = e ∨ Standing edits e ∧ e'.id ≠ e.id := by
  rw [standing_snoc, Edit.put.injEq, standing_of_aged_snoc aged_snoc_put]

theorem standing_snoc_remove :
    Standing (edits ++ [.remove id]) e ↔ Standing edits e ∧ id ≠ e.id := by
  rw [standing_snoc, or_iff_right Edit.noConfusion, standing_of_aged_snoc aged_snoc_remove]

theorem standing_snoc_deactivate : Standing (edits ++ [.deactivate id]) e ↔
    Standing edits e ∧ id ≠ e.id ∨
      ∃ e', Standing edits e' ∧ e'.id = id ∧ e = e'.deactivated := by
  rw [standing_snoc, or_iff_right Edit.noConfusion]
  constructor
  · rintro ⟨earlier, e₀, since, hedits, haged⟩
    by_cases hid : id = e₀.id
    · subst hid
      obtain ⟨e', haged', rfl⟩ := aged_snoc_deactivate.mp haged
      exact Or.inr ⟨e', ⟨earlier, e₀, since, hedits, haged'⟩, haged'.id_eq, rfl⟩
    · have haged := (aged_snoc_deactivate_of_ne hid).mp haged
      exact Or.inl ⟨⟨earlier, e₀, since, hedits, haged⟩, haged.id_eq ▸ hid⟩
  · rintro (⟨⟨earlier, e₀, since, hedits, haged⟩, hother⟩ |
      ⟨e', ⟨earlier, e₀, since, hedits, haged⟩, rfl, rfl⟩)
    · exact ⟨earlier, e₀, since, hedits,
        (aged_snoc_deactivate_of_ne (haged.id_eq ▸ hother)).mpr haged⟩
    · refine ⟨earlier, e₀, since, hedits, ?_⟩
      rw [haged.id_eq]
      exact aged_snoc_deactivate.mpr ⟨e', haged, rfl⟩

/-- What is found in the store under a name is what stands under it. -/
theorem get?_after : (after edits).get? id = some e ↔ Standing edits e ∧ e.id = id := by
  induction edits using List.reverseRecOn generalizing e with
  | nil =>
    refine iff_of_false (by simp [empty, get?]) ?_
    rintro ⟨⟨earlier, e₀, since, hedits, -⟩, -⟩
    exact List.append_ne_nil_of_right_ne_nil earlier (List.cons_ne_nil _ _) hedits.symm
  | append_singleton edits x ih =>
    rw [after_snoc]
    cases x with
    | put e' =>
      rw [get?_put, standing_snoc_put]
      split
      · grind
      · grind
    | remove id' =>
      rw [get?_remove, standing_snoc_remove]
      split
      · grind
      · grind
    | deactivate id' =>
      rw [get?_deactivate, standing_snoc_deactivate]
      split
      · next h =>
        simp only [Option.map_eq_some_iff, ih]
        grind [Entity.deactivated_id]
      · next h =>
        rw [ih]
        grind [Entity.deactivated_id]

/-! ## In which order the names came in -/

theorem ids_put (s : Store) (e : Entity) :
    (s.edit (.put e)).ids = if e.id ∈ s.ids then s.ids else s.ids ++ [e.id] :=
  Dict.keys_insert s.entries e.id e

theorem ids_deactivate (s : Store) (id : EntityId) : (s.edit (.deactivate id)).ids = s.ids :=
  Dict.keys_modify s.entries id _

/-- An edit that does not remove the name keeps it. -/
theorem mem_ids_edit {s : Store} (h : id ∈ s.ids) (hx : x ≠ .remove id) : id ∈ (s.edit x).ids := by
  cases x with
  | put e =>
    rw [ids_put]
    split
    · exact h
    · exact List.mem_append_left _ h
  | remove id' =>
    rw [ids, ← Dict.contains_eq_true_iff] at h ⊢
    have hne : id' ≠ id := fun heq => hx (heq ▸ rfl)
    rwa [Dict.contains, edit, erase, Dict.get?_erase_of_ne _ hne]
  | deactivate id' => rwa [ids_deactivate]

theorem mem_of_mem_ids_remove (h : id ∈ ((after edits).edit (.remove id')).ids) :
    id ∈ (after edits).ids ∧ id' ≠ id := by
  refine ⟨(Dict.keys_erase_sublist _ _).subset h, ?_⟩
  rintro rfl
  exact Dict.get?_eq_none_iff.mp (Dict.get?_erase_self (unique_after edits) id') h

/-- A name that was put in and not removed since is there. -/
theorem mem_ids_of_put {n : Nat} (hput : edits[n]? = some (.put e))
    (hkept : ∀ k, n < k → edits[k]? ≠ some (.remove e.id)) : e.id ∈ (after edits).ids := by
  induction edits using List.reverseRecOn with
  | nil => cases hput
  | append_singleton edits x ih =>
    rw [after_snoc]
    rcases Nat.lt_trichotomy n edits.length with hlt | rfl | hgt
    · rw [List.getElem?_append_left hlt] at hput
      refine mem_ids_edit (ih hput fun k hk hremove => ?_) fun hx => ?_
      · have hlen := (List.getElem?_eq_some_iff.mp hremove).1
        exact hkept k hk (by rwa [List.getElem?_append_left hlen])
      · exact hkept edits.length hlt (by simp [hx])
    · obtain rfl : x = .put e := by simpa using hput
      rw [ids_put]
      split
      · assumption
      · simp
    · rw [List.getElem?_eq_none (by simpa using hgt)] at hput
      cases hput

theorem CameIn.mem_ids (h : CameIn edits id n) : id ∈ (after edits).ids := by
  obtain ⟨e, hput, rfl⟩ := h.put
  exact mem_ids_of_put hput h.kept

theorem CameIn.lt (h : CameIn edits id n) : n < edits.length := by
  obtain ⟨e, hput, -⟩ := h.put
  exact (List.getElem?_eq_some_iff.mp hput).1

/-- A name came in once. -/
theorem CameIn.eq (h : CameIn edits id n) (h' : CameIn edits id n') : n = n' := by
  have hle : ∀ {n n'}, CameIn edits id n → CameIn edits id n' → n' ≤ n := by
    intro n n' h h'
    obtain ⟨e, hput, hid⟩ := h.put
    by_contra hlt
    obtain ⟨j, hj, -, hremove⟩ := h'.anew n (not_le.mp hlt) e hput hid
    exact h.kept j hj hremove
  exact le_antisymm (hle h' h) (hle h h')

/-- Two names that came in with one edit are one. -/
theorem CameIn.id_eq (h : CameIn edits id n) (h' : CameIn edits id' n) : id = id' := by
  obtain ⟨e, hput, rfl⟩ := h.put
  obtain ⟨e', hput', rfl⟩ := h'.put
  cases hput.symm.trans hput'
  rfl

/-- One more edit leaves when a name came in, unless it removes it. -/
theorem CameIn.snoc (h : CameIn edits id n) (hx : x ≠ .remove id) : CameIn (edits ++ [x]) id n := by
  have hlt := h.lt
  refine ⟨?_, fun k hk hremove => ?_, fun k hk e hput hid => ?_⟩
  · rw [List.getElem?_append_left hlt]
    exact h.put
  · rw [List.getElem?_append] at hremove
    split at hremove
    · exact h.kept k hk hremove
    · exact hx (List.mem_singleton.mp (List.mem_of_getElem? hremove)).symm
  · rw [List.getElem?_append_left (hk.trans hlt)] at hput
    obtain ⟨j, hkj, hjn, hremove⟩ := h.anew k hk e hput hid
    exact ⟨j, hkj, hjn, by rwa [List.getElem?_append_left (hjn.trans hlt)]⟩

/-- A name that is missing comes in when it is put in. -/
theorem cameIn_put (h : e.id ∉ (after edits).ids) :
    CameIn (edits ++ [.put e]) e.id edits.length := by
  refine ⟨⟨e, by simp, rfl⟩, fun k hk => ?_, fun k hk e' hput hid => ?_⟩
  · rw [List.getElem?_eq_none (by simpa using hk)]
    exact nofun
  · rw [List.getElem?_append_left hk] at hput
    by_contra hnone
    refine h (hid ▸ mem_ids_of_put hput fun j hj hremove => hnone ⟨j, hj, ?_⟩)
    have hlt := (List.getElem?_eq_some_iff.mp hremove).1
    exact ⟨hlt, by rwa [List.getElem?_append_left hlt, ← hid]⟩

theorem Before.snoc (h : Before edits id id') (hx : x ≠ .remove id) (hx' : x ≠ .remove id') :
    Before (edits ++ [x]) id id' := by
  obtain ⟨n, n', hn, hn', hlt⟩ := h
  exact ⟨n, n', hn.snoc hx, hn'.snoc hx', hlt⟩

/-- Every name that is there came in. -/
theorem exists_cameIn (h : id ∈ (after edits).ids) : ∃ n, CameIn edits id n := by
  induction edits using List.reverseRecOn with
  | nil => cases h
  | append_singleton edits x ih =>
    rw [after_snoc] at h
    cases x with
    | put e =>
      by_cases hid : id ∈ (after edits).ids
      · obtain ⟨n, hn⟩ := ih hid
        exact ⟨n, hn.snoc Edit.noConfusion⟩
      · obtain rfl : id = e.id := by
          rw [ids_put] at h
          split at h
          · exact absurd h hid
          · exact List.mem_singleton.mp ((List.mem_append.mp h).resolve_left hid)
        exact ⟨edits.length, cameIn_put hid⟩
    | remove id' =>
      obtain ⟨hid, hne⟩ := mem_of_mem_ids_remove h
      obtain ⟨n, hn⟩ := ih hid
      exact ⟨n, hn.snoc fun heq => hne (Edit.remove.inj heq)⟩
    | deactivate id' =>
      rw [ids_deactivate] at h
      obtain ⟨n, hn⟩ := ih h
      exact ⟨n, hn.snoc Edit.noConfusion⟩

/-- The names are in the order in which they came in. -/
theorem pairwise_before (edits : List Edit) : (after edits).ids.Pairwise (Before edits) := by
  induction edits using List.reverseRecOn with
  | nil => exact .nil
  | append_singleton edits x ih =>
    rw [after_snoc]
    cases x with
    | put e =>
      have hold := ih.imp fun h => h.snoc (x := .put e) Edit.noConfusion Edit.noConfusion
      rw [ids_put]
      split
      · exact hold
      · next hnew =>
        refine List.pairwise_append.mpr
          ⟨hold, List.pairwise_singleton _ _, fun id hid id' hid' => ?_⟩
        obtain rfl := List.mem_singleton.mp hid'
        obtain ⟨n, hn⟩ := exists_cameIn hid
        exact ⟨n, edits.length, hn.snoc Edit.noConfusion, cameIn_put hnew, hn.lt⟩
    | remove id' =>
      have hsublist := Dict.keys_erase_sublist (after edits).entries id'
      refine (ih.sublist hsublist).imp_of_mem fun ha hb h => h.snoc ?_ ?_
      · exact fun heq => (mem_of_mem_ids_remove ha).2 (Edit.remove.inj heq)
      · exact fun heq => (mem_of_mem_ids_remove hb).2 (Edit.remove.inj heq)
    | deactivate id' =>
      rw [ids_deactivate]
      exact ih.imp fun h => h.snoc Edit.noConfusion Edit.noConfusion

/-! ## The first of the least -/

variable {rank : Entity → Int} {entities : List Entity}

theorem leastBy_eq_none : leastBy rank entities = none ↔ entities = [] := by
  cases entities with
  | nil => exact iff_of_true rfl rfl
  | cons e rest =>
    refine iff_of_false ?_ (List.cons_ne_nil _ _)
    rw [leastBy]
    split <;> exact nofun

/-- What is found is less than everything before it, and no more than anything after it. -/
theorem leastBy_eq_some (h : leastBy rank entities = some e) : ∃ before later,
    entities = before ++ e :: later ∧ (∀ x ∈ before, rank e < rank x) ∧
      ∀ x ∈ later, rank e ≤ rank x := by
  induction entities generalizing e with
  | nil => cases h
  | cons first rest ih =>
    rw [leastBy] at h
    cases hrest : leastBy rank rest with
    | none =>
      rw [hrest] at h
      cases h
      rw [leastBy_eq_none.mp hrest]
      exact ⟨[], [], rfl, by simp, by simp⟩
    | some best =>
      rw [hrest] at h
      obtain ⟨before, later, rfl, hbefore, hlater⟩ := ih hrest
      dsimp only at h
      split at h
      · next hlt =>
        cases h
        exact ⟨first :: before, later, rfl, by simpa using ⟨hlt, hbefore⟩, hlater⟩
      · next hle =>
        cases h
        refine ⟨[], before ++ best :: later, rfl, by simp, fun x hx => (not_lt.mp hle).trans ?_⟩
        rcases List.mem_append.mp hx with hx | hx
        · exact (hbefore x hx).le
        · rcases List.mem_cons.mp hx with rfl | hx
          · exact le_rfl
          · exact hlater x hx

/-! ## The nearest -/

/-- The entity may be what is looked for: it stands under its name, is active, has the role and is
not the one that is left out. -/
structure Eligible (edits : List Edit) (role : String) (excluded : Option EntityId) (e : Entity) :
    Prop where
  standing : Standing edits e
  active : e.active = true
  role : e.role = some role
  other : some e.id ≠ excluded

/-- The one entity is nearer to the start than the other, or as near and came in before it. -/
def Precedes (edits : List Edit) (start : Point) (e e' : Entity) : Prop :=
  start.distanceRank e.position < start.distanceRank e'.position ∨
    start.distanceRank e.position = start.distanceRank e'.position ∧ Before edits e.id e'.id

variable {start : Point} {role : String} {excluded : Option EntityId}

theorem mem_toList : e ∈ (after edits).toList ↔ Standing edits e := by
  rw [toList, Dict.values, List.mem_map]
  constructor
  · rintro ⟨⟨id, e⟩, hmem, rfl⟩
    exact (get?_after.mp (Dict.get?_of_mem (unique_after edits) hmem)).1
  · intro h
    exact ⟨(e.id, e), Dict.mem_of_get? (get?_after.mpr ⟨h, rfl⟩), rfl⟩

theorem map_id_toList (edits : List Edit) :
    (after edits).toList.map (·.id) = (after edits).ids := by
  rw [toList, Dict.values, List.map_map]
  refine List.map_congr_left fun entry hmem => ?_
  exact (get?_after.mp (Dict.get?_of_mem (unique_after edits) (k := entry.1) hmem)).2

theorem mem_eligible : e ∈ (after edits).toList.filter (fun e => e.active && e.role = some role &&
    some e.id ≠ excluded) ↔ Eligible edits role excluded e := by
  rw [List.mem_filter, mem_toList]
  constructor
  · rintro ⟨hstanding, hfit⟩
    simp only [Bool.and_eq_true, decide_eq_true_eq] at hfit
    exact ⟨hstanding, hfit.1.1, hfit.1.2, hfit.2⟩
  · rintro ⟨hstanding, hactive, hrole, hother⟩
    refine ⟨hstanding, ?_⟩
    simpa using ⟨⟨hactive, hrole⟩, hother⟩

/-- The nearest entity precedes all others that may be looked for. -/
theorem nearest?_spec (h : (after edits).nearest? start role excluded = some e) :
    Eligible edits role excluded e ∧
      ∀ x, Eligible edits role excluded x → x = e ∨ Precedes edits start e x := by
  obtain ⟨before, later, hsplit, hbefore, hlater⟩ := leastBy_eq_some h
  refine ⟨mem_eligible.mp (hsplit ▸ by simp), fun x hx => ?_⟩
  have hordered : ((after edits).toList.filter fun e => e.active && e.role = some role &&
      some e.id ≠ excluded).Pairwise fun e e' => Before edits e.id e'.id := by
    refine List.Pairwise.filter _ (List.pairwise_map.mp ?_)
    rw [map_id_toList]
    exact pairwise_before edits
  rw [hsplit] at hordered
  have hmem := mem_eligible.mpr hx
  rw [hsplit, List.mem_append, List.mem_cons] at hmem
  rcases hmem with hmem | rfl | hmem
  · exact Or.inr (Or.inl (hbefore x hmem))
  · exact Or.inl rfl
  · have hcame := List.rel_of_pairwise_cons (List.pairwise_append.mp hordered).2.1 hmem
    exact Or.inr ((lt_or_eq_of_le (hlater x hmem)).imp_right fun heq => ⟨heq, hcame⟩)

/-- Of two entities at most one precedes the other. -/
theorem Precedes.asymm (h : Precedes edits start e e') : ¬ Precedes edits start e' e := by
  rintro (hlt | ⟨heq, n₁, n₁', hn₁, hn₁', hlt₁⟩)
  · rcases h with hlt' | ⟨heq, -⟩ <;> omega
  · rcases h with hlt' | ⟨-, n, n', hn, hn', hlt⟩
    · omega
    · have h1 := hn.eq hn₁'
      have h2 := hn'.eq hn₁
      omega

/-- In a store that edits have made, the names are there once each, in the order in which they came
in, with the entities that stand under them. Of the active entities of a role that are not left out,
the nearest to a place is found: the one at the least distance, and of several such ones the one
that came in first. None is found just in case there is none. -/
theorem nearest_is_first_of_least (edits : List Edit) :
    (after edits).ids.Nodup ∧ (after edits).ids.Pairwise (Before edits) ∧
    (∀ id, id ∈ (after edits).ids ↔ ∃ n, CameIn edits id n) ∧
    (∀ id e, (after edits).get? id = some e ↔ Standing edits e ∧ e.id = id) ∧
    ∀ start, start.OrdersDistances ∧ ∀ role excluded,
      ((after edits).nearest? start role excluded = none ↔
        ∀ e, ¬ Eligible edits role excluded e) ∧
      ∀ e, (after edits).nearest? start role excluded = some e ↔
        Eligible edits role excluded e ∧
          ∀ x, Eligible edits role excluded x → x = e ∨ Precedes edits start e x := by
  refine ⟨unique_after edits, pairwise_before edits,
    fun id => ⟨exists_cameIn, fun ⟨n, hn⟩ => hn.mem_ids⟩, fun id e => get?_after,
    fun start => ⟨start.ordersDistances, fun role excluded => ⟨?_, fun e => ⟨nearest?_spec, ?_⟩⟩⟩⟩
  · rw [nearest?, leastBy_eq_none, List.eq_nil_iff_forall_not_mem]
    exact forall_congr' fun e => not_congr mem_eligible
  · rintro ⟨heligible, hfirst⟩
    cases hfound : (after edits).nearest? start role excluded with
    | none =>
      rw [nearest?, leastBy_eq_none] at hfound
      have hmem := mem_eligible.mpr heligible
      rw [hfound] at hmem
      cases hmem
    | some e' =>
      obtain ⟨heligible', hfirst'⟩ := nearest?_spec hfound
      rcases hfirst e' heligible' with rfl | hprecedes
      · rfl
      · rcases hfirst' e heligible with rfl | hprecedes'
        · rfl
        · exact absurd hprecedes' hprecedes.asymm

end Store

end SceneLogic
