import SceneLogic.Proofs.Senses.Telling

/-!
# The contacts that a history of collisions leaves

A report of a collision names two entities, in either order, and may give each of them a tag. What
two entities have to do with each other after some reports depends on those that name both, and of
these on the ones since the last that told of an end: `Collision.sinceBegan`. If there are any, each
of the two has one contact with the other, with the tags that were given last.

`Senses.Follows` says that of all entities. A report that both sides keep track of keeps it.
-/

namespace SceneLogic

/-- A report of a collision. -/
structure Collision where
  type : String
  first : EntityId
  second : EntityId
  firstTag : Option String
  secondTag : Option String
  isCollision : Director.isCollision type = true

/-- The event as a report of a collision. -/
def Event.collision? (e : Event) : Option Collision :=
  if h : Director.isCollision e.type = true then
    match e.entity? "entityA", e.entity? "entityB" with
    | some a, some b => some ⟨e.type, a, b, e.text? "tagA", e.text? "tagB", h⟩
    | _, _ => none
  else none

namespace Collision

/-- The report names both entities, in either order. -/
def joins (x : Collision) (a b : EntityId) : Bool :=
  x.first = a ∧ x.second = b ∨ x.first = b ∧ x.second = a

/-- The report tells that the contact has ended. -/
def ends (x : Collision) : Bool :=
  x.type = EventType.collisionExit

/-- The tag that the report gives to one of its entities. -/
def tagOf (x : Collision) (id : EntityId) : Option String :=
  if x.first = id then x.firstTag else x.secondTag

/-- The contact of the first of two entities with the second, as the report has it. -/
def side (x : Collision) (a b : EntityId) : Contact :=
  ⟨b, x.tagOf b, x.tagOf a⟩

/-- The reports of two entities since their contact began, the latest first. -/
def sinceBegan (history : List Collision) (a b : EntityId) : List Collision :=
  (history.filter fun x => x.joins a b).takeWhile fun x => !x.ends

/-- The tag that was given last to an entity since its contact with another one began. -/
def lastTag (history : List Collision) (a b id : EntityId) : Option String :=
  (sinceBegan history a b).findSome? (·.tagOf id)

/-- The contact that an entity has with another one after some reports. -/
def contact (history : List Collision) (a b : EntityId) : Option Contact :=
  if sinceBegan history a b = [] then none
  else some ⟨b, lastTag history a b b, lastTag history a b a⟩

variable {x : Collision} {history : List Collision} {a b : EntityId}

theorem joins_iff : x.joins a b = true ↔
    x.first = a ∧ x.second = b ∨ x.first = b ∧ x.second = a :=
  decide_eq_true_iff

theorem joins_comm (x : Collision) (a b : EntityId) : x.joins a b = x.joins b a := by
  unfold joins
  exact decide_eq_decide.mpr Or.comm

theorem sinceBegan_comm (history : List Collision) (a b : EntityId) :
    sinceBegan history a b = sinceBegan history b a := by
  simp only [sinceBegan, joins_comm _ a b]

theorem lastTag_comm (history : List Collision) (a b id : EntityId) :
    lastTag history a b id = lastTag history b a id := by
  rw [lastTag, sinceBegan_comm, lastTag]

/-- Whatever does not tell of an end begins a contact or tells that it lasts. -/
theorem type_of_not_ends (h : x.ends = false) :
    x.type = EventType.collisionEnter ∨ x.type = EventType.collisionStay := by
  have hcollision := x.isCollision
  have hends : x.type ≠ EventType.collisionExit := of_decide_eq_false h
  simpa [Director.isCollision, hends] using hcollision

theorem sinceBegan_cons_of_not_joins (h : x.joins a b = false) :
    sinceBegan (x :: history) a b = sinceBegan history a b := by
  simp [sinceBegan, h]

theorem sinceBegan_cons_of_ends (h : x.joins a b = true) (hends : x.ends = true) :
    sinceBegan (x :: history) a b = [] := by
  simp [sinceBegan, h, hends]

theorem sinceBegan_cons (h : x.joins a b = true) (hends : x.ends = false) :
    sinceBegan (x :: history) a b = x :: sinceBegan history a b := by
  simp [sinceBegan, h, hends]

/-- A contact is there if the latest report of the two does not tell of its end. -/
theorem sinceBegan_ne_nil_iff : sinceBegan history a b ≠ [] ↔
    ∃ x, history.find? (fun x => x.joins a b) = some x ∧ x.ends = false := by
  induction history with
  | nil => simp [sinceBegan]
  | cons x rest ih =>
    cases hjoins : x.joins a b with
    | false =>
      rw [sinceBegan_cons_of_not_joins hjoins, ih, List.find?_cons_of_neg (by simp [hjoins])]
    | true =>
      rw [List.find?_cons_of_pos (by simp [hjoins])]
      cases hends : x.ends with
      | true => simp [sinceBegan_cons_of_ends hjoins hends, hends]
      | false => simp [sinceBegan_cons hjoins hends, hends]

/-! ## The contact after one report more -/

theorem contact_eq_some_iff {c : Contact} : contact history a b = some c ↔
    sinceBegan history a b ≠ [] ∧ c = ⟨b, lastTag history a b b, lastTag history a b a⟩ := by
  unfold contact
  by_cases hnone : sinceBegan history a b = []
  · simp [hnone]
  · simp [hnone, eq_comm]

theorem contact_cons_of_not_joins (h : x.joins a b = false) :
    contact (x :: history) a b = contact history a b := by
  simp only [contact, lastTag, sinceBegan_cons_of_not_joins h]

theorem contact_cons_of_ends (h : x.joins a b = true) (hends : x.ends = true) :
    contact (x :: history) a b = none := by
  rw [contact, if_pos (sinceBegan_cons_of_ends h hends)]

theorem lastTag_cons (h : x.joins a b = true) (hends : x.ends = false) (id : EntityId) :
    lastTag (x :: history) a b id = (x.tagOf id <|> lastTag history a b id) := by
  rw [lastTag, sinceBegan_cons h hends, List.findSome?_cons, lastTag]
  cases x.tagOf id with
  | none => rfl
  | some tag => rfl

/-- A report that a contact begins or lasts is merged into the contact. -/
theorem contact_cons (h : x.joins a b = true) (hends : x.ends = false) :
    contact (x :: history) a b =
      some (((contact history a b).map (·.merge (x.side a b))).getD (x.side a b)) := by
  have hnew : sinceBegan (x :: history) a b ≠ [] := by
    rw [sinceBegan_cons h hends]
    exact List.cons_ne_nil _ _
  rw [contact, if_neg hnew, lastTag_cons h hends, lastTag_cons h hends, contact]
  by_cases hnone : sinceBegan history a b = []
  · simp [hnone, lastTag, side]
  · rw [if_neg hnone]
    rfl

end Collision

/-! ## Keeping track -/

namespace Senses

/-- Both sides of a collision keep track of it. -/
def touch (s : Senses) (x : Collision) : Senses :=
  Director.trackContact
    (Director.trackContact s x.type x.first ⟨x.second, x.secondTag, x.firstTag⟩)
    x.type x.second ⟨x.first, x.firstTag, x.secondTag⟩

/-- Of each two entities each has the contact with the other that the history leaves. No entity
has a contact with itself, unless a report named one twice. -/
structure Follows (s : Senses) (history : List Collision) : Prop extends s.Orderly where
  contacts : ∀ a b, (a ≠ b ∨ ∀ x ∈ history, x.first ≠ x.second) →
    Contact.withEntity b (s.awareness a).current = (Collision.contact history a b).toList

variable {s : Senses} {x : Collision} {history : List Collision}

theorem told_touch (s : Senses) (x : Collision) : s.Told (s.touch x) :=
  Director.told_touch s x.type x.first x.second _ _

/-- The report of one side, and what becomes of the contacts of that side. -/
theorem trackContact_modify (s : Senses) (x : Collision) (id : EntityId) (c : Contact) :
    ∃ f : Awareness → Awareness, Director.trackContact s x.type id c = s.modify id f ∧
      (x.ends = true → ∀ a, (f a).current = (Contact.takeOut c.other a.current).2) ∧
      (x.ends = false → ∀ a, (f a).current = c.upsert a.current) := by
  cases hends : x.ends with
  | true =>
    have hexit : x.type = EventType.collisionExit := of_decide_eq_true hends
    refine ⟨(·.exit s.groundTags c.other), ?_, fun _ _ => rfl, nofun⟩
    rw [hexit]
    rfl
  | false =>
    rcases Collision.type_of_not_ends hends with htype | htype
    · refine ⟨(·.enter s.groundTags c), ?_, nofun, fun _ _ => rfl⟩
      rw [htype]
      rfl
    · refine ⟨(·.stay s.groundTags c), ?_, nofun, fun _ _ => rfl⟩
      rw [htype]
      rfl

/-- Nobody but the entity that keeps track is concerned, and of that entity no contact but the one
that is reported. -/
theorem withEntity_trackContact_of_ne (h : s.Sound) {id a b : EntityId} {c : Contact}
    (hne : a = id → c.other ≠ b) :
    Contact.withEntity b ((Director.trackContact s x.type id c).awareness a).current =
      Contact.withEntity b (s.awareness a).current := by
  obtain ⟨f, heq, hends, hlasts⟩ := trackContact_modify s x id c
  rw [heq, awareness_modify h]
  by_cases ha : a = id
  · rw [if_pos ha]
    cases hx : x.ends with
    | true => rw [hends hx, Contact.withEntity_takeOut_of_ne (hne ha)]
    | false => rw [hlasts hx, Contact.withEntity_upsert_of_ne (hne ha)]
  · rw [if_neg ha]

/-- The contact that is reported ends, or the report is merged into it. -/
theorem withEntity_trackContact (h : s.Orderly) {a b : EntityId} {c : Contact} (hc : c.other = b)
    {before : Option Contact}
    (hbefore : Contact.withEntity b (s.awareness a).current = before.toList) :
    Contact.withEntity b ((Director.trackContact s x.type a c).awareness a).current =
      if x.ends then [] else [(before.map (·.merge c)).getD c] := by
  subst hc
  obtain ⟨f, heq, hends, hlasts⟩ := trackContact_modify s x a c
  rw [heq, awareness_modify h.toSound, if_pos rfl]
  cases hx : x.ends with
  | true => rw [hends hx, (h.single a).withEntity_takeOut, if_pos rfl]
  | false => rw [hlasts hx, Contact.withEntity_upsert hbefore, if_neg Bool.false_ne_true]

/-- Of two entities that a report does not both name neither gains or loses a contact with the
other. -/
theorem withEntity_touch_of_not_joins (h : s.Orderly) {a b : EntityId}
    (hjoins : x.joins a b = false) :
    Contact.withEntity b ((s.touch x).awareness a).current =
      Contact.withEntity b (s.awareness a).current := by
  have hnot : ¬ (x.first = a ∧ x.second = b ∨ x.first = b ∧ x.second = a) :=
    of_decide_eq_false hjoins
  have hfirst := h.told
    (Director.told_trackContact s x.type x.first ⟨x.second, x.secondTag, x.firstTag⟩)
  unfold touch
  rw [withEntity_trackContact_of_ne hfirst.toSound, withEntity_trackContact_of_ne h.toSound]
  · rintro rfl hb
    exact hnot (Or.inl ⟨rfl, hb⟩)
  · rintro rfl hb
    exact hnot (Or.inr ⟨hb, rfl⟩)

/-- A report that names two entities reaches each of them. -/
theorem withEntity_touch (h : s.Orderly) {a b : EntityId} (hab : a ≠ b)
    (hjoins : x.joins a b = true) {before : Option Contact}
    (hbefore : Contact.withEntity b (s.awareness a).current = before.toList) :
    Contact.withEntity b ((s.touch x).awareness a).current =
      if x.ends then [] else [(before.map (·.merge (x.side a b))).getD (x.side a b)] := by
  let c : Contact := ⟨x.second, x.secondTag, x.firstTag⟩
  have hfirst := h.told (Director.told_trackContact s x.type x.first c)
  rcases Collision.joins_iff.mp hjoins with ⟨rfl, rfl⟩ | ⟨rfl, rfl⟩
  · -- The first side keeps track, and the second leaves that alone.
    have hside : x.side x.first x.second = c := by
      simp [Collision.side, Collision.tagOf, hab, c]
    have hkept := withEntity_trackContact_of_ne (x := x) (c := ⟨x.first, x.firstTag, x.secondTag⟩)
      (b := x.second) hfirst.toSound fun heq => absurd heq hab
    rw [hside]
    exact hkept.trans (withEntity_trackContact (c := c) h rfl hbefore)
  · have hside : x.side x.second x.first = ⟨x.first, x.firstTag, x.secondTag⟩ := by
      simp [Collision.side, Collision.tagOf, hab.symm]
    have hkept := withEntity_trackContact_of_ne (x := x) (c := c) (b := x.first) h.toSound
      fun heq => absurd heq hab
    rw [hside]
    exact withEntity_trackContact (c := ⟨x.first, x.firstTag, x.secondTag⟩) hfirst rfl
      (hkept.trans hbefore)

theorem follows_new (tags : List String) : Follows { groundTags := tags } [] where
  toOrderly := orderly_new tags
  contacts _ _ _ := rfl

theorem Follows.same {s' : Senses} (h : s.Follows history) (hs : s.SameContacts s') :
    s'.Follows history where
  toOrderly := h.toOrderly.same hs
  contacts a b hab := by
    rw [(hs.awareness h.toSound a).current]
    exact h.contacts a b hab

/-- A report that both sides keep track of is a part of the history. -/
theorem Follows.touch (h : s.Follows history) (x : Collision) :
    (s.touch x).Follows (x :: history) where
  toOrderly := h.toOrderly.told (s.told_touch x)
  contacts a b hab := by
    have hbefore := h.contacts a b
      (hab.imp_right fun hall y hy => hall y (List.mem_cons_of_mem _ hy))
    cases hjoins : x.joins a b with
    | false =>
      rw [withEntity_touch_of_not_joins h.toOrderly hjoins, hbefore,
        Collision.contact_cons_of_not_joins hjoins]
    | true =>
      have hne : a ≠ b := by
        rcases hab with hab | hall
        · exact hab
        · rintro rfl
          refine hall x List.mem_cons_self ?_
          rcases Collision.joins_iff.mp hjoins with ⟨hfirst, hsecond⟩ | ⟨hfirst, hsecond⟩ <;>
            rw [hfirst, hsecond]
      rw [withEntity_touch h.toOrderly hne hjoins hbefore]
      cases hends : x.ends with
      | true => rw [Collision.contact_cons_of_ends hjoins hends]; rfl
      | false => rw [Collision.contact_cons hjoins hends]; rfl

/-- The contacts with an entity are the one that the history leaves, if any. -/
theorem Follows.mem_iff (h : s.Follows history) {a b : EntityId}
    (hab : a ≠ b ∨ ∀ x ∈ history, x.first ≠ x.second) {c : Contact} :
    c ∈ (s.awareness a).current ∧ c.other = b ↔ Collision.contact history a b = some c := by
  rw [← Contact.mem_withEntity, h.contacts a b hab, Option.mem_toList]

end Senses

end SceneLogic
