import SceneLogic.Proofs.Module.Roster

/-!
# Orderly courses

In an orderly course each entry is one that the roster allows at its moment. What such a course
tells of an instance is for good:

* `Orderly.still_silent`, `Orderly.vanished_silent` — who is still does not act again, and who
  vanished is not reported, either
* `Orderly.fate` — what was started is held until it is reported or dropped
* `Orderly.turn` — each instance that waits when an update opens has its turn
-/

namespace SceneLogic

/-- Where the instances are at the end of a course. -/
def rosterOf (course : List Happening) : Roster :=
  course.foldr (fun x r => r.enter x) {}

@[simp] theorem rosterOf_cons (x : Happening) (course : List Happening) :
    rosterOf (x :: course) = (rosterOf course).enter x := rfl

/-- Each entry is one that could come next. -/
inductive Orderly : List Happening → Prop
  | nil : Orderly []
  | cons {x : Happening} {course : List Happening} : Orderly course →
      (rosterOf course).Allows x → Orderly (x :: course)

/-- The instance does something at a node in this part of a course. -/
def ActsIn (part : List Happening) (id : InstanceId) : Prop :=
  ∃ e, .atNode id e ∈ part

/-- An update ends in this part of a course. -/
def ClosesIn (part : List Happening) : Prop :=
  ∃ reports, .ofPool (.closed reports) ∈ part

/-- An update that ends in this part of a course reports the instance. -/
def ReportedIn (part : List Happening) (id : InstanceId) : Prop :=
  ∃ reports, .ofPool (.closed reports) ∈ part ∧ ∃ x ∈ reports, x.instanceId = id

/-- The instance was started for the entity. -/
def StartedIn (course : List Happening) (id : InstanceId) (entity : EntityId) : Prop :=
  ∃ cell, .ofPool (.started id entity cell) ∈ course

namespace Orderly

variable {course later earlier : List Happening} {x : Happening} {id : InstanceId}
  {entity entity' : EntityId} {cell : GraphRef}

theorem of_append (h : Orderly (later ++ earlier)) : Orderly earlier := by
  induction later with
  | nil => exact h
  | cons x rest ih =>
    cases h with
    | cons hrest _ => exact ih hrest

theorem tail (h : Orderly (x :: course)) : Orderly course := by
  cases h with
  | cons hrest _ => exact hrest

theorem head (h : Orderly (x :: course)) : (rosterOf course).Allows x := by
  cases h with
  | cons _ hallow => exact hallow

theorem allows (h : Orderly (later ++ x :: earlier)) : (rosterOf earlier).Allows x :=
  h.of_append.head

theorem sound (h : Orderly course) : (rosterOf course).Sound := by
  induction h with
  | nil =>
    exact ⟨List.Pairwise.nil, fun _ hk => absurd hk List.not_mem_nil,
      fun _ hj => absurd hj List.not_mem_nil, fun _ => rfl, fun _ => ⟨rfl, rfl, rfl, rfl⟩⟩
  | cons _ hallow ih => exact ih.enter hallow

/-- What each entry of a part of the course preserves holds at the end if it held before. -/
theorem carries {P : Roster → Prop}
    (hP : ∀ r, ∀ x ∈ later, r.Sound → r.Allows x → P r → P (r.enter x))
    (h : Orderly (later ++ earlier)) (hstart : P (rosterOf earlier)) :
    P (rosterOf (later ++ earlier)) := by
  induction later with
  | nil => exact hstart
  | cons x rest ih =>
    cases h with
    | cons hrest hallow =>
      refine hP _ x List.mem_cons_self hrest.sound hallow (ih (fun r y hy => ?_) hrest)
      exact hP r y (List.mem_cons_of_mem _ hy)

theorem started_lt (h : Orderly course) (hstart : StartedIn course id entity) :
    id < (rosterOf course).next := by
  obtain ⟨cell, hmem⟩ := hstart
  induction h with
  | nil => exact absurd hmem List.not_mem_nil
  | cons hrest hallow ih =>
    rcases List.mem_cons.mp hmem with rfl | hmem
    · rw [rosterOf_cons, Roster.next_started]
      exact Nat.lt_succ_self id
    · exact Nat.lt_of_lt_of_le (ih hmem) (Roster.next_le_enter hallow)

/-- A number is given to one instance only. -/
theorem started_unique (h : Orderly course) (hstart : StartedIn course id entity)
    (hstart' : StartedIn course id entity') : entity = entity' := by
  obtain ⟨cell, hmem⟩ := hstart
  obtain ⟨cell', hmem'⟩ := hstart'
  induction h with
  | nil => exact absurd hmem List.not_mem_nil
  | cons hrest hallow ih =>
    -- Were one of them started last, its number would be greater than that of the other.
    rcases List.mem_cons.mp hmem with rfl | hold
    · rcases List.mem_cons.mp hmem' with heq | hold'
      · cases heq
        rfl
      · exact absurd (hrest.started_lt ⟨cell', hold'⟩) (Nat.not_lt.mpr hallow)
    · rcases List.mem_cons.mp hmem' with rfl | hold'
      · exact absurd (hrest.started_lt ⟨cell, hold⟩) (Nat.not_lt.mpr hallow)
      · exact ih hold hold'

/-- Whoever is somewhere was started. -/
theorem present_started (h : Orderly course) :
    ∀ k ∈ (rosterOf course).present, StartedIn course k.1 k.2 := by
  induction h with
  | nil => exact fun k hk => absurd hk List.not_mem_nil
  | @cons x course hrest hallow ih =>
    have hold : ∀ k ∈ (rosterOf course).present, StartedIn (x :: course) k.1 k.2 := by
      intro k hk
      obtain ⟨cell, hmem⟩ := ih k hk
      exact ⟨cell, List.mem_cons_of_mem _ hmem⟩
    by_cases hx : ∃ id entity cell, x = .ofPool (.started id entity cell)
    · obtain ⟨id, entity, cell, rfl⟩ := hx
      rw [rosterOf_cons, Roster.present_started hrest.sound]
      intro k hk
      rcases List.mem_append.mp hk with hk | hk
      · exact hold k hk
      · rw [List.mem_singleton.mp hk]
        exact ⟨cell, List.mem_cons_self⟩
    · have hsub := Roster.sublist_enter hrest.sound hallow
        fun id entity cell heq => hx ⟨id, entity, cell, heq⟩
      exact fun k hk => hold k (hsub.subset hk)

/-- The instance of a number that was given to another is not somewhere. -/
theorem entity_of_present (h : Orderly course) (hstart : StartedIn course id entity)
    {k : InstanceId × EntityId} (hk : k ∈ (rosterOf course).present) (hid : k.1 = id) :
    k.2 = entity := by
  subst hid
  exact h.started_unique (h.present_started k hk) hstart

/-! ### What is for good -/

theorem dropped (h : Orderly (later ++ earlier)) (hdropped : (rosterOf earlier).Dropped id) :
    (rosterOf (later ++ earlier)).Dropped id :=
  h.carries (P := fun r => r.Dropped id) (fun _ _ _ hr hallow hd => hd.enter hr hallow) hdropped

theorem still (h : Orderly (later ++ earlier)) (hstill : (rosterOf earlier).Still id) :
    (rosterOf (later ++ earlier)).Still id :=
  h.carries (P := fun r => r.Still id) (fun _ _ _ hr hallow hs => hs.enter hr hallow) hstill

theorem vanished (h : Orderly (later ++ earlier)) (hvanished : (rosterOf earlier).Vanished id) :
    (rosterOf (later ++ earlier)).Vanished id :=
  h.carries (P := fun r => r.Vanished id) (fun _ _ _ hr hallow hv => hv.enter hr hallow) hvanished

/-- What all entries preserve holds before each entry of a part, if it held before the part. -/
theorem meets {P : Roster → Prop} (h : Orderly (later ++ earlier))
    (hP : ∀ {r x}, r.Sound → r.Allows x → P r → P (r.enter x)) (hstart : P (rosterOf earlier))
    (hmem : x ∈ later) : ∃ r : Roster, r.Sound ∧ P r ∧ r.Allows x := by
  obtain ⟨after, before, rfl⟩ := List.append_of_mem hmem
  rw [List.append_assoc] at h
  have hbefore : Orderly (before ++ earlier) := h.of_append.tail
  exact ⟨_, hbefore.sound, hbefore.carries (fun _ _ _ hr hallow hp => hP hr hallow hp) hstart,
    h.allows⟩

theorem still_silent (h : Orderly (later ++ earlier)) (hstill : (rosterOf earlier).Still id) :
    ¬ ActsIn later id := by
  rintro ⟨e, hmem⟩
  obtain ⟨r, -, hr, hallow⟩ := h.meets (P := fun r => r.Still id)
    (fun hr hallow hs => hs.enter hr hallow) hstill hmem
  exact hr.not_mayAct hallow

/-- Who is never taken out neither acts nor is reported. -/
theorem out_silent {P : Roster → Prop} (h : Orderly (later ++ earlier))
    (hP : ∀ {r x}, r.Sound → r.Allows x → P r → P (r.enter x)) (hstart : P (rosterOf earlier))
    (hout : ∀ {r}, P r → ∀ k ∈ r.out, k.1 ≠ id) : ¬ ActsIn later id ∧ ¬ ReportedIn later id := by
  constructor
  · rintro ⟨e, hmem⟩
    obtain ⟨r, -, hr, hallow⟩ := h.meets hP hstart hmem
    obtain ⟨entity, hk, -⟩ := hallow.turn
    exact hout hr _ hk rfl
  · rintro ⟨reports, hmem, x, hx, hid⟩
    obtain ⟨r, -, hr, hallow⟩ := h.meets hP hstart hmem
    exact hout hr _ (hallow.out x hx) hid

theorem vanished_silent (h : Orderly (later ++ earlier))
    (hvanished : (rosterOf earlier).Vanished id) :
    ¬ ActsIn later id ∧ ¬ ReportedIn later id :=
  h.out_silent (P := fun r => r.Vanished id) (fun hr hallow hv => hv.enter hr hallow) hvanished
    fun hv k hk => hv.absent k (Roster.mem_present.mpr (Or.inl hk))

/-! ### What is held -/

/-- What was started, in an update that had not had its entity cancelled or between updates, is held
until it is reported, its entity is cancelled, or all modules are dropped. -/
theorem fate (h : Orderly (later ++ .ofPool (.started id entity cell) :: earlier))
    (hspared : entity ∉ (rosterOf earlier).removed) :
    (rosterOf (later ++ .ofPool (.started id entity cell) :: earlier)).Held (id, entity) ∨
      ReportedIn later id ∨ .ofPool (.cancelled entity) ∈ later ∨ .ofPool .cleared ∈ later := by
  by_cases hcancel : .ofPool (.cancelled entity) ∈ later
  · exact Or.inr (Or.inr (Or.inl hcancel))
  by_cases hclear : .ofPool .cleared ∈ later
  · exact Or.inr (Or.inr (Or.inr hclear))
  by_cases hreport : ReportedIn later id
  · exact Or.inr (Or.inl hreport)
  refine Or.inl (h.carries (P := fun r => r.Held (id, entity)) ?_ ?_)
  · intro r x hx hr hallow hheld
    refine hheld.enter hr hallow (fun heq => hcancel (heq ▸ hx)) (Or.inl fun heq => hclear (heq ▸ hx))
      fun reports heq hmem => ?_
    obtain ⟨y, hy, hkey⟩ := List.mem_map.mp hmem
    exact hreport ⟨reports, heq ▸ hx, y, hy, congrArg Prod.fst hkey⟩
  · have hearlier := h.of_append.tail.sound
    obtain ⟨-, -, -, hcancelled⟩ := (rosterOf earlier).enter_started id entity cell
    refine ⟨?_, ?_⟩
    · rw [rosterOf_cons, Roster.present_started hearlier]
      exact List.mem_append_right _ List.mem_cons_self
    · rw [rosterOf_cons, Roster.removed, hcancelled]
      exact hspared

/-- While an update is under way it keeps the instances that it took out. Whose entity is listed was
cancelled since it opened, and who acted did so since. -/
theorem underway {during before : List Happening}
    (h : Orderly (during ++ .ofPool .opened :: before)) (hcloses : ¬ ClosesIn during) :
    (rosterOf (during ++ .ofPool .opened :: before)).updating = true ∧
    (rosterOf (during ++ .ofPool .opened :: before)).out = (rosterOf before).waiting ∧
    (∀ e ∈ (rosterOf (during ++ .ofPool .opened :: before)).removed,
      .ofPool (.cancelled e) ∈ during) ∧
    ∀ j ∈ (rosterOf (during ++ .ofPool .opened :: before)).acted, ActsIn during j := by
  induction during with
  | nil =>
    obtain ⟨-, -, hcancelled, hacted⟩ := h.tail.sound.idle h.head
    refine ⟨rfl, rfl, fun e he => ?_, fun j hj => ?_⟩
    · rw [List.nil_append, rosterOf_cons, Roster.removed, Roster.enter_open, hcancelled] at he
      exact absurd he List.not_mem_nil
    · rw [List.nil_append, rosterOf_cons, Roster.enter_open, hacted] at hj
      exact absurd hj List.not_mem_nil
  | cons x rest ih =>
    have hallow : (rosterOf (rest ++ .ofPool .opened :: before)).Allows x := h.head
    have hrest : ¬ ClosesIn rest := by
      rintro ⟨reports, hmem⟩
      exact hcloses ⟨reports, List.mem_cons_of_mem _ hmem⟩
    obtain ⟨hupdating, hout, hremoved, hacted⟩ := ih h.tail hrest
    have hremoved' : ∀ e ∈ (rosterOf (rest ++ .ofPool .opened :: before)).removed,
        .ofPool (.cancelled e) ∈ x :: rest := fun e he => List.mem_cons_of_mem _ (hremoved e he)
    have hacted' : ∀ j ∈ (rosterOf (rest ++ .ofPool .opened :: before)).acted,
        ActsIn (x :: rest) j := by
      intro j hj
      obtain ⟨e, hmem⟩ := hacted j hj
      exact ⟨e, List.mem_cons_of_mem _ hmem⟩
    rw [List.cons_append, rosterOf_cons]
    cases x with
    | ofPool e =>
      cases e with
      | started id entity cell =>
        obtain ⟨hout', hacting, hup, hcancelled⟩ := (rosterOf _).enter_started id entity cell
        rw [hout', hacting, hup, Roster.removed, hcancelled]
        exact ⟨hupdating, hout, hremoved', hacted'⟩
      | cancelled entity =>
        refine ⟨hupdating, hout, fun e he => ?_, hacted'⟩
        rw [Roster.removed, Roster.enter_cancel, hupdating] at he
        rcases List.mem_cons.mp he with rfl | he
        · exact List.mem_cons_self
        · exact hremoved' e he
      | cleared => exact ⟨hupdating, hout, hremoved', hacted'⟩
      | opened => exact absurd (hupdating.symm.trans hallow) Bool.noConfusion
      | closed reports => exact absurd ⟨reports, List.mem_cons_self⟩ hcloses
    | atNode id e =>
      refine ⟨hupdating, hout, hremoved', fun j hj => ?_⟩
      rcases List.mem_cons.mp hj with rfl | hj
      · exact ⟨e, List.mem_cons_self⟩
      · exact hacted' j hj
    | _ => exact ⟨hupdating, hout, hremoved', hacted'⟩

/-- Each instance that waits when an update opens has its turn: it acts or is reported, unless its
entity is cancelled in the update. -/
theorem turn {during before : List Happening} {reports : List ModuleReport}
    (h : Orderly (.ofPool (.closed reports) :: (during ++ .ofPool .opened :: before)))
    (hcloses : ¬ ClosesIn during) (hwaits : (id, entity) ∈ (rosterOf before).waiting) :
    ActsIn during id ∨ (∃ x ∈ reports, x.instanceId = id) ∨
      .ofPool (.cancelled entity) ∈ during := by
  obtain ⟨-, hout, hremoved, hacted⟩ := h.tail.underway hcloses
  have hclose := h.head
  rcases hclose.turns (id, entity) (hout ▸ hwaits) with hgone | hreported | hact
  · exact Or.inr (Or.inr (hremoved entity hgone))
  · obtain ⟨x, hx, hkey⟩ := List.mem_map.mp hreported
    exact Or.inr (Or.inl ⟨x, hx, congrArg Prod.fst hkey⟩)
  · exact Or.inl (hacted id hact)

end Orderly

end SceneLogic
