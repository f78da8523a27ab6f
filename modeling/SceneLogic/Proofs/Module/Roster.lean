import SceneLogic.Proofs.Module.Course
import SceneLogic.Proofs.Module.Settling

/-!
# Who waits, who is at work, and who is gone

Where each instance is can be read off the course alone, by entering one event after the other.
`Roster.Allows` says which events can come next: only an instance that the update has taken out
acts, in its turn, and not after its entity was cancelled, unless it is the one that is acting
already.

An instance that was dropped stays dropped, one that vanished never comes back, and all others are
held until they are reported.

* `Roster.enter` — what an entry of the course changes
* `Roster.Sound` — the numbers ascend, and between updates nobody is out
* `Roster.Dropped`, `Roster.Still`, `Roster.Vanished` — out of the way, each for good
* `Roster.Held` — somewhere, until it is reported or dropped
-/

namespace SceneLogic

/-- Where the instances are, by number and entity. -/
structure Roster where
  /-- In the pool, between updates. -/
  waiting : List (InstanceId × EntityId) := []
  /-- Taken out by the update that is under way. -/
  out : List (InstanceId × EntityId) := []
  /-- Started while the update is under way. -/
  fresh : List (InstanceId × EntityId) := []
  /-- The entities that were cancelled meanwhile, each with the instance that was acting. -/
  cancelled : List (EntityId × Option InstanceId) := []
  /-- The instances that acted meanwhile, the latest first. -/
  acted : List InstanceId := []
  updating : Bool := false
  /-- All numbers that were given are below. -/
  next : InstanceId := 0

namespace Roster

/-- The instance that acted last in the update that is under way. -/
def acting? (r : Roster) : Option InstanceId :=
  r.acted.head?

/-- The entities that were cancelled while the update is under way. -/
def removed (r : Roster) : List EntityId :=
  r.cancelled.map Prod.fst

/-- All instances that are somewhere. -/
def present (r : Roster) : List (InstanceId × EntityId) :=
  r.out ++ (r.waiting ++ r.fresh)

/-- The instances that wait when the update has closed with these reports. -/
def stays (r : Roster) (reports : List ModuleReport) : List (InstanceId × EntityId) :=
  (r.out.filter (· ∉ reports.map ModuleReport.key) ++ r.fresh).filter (·.2 ∉ r.removed)

/-- What an entry of the course changes. -/
def enter (r : Roster) : Happening → Roster
  | .ofPool (.started id entity _) =>
    if r.updating then { r with fresh := r.fresh ++ [(id, entity)], next := id + 1 }
    else { r with waiting := r.waiting ++ [(id, entity)], next := id + 1 }
  | .ofPool (.cancelled entity) =>
    { r with
      waiting := r.waiting.filter (·.2 ≠ entity)
      fresh := r.fresh.filter (·.2 ≠ entity)
      cancelled := if r.updating then (entity, r.acting?) :: r.cancelled else r.cancelled }
  | .ofPool .cleared => { r with waiting := [], fresh := [] }
  | .ofPool .opened => { r with waiting := [], out := r.waiting, updating := true }
  | .ofPool (.closed reports) => { waiting := r.stays reports, next := r.next }
  | .atNode id _ => { r with acted := id :: r.acted }
  | _ => r

/-- An instance may act: it goes on, or its turn has come and its entity was not cancelled. -/
structure MayAct (r : Roster) (id : InstanceId) : Prop where
  updating : r.updating = true
  turn : ∃ entity, (id, entity) ∈ r.out ∧
    (r.acting? = some id ∨ (∀ j, r.acting? = some j → j < id) ∧ entity ∉ r.removed)

/-- The update may close with these reports. They are about instances that it took out, none of
which was cancelled before its turn was over; and each of the others acted, or was cancelled. -/
structure MayClose (r : Roster) (reports : List ModuleReport) : Prop where
  updating : r.updating = true
  out : ∀ x ∈ reports, x.key ∈ r.out
  early : ∀ x ∈ reports, ∀ c ∈ r.cancelled, c.1 = x.entity → ∃ j, c.2 = some j ∧ x.instanceId ≤ j
  turns : ∀ k ∈ r.out, k.2 ∈ r.removed ∨ k ∈ reports.map ModuleReport.key ∨ k.1 ∈ r.acted

/-- The entries that can come next. -/
def Allows (r : Roster) : Happening → Prop
  | .ofPool (.started id _ _) => r.next ≤ id
  | .ofPool .opened => r.updating = false
  | .ofPool (.closed reports) => r.MayClose reports
  | .atNode id _ => r.MayAct id
  | _ => True

/-- Numbers ascend and are below the next one. While an update is under way nobody waits, and
between updates nobody is anywhere else. -/
structure Sound (r : Roster) : Prop where
  ascending : r.present.Pairwise fun k k' => k.1 < k'.1
  below : ∀ k ∈ r.present, k.1 < r.next
  acted : ∀ j ∈ r.acted, j < r.next
  busy : r.updating = true → r.waiting = []
  idle : r.updating = false → r.out = [] ∧ r.fresh = [] ∧ r.cancelled = [] ∧ r.acted = []

variable {r : Roster} {x : Happening} {id : InstanceId} {entity : EntityId} {cell : GraphRef}
  {reports : List ModuleReport} {k : InstanceId × EntityId}

theorem mem_present :
    k ∈ r.present ↔ k ∈ r.out ∨ k ∈ r.waiting ∨ k ∈ r.fresh := by
  simp only [present, List.mem_append]

theorem mem_stays : k ∈ r.stays reports ↔
    (k ∈ r.out ∧ k ∉ reports.map ModuleReport.key ∨ k ∈ r.fresh) ∧ k.2 ∉ r.removed := by
  simp only [stays, List.mem_filter, List.mem_append, decide_eq_true_eq]

/-! ## Entries -/

theorem enter_start (r : Roster) (id : InstanceId) (entity : EntityId) (cell : GraphRef) :
    r.enter (.ofPool (.started id entity cell)) =
      if r.updating then { r with fresh := r.fresh ++ [(id, entity)], next := id + 1 }
      else { r with waiting := r.waiting ++ [(id, entity)], next := id + 1 } :=
  rfl

theorem enter_cancel (r : Roster) (entity : EntityId) :
    r.enter (.ofPool (.cancelled entity)) =
      { r with
        waiting := r.waiting.filter (·.2 ≠ entity)
        fresh := r.fresh.filter (·.2 ≠ entity)
        cancelled := if r.updating then (entity, r.acting?) :: r.cancelled else r.cancelled } :=
  rfl

theorem enter_clear (r : Roster) :
    r.enter (.ofPool .cleared) = { r with waiting := [], fresh := [] } :=
  rfl

theorem enter_open (r : Roster) :
    r.enter (.ofPool .opened) = { r with waiting := [], out := r.waiting, updating := true } :=
  rfl

theorem enter_close (r : Roster) (reports : List ModuleReport) :
    r.enter (.ofPool (.closed reports)) = { waiting := r.stays reports, next := r.next } :=
  rfl

theorem enter_act (r : Roster) (id : InstanceId) (e : NodeEvent) :
    r.enter (.atNode id e) = { r with acted := id :: r.acted } :=
  rfl

theorem present_started (h : r.Sound) :
    (r.enter (.ofPool (.started id entity cell))).present = r.present ++ [(id, entity)] := by
  rw [enter_start]
  cases hupdating : r.updating with
  | true => simp only [present, if_true, List.append_assoc]
  | false =>
    obtain ⟨hout, hfresh, -, -⟩ := h.idle hupdating
    simp [present, hout, hfresh]

/-- A start leaves the update that is under way alone. -/
theorem enter_started (r : Roster) (id : InstanceId) (entity : EntityId) (cell : GraphRef) :
    (r.enter (.ofPool (.started id entity cell))).out = r.out ∧
      (r.enter (.ofPool (.started id entity cell))).acted = r.acted ∧
      (r.enter (.ofPool (.started id entity cell))).updating = r.updating ∧
      (r.enter (.ofPool (.started id entity cell))).cancelled = r.cancelled := by
  rw [enter_start]
  split
  · exact ⟨rfl, rfl, rfl, rfl⟩
  · exact ⟨rfl, rfl, rfl, rfl⟩

/-- Nobody comes in but by a start. -/
theorem sublist_enter (h : r.Sound) (hallow : r.Allows x)
    (hx : ∀ id entity cell, x ≠ .ofPool (.started id entity cell)) :
    (r.enter x).present.Sublist r.present := by
  cases x with
  | ofPool e =>
    cases e with
    | started id entity cell => exact absurd rfl (hx id entity cell)
    | cancelled entity =>
      exact (List.Sublist.refl _).append (List.filter_sublist.append List.filter_sublist)
    | cleared => exact (List.Sublist.refl _).append (List.nil_sublist _)
    | opened =>
      obtain ⟨hout, hfresh, -, -⟩ := h.idle hallow
      simp only [enter_open, present, hout, hfresh, List.append_nil, List.nil_append]
      exact List.Sublist.refl _
    | closed reports =>
      have hwaiting := h.busy hallow.updating
      simp only [enter_close, present, stays, hwaiting, List.nil_append, List.append_nil]
      exact List.filter_sublist.trans (List.filter_sublist.append (List.Sublist.refl _))
  | _ => exact List.Sublist.refl _

theorem next_le_enter (hallow : r.Allows x) : r.next ≤ (r.enter x).next := by
  cases x with
  | ofPool e =>
    cases e with
    | started id entity cell =>
      have hid : r.next ≤ id := hallow
      rw [enter_start]
      split
      · exact Nat.le_succ_of_le hid
      · exact Nat.le_succ_of_le hid
    | _ => exact Nat.le_refl _
  | _ => exact Nat.le_refl _

theorem next_started : (r.enter (.ofPool (.started id entity cell))).next = id + 1 := by
  rw [enter_start]
  split
  · rfl
  · rfl

theorem Sound.acted_enter (h : r.Sound) (hallow : r.Allows x) :
    ∀ j ∈ (r.enter x).acted, j < (r.enter x).next := by
  intro j hj
  refine Nat.lt_of_lt_of_le ?_ (next_le_enter hallow)
  cases x with
  | ofPool e =>
    cases e with
    | started id entity cell =>
      rw [(r.enter_started id entity cell).2.1] at hj
      exact h.acted j hj
    | closed reports => exact absurd hj List.not_mem_nil
    | _ => exact h.acted j hj
  | atNode id e =>
    rcases List.mem_cons.mp hj with rfl | hj
    · obtain ⟨entity, hout, -⟩ := hallow.turn
      exact h.below _ (mem_present.mpr (Or.inl hout))
    · exact h.acted j hj
  | _ => exact h.acted j hj

/-- Nobody waits while an update is under way. -/
theorem Sound.busy_enter (h : r.Sound) (hbusy : (r.enter x).updating = true) :
    (r.enter x).waiting = [] := by
  cases x with
  | ofPool e =>
    cases e with
    | started id entity cell =>
      rw [(r.enter_started id entity cell).2.2.1] at hbusy
      rw [enter_start, if_pos hbusy]
      exact h.busy hbusy
    | cancelled entity =>
      rw [enter_cancel, h.busy hbusy]
      rfl
    | cleared => rfl
    | opened => rfl
    | closed reports => exact absurd hbusy Bool.false_ne_true
  | _ => exact h.busy hbusy

/-- Between updates nobody is out, fresh, listed as cancelled or acting. -/
theorem Sound.idle_enter (h : r.Sound) (hallow : r.Allows x)
    (hidle : (r.enter x).updating = false) :
    (r.enter x).out = [] ∧ (r.enter x).fresh = [] ∧ (r.enter x).cancelled = [] ∧
      (r.enter x).acted = [] := by
  cases x with
  | ofPool e =>
    cases e with
    | started id entity cell =>
      rw [(r.enter_started id entity cell).2.2.1] at hidle
      rw [enter_start, if_neg (Bool.eq_false_iff.mp hidle)]
      exact h.idle hidle
    | cancelled entity =>
      have hidle : r.updating = false := hidle
      obtain ⟨hout, hfresh, hcancelled, hacted⟩ := h.idle hidle
      simp [enter_cancel, hidle, hout, hfresh, hcancelled, hacted]
    | cleared =>
      obtain ⟨hout, -, hcancelled, hacted⟩ := h.idle hidle
      exact ⟨hout, rfl, hcancelled, hacted⟩
    | opened => exact absurd hidle.symm Bool.false_ne_true
    | closed reports => exact ⟨rfl, rfl, rfl, rfl⟩
  | atNode id e => exact absurd (hidle.symm.trans hallow.updating) Bool.false_ne_true
  | _ => exact h.idle hidle

/-- Whoever comes in has a number above all that are there. -/
theorem Sound.present_enter (h : r.Sound) (hallow : r.Allows x) :
    ((r.enter x).present.Pairwise fun k k' => k.1 < k'.1) ∧
      ∀ k ∈ (r.enter x).present, k.1 < (r.enter x).next := by
  by_cases hx : ∃ id entity cell, x = .ofPool (.started id entity cell)
  · obtain ⟨id, entity, cell, rfl⟩ := hx
    have hnew : ∀ k ∈ r.present, k.1 < id :=
      fun k hk => Nat.lt_of_lt_of_le (h.below k hk) hallow
    rw [present_started h, next_started]
    refine ⟨List.pairwise_append.mpr ⟨h.ascending, List.pairwise_singleton _ _, ?_⟩, ?_⟩
    · intro k hk k' hk'
      rw [List.mem_singleton.mp hk']
      exact hnew k hk
    · intro k hk
      rcases List.mem_append.mp hk with hk | hk
      · exact Nat.lt_succ_of_lt (hnew k hk)
      · rw [List.mem_singleton.mp hk]
        exact Nat.lt_succ_self id
  · have hsub := sublist_enter h hallow fun id entity cell heq => hx ⟨id, entity, cell, heq⟩
    refine ⟨h.ascending.sublist hsub, fun k hk => ?_⟩
    exact Nat.lt_of_lt_of_le (h.below k (hsub.subset hk)) (next_le_enter hallow)

theorem Sound.enter (h : r.Sound) (hallow : r.Allows x) : (r.enter x).Sound where
  ascending := (h.present_enter hallow).1
  below := (h.present_enter hallow).2
  acted := h.acted_enter hallow
  busy := h.busy_enter
  idle := h.idle_enter hallow

/-! ## Instances that are gone -/

/-- The number was given, and the instance is nowhere. -/
structure Vanished (r : Roster) (id : InstanceId) : Prop where
  given : id < r.next
  absent : ∀ k ∈ r.present, k.1 ≠ id

/-- The instance does not wait, and if the update that is under way has it, its entity was
cancelled meanwhile. -/
structure Dropped (r : Roster) (id : InstanceId) : Prop where
  given : id < r.next
  waiting : ∀ k ∈ r.waiting, k.1 ≠ id
  marked : ∀ k ∈ r.out ++ r.fresh, k.1 = id → k.2 ∈ r.removed

/-- The instance was dropped, and is not acting. -/
structure Still (r : Roster) (id : InstanceId) : Prop extends r.Dropped id where
  acting : r.acting? ≠ some id

theorem Vanished.enter (h : r.Vanished id) (hr : r.Sound) (hallow : r.Allows x) :
    (r.enter x).Vanished id := by
  refine ⟨Nat.lt_of_lt_of_le h.given (next_le_enter hallow), ?_⟩
  by_cases hx : ∃ id entity cell, x = .ofPool (.started id entity cell)
  · obtain ⟨id', entity, cell, rfl⟩ := hx
    have hid : r.next ≤ id' := hallow
    rw [present_started hr]
    intro k hk
    rcases List.mem_append.mp hk with hk | hk
    · exact h.absent k hk
    · rw [List.mem_singleton.mp hk]
      exact Nat.ne_of_gt (Nat.lt_of_lt_of_le h.given hid)
  · have hsub := sublist_enter hr hallow fun id entity cell heq => hx ⟨id, entity, cell, heq⟩
    exact fun k hk => h.absent k (hsub.subset hk)

theorem Dropped.enter (h : r.Dropped id) (hr : r.Sound) (hallow : r.Allows x) :
    (r.enter x).Dropped id := by
  have hgiven := Nat.lt_of_lt_of_le h.given (next_le_enter hallow)
  cases x with
  | ofPool e =>
    cases e with
    | started id' entity cell =>
      have hne : id' ≠ id := Nat.ne_of_gt (Nat.lt_of_lt_of_le h.given hallow)
      rw [enter_start] at hgiven ⊢
      cases hupdating : r.updating with
      | true =>
        rw [hupdating, if_pos rfl] at hgiven
        refine ⟨hgiven, h.waiting, fun k hk hid => ?_⟩
        rw [if_pos rfl, ← List.append_assoc] at hk
        rcases List.mem_append.mp hk with hk | hk
        · exact h.marked k hk hid
        · rw [List.mem_singleton.mp hk] at hid
          exact absurd hid hne
      | false =>
        rw [hupdating, if_neg Bool.false_ne_true] at hgiven
        refine ⟨hgiven, fun k hk => ?_, h.marked⟩
        rw [if_neg Bool.false_ne_true] at hk
        rcases List.mem_append.mp hk with hk | hk
        · exact h.waiting k hk
        · rw [List.mem_singleton.mp hk]
          exact hne
    | cancelled entity =>
      refine ⟨hgiven, fun k hk => h.waiting k (List.mem_filter.mp hk).1, fun k hk hid => ?_⟩
      have hk : k ∈ r.out ++ r.fresh :=
        ((List.Sublist.refl _).append List.filter_sublist).subset hk
      have hmarked := h.marked k hk hid
      rw [removed, enter_cancel]
      dsimp only
      split
      · exact List.mem_cons_of_mem _ hmarked
      · exact hmarked
    | cleared =>
      refine ⟨hgiven, fun k hk => absurd hk List.not_mem_nil, fun k hk hid => ?_⟩
      exact h.marked k (((List.Sublist.refl _).append (List.nil_sublist _)).subset hk) hid
    | opened =>
      obtain ⟨-, hfresh, -, -⟩ := hr.idle hallow
      refine ⟨hgiven, fun k hk => absurd hk List.not_mem_nil, fun k hk hid => ?_⟩
      rw [enter_open, hfresh, List.append_nil] at hk
      exact absurd hid (h.waiting k hk)
    | closed reports =>
      refine ⟨hgiven, fun k hk hid => ?_, fun k hk => absurd hk List.not_mem_nil⟩
      obtain ⟨hk, hpresent⟩ := mem_stays.mp hk
      exact hpresent (h.marked k (List.mem_append.mpr (hk.imp_left And.left)) hid)
  | _ => exact ⟨hgiven, h.waiting, h.marked⟩

/-- When the update closes, what was dropped has vanished. -/
theorem Dropped.vanished (h : r.Dropped id) (hr : r.Sound) (hidle : r.updating = false) :
    r.Vanished id := by
  obtain ⟨hout, hfresh, -, -⟩ := hr.idle hidle
  refine ⟨h.given, fun k hk => h.waiting k ?_⟩
  simpa [present, hout, hfresh] using hk

/-- What vanished is not reported. -/
theorem Vanished.not_reported (h : r.Vanished id) (hclose : r.MayClose reports) :
    ∀ x ∈ reports, x.instanceId ≠ id :=
  fun x hx => h.absent _ (mem_present.mpr (Or.inl (hclose.out x hx)))

/-- What is still does not act. -/
theorem Still.not_mayAct (h : r.Still id) : ¬ r.MayAct id := by
  rintro ⟨-, entity, hout, hacting | ⟨-, hpresent⟩⟩
  · exact h.acting hacting
  · exact hpresent (h.marked _ (List.mem_append_left _ hout) rfl)

theorem Still.enter (h : r.Still id) (hr : r.Sound) (hallow : r.Allows x) :
    (r.enter x).Still id := by
  refine ⟨h.toDropped.enter hr hallow, ?_⟩
  cases x with
  | ofPool e =>
    cases e with
    | started id' entity cell =>
      rw [acting?, enter_start]
      split
      · exact h.acting
      · exact h.acting
    | closed reports => exact fun heq => by cases heq
    | _ => exact h.acting
  | atNode id' e =>
    intro heq
    rw [acting?, enter_act] at heq
    rw [Option.some.inj heq] at hallow
    exact h.not_mayAct hallow
  | _ => exact h.acting

/-! ## Instances that are held -/

/-- The instance is somewhere, and its entity is not listed as cancelled. -/
structure Held (r : Roster) (k : InstanceId × EntityId) : Prop where
  present : k ∈ r.present
  spared : k.2 ∉ r.removed

/-- Between updates all that are held wait. -/
theorem Held.waiting (h : r.Held k) (hr : r.Sound) (hidle : r.updating = false) :
    k ∈ r.waiting := by
  obtain ⟨hout, hfresh, -, -⟩ := hr.idle hidle
  simpa [Roster.present, hout, hfresh] using h.present

/-- Nothing takes an instance away but its report, the cancellation of its entity, or, if the update
does not have it, the dropping of all modules. -/
theorem Held.enter (h : r.Held k) (hr : r.Sound) (hallow : r.Allows x)
    (hcancel : x ≠ .ofPool (.cancelled k.2))
    (hclear : x ≠ .ofPool .cleared ∨ k ∈ r.out)
    (hreport : ∀ reports, x = .ofPool (.closed reports) → k ∉ reports.map ModuleReport.key) :
    (r.enter x).Held k := by
  cases x with
  | ofPool e =>
    cases e with
    | started id entity cell =>
      refine ⟨?_, ?_⟩
      · rw [present_started hr]
        exact List.mem_append_left _ h.present
      · rw [removed, enter_start]
        split
        · exact h.spared
        · exact h.spared
    | cancelled entity =>
      have hne : k.2 ≠ entity := fun heq => hcancel (by rw [heq])
      refine ⟨mem_present.mpr ?_, ?_⟩
      · rcases mem_present.mp h.present with hk | hk | hk
        · exact Or.inl hk
        · exact Or.inr (Or.inl (List.mem_filter.mpr ⟨hk, decide_eq_true hne⟩))
        · exact Or.inr (Or.inr (List.mem_filter.mpr ⟨hk, decide_eq_true hne⟩))
      · rw [removed, enter_cancel]
        dsimp only
        split
        · exact fun hmem => (List.mem_cons.mp hmem).elim hne h.spared
        · exact h.spared
    | cleared =>
      have hout : k ∈ r.out := hclear.resolve_left fun hne => hne rfl
      exact ⟨mem_present.mpr (Or.inl hout), h.spared⟩
    | opened =>
      obtain ⟨hout, -, -, -⟩ := hr.idle hallow
      refine ⟨mem_present.mpr ?_, h.spared⟩
      rcases mem_present.mp h.present with hk | hk | hk
      · rw [hout] at hk
        exact absurd hk List.not_mem_nil
      · exact Or.inl hk
      · exact Or.inr (Or.inr hk)
    | closed reports =>
      have hwaiting := hr.busy hallow.updating
      refine ⟨mem_present.mpr (Or.inr (Or.inl (mem_stays.mpr ⟨?_, h.spared⟩))),
        List.not_mem_nil⟩
      rcases mem_present.mp h.present with hk | hk | hk
      · exact Or.inl ⟨hk, hreport reports rfl⟩
      · rw [hwaiting] at hk
        exact absurd hk List.not_mem_nil
      · exact Or.inr hk
  | _ => exact ⟨h.present, h.spared⟩

end Roster

end SceneLogic
