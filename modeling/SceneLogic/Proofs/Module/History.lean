import SceneLogic.World

/-!
# Histories of the pool

A history lists what became of the modules, the latest first. This module reads off it which
instances were started and reported, and which of them a cancellation has dropped:

* `startedIn`, `reportsIn` — the starts and the reports
* `Cancelled` — the entity of an instance was cancelled after its start, or before it in the same
  update
-/

namespace SceneLogic

namespace PoolEvent

/-- The instance that was started, and its entity. -/
def started? : PoolEvent → Option (InstanceId × EntityId)
  | .started id entity _ => some (id, entity)
  | _ => none

/-- The reports of an update that ended. -/
def reports : PoolEvent → List ModuleReport
  | .closed reports => reports
  | _ => []

end PoolEvent

/-- The instances that were started, with their entities, the latest first. -/
def startedIn (h : List PoolEvent) : List (InstanceId × EntityId) :=
  h.filterMap PoolEvent.started?

/-- All reports, those of the latest update first. -/
def reportsIn (h : List PoolEvent) : List ModuleReport :=
  h.flatMap PoolEvent.reports

/-- An update has ended in this part of a history. -/
def Closes (h : List PoolEvent) : Prop :=
  ∃ reports, PoolEvent.closed reports ∈ h

/-- The entity was cancelled in the update that was under way at the end of the history. -/
def CancelledNow (h : List PoolEvent) (entity : EntityId) : Prop :=
  ∃ now before, h = now ++ .opened :: before ∧ .cancelled entity ∈ now ∧ ¬ Closes now

/-- The entity of an instance was cancelled after the instance was started, or before it in the
update in which it was started. -/
def Cancelled (h : List PoolEvent) (id : InstanceId) (entity : EntityId) : Prop :=
  ∃ later cell earlier, h = later ++ .started id entity cell :: earlier ∧
    (.cancelled entity ∈ later ∨ CancelledNow earlier entity)

variable {h : List PoolEvent} {id id' : InstanceId} {entity entity' : EntityId} {cell : GraphRef}

@[simp] theorem startedIn_nil : startedIn [] = [] := rfl

@[simp] theorem startedIn_started :
    startedIn (.started id entity cell :: h) = (id, entity) :: startedIn h := rfl

@[simp] theorem startedIn_cancelled : startedIn (.cancelled entity :: h) = startedIn h := rfl

@[simp] theorem startedIn_cleared : startedIn (.cleared :: h) = startedIn h := rfl

@[simp] theorem startedIn_opened : startedIn (.opened :: h) = startedIn h := rfl

@[simp] theorem startedIn_closed (reports : List ModuleReport) :
    startedIn (.closed reports :: h) = startedIn h := rfl

@[simp] theorem startedIn_append (h' : List PoolEvent) :
    startedIn (h ++ h') = startedIn h ++ startedIn h' :=
  List.filterMap_append

@[simp] theorem reportsIn_nil : reportsIn [] = [] := rfl

@[simp] theorem reportsIn_started :
    reportsIn (.started id entity cell :: h) = reportsIn h := rfl

@[simp] theorem reportsIn_cancelled : reportsIn (.cancelled entity :: h) = reportsIn h := rfl

@[simp] theorem reportsIn_opened : reportsIn (.opened :: h) = reportsIn h := rfl

@[simp] theorem reportsIn_closed (reports : List ModuleReport) :
    reportsIn (.closed reports :: h) = reports ++ reportsIn h := rfl

@[simp] theorem reportsIn_append (h' : List PoolEvent) :
    reportsIn (h ++ h') = reportsIn h ++ reportsIn h' :=
  List.flatMap_append

theorem mem_startedIn : (id, entity) ∈ startedIn h ↔ ∃ cell, .started id entity cell ∈ h := by
  constructor
  · intro hmem
    obtain ⟨e, he, hs⟩ := List.mem_filterMap.mp hmem
    cases e with
    | started id₁ entity₁ cell =>
      cases hs
      exact ⟨cell, he⟩
    | _ => cases hs
  · rintro ⟨cell, hmem⟩
    exact List.mem_filterMap.mpr ⟨_, hmem, rfl⟩

/-- Without a closed update there are no reports. -/
theorem reportsIn_of_not_closes (hc : ¬ Closes h) : reportsIn h = [] := by
  refine List.flatMap_eq_nil_iff.mpr fun e he => ?_
  cases e with
  | closed reports => exact absurd ⟨reports, he⟩ hc
  | _ => rfl

/-! ## Cancellation, event by event -/

theorem Cancelled.cons (hc : Cancelled h id entity) (e : PoolEvent) :
    Cancelled (e :: h) id entity := by
  obtain ⟨later, cell, earlier, rfl, hcase⟩ := hc
  refine ⟨e :: later, cell, earlier, rfl, ?_⟩
  rcases hcase with hmem | hnow
  · exact Or.inl (List.mem_cons_of_mem _ hmem)
  · exact Or.inr hnow

theorem Cancelled.append (hc : Cancelled h id entity) (later : List PoolEvent) :
    Cancelled (later ++ h) id entity := by
  induction later with
  | nil => exact hc
  | cons e _ ih => exact ih.cons e

/-- A cancellation after a start drops what was started. -/
theorem cancelled_of_later (later : List PoolEvent) (hstart : (id, entity) ∈ startedIn h)
    (hcancel : .cancelled entity ∈ later) : Cancelled (later ++ h) id entity := by
  obtain ⟨cell, hmem⟩ := mem_startedIn.mp hstart
  obtain ⟨between, earlier, rfl⟩ := List.append_of_mem hmem
  refine ⟨later ++ between, cell, earlier, by rw [List.append_assoc], Or.inl ?_⟩
  exact List.mem_append_left _ hcancel

/-- An event that neither starts the instance nor cancels its entity drops nothing. -/
theorem Cancelled.of_cons {e : PoolEvent} (hc : Cancelled (e :: h) id entity)
    (hstart : ∀ cell, e ≠ .started id entity cell) (hcancel : e ≠ .cancelled entity) :
    Cancelled h id entity := by
  obtain ⟨later, cell, earlier, heq, hcase⟩ := hc
  cases later with
  | nil =>
    rw [List.nil_append] at heq
    exact absurd (List.cons.inj heq).1 (hstart cell)
  | cons e' later =>
    obtain ⟨rfl, rfl⟩ := List.cons.inj heq
    refine ⟨later, cell, earlier, rfl, ?_⟩
    rcases hcase with hmem | hnow
    · rcases List.mem_cons.mp hmem with he | hmem
      · exact absurd he.symm hcancel
      · exact Or.inl hmem
    · exact Or.inr hnow

theorem Cancelled.of_append {now : List PoolEvent} (hc : Cancelled (now ++ h) id entity)
    (hstart : ∀ cell, .started id entity cell ∉ now) (hcancel : .cancelled entity ∉ now) :
    Cancelled h id entity := by
  induction now with
  | nil => exact hc
  | cons e now ih =>
    refine ih ?_ (fun cell hmem => hstart cell (List.mem_cons_of_mem _ hmem))
      (fun hmem => hcancel (List.mem_cons_of_mem _ hmem))
    refine Cancelled.of_cons hc ?_ ?_
    · rintro cell rfl
      exact hstart cell List.mem_cons_self
    · rintro rfl
      exact hcancel List.mem_cons_self

/-! ## The update under way -/

/-- All updates of the history have ended. -/
def AllClosed (h : List PoolEvent) : Prop :=
  ∀ now before, h = now ++ .opened :: before → Closes now

/-- An event that opens no update leaves all of them closed. -/
theorem AllClosed.cons {e : PoolEvent} (hclosed : AllClosed h) (he : e ≠ .opened) :
    AllClosed (e :: h) := by
  intro now before heq
  cases now with
  | nil => exact absurd (List.cons.inj heq).1 he
  | cons e' now =>
    obtain ⟨reports, hmem⟩ := hclosed now before (List.cons.inj heq).2
    exact ⟨reports, List.mem_cons_of_mem _ hmem⟩

/-- What is started anew between updates is not dropped yet. -/
theorem not_cancelled_started (cell : GraphRef) (hclosed : AllClosed h)
    (hnew : (id, entity) ∉ startedIn h) : ¬ Cancelled (.started id entity cell :: h) id entity := by
  rintro ⟨later, cell', earlier, heq, hcase⟩
  cases later with
  | nil =>
    obtain ⟨_, rfl⟩ := List.cons.inj heq
    rcases hcase with hmem | ⟨now, before, rfl, _, hopen⟩
    · exact absurd hmem List.not_mem_nil
    · exact hopen (hclosed now before rfl)
  | cons e later =>
    rw [(List.cons.inj heq).2] at hnew
    simp at hnew

/-- If the earlier updates have ended, what was cancelled now was cancelled since the last one
opened. -/
theorem CancelledNow.since {now before : List PoolEvent} (hclosed : AllClosed before)
    (hc : CancelledNow (now ++ .opened :: before) entity) : .cancelled entity ∈ now := by
  obtain ⟨now', before', heq, hmem, hopen⟩ := hc
  rcases List.append_eq_append_iff.mp heq with ⟨c, hnow, hrest⟩ | ⟨c, hnow, _⟩
  · cases c with
    | nil =>
      rw [hnow, List.append_nil] at hmem
      exact hmem
    | cons e c =>
      obtain ⟨rfl, hbefore⟩ := List.cons.inj hrest
      obtain ⟨reports, hclose⟩ := hclosed c before' hbefore
      refine absurd ⟨reports, ?_⟩ hopen
      rw [hnow]
      exact List.mem_append_right _ (List.mem_cons_of_mem _ hclose)
  · rw [hnow]
    exact List.mem_append_left _ hmem

/-- What was started in the update under way and dropped was cancelled in it. -/
theorem Cancelled.since {now before : List PoolEvent} (hclosed : AllClosed before)
    (hstart : (id, entity) ∉ startedIn before)
    (hc : Cancelled (now ++ .opened :: before) id entity) : .cancelled entity ∈ now := by
  obtain ⟨later, cell, earlier, heq, hcase⟩ := hc
  rcases List.append_eq_append_iff.mp heq with ⟨c, _, hrest⟩ | ⟨c, hnow, hrest⟩
  · refine absurd ?_ hstart
    cases c with
    | nil => cases (List.cons.inj hrest).1
    | cons e c =>
      rw [(List.cons.inj hrest).2]
      simp
  · cases c with
    | nil => cases (List.cons.inj hrest).1
    | cons e c =>
      obtain ⟨rfl, rfl⟩ := List.cons.inj hrest
      rw [hnow]
      rcases hcase with hmem | hnow
      · exact List.mem_append_left _ hmem
      · exact List.mem_append_right _ (List.mem_cons_of_mem _ (hnow.since hclosed))

/-- What was started in an update in which its entity was cancelled is dropped. -/
theorem cancelled_within {now : List PoolEvent} (before : List PoolEvent) (hopen : ¬ Closes now)
    (hstart : (id, entity) ∈ startedIn now) (hcancel : .cancelled entity ∈ now) :
    Cancelled (now ++ .opened :: before) id entity := by
  obtain ⟨cell, hmem⟩ := mem_startedIn.mp hstart
  obtain ⟨later, earlier, rfl⟩ := List.append_of_mem hmem
  refine ⟨later, cell, earlier ++ .opened :: before, by simp, ?_⟩
  rcases List.mem_append.mp hcancel with hc | hc
  · exact Or.inl hc
  · rcases List.mem_cons.mp hc with hc | hc
    · cases hc
    · refine Or.inr ⟨earlier, before, rfl, hc, fun ⟨reports, hr⟩ => hopen ⟨reports, ?_⟩⟩
      exact List.mem_append_right _ (List.mem_cons_of_mem _ hr)

end SceneLogic
