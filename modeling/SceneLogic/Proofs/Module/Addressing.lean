import SceneLogic.Proofs.Moments
import SceneLogic.Proofs.Module.Tame
import SceneLogic.Proofs.Module.Turns

/-!
# Which instances the lookups find

The lookups search the pool, and the instances that an update took out are not in it before the
update closes. So between updates each instance that was started and neither reported nor dropped
is found by all lookups, and so is each that was started in the update under way. What the update
took out is found by none of them, and a write to one of its variables is lost.

This holds at every moment of a run, in particular whenever behaviours look that the update sets
off.

* `Machine.Comes` — the worlds at the moments of a run
* `Addressable`, `Hidden` — what the lookups answer about an instance that they find, and about a
  number that they do not
* `modules_addressable_unless_out` — the answers at every moment
* `not_always_addressable` — an action asks for the instance that performs it
-/

namespace SceneLogic

/-- The instance was started, and since then it was neither reported nor dropped. One that was
started after its entity had been cancelled in the same update is dropped when the update closes. -/
def Outstanding (course : List Happening) (id : InstanceId) (entity : EntityId) : Prop :=
  ∃ later cell earlier, course = later ++ .ofPool (.started id entity cell) :: earlier ∧
    (entity ∈ (rosterOf earlier).removed → ¬ ClosesIn later) ∧ ¬ ReportedIn later id ∧
      .ofPool (.cancelled entity) ∉ later ∧ .ofPool .cleared ∉ later

namespace World

/-- All lookups find the instance, and a write reaches it. -/
structure Addressable (w : World) (i : Instance) : Prop where
  status : w.pool.status? i.id = some i.status
  listed : i.id ∈ w.pool.instancesFor i.entity
  counted : ∃ before after, w.pool.known = before ++ i :: after ∧
    w.pool.count = before.length + 1 + after.length
  values : ∀ name, w.pool.valueOf? i.id name = Dict.get? i.vars name
  assigned : ∀ name v, ∃ w', w.setModuleVariable i.id name v = (true, w') ∧
    w'.pool.find? i.id = some { i with vars := Dict.insert i.vars name v }

/-- No lookup finds an instance of the number, and a write is lost. -/
structure Hidden (w : World) (id : InstanceId) : Prop where
  status : w.pool.status? id = none
  unlisted : ∀ entity, id ∉ w.pool.instancesFor entity
  uncounted : w.pool.count = w.pool.known.length ∧ ∀ i ∈ w.pool.known, i.id ≠ id
  values : ∀ name, w.pool.valueOf? id name = none
  lost : ∀ name v, w.setModuleVariable id name v = (false, w)

/-- What the lookups answer at a moment. -/
structure Directory (w : World) : Prop where
  found : ∀ id entity, Outstanding w.course id entity → (id, entity) ∉ w.roster.out →
    ∃ i ∈ w.pool.known, i.key = (id, entity) ∧ w.Addressable i
  hidden : ∀ id entity, (id, entity) ∈ w.roster.out → w.Hidden id
  /-- The next update takes out those that are found. -/
  idle : w.pool.updating = false → w.roster.out = [] ∧ w.pool.instances = w.pool.known
  /-- Those are out that were in the pool when the update under way opened. -/
  busy : ∀ during before, w.course = during ++ .ofPool .opened :: before → ¬ ClosesIn during →
    w.roster.out = (rosterOf before).waiting

end World

/-- At some moment of a run the world is this one: within an update, or between updates while a
script of the host is carried out. -/
inductive Machine.Comes (m : Machine) : Bool → World → Prop
  | between {updates : List (List ModuleReport)} {m₁ m₂ : Machine} {depth : Nat} {α : Type}
      {s : Script α} {a : α} {w : World} : m.Plays .pooling updates m₁ →
      s.Obeys .pooling m₁.world → s.run (Service.atDepth depth) m₁ = some (a, m₂) →
      s.Passes (Service.atDepth depth) (Watch.atDepth depth) w m₁ → Comes m false w
  | within {updates : List (List ModuleReport)} {m₁ m₂ : Machine} {depth : Nat} {time dt : Float}
      {reports : List ModuleReport} {w : World} : m.Plays .pooling updates m₁ →
      (updateModules time dt).run (Service.atDepth depth) m₁ = some (reports, m₂) →
      (updateModules time dt).Passes (Service.atDepth depth) (Watch.atDepth depth) w m₁ →
      Comes m true w

namespace Orderly

variable {later earlier : List Happening} {id : InstanceId} {entity : EntityId} {cell : GraphRef}

/-- What was started in an update stays fresh until the update closes, unless it is dropped. -/
theorem fresh (h : Orderly (later ++ .ofPool (.started id entity cell) :: earlier))
    (hupdating : (rosterOf earlier).updating = true) (hcloses : ¬ ClosesIn later)
    (hcancel : .ofPool (.cancelled entity) ∉ later) (hclear : .ofPool .cleared ∉ later) :
    (id, entity) ∈ (rosterOf (later ++ .ofPool (.started id entity cell) :: earlier)).fresh := by
  refine h.carries (P := fun r => (id, entity) ∈ r.fresh) (fun r x hx _ _ hfresh => ?_) ?_
  · cases x with
    | ofPool e =>
      cases e with
      | started id' entity' cell' =>
        rw [Roster.enter_start]
        split
        · exact List.mem_append_left _ hfresh
        · exact hfresh
      | cancelled entity' =>
        have hne : entity ≠ entity' := fun heq => hcancel (heq ▸ hx)
        exact List.mem_filter.mpr ⟨hfresh, decide_eq_true hne⟩
      | closed reports => exact absurd ⟨reports, hx⟩ hcloses
      | cleared => exact absurd hx hclear
      | opened => exact hfresh
    | _ => exact hfresh
  · rw [rosterOf_cons, Roster.enter_start, if_pos hupdating]
    exact List.mem_append_right _ List.mem_cons_self

/-- Whoever is outstanding is in the pool, or out. -/
theorem present_of_outstanding {course : List Happening} (h : Orderly course)
    (hid : Outstanding course id entity) : (id, entity) ∈ (rosterOf course).present := by
  obtain ⟨later, cell, earlier, rfl, hspared, hreported, hcancel, hclear⟩ := hid
  by_cases hremoved : entity ∈ (rosterOf earlier).removed
  · have hupdating : (rosterOf earlier).updating = true := by
      by_contra hidle
      obtain ⟨-, -, hnobody, -⟩ := h.of_append.tail.sound.idle (Bool.eq_false_iff.mpr hidle)
      rw [Roster.removed, hnobody] at hremoved
      exact absurd hremoved List.not_mem_nil
    exact Roster.mem_present.mpr
      (Or.inr (Or.inr (h.fresh hupdating (hspared hremoved) hcancel hclear)))
  · rcases h.fate hremoved with hheld | hreport | hcancelled | hcleared
    · exact hheld.present
    · exact absurd hreport hreported
    · exact absurd hcancelled hcancel
    · exact absurd hcleared hclear

end Orderly

/-! ## Lookups -/

namespace Pool

variable {p : Pool} {i : Instance} {id : InstanceId}

theorem find?_of_mem (hids : (p.known.map (·.id)).Nodup) (hi : i ∈ p.known) :
    p.find? i.id = some i := by
  unfold find?
  generalize p.known = l at hids hi
  induction l with
  | nil => exact absurd hi List.not_mem_nil
  | cons j rest ih =>
    obtain ⟨hnew, hids⟩ := List.nodup_cons.mp hids
    rcases List.mem_cons.mp hi with rfl | hi
    · exact List.find?_cons_of_pos (decide_eq_true rfl)
    · have hne : j.id ≠ i.id := fun heq => hnew (List.mem_map.mpr ⟨i, hi, heq.symm⟩)
      rw [List.find?_cons_of_neg (by simpa using hne)]
      exact ih hids hi

theorem find?_eq_none (h : ∀ i ∈ p.known, i.id ≠ id) : p.find? id = none :=
  List.find?_eq_none.mpr fun i hi => by simpa using h i hi

end Pool

namespace World

variable {w : World} {i : Instance} {id : InstanceId} {entity : EntityId}

theorem addressable_of_mem (hids : (w.pool.known.map (·.id)).Nodup) (hi : i ∈ w.pool.known) :
    w.Addressable i := by
  have hfind := Pool.find?_of_mem hids hi
  refine ⟨?_, ?_, ?_, fun name => ?_, fun name v => ?_⟩
  · rw [Pool.status?, hfind]
    rfl
  · exact List.mem_map.mpr ⟨i, List.mem_filter.mpr ⟨hi, decide_eq_true rfl⟩, rfl⟩
  · obtain ⟨before, after, heq⟩ := List.append_of_mem hi
    refine ⟨before, after, heq, ?_⟩
    rw [Pool.count, ← List.length_append]
    refine (congrArg List.length heq).trans ?_
    rw [List.length_append, List.length_cons, Nat.add_right_comm, Nat.add_assoc]
  · rw [Pool.valueOf?, hfind]
    rfl
  · have hset : w.setModuleVariable i.id name v =
        (true, (w.setModuleVariable i.id name v).2) := by
      unfold setModuleVariable
      rw [hfind]
    refine ⟨_, hset, ?_⟩
    unfold setModuleVariable
    rw [hfind]
    have hmodify := w.pool.find?_modify i.id
      (f := fun j => { j with vars := Dict.insert j.vars name v }) fun _ => rfl
    rw [hfind] at hmodify
    exact hmodify

theorem hidden_of_not_mem (h : ∀ i ∈ w.pool.known, i.id ≠ id) : w.Hidden id := by
  have hfind := Pool.find?_eq_none h
  refine ⟨?_, fun entity hmem => ?_, ⟨List.length_append.symm, h⟩, fun name => ?_, fun name v => ?_⟩
  · rw [Pool.status?, hfind]
    rfl
  · obtain ⟨i, hi, hid⟩ := List.mem_map.mp hmem
    exact h i (List.mem_filter.mp hi).1 hid
  · rw [Pool.valueOf?, hfind]
    rfl
  · rw [setModuleVariable, hfind]

/-- The pool knows those that wait and those that are fresh. -/
theorem Listed.known (hw : w.Listed) :
    keysOf w.pool.known = w.roster.waiting ++ w.roster.fresh := by
  rw [Pool.known, keysOf_append, hw.waiting, hw.fresh]

/-- Where course and pool agree, the lookups find what is not out. -/
theorem Enrolled.directory (hw : w.Enrolled) : w.Directory := by
  have hknown := hw.toListed.known
  obtain ⟨-, hrest, hout⟩ := List.pairwise_append.mp hw.sound.ascending
  have hids : (w.pool.known.map (·.id)).Nodup := by
    have hkeys : (keysOf w.pool.known).Pairwise fun k k' => k.1 < k'.1 := hknown ▸ hrest
    rw [keysOf, List.pairwise_map] at hkeys
    exact List.pairwise_map.mpr (hkeys.imp Nat.ne_of_lt)
  refine ⟨?_, ?_, fun hidle => ?_, fun during before hcourse hcloses => ?_⟩
  · intro id entity hid hnot
    have hmem : (id, entity) ∈ keysOf w.pool.known := by
      rw [hknown, List.mem_append]
      have hpresent := hw.orderly.present_of_outstanding hid
      exact (Roster.mem_present.mp hpresent).resolve_left hnot
    obtain ⟨i, hi, hkey⟩ := List.mem_map.mp hmem
    exact ⟨i, hi, hkey, addressable_of_mem hids hi⟩
  · intro id entity hmem
    refine hidden_of_not_mem fun i hi => ?_
    have hlt := hout _ hmem i.key (hknown ▸ List.mem_map_of_mem hi)
    exact Nat.ne_of_gt hlt
  · obtain ⟨hnone, hfresh, -, -⟩ := hw.sound.idle (hw.updating ▸ hidle)
    have hpending : w.pool.pending = [] := List.map_eq_nil_iff.mp (hw.fresh.trans hfresh)
    exact ⟨hnone, by rw [Pool.known, hpending, List.append_nil]⟩
  · have horderly : Orderly (during ++ .ofPool .opened :: before) := hcourse ▸ hw.orderly
    rw [roster, hcourse]
    exact (horderly.underway hcloses).2.1

end World

/-! ## Moments -/

open World

theorem Conduct.pooling_keeps_beside : Conduct.pooling.Keeps Beside :=
  pooling_keeps Beside.steady fun h => (Meanwhile.of_call h).toBeside

theorem OwnStep.beside {u v : World} (h : OwnStep u v) : Beside u v := by
  cases h with
  | note id e => exact .of_note u id e
  | write h =>
    cases h with
    | publish name v => exact .of_same rfl rfl rfl rfl
    | assign name v => exact .of_same rfl rfl rfl rfl
  | sense entity data => exact (Meanwhile.of_aside (u.aside_situationFor entity data)).toBeside

/-- What comes before an orderly end, beside updates, is orderly as well. -/
theorem World.Beside.enrolled {u v w : World} (h : Beside u v) (h' : Beside v w)
    (hu : u.Enrolled) (hw : w.Enrolled) : v.Enrolled := by
  obtain ⟨new, hnew⟩ := h'.course
  exact ⟨h.listed hu.toListed, (hnew ▸ hw.orderly).of_append⟩

/-- The moments of an update: those before it opens, those of the turns, and the one at its end. -/
theorem updateModules_passes {service : Service} {watch : Watch} {m : Machine} {time dt : Float}
    {w : World} (h : (updateModules time dt).Passes service watch w m) :
    w = m.world ∨
    (stepAll dt m.world.pool.instances).Passes service watch w
      { m with world := m.world.opened time dt } ∨
    ∃ r m', (stepAll dt m.world.pool.instances).run service
      { m with world := m.world.opened time dt } = some (r, m') ∧
      (w = m'.world ∨ w = m'.world.closed r) := by
  obtain ⟨n, v, rfl, ⟨rfl, -⟩ | ⟨rfl, -⟩ | h⟩ := h
  · exact Or.inl rfl
  · exact Or.inl rfl
  · rcases Script.makes_bind h with h | ⟨r, m', hrun, ⟨rfl, -⟩ | ⟨rfl, -⟩ | ⟨rfl, -⟩⟩
    · exact Or.inr (Or.inl ⟨n, v, rfl, h⟩)
    · exact Or.inr (Or.inr ⟨r, m', hrun, Or.inl rfl⟩)
    · exact Or.inr (Or.inr ⟨r, m', hrun, Or.inl rfl⟩)
    · exact Or.inr (Or.inr ⟨r, m', hrun, Or.inr rfl⟩)

/-- At every moment of a run the course is orderly, and the pool agrees with it. -/
theorem Machine.Comes.enrolled {m : Machine} {within : Bool} {w : World}
    (hnew : m.world.NoModulesYet) (hbound : 0 < m.world.pool.stepBound) (hm : m.Obeys .pooling)
    (h : m.Comes within w) :
    w.Enrolled ∧ (within = false → w.roster.updating = false) := by
  have hkeeps := Conduct.pooling_keeps_beside
  cases h with
  | @between _ m₁ m₂ depth _ s a _ hplays hobeys hrun hpasses =>
    obtain ⟨hm₁, hw₁, hidle⟩ := hplays.enrolled hnew hbound hm
    obtain ⟨-, hw₂, -⟩ := (hplays.script hobeys hrun).enrolled hnew hbound hm
    obtain ⟨n, v, rfl, hmake⟩ := hpasses
    obtain ⟨hbefore, hafter⟩ := hobeys.moments_self hkeeps (fun _ _ => trivial) id
      (Service.keeps_atDepth hkeeps depth)
      (Watch.keeps_atDepth hkeeps (fun _ _ => trivial) id depth) hm₁ hrun hmake
    exact ⟨hbefore.enrolled hafter hw₁ hw₂, fun _ => hbefore.updating.trans hidle⟩
  | @within _ m₁ m₂ depth time dt reports _ hplays hrun hpasses =>
    refine ⟨?_, fun heq => by cases heq⟩
    obtain ⟨hm₁, hw₁, hidle⟩ := hplays.enrolled hnew hbound hm
    obtain ⟨-, hw₂, -⟩ := (hplays.update hrun).enrolled hnew hbound hm
    obtain ⟨kept, m₃, hall, hend⟩ := updateModules_run hrun
    have hopen : Upcoming m₁.world.pool.instances (m₁.world.opened time dt) := hw₁.opened hidle
    have hm₀ := hm₁.withWorld (m₁.world.opened time dt)
    have hmeanwhile := Service.keeps_atDepth Conduct.pooling_keeps_meanwhile depth
    obtain ⟨-, hturns⟩ := stepAll_turns hmeanwhile dt _ hopen _ rfl hm₀ hall
    have hw₃ : m₃.world.Enrolled := (hturns.went 0 fun _ _ => Nat.zero_le _).enrolled
    rcases updateModules_passes hpasses with rfl | ⟨n, v, rfl, hmake⟩ | ⟨r, m₄, hall', hw⟩
    · exact hw₁
    · obtain ⟨-, hmoments⟩ := (stepAll_works dt _ _).moments hkeeps OwnStep.beside
        (fun _ _ => trivial) id (fun h => absurd h id) (Service.keeps_atDepth hkeeps depth)
        (Watch.keeps_atDepth hkeeps (fun _ _ => trivial) id depth) _ rfl hm₀ hall
      obtain ⟨hbefore, hafter⟩ := hmoments _ _ hmake
      exact hbefore.enrolled hafter hopen.enrolled hw₃
    · cases hall.symm.trans hall'
      rcases hw with rfl | rfl
      · exact hw₃
      · rw [hend] at hw₂
        exact hw₂

/-- At every moment of a run the lookups find all outstanding instances but those that the update
under way took out. Those they do not find, and between updates there are none. -/
theorem modules_addressable_unless_out {m : Machine} {within : Bool} {w : World}
    (hnew : m.world.NoModulesYet) (hbound : 0 < m.world.pool.stepBound) (hm : m.Obeys .pooling)
    (h : m.Comes within w) :
    w.Directory ∧ (within = false → w.pool.updating = false) := by
  obtain ⟨hw, hidle⟩ := h.enrolled hnew hbound hm
  exact ⟨hw.directory, fun heq => hw.updating.trans (hidle heq)⟩

/-! ## A module that looks for itself -/

namespace Looking

/-- Asks whether there is an instance of the first number. -/
def look : Action := fun _ _ =>
  .read fun w => .write (w.pin "found" (.bool (w.pool.status? 1).isSome)) (.done (.ok ()))

/-- Two nodes in a row, the second of which performs the action. -/
def graph : Graph where
  id := "looks"
  entry := "a"
  nodes := [⟨"a", .entry⟩, ⟨"b", .flow .instant "Look" []⟩]
  edges := [.flow "a" "out" "b" "in"]

def machine : Machine where
  world := { library := .ofList [graph] }
  actions := [("Look", look)]

/-- Starts the graph. -/
def start : Script Unit :=
  .read fun w => .write (w.startGraph ⟨"one"⟩ 0 []).2 (.done ())

/-- What happens up to the moment at which the action looks. -/
def course : List Happening :=
  [.atNode 1 (.entered "b"), .atNode 1 (.left "a" "out"), .atNode 1 (.entered "a"),
    .ofPool .opened, .ofPool (.started 1 ⟨"one"⟩ 0)]

theorem machine_new : machine.world.NoModulesYet :=
  ⟨rfl, rfl, rfl, rfl, rfl, fun _ => rfl⟩

theorem machine_obeys : machine.Obeys .pooling where
  listeners l hl := absurd hl List.not_mem_nil
  actions := by
    intro a ha s params w
    rw [List.mem_singleton.mp ha]
    exact .read (.write (.single (.aside ⟨rfl, rfl, .refl w⟩)) .done)
  conditions a ha := absurd ha List.not_mem_nil

/-- In the update the action looks while the instance is out. -/
theorem comes : ∃ w, machine.Comes true w ∧ w.course = course ∧ w.pool.known = [] := by
  have hrun : ∃ m₁, start.run (Service.atDepth 0) machine = some ((), m₁) ∧
      ∃ m₂, (updateModules 0 0).run (Service.atDepth 1) m₁ =
        some ([⟨1, ⟨"one"⟩, "looks", none⟩], m₂) ∧
        ∃ w, (updateModules 0 0).Passes (Service.atDepth 1) (Watch.atDepth 1) w m₁ ∧
          w.course = course ∧ w.pool.known = [] := by
    refine ⟨_, rfl, _, rfl, ?_⟩
    -- The moment is found on the way to it.
    apply Exists.intro
    apply And.intro
    · apply Exists.intro
      apply Exists.intro
      apply And.intro
      · rfl
      · iterate 14 apply Or.inr
        exact Or.inr (Or.inl ⟨look, rfl, Or.inl ⟨rfl, rfl⟩⟩)
    · exact ⟨rfl, rfl⟩
  obtain ⟨m₁, hstart, m₂, hupdate, w, hpasses, hw⟩ := hrun
  have hobeys : start.Obeys .pooling machine.world :=
    .read (.write (.single (.start _ ⟨"one"⟩ 0 [])) .done)
  exact ⟨w, .within (.script .refl hobeys hstart) hupdate hpasses, hw⟩

theorem outstanding : Outstanding course 1 ⟨"one"⟩ := by
  refine ⟨course.take 4, 0, [], rfl, fun h => absurd h List.not_mem_nil, ?_, ?_, ?_⟩
  · rintro ⟨reports, hmem, -⟩
    simp [course] at hmem
  · simp [course]
  · simp [course]

end Looking

/-- The action of the module looks while the instance that performs it is out. -/
theorem looking_module_out : ∃ w, Looking.machine.world.NoModulesYet ∧
    0 < Looking.machine.world.pool.stepBound ∧ Looking.machine.Obeys .pooling ∧
    Looking.machine.Comes true w ∧ w.roster.out = [(1, ⟨"one"⟩)] ∧
    w.Directory ∧ (true = false → w.pool.updating = false) := by
  obtain ⟨w, hcomes, hcourse, -⟩ := Looking.comes
  have hbound : 0 < Looking.machine.world.pool.stepBound := by decide
  have hout : w.roster.out = [(1, ⟨"one"⟩)] := by
    rw [World.roster, hcourse]
    rfl
  exact ⟨w, Looking.machine_new, hbound, Looking.machine_obeys, hcomes, hout,
    modules_addressable_unless_out Looking.machine_new hbound Looking.machine_obeys hcomes⟩

/-- Not every instance that was started, and neither reported nor dropped since, has a status
wherever behaviours can ask for it. -/
theorem not_always_addressable :
    ¬ ∀ (m : Machine) (within : Bool) (w : World), m.world.NoModulesYet →
      0 < m.world.pool.stepBound → m.Obeys .pooling → m.Comes within w →
      ∀ id entity, Outstanding w.course id entity → (w.pool.status? id).isSome := by
  intro h
  obtain ⟨w, hcomes, hcourse, hknown⟩ := Looking.comes
  have hstatus := h _ true w Looking.machine_new (by decide) Looking.machine_obeys hcomes 1 ⟨"one"⟩
    (hcourse ▸ Looking.outstanding)
  have hnone : w.pool.status? 1 = none := by
    rw [Pool.status?, Pool.find?, hknown]
    rfl
  rw [hnone] at hstatus
  cases hstatus

end SceneLogic
