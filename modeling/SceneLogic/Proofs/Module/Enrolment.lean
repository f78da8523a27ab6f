import SceneLogic.Proofs.Module.Orderly
import SceneLogic.Proofs.Module.Outside
import SceneLogic.Proofs.Module.Sorting

/-!
# The pool goes by its course

In every run in which behaviours reach the modules by calls only, the course is orderly and the
pool has the instances that the roster says. `World.Enrolled` is this invariant; `World.Listed` is
the half of it that does not depend on whose turn it is.

* `Beside`, `Meanwhile` — what calls do to it, between updates and during the step of an instance
* `Conduct.pooling_keeps` — what single calls keep, behaviours keep that use the calls only
-/

namespace SceneLogic

namespace World

/-- Where the instances are, as the journal has it. -/
def roster (w : World) : Roster :=
  rosterOf w.course

/-- The pool has the instances where the roster has them. -/
structure Listed (w : World) : Prop where
  waiting : keysOf w.pool.instances = w.roster.waiting
  fresh : keysOf w.pool.pending = w.roster.fresh
  removed : w.pool.removed = w.roster.removed
  updating : w.pool.updating = w.roster.updating
  next : w.roster.next ≤ w.pool.nextId
  bound : 0 < w.pool.stepBound

/-- The course is orderly, and the pool agrees with its roster. -/
structure Enrolled (w : World) : Prop extends w.Listed where
  orderly : Orderly w.course

theorem Enrolled.sound {w : World} (h : w.Enrolled) : w.roster.Sound :=
  h.orderly.sound

/-- An event comes next, and the pool goes along. -/
theorem Listed.enter {w w' : World} {e : PoolEvent} (hw : w.Listed)
    (hcourse : w'.course = .ofPool e :: w.course)
    (hwaiting : keysOf w'.pool.instances = (w.roster.enter (.ofPool e)).waiting)
    (hfresh : keysOf w'.pool.pending = (w.roster.enter (.ofPool e)).fresh)
    (hremoved : w'.pool.removed = (w.roster.enter (.ofPool e)).removed)
    (hupdating : w'.pool.updating = (w.roster.enter (.ofPool e)).updating)
    (hnext : (w.roster.enter (.ofPool e)).next ≤ w'.pool.nextId)
    (hbound : w'.pool.stepBound = w.pool.stepBound) : w'.Listed := by
  have hroster : w'.roster = w.roster.enter (.ofPool e) := congrArg rosterOf hcourse
  rw [← hroster] at hwaiting hfresh hremoved hupdating hnext
  exact ⟨hwaiting, hfresh, hremoved, hupdating, hnext, hbound ▸ hw.bound⟩

theorem NoModulesYet.enrolled {w : World} (h : w.NoModulesYet) (hbound : 0 < w.pool.stepBound) :
    w.Enrolled ∧ w.roster.updating = false := by
  have hroster : w.roster = {} := congrArg rosterOf h.course
  refine ⟨⟨⟨?_, ?_, ?_, ?_, ?_, hbound⟩, ?_⟩, by rw [hroster]⟩
  · rw [hroster, h.instances]
    rfl
  · rw [hroster, h.pending]
    rfl
  · rw [hroster, h.removed]
    rfl
  · rw [hroster, h.updating]
  · rw [hroster]
    exact Nat.zero_le _
  · rw [h.course]
    exact .nil

/-- What goes on beside updates: none of them opens or closes, and the pool goes by the course. -/
structure Beside (u v : World) : Prop where
  listed : u.Listed → v.Listed
  course : u.course <:+ v.course
  updating : v.roster.updating = u.roster.updating

/-- What becomes of the modules while nobody's turn begins or ends. -/
structure Meanwhile (u v : World) : Prop extends Beside u v where
  orderly : u.Enrolled → Orderly v.course
  out : v.roster.out = u.roster.out
  acted : v.roster.acted = u.roster.acted
  cancelled : ∃ new, v.roster.cancelled = new ++ u.roster.cancelled ∧
    ∀ c ∈ new, c.2 = u.roster.acting?

namespace Beside

variable {u v w : World}

theorem trans (h : Beside u v) (h' : Beside v w) : Beside u w where
  listed hu := h'.listed (h.listed hu)
  course := h.course.trans h'.course
  updating := h'.updating.trans h.updating

/-- The course stays, and so do the instances of the pool, apart from their variables. -/
theorem of_same (hcourse : v.course = u.course)
    (hinstances : keysOf v.pool.instances = keysOf u.pool.instances)
    (hpending : keysOf v.pool.pending = keysOf u.pool.pending)
    (hpool : { v.pool with instances := [], pending := [] } =
      { u.pool with instances := [], pending := [] }) : Beside u v := by
  have hroster : v.roster = u.roster := congrArg rosterOf hcourse
  refine ⟨fun hu => ⟨?_, ?_, ?_, ?_, ?_, ?_⟩, hcourse ▸ List.suffix_refl _, by rw [hroster]⟩
  · rw [hinstances, hu.waiting, hroster]
  · rw [hpending, hu.fresh, hroster]
  · rw [hroster, ← hu.removed]
    exact (congrArg Pool.removed hpool :)
  · rw [hroster, ← hu.updating]
    exact (congrArg Pool.updating hpool :)
  · have hnext : v.pool.nextId = u.pool.nextId := (congrArg Pool.nextId hpool :)
    rw [hroster, hnext]
    exact hu.next
  · have hbound : v.pool.stepBound = u.pool.stepBound := (congrArg Pool.stepBound hpool :)
    rw [hbound]
    exact hu.bound

theorem steady : Steady Beside where
  refl _ := .of_same rfl rfl rfl rfl
  trans := trans

/-- An instance notes something about itself. -/
theorem of_note (w : World) (id : InstanceId) (e : NodeEvent) :
    Beside w (w.record (.atNode id e)) where
  listed hw := ⟨hw.waiting, hw.fresh, hw.removed, hw.updating, hw.next, hw.bound⟩
  course := List.suffix_cons _ _
  updating := rfl

end Beside

namespace Meanwhile

variable {u v w : World}

theorem enrolled (h : Meanwhile u v) (hu : u.Enrolled) : v.Enrolled :=
  ⟨h.listed hu.toListed, h.orderly hu⟩

theorem acting (h : Meanwhile u v) : v.roster.acting? = u.roster.acting? :=
  congrArg List.head? h.acted

theorem trans (h : Meanwhile u v) (h' : Meanwhile v w) : Meanwhile u w where
  toBeside := h.toBeside.trans h'.toBeside
  orderly hu := h'.orderly (h.enrolled hu)
  out := h'.out.trans h.out
  acted := h'.acted.trans h.acted
  cancelled := by
    obtain ⟨new, hnew, hactors⟩ := h.cancelled
    obtain ⟨new', hnew', hactors'⟩ := h'.cancelled
    refine ⟨new' ++ new, by rw [hnew', hnew, List.append_assoc], fun c hc => ?_⟩
    rcases List.mem_append.mp hc with hc | hc
    · rw [hactors' c hc, h.acting]
    · exact hactors c hc

/-- What leaves the course as it is goes on meanwhile. -/
theorem of_beside (h : Beside u v) (hcourse : v.course = u.course) : Meanwhile u v := by
  have hroster : v.roster = u.roster := congrArg rosterOf hcourse
  exact ⟨h, fun hu => hcourse ▸ hu.orderly, by rw [hroster], by rw [hroster], [],
    by rw [hroster]; rfl, fun c hc => absurd hc List.not_mem_nil⟩

theorem steady : Steady Meanwhile where
  refl w := .of_beside (Beside.steady.refl w) rfl
  trans := trans

theorem of_aside (h : u.Aside v) : Meanwhile u v :=
  .of_beside (.of_same h.course (by rw [h.pool]) (by rw [h.pool]) (by rw [h.pool])) h.course

theorem of_start (w : World) (entity : EntityId) (cell : GraphRef) (overrides : Params) :
    Meanwhile w (w.startGraph entity cell overrides).2 := by
  rcases w.startGraph_cases entity cell overrides with ⟨_, _, hsame⟩ | ⟨vars, _, _, hstart⟩
  · rw [hsame]
    exact steady.refl w
  rw [hstart]
  generalize hi : Instance.ofGraph w.pool.nextId entity cell (w.library.read cell) vars = i
  have hkey : keysOf [i] = [(w.pool.nextId, entity)] := by rw [← hi]; rfl
  obtain ⟨hout, hacted, hupdating, hcancelled⟩ := w.roster.enter_started w.pool.nextId entity cell
  obtain ⟨hsame, hlisted, hbound, -, -⟩ := w.pool.add_same i
  refine ⟨⟨fun hw => hw.enter rfl ?_ ?_ ?_ ?_ ?_ ?_, List.suffix_cons _ _, hupdating⟩,
    fun hw => .cons hw.orderly hw.next, hout, hacted, [], hcancelled,
    fun c hc => absurd hc List.not_mem_nil⟩
  · show keysOf (w.pool.add i).instances = _
    rw [Pool.add, hw.updating, Roster.enter_start]
    split
    · exact hw.waiting
    · show keysOf (w.pool.instances ++ [i]) = w.roster.waiting ++ [(w.pool.nextId, entity)]
      rw [keysOf_append, hw.waiting, hkey]
  · show keysOf (w.pool.add i).pending = _
    rw [Pool.add, hw.updating, Roster.enter_start]
    split
    · show keysOf (w.pool.pending ++ [i]) = w.roster.fresh ++ [(w.pool.nextId, entity)]
      rw [keysOf_append, hw.fresh, hkey]
    · exact hw.fresh
  · rw [Roster.removed, hcancelled]
    exact hlisted.trans hw.removed
  · rw [hupdating]
    exact hsame.trans hw.updating
  · exact Nat.le_of_eq Roster.next_started
  · exact hbound

theorem of_cancel (w : World) (entity : EntityId) : Meanwhile w (w.cancelModules entity) := by
  refine ⟨⟨fun hw => hw.enter rfl ?_ ?_ ?_ hw.updating hw.next rfl, List.suffix_cons _ _, rfl⟩,
    fun hw => .cons hw.orderly trivial, rfl, rfl, ?_⟩
  · show keysOf (Pool.without entity w.pool.instances) = w.roster.waiting.filter _
    rw [Pool.keys_without, hw.waiting]
  · show keysOf (Pool.without entity w.pool.pending) = w.roster.fresh.filter _
    rw [Pool.keys_without, hw.fresh]
  · show (if w.pool.updating then entity :: w.pool.removed else w.pool.removed) = _
    rw [Roster.removed, Roster.enter_cancel, hw.updating, hw.removed]
    dsimp only
    split
    · rfl
    · rfl
  · show ∃ new, (w.roster.enter (.ofPool (.cancelled entity))).cancelled = _ ∧ _
    rw [Roster.enter_cancel]
    dsimp only
    split
    · exact ⟨[(entity, w.roster.acting?)], rfl, fun _ hc => by rw [List.mem_singleton.mp hc]⟩
    · exact ⟨[], rfl, fun c hc => absurd hc List.not_mem_nil⟩

theorem of_clear (w : World) : Meanwhile w w.clearModules where
  listed hw := hw.enter rfl rfl rfl hw.removed hw.updating hw.next rfl
  course := List.suffix_cons _ _
  updating := rfl
  orderly hw := .cons hw.orderly trivial
  out := rfl
  acted := rfl
  cancelled := ⟨[], rfl, fun _ hc => absurd hc List.not_mem_nil⟩

theorem of_assign (w : World) (id : InstanceId) (name : String) (v : Value) :
    Meanwhile w (w.setModuleVariable id name v).2 := by
  rcases w.setModuleVariable_cases id name v with hsame | ⟨i, _, hassign⟩
  · rw [hsame]
    exact steady.refl w
  · rw [hassign]
    have hkeys := keysOf_modifyFirst id
      (f := fun i => { i with vars := Dict.insert i.vars name v }) (fun _ => rfl)
    refine .of_beside (.of_same rfl (hkeys _) ?_ rfl) rfl
    show keysOf (if w.pool.instances.any _ then w.pool.pending else _) = keysOf w.pool.pending
    split
    · rfl
    · exact hkeys _

theorem of_call (h : PoolCall u v) : Meanwhile u v := by
  cases h with
  | start entity cell overrides => exact of_start u entity cell overrides
  | cancel entity => exact of_cancel u entity
  | clear => exact of_clear u
  | assign id name v => exact of_assign u id name v
  | aside h => exact of_aside h

end Meanwhile

end World

/-- What single calls keep, behaviours keep that use the calls only. -/
theorem Conduct.pooling_keeps {G : World → World → Prop} (hG : Steady G)
    (hcall : ∀ {u v}, PoolCall u v → G u v) : Conduct.pooling.Keeps G where
  toSteady := hG
  step := by
    intro v w h
    induction h with
    | refl => exact hG.refl _
    | tail _ h ih => exact hG.trans ih (hcall h)
  rely := fun _ => trivial
  emitted := fun w _ => hcall (.aside (w.aside_record rfl))
  part := nofun

theorem Conduct.pooling_keeps_meanwhile : Conduct.pooling.Keeps World.Meanwhile :=
  pooling_keeps World.Meanwhile.steady World.Meanwhile.of_call

/-- An entity that is listed as cancelled stays listed. -/
theorem poolSteady_removed : PoolSteady fun u v => u.pool.removed ⊆ v.pool.removed where
  refl _ _ h := h
  trans h h' _ hmem := h' (h hmem)
  same hpool _ _ h := by rwa [hpool]
  removed h := h

theorem Conduct.pooling_keeps_removed :
    Conduct.pooling.Keeps fun u v => u.pool.removed ⊆ v.pool.removed := by
  refine pooling_keeps poolSteady_removed.toSteady ?_
  intro u v h
  cases h with
  | start entity cell overrides =>
    rcases u.startGraph_cases entity cell overrides with ⟨_, _, hsame⟩ | ⟨vars, _, _, hstart⟩
    · rw [hsame]
      exact fun _ hmem => hmem
    · obtain ⟨-, hremoved, -⟩ := u.pool.add_same
        (Instance.ofGraph u.pool.nextId entity cell (u.library.read cell) vars)
      rw [hstart]
      exact fun _ hmem => hremoved.symm ▸ hmem
  | cancel entity =>
    intro e hmem
    show e ∈ (if u.pool.updating then entity :: u.pool.removed else u.pool.removed)
    split
    · exact List.mem_cons_of_mem _ hmem
    · exact hmem
  | clear => exact fun _ hmem => hmem
  | assign id name v =>
    rcases u.setModuleVariable_cases id name v with hsame | ⟨i, _, hassign⟩
    · rw [hsame]
      exact fun _ hmem => hmem
    · rw [hassign]
      exact fun _ hmem => hmem
  | aside h => exact fun _ hmem => by rwa [h.pool]

end SceneLogic
