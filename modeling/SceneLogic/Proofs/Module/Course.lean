import SceneLogic.Proofs.Module.Writing

/-!
# The course of the modules

The history of the pool and the trails of the instances are separate readings of the journal;
neither tells whether an instance ran a node before or after its entity was cancelled. The course
keeps both kinds of entries, in the order in which they were made.

* `World.course` — the entries about the modules
* `StartCall`, `PoolCall` — calls by which behaviours reach the modules, where all else leaves
  the course as it is; each of them is a `ModuleCall` or drops all modules
* `Conduct.pooling` — the conduct of behaviours that use no other calls
-/

namespace SceneLogic

/-- The entry is about the modules. -/
def Happening.ofModules : Happening → Bool
  | .ofPool _ => true
  | .atNode _ _ => true
  | _ => false

theorem Happening.poolEvent?_of_others {h : Happening} (hothers : h.ofModules = false) :
    h.poolEvent? = none := by
  cases h with
  | ofPool e => cases hothers
  | _ => rfl

theorem Happening.nodeEvent?_of_others (id : InstanceId) {h : Happening}
    (hothers : h.ofModules = false) : h.nodeEvent? id = none := by
  cases h with
  | atNode i e => cases hothers
  | _ => rfl

namespace World

/-- What happened to the modules and at their nodes, the latest first. -/
def course (w : World) : List Happening :=
  w.journal.filter Happening.ofModules

/-- The modules are left alone, and the order of what became of them, too. -/
structure Aside (w w' : World) : Prop where
  pool : w'.pool = w.pool
  course : w'.course = w.course
  graphs : w.KeepsGraphs w'

/-- With an entry more the journal is another one. -/
theorem ne_record (w : World) (x : Happening) : w ≠ w.record x :=
  fun heq => List.cons_ne_self x w.journal (congrArg World.journal heq).symm

/-- What passes over all other entries reads the course as it reads the journal. -/
theorem filterMap_course {α : Type} (w : World) {f : Happening → Option α}
    (hf : ∀ h, h.ofModules = false → f h = none) :
    w.journal.filterMap f = w.course.filterMap f := by
  rw [course, List.filterMap_filter]
  refine congrArg (List.filterMap · w.journal) (funext fun h => ?_)
  cases hothers : h.ofModules with
  | true => rfl
  | false => exact hf h hothers

theorem history_eq_course (w : World) : w.history = w.course.filterMap Happening.poolEvent? :=
  w.filterMap_course fun _ => Happening.poolEvent?_of_others

theorem trail_eq_course (w : World) (id : InstanceId) :
    w.trail id = w.course.filterMap (Happening.nodeEvent? id) :=
  w.filterMap_course fun _ => Happening.nodeEvent?_of_others id

theorem Aside.refl (w : World) : w.Aside w :=
  ⟨rfl, rfl, .refl w⟩

theorem Aside.trans {u v w : World} (h : u.Aside v) (h' : v.Aside w) : u.Aside w :=
  ⟨h'.pool.trans h.pool, h'.course.trans h.course, h.graphs.trans h'.graphs⟩

theorem Aside.same {w w' : World} (h : w.Aside w') : w.SameModules w' where
  pool := h.pool
  history := by rw [history_eq_course, h.course, ← history_eq_course]
  trail id := by rw [trail_eq_course, h.course, ← trail_eq_course]
  graphs := h.graphs

theorem aside_record (w : World) {h : Happening} (hothers : h.ofModules = false) :
    w.Aside (w.record h) where
  pool := rfl
  course := List.filter_cons_of_neg (by simp [hothers])
  graphs := .refl w

theorem aside_situationFor (w : World) (entity : EntityId) (data : Params) :
    w.Aside (w.situationFor entity data).2 := by
  unfold situationFor
  split
  · exact .refl w
  · exact ⟨rfl, rfl, .refl w⟩

/-- Before anything was started the course is empty. -/
theorem NoModulesYet.course {w : World} (h : w.NoModulesYet) : w.course = [] := by
  refine List.filter_eq_nil_iff.mpr fun x hx hmodules => ?_
  cases x with
  | ofPool e =>
    have hmem : e ∈ w.history := List.mem_filterMap.mpr ⟨_, hx, rfl⟩
    rw [h.history] at hmem
    exact List.not_mem_nil hmem
  | atNode id e =>
    have hmem : e ∈ w.trail id := List.mem_filterMap.mpr ⟨_, hx, by simp [Happening.nodeEvent?]⟩
    rw [h.trail] at hmem
    exact List.not_mem_nil hmem
  | _ => cases hmodules

end World

/-! ## Calls -/

/-- A module is started, or all modules and their variables are left alone. -/
inductive StartCall : World → World → Prop
  | start (w : World) (entity : EntityId) (cell : GraphRef) (overrides : Params) :
      StartCall w (w.startGraph entity cell overrides).2
  | aside {w w' : World} : w.Aside w' → w.SameVariables w' → StartCall w w'

/-- The calls by which behaviours reach the modules, and whatever leaves them alone. -/
inductive PoolCall : World → World → Prop
  | start (w : World) (entity : EntityId) (cell : GraphRef) (overrides : Params) :
      PoolCall w (w.startGraph entity cell overrides).2
  | cancel (w : World) (entity : EntityId) : PoolCall w (w.cancelModules entity)
  | clear (w : World) : PoolCall w w.clearModules
  | assign (w : World) (id : InstanceId) (name : String) (v : Value) :
      PoolCall w (w.setModuleVariable id name v).2
  | aside {w w' : World} : w.Aside w' → PoolCall w w'

theorem StartCall.moduleCall {w w' : World} (h : StartCall w w') : ModuleCall w w' := by
  cases h with
  | start entity cell overrides => exact .start w entity cell overrides
  | aside h _ => exact .other h.same

theorem StartCall.poolCall {w w' : World} (h : StartCall w w') : PoolCall w w' := by
  cases h with
  | start entity cell overrides => exact .start w entity cell overrides
  | aside h _ => exact .aside h

/-- Behaviours that reach the modules by calls only, and run no update themselves. They may drop all
modules. -/
def Conduct.pooling : Conduct where
  step := Relation.ReflTransGen PoolCall

theorem Conduct.pooling_relies : Conduct.pooling.Relies where
  refl _ := trivial
  trans _ _ := trivial
  step _ := trivial

end SceneLogic
