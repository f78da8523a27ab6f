import SceneLogic.Proofs.Module.Blindness
import SceneLogic.Proofs.Module.Sorting
import SceneLogic.Proofs.Module.Undisturbed

/-!
# An instance alone in the pool

Two machines may run the same instance and yet not be the same to the letter. Their journals tell
where updates began and ended, and they have different step bounds: `Machine.Matches` is what is the
same. No behaviour reads either, so that matching machines match again after any script.

* `Machine.Matches.run` — matching machines after a script
* `Machine.update_alone` — an update is the turn of the only instance
* `World.Turn` — the turn of an instance, which goes on as it began while it is not disturbed
-/

namespace SceneLogic

/-! ## What is the same -/

/-- The entry says that an update began or ended. -/
def Happening.marksUpdate : Happening → Bool
  | .ofPool .opened => true
  | .ofPool (.closed _) => true
  | _ => false

/-- What happened, except that updates began and ended. -/
def unmarked (journal : List Happening) : List Happening :=
  journal.filter fun h => !h.marksUpdate

theorem unmarked_append (later earlier : List Happening) :
    unmarked (later ++ earlier) = unmarked later ++ unmarked earlier :=
  List.filter_append ..

/-- The machines are the same but for the step bound, and for where updates began and ended. -/
def Machine.Matches (m m' : Machine) : Prop :=
  ∃ journal stepBound, unmarked journal = unmarked m.world.journal ∧
    m' = { m with
      world := { m.world with journal, pool := { m.world.pool with stepBound } } }

namespace Machine

variable {m m' m'' : Machine}

theorem Matches.refl (m : Machine) : m.Matches m :=
  ⟨_, _, rfl, rfl⟩

theorem Matches.trans (h : m.Matches m') (h' : m'.Matches m'') : m.Matches m'' := by
  obtain ⟨journal, bound, hjournal, rfl⟩ := h
  obtain ⟨journal', bound', hjournal', rfl⟩ := h'
  exact ⟨journal', bound', hjournal'.trans hjournal, rfl⟩

theorem filterMap_unmarked {β : Type} {f : Happening → Option β}
    (hf : ∀ h, h.marksUpdate = true → f h = none) (journal : List Happening) :
    (unmarked journal).filterMap f = journal.filterMap f := by
  induction journal with
  | nil => rfl
  | cons h rest ih =>
    cases hmark : h.marksUpdate with
    | true => rw [unmarked, List.filter_cons_of_neg (by simp [hmark]), ← unmarked, ih,
        List.filterMap_cons_none (hf h hmark)]
    | false =>
      rw [unmarked, List.filter_cons_of_pos (by simp [hmark]), ← unmarked, List.filterMap_cons,
        List.filterMap_cons, ih]

theorem Matches.trail (h : m.Matches m') (id : InstanceId) :
    m'.world.trail id = m.world.trail id := by
  obtain ⟨journal, bound, hjournal, rfl⟩ := h
  have hnode : ∀ h : Happening, h.marksUpdate = true → h.nodeEvent? id = none := by
    intro h hmark
    cases h with
    | atNode => cases hmark
    | _ => rfl
  show journal.filterMap _ = m.world.journal.filterMap _
  rw [← filterMap_unmarked hnode, hjournal, filterMap_unmarked hnode]

/-- Both have the same start behind different veils. -/
theorem Matches.veils (h : m.Matches m') : ∃ (start : Machine) (v v' : Veil),
    m = start.veiled v ∧ m' = start.veiled v' ∧ unmarked v'.past = unmarked v.past := by
  obtain ⟨journal, bound, hjournal, rfl⟩ := h
  let start : Machine := { m with world := { m.world with journal := [] } }
  exact ⟨start, ⟨m.world.journal, none⟩, ⟨journal, some bound⟩, rfl, rfl, hjournal⟩

theorem matches_veiled (m : Machine) {v v' : Veil} (h : unmarked v'.past = unmarked v.past) :
    (m.veiled v).Matches (m.veiled v') := by
  refine ⟨_, _, ?_, rfl⟩
  show unmarked (m.world.journal ++ v'.past) = unmarked (m.world.journal ++ v.past)
  rw [unmarked_append, unmarked_append, h]

/-- Matching machines whose behaviours are blind match after a blind script, whatever its result, if
it has one at all. -/
theorem Matches.run (h : m.Matches m') (hblind : ∀ v, m.Blind v) {α : Type} {s : Script α}
    (hs : ∀ v, s.Blind v) (depth : Nat) :
    Option.Rel (fun r r' => r'.1 = r.1 ∧ r.2.Matches r'.2)
      (s.run (Service.atDepth depth) m) (s.run (Service.atDepth depth) m') := by
  obtain ⟨start, v, v', rfl, rfl, hpast⟩ := h.veils
  have hstart : ∀ v, start.Blind v := fun v => (hblind v).withWorld start.world
  rw [Script.run_veiled (hstart v) (hs v), Script.run_veiled (hstart v') (hs v')]
  cases s.run (Service.atDepth depth) start with
  | none => exact .none
  | some r => exact .some ⟨rfl, r.2.matches_veiled hpast⟩

end Machine

/-! ## One slice -/

/-- What an update makes of an instance that leaves off: a report, or an instance that is kept. -/
def Passage.sorted (r : Passage × Instance) : List ModuleReport × List Instance :=
  match r.1 with
  | .ended report => ([report], [])
  | _ => ([], [r.2])

/-- The machine when an update of one instance has closed. -/
def Machine.leftOff (m : Machine) (r : Passage × Instance) : Machine :=
  { m with world := m.world.closed (Passage.sorted r) }

/-- The pool has one instance, which runs, and no update is under way. -/
structure Pool.Holds (p : Pool) (i : Instance) : Prop where
  instances : p.instances = [i]
  pending : p.pending = []
  removed : p.removed = []
  running : i.status = .running

/-- The occasion of a turn in an update. -/
abbrev turnData (dt : Float) : Params :=
  [("dt", .float dt)]

/-- An update of a pool with one instance is the turn of that instance. -/
theorem Machine.update_alone {m : Machine} {i : Instance} (h : m.world.pool.Holds i)
    (service : Service) (time dt : Float) :
    let sw := (m.world.opened time dt).situationFor i.entity (turnData dt)
    (updateModules time dt).run service m =
      ((Instance.passNodes sw.1 dt sw.2.pool.stepBound i).run service
        { m with world := sw.2 }).map fun r => ((Passage.sorted r.1).1, r.2.leftOff r.1) := by
  intro sw
  have hremoved : (m.world.opened time dt).pool.removed = [] := h.removed
  have hrunning : i.terminalResult? = none := by
    rw [Instance.terminalResult?, h.running]
  have hturn : (i.step dt).run service { m with world := m.world.opened time dt } =
      ((Instance.passNodes sw.1 dt sw.2.pool.stepBound i).run service
        { m with world := sw.2 }).map fun r => ((r.1.1.report?, r.1.2), r.2) := by
    show (Instance.runSteps sw.1 dt sw.2.pool.stepBound i).run service { m with world := sw.2 } = _
    rw [Instance.runSteps_eq, Script.run_bind]
    cases (Instance.passNodes sw.1 dt sw.2.pool.stepBound i).run service
      { m with world := sw.2 } with
    | none => rfl
    | some r => rfl
  rw [run_updateModules, h.instances, stepAll, Script.run, hremoved, List.contains_nil,
    if_neg Bool.false_ne_true, hrunning]
  dsimp only
  rw [Script.run_bind, hturn]
  cases (Instance.passNodes sw.1 dt sw.2.pool.stepBound i).run service
    { m with world := sw.2 } with
  | none => rfl
  | some r =>
    obtain ⟨⟨passage, i₁⟩, m₁⟩ := r
    cases passage with
    | ended report => rfl
    | stayed => rfl
    | underWay => rfl

/-! ## From one slice to the next -/

/-- When a positive time is given the clock of the modules is set to it. -/
theorem Pool.begin_at {time : Float} (htime : 0 < time) (p : Pool) (dt : Float) :
    (p.begin time dt).2 = { p with time, updating := true, instances := [] } := by
  unfold begin
  rw [if_pos htime]

/-- A situation that has arisen is the same when the entity is attended to again. -/
theorem World.situationFor_again {w w₁ w₂ : World} {entity : EntityId} {data : Params}
    {s : Situation} (h : w.situationFor entity data = (s, w₁))
    (hinput : w₂.director.map (·.input) = w₁.director.map (·.input))
    (hcells : ∀ {id cell}, Dict.get? w₁.senses.cellOf id = some cell →
      Dict.get? w₂.senses.cellOf id = some cell) : w₂.situationFor entity data = (s, w₂) := by
  unfold situationFor at h ⊢
  cases hd : w.director with
  | none =>
    rw [hd] at h
    obtain ⟨rfl, rfl⟩ := Prod.mk.inj h
    rw [hd, Option.map_none] at hinput
    rw [Option.map_eq_none_iff.mp hinput]
  | some d =>
    rw [hd] at h
    obtain ⟨rfl, rfl⟩ := Prod.mk.inj h
    have hinput : w₂.director.map (·.input) = some d.input := hinput
    have hcell : Dict.get? w₂.senses.cellOf entity = some (w.senses.attend entity).1 :=
      hcells (w.senses.get?_attend entity)
    obtain ⟨d₂, hd₂, hinput⟩ := Option.map_eq_some_iff.mp hinput
    rw [hd₂]
    dsimp only
    rw [Senses.attend_of_known hcell, hinput, ← hd₂]
    rfl

/-- It is the turn of an instance in an update at this time, the pool knows no other, and its
situation has arisen. -/
structure World.Turn (w : World) (i : Instance) (s : Situation) (time dt : Float) : Prop where
  pool : ∃ nextId stepBound, w.pool = { updating := true, nextId, time, stepBound }
  situation : w.situationFor i.entity (turnData dt) = (s, w)
  running : i.status = .running

namespace World

variable {w w' : World} {i i' : Instance} {s : Situation} {time dt : Float}

/-- It is still the turn of the instance. -/
theorem Turn.later (h : w.Turn i s time dt) (hw : w.Undisturbed w') (hsame : i.Same i')
    (hstatus : i'.status = i.status) : w'.Turn i' s time dt where
  pool := by
    rw [hw.pool]
    exact h.pool
  situation := by
    rw [hsame.entity]
    exact situationFor_again h.situation hw.input hw.cells
  running := hstatus.trans h.running

/-- The pool is empty when the instance has ended. -/
theorem Turn.pool_ended (h : w.Turn i s time dt) (report : ModuleReport) :
    ∃ nextId stepBound, (w.closed (Passage.sorted (.ended report, i))).pool =
      { nextId, time, stepBound } := by
  obtain ⟨nextId, stepBound, hpool⟩ := h.pool
  refine ⟨nextId, stepBound, ?_⟩
  show w.pool.settle [] = _
  rw [hpool]
  rfl

end World

/-- The turn of an instance among behaviours that neither disturb it nor see where it is cut. -/
structure Machine.AtTurn (m : Machine) (i : Instance) (s : Situation) (time dt : Float) : Prop where
  turn : m.world.Turn i s time dt
  cell : i.graph < m.world.library.cells.length
  conduct : m.Obeys .undisturbing
  blind : ∀ v, m.Blind v

/-- When the machine opens an update, the instance has its turn as it has it in the other
machine. -/
structure Machine.Opens (n m : Machine) (i : Instance) (s : Situation) (time dt : Float) (k : Nat) :
    Prop where
  holds : n.world.pool.Holds i
  bound : n.world.pool.stepBound = k
  opened : ∃ w, (n.world.opened time dt).situationFor i.entity (turnData dt) = (s, w) ∧
    m.Matches { n with world := w }

namespace Machine

variable {m m' : Machine} {i : Instance} {s : Situation} {time dt : Float}

theorem Matches.leftOff (h : m.Matches m') (r : Passage × Instance) :
    (m.leftOff r).Matches (m'.leftOff r) := by
  obtain ⟨journal, bound, hjournal, rfl⟩ := h
  refine ⟨_, _, ?_, rfl⟩
  exact hjournal

theorem Matches.turn (h : m.Matches m') (hturn : m.world.Turn i s time dt) :
    m'.world.Turn i s time dt := by
  obtain ⟨journal, bound, hjournal, rfl⟩ := h
  obtain ⟨nextId, stepBound, hpool⟩ := hturn.pool
  exact ⟨⟨nextId, bound, by rw [hpool]⟩,
    World.situationFor_again hturn.situation rfl fun h => h, hturn.running⟩

theorem Matches.atTurn (h : m.Matches m') (hm : m.AtTurn i s time dt) :
    m'.AtTurn i s time dt where
  turn := h.turn hm.turn
  cell := by
    obtain ⟨journal, bound, -, rfl⟩ := h
    exact hm.cell
  conduct := by
    obtain ⟨journal, bound, -, rfl⟩ := h
    exact hm.conduct.withWorld _
  blind := by
    obtain ⟨journal, bound, -, rfl⟩ := h
    exact fun v => (hm.blind v).withWorld _

end Machine

end SceneLogic
