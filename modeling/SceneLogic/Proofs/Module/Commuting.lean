import SceneLogic.Proofs.Module.Sorting
import SceneLogic.Proofs.Module.Tandem

/-!
# Modules that have nothing to do with each other

Two modules run that have nothing to do with each other. Then it does not matter whose turn in an
update is first: the entities, the defaults of the graphs and the instances come out the same, and
the same is observed and reported of each entity. Only the numbers of the instances may be other
ones.

Each of the modules is followed in both runs (`stepAll_meets`). The one that is first in one run
finds the world in the other run as the other module leaves it, and does not see that.

* `Strangers.turns_meet` — the turns in either order
* `Strangers.Mirrors.update` — an update of pools in either order
* `independent_modules_commute` — all updates
-/

namespace SceneLogic

/-! ## Updates -/

/-- The turns of some instances and then of others. -/
theorem stepAll_append (dt : Float) (is js : List Instance) :
    stepAll dt (is ++ js) = (stepAll dt is).bind fun r => (stepAll dt js).bind fun q =>
      .done (r.1 ++ q.1, r.2 ++ q.2) := by
  induction is with
  | nil => exact (Script.bind_done _).symm
  | cons i rest ih =>
    -- Whatever the instance adds, it adds to what comes of the others.
    have hadd : ∀ f : List ModuleReport × List Instance → List ModuleReport × List Instance,
        (∀ r q : List ModuleReport × List Instance,
          f (r.1 ++ q.1, r.2 ++ q.2) = ((f r).1 ++ q.1, (f r).2 ++ q.2)) →
        ((stepAll dt (rest ++ js)).bind fun r => .done (f r)) =
          ((stepAll dt rest).bind fun r => .done (f r)).bind fun r =>
            (stepAll dt js).bind fun q => .done (r.1 ++ q.1, r.2 ++ q.2) := by
      intro f hf
      rw [ih, Script.bind_assoc, Script.bind_assoc]
      congr 1
      funext r
      rw [Script.bind_assoc]
      show ((stepAll dt js).bind fun q => Script.done (f (r.1 ++ q.1, r.2 ++ q.2))) = _
      simp only [hf]
      rfl
    rw [List.cons_append, stepAll, stepAll]
    simp only [Script.bind]
    congr 1
    funext w
    split
    · exact ih
    · split
      · next result _ => exact hadd (fun r => (result :: r.1, r.2)) fun _ _ => rfl
      · rw [Script.bind_assoc]
        congr 1
        funext r
        obtain ⟨ended, j⟩ := r
        cases ended with
        | some result => exact hadd (fun r => (result :: r.1, r.2)) fun _ _ => rfl
        | none => exact hadd (fun r => (r.1, j :: r.2)) fun _ _ => rfl

/-- What is in one list first and in the other list last is the same, and so is what is last and
first. -/
def Crossed {α : Type} (R S : α → α → Prop) (l l' : List α) : Prop :=
  ∃ a b a' b', l = a ++ b ∧ l' = b' ++ a' ∧ List.Forall₂ R a a' ∧ List.Forall₂ S b b'

theorem Crossed.filter {α : Type} {R S : α → α → Prop} {l l' : List α} {f : α → Bool}
    (hR : ∀ {x x'}, R x x' → f x' = f x) (hS : ∀ {x x'}, S x x' → f x' = f x)
    (h : Crossed R S l l') : Crossed R S (l.filter f) (l'.filter f) := by
  have hfilter : ∀ {T : α → α → Prop}, (∀ {x x'}, T x x' → f x' = f x) → ∀ {a a' : List α},
      List.Forall₂ T a a' → List.Forall₂ T (a.filter f) (a'.filter f) := by
    intro T hT a a' ha
    induction ha with
    | nil => exact .nil
    | @cons x x' a a' hx ha ih =>
      rw [List.filter_cons, List.filter_cons, hT hx]
      split
      · exact .cons hx ih
      · exact ih
  obtain ⟨a, b, a', b', rfl, rfl, ha, hb⟩ := h
  exact ⟨_, _, _, _, List.filter_append .., List.filter_append .., hfilter hR ha, hfilter hS hb⟩

/-- Of each entity the lists have the same, in the same order. -/
theorem Crossed.alike {α β : Type} {R S : α → α → Prop} {l l' : List α} {entity : α → EntityId}
    {f : α → β} {a b : EntityId} (hne : a ≠ b)
    (hR : ∀ {x x'}, R x x' → entity x = a ∧ entity x' = a ∧ f x' = f x)
    (hS : ∀ {x x'}, S x x' → entity x = b ∧ entity x' = b ∧ f x' = f x)
    (h : Crossed R S l l') (id : EntityId) :
    (l'.filter fun x => entity x = id).map f = (l.filter fun x => entity x = id).map f := by
  have hone : ∀ {T : α → α → Prop} {c : EntityId},
      (∀ {x x'}, T x x' → entity x = c ∧ entity x' = c ∧ f x' = f x) →
      ∀ {k k' : List α}, List.Forall₂ T k k' →
        (k'.filter fun x => entity x = id).map f = (k.filter fun x => entity x = id).map f ∧
        (c ≠ id → k.filter (fun x => entity x = id) = []) := by
    intro T c hT k k' hk
    induction hk with
    | nil => exact ⟨rfl, fun _ => rfl⟩
    | @cons x x' k k' hx hk ih =>
      obtain ⟨hentity, hentity', hf⟩ := hT hx
      by_cases hid : c = id
      · simp [hentity, hentity', hid, hf, ih.1]
      · simp [hentity, hentity', hid, ih.1, ih.2]
  obtain ⟨k, q, k', q', rfl, rfl, hk, hq⟩ := h
  obtain ⟨hk, hnone⟩ := hone hR hk
  obtain ⟨hq, hnone'⟩ := hone hS hq
  simp only [List.filter_append, List.map_append, hk, hq]
  -- The entity is not both.
  by_cases hid : a = id
  · rw [hnone' fun hid' => hne (hid.trans hid'.symm), List.map_nil, List.append_nil,
      List.nil_append]
  · rw [hnone hid, List.map_nil, List.append_nil, List.nil_append]

/-- Two machines are the same but for the order of the instances and their numbers: those of one
module are the first on one machine, and those of the other module on the other machine. -/
structure Strangers.Mirrors (p : Strangers) (m m' : Machine) : Prop where
  agrees : m.world.Agrees m'.world
  idle : m.world.pool.pending = []
  instances : Crossed p.Twins p.flip.Twins m.world.pool.instances m'.world.pool.instances
  avoids : (m.world.library.read p.graph).Avoids p.other
  avoids' : (m.world.library.read p.cell).Avoids p.entity
  ordinary : m.Ordinary
  ordinary' : m'.Ordinary

section Updates

variable {p : Strangers} {m m' : Machine} {w w' : World} {depth : Nat}

/-- The turns of two modules come to the same in either order. -/
theorem Strangers.turns_meet (depth : Nat) (hm : m.Ordinary) (hm' : m'.Ordinary) (dt : Float)
    {is is' js js' : List Instance} (his : List.Forall₂ p.Twins is is')
    (hjs : List.Forall₂ p.flip.Twins js js') (hagrees : w.Agrees w')
    (havoids : (w.library.read p.graph).Avoids p.other)
    (havoids' : (w.library.read p.cell).Avoids p.entity) :
    Script.Meet (Service.atDepth (depth + 1)) m m' (stepAll dt (is ++ js)) (stepAll dt (js' ++ is'))
      w w' fun r v r' v' => v.Agrees v' ∧ Crossed p.Echoes p.flip.Echoes r.1 r'.1 ∧
        Crossed p.Twins p.flip.Twins r.2 r'.2 ∧
        { v.pool with instances := [] } = { w.pool with instances := [] } ∧
        ∀ cell, (v.library.read cell).nodes = (w.library.read cell).nodes := by
  -- The other module goes first on the second machine.
  have hstart : p.flip.Beside w w' w w' := ⟨hagrees.but _ _, .refl .., .refl .., havoids'⟩
  obtain ⟨_, _, q', x', _, hother, _, _, hbefore⟩ := stepAll_meets depth hm hm' dt hjs hstart
  -- The module finds the world as it is, but for what the other one did.
  have hthen : p.Beside w x' w x' :=
    ⟨(hagrees.but _ _).trans hbefore.right, .refl .., .refl .., havoids⟩
  obtain ⟨r, v, r', y', hrun, hrun', hreports, hkept, hv⟩ :=
    stepAll_meets depth hm hm' dt his hthen
  -- So does the other module, on the first machine.
  have hlast : p.flip.Beside v w' v w' := by
    refine ⟨hv.left.symm.trans (hagrees.but _ _), .refl .., .refl .., fun node hnode => ?_⟩
    exact havoids' node (hv.left.nodes p.cell ▸ hnode)
  obtain ⟨q, y, q₂, x₂, hlater, hother₂, hreports', hkept', hy⟩ :=
    stepAll_meets depth hm hm' dt hjs hlast
  cases hother.symm.trans hother₂
  have hagree : y.Agrees y' :=
    World.AgreesBut.both (hy.agrees.trans hv.right) (hy.left.symm.trans hv.agrees) p.entities
      p.graphs
  refine ⟨(r.1 ++ q.1, r.2 ++ q.2), y, (q'.1 ++ r'.1, q'.2 ++ r'.2), y', ?_, ?_, hagree,
    ⟨_, _, _, _, rfl, rfl, hreports, hreports'⟩, ⟨_, _, _, _, rfl, rfl, hkept, hkept'⟩, ?_, ?_⟩
  · rw [stepAll_append, Script.run_bind, hrun]
    show ((stepAll dt js).bind _).run _ _ = _
    rw [Script.run_bind, hlater]
    rfl
  · rw [stepAll_append, Script.run_bind, hother]
    show ((stepAll dt is').bind _).run _ _ = _
    rw [Script.run_bind, hrun']
    rfl
  · exact hy.left.pool.trans hv.left.pool
  · exact fun cell => (hy.left.nodes cell).trans (hv.left.nodes cell)

/-- What comes of the turns comes of the update. -/
theorem updateModules_of_turns {service : Service} {time dt : Float}
    {r : List ModuleReport × List Instance} {v : World}
    (hrun : (stepAll dt m.world.pool.instances).run service
      { m with world := m.world.opened time dt } = some (r, { m with world := v })) :
    (updateModules time dt).run service m = some (r.1, { m with world := v.closed r }) := by
  rw [run_updateModules, hrun]
  rfl

theorem World.Agrees.opened (h : w.Agrees w') (time dt : Float) :
    (w.opened time dt).Agrees (w'.opened time dt) where
  plain := by
    have hplain : ∀ w : World, (w.opened time dt).plain = (w.plain.opened time dt).plain :=
      fun _ => rfl
    rw [hplain, hplain w, h.plain]
  awareness := h.awareness
  heard := h.heard

theorem World.Agrees.closed (h : w.Agrees w') (r r' : List ModuleReport × List Instance) :
    (w.closed r).Agrees (w'.closed r') where
  plain := by
    have hplain : ∀ (w : World) r, (w.closed r).plain = (w.plain.closed ([], [])).plain :=
      fun _ _ => rfl
    rw [hplain, hplain w, h.plain]
  awareness := h.awareness
  heard := h.heard

theorem Machine.Ordinary.withWorld (h : m.Ordinary) (w : World) :
    Machine.Ordinary { m with world := w } :=
  ⟨h.setVar, h.wait, h.animation⟩

theorem Strangers.Twins.entity_eq {i i' : Instance} (h : p.Twins i i') : i'.entity = i.entity := by
  obtain ⟨_, n, rfl⟩ := h
  rfl

namespace Strangers.Mirrors

/-- An update comes to the same. -/
theorem update (h : p.Mirrors m m') (time dt : Float) (depth : Nat) :
    ∃ reports n reports' n',
      (updateModules time dt).run (Service.atDepth (depth + 1)) m = some (reports, n) ∧
      (updateModules time dt).run (Service.atDepth (depth + 1)) m' = some (reports', n') ∧
      Crossed p.Echoes p.flip.Echoes reports reports' ∧ p.Mirrors n n' := by
  obtain ⟨is, js, is', js', hinstances, hinstances', his, hjs⟩ := h.instances
  obtain ⟨r, v, r', v', hrun, hrun', hagrees, hreports, hkept, hpool, hnodes⟩ :=
    turns_meet depth h.ordinary h.ordinary' dt his hjs (h.agrees.opened time dt)
      h.avoids h.avoids'
  rw [← hinstances] at hrun
  rw [← hinstances'] at hrun'
  have hidle : v.pool.pending = [] := (congrArg Pool.pending hpool :).trans h.idle
  have hidle' : v'.pool.pending = v.pool.pending :=
    (congrArg (fun w => w.pool.pending) hagrees.plain :)
  have hremoved : v'.pool.removed = v.pool.removed :=
    (congrArg (fun w => w.pool.removed) hagrees.plain :)
  have hsettle : ∀ {u : World} {r : List ModuleReport × List Instance}, u.pool.pending = [] →
      (u.closed r).pool.instances = r.2.filter fun i => !u.pool.removed.contains i.entity := by
    intro u r hpending
    simp [World.closed, World.record, Pool.settle, hpending]
  refine ⟨_, _, _, _, updateModules_of_turns hrun, updateModules_of_turns hrun', hreports, ?_⟩
  exact
    { agrees := hagrees.closed r r'
      idle := rfl
      instances := by
        dsimp only
        rw [hsettle hidle, hsettle (hidle'.trans hidle), hremoved]
        exact hkept.filter (fun hx => by rw [hx.entity_eq]) fun hx => by rw [hx.entity_eq]
      avoids := fun node hnode => h.avoids node (hnodes p.graph ▸ hnode)
      avoids' := fun node hnode => h.avoids' node (hnodes p.cell ▸ hnode)
      ordinary := h.ordinary.withWorld _
      ordinary' := h.ordinary'.withWorld _ }

end Strangers.Mirrors

end Updates

/-! ## Many updates -/

/-- What an update is given: the reading of the clock, the input, and the times. -/
structure Tick where
  clock : Float
  input : Option Input := none
  time : Float
  dt : Float

/-- The host moves on to a tick. -/
def World.atTick (w : World) (t : Tick) : World :=
  { w with clock := t.clock, director := w.director.map ({ · with input := t.input }) }

/-- The update of a tick. -/
def Tick.update (t : Tick) : Script (List ModuleReport) :=
  .read fun w => .write (w.atTick t) (updateModules t.time t.dt)

/-- The updates of some ticks, with what is reported in each. -/
def updateAll : List Tick → Script (List (List ModuleReport))
  | [] => .done []
  | t :: rest => t.update.bind fun reports => (updateAll rest).bind fun more =>
      .done (reports :: more)

theorem Strangers.Mirrors.updateAll {p : Strangers} {m m' : Machine} (h : p.Mirrors m m')
    (ticks : List Tick) (depth : Nat) :
    ∃ reports n reports' n',
      (updateAll ticks).run (Service.atDepth (depth + 1)) m = some (reports, n) ∧
      (updateAll ticks).run (Service.atDepth (depth + 1)) m' = some (reports', n') ∧
      List.Forall₂ (Crossed p.Echoes p.flip.Echoes) reports reports' ∧ p.Mirrors n n' := by
  induction ticks generalizing m m' with
  | nil => exact ⟨[], m, [], m', rfl, rfl, .nil, h⟩
  | cons t rest ih =>
    have hat : ∀ w : World, (w.atTick t).plain = (w.plain.atTick t).plain := fun _ => rfl
    have hmoved :
        p.Mirrors { m with world := m.world.atTick t } { m' with world := m'.world.atTick t } :=
      { agrees :=
          { plain := by rw [hat, hat m.world, h.agrees.plain]
            awareness := h.agrees.awareness
            heard := h.agrees.heard }
        idle := h.idle
        instances := h.instances
        avoids := h.avoids
        avoids' := h.avoids'
        ordinary := h.ordinary.withWorld _
        ordinary' := h.ordinary'.withWorld _ }
    obtain ⟨reports, n, reports', n', hrun, hrun', hreports, hn⟩ := hmoved.update t.time t.dt depth
    obtain ⟨more, k, more', k', hlater, hlater', hmore, hk⟩ := ih hn
    refine ⟨reports :: more, k, reports' :: more', k', ?_, ?_, .cons hreports hmore, hk⟩
    · rw [SceneLogic.updateAll, Script.run_bind, Tick.update, Script.run, Script.run, hrun]
      show ((SceneLogic.updateAll rest).bind _).run _ n = _
      rw [Script.run_bind, hlater]
      rfl
    · rw [SceneLogic.updateAll, Script.run_bind, Tick.update, Script.run, Script.run, hrun']
      show ((SceneLogic.updateAll rest).bind _).run _ n' = _
      rw [Script.run_bind, hlater']
      rfl

/-- The instances of an entity, whatever their numbers. -/
def Pool.statesOf (p : Pool) (id : EntityId) : List Instance :=
  (p.instances.filter fun i => i.entity = id).map (·.renumbered 0)

/-- What is reported of an entity, under whatever numbers. -/
def reportsOf (reports : List ModuleReport) (id : EntityId) : List ModuleReport :=
  (reports.filter fun r => r.entity = id).map (·.renumbered 0)

/-- **Independent modules commute.** Two instances run different graphs for different entities. All
blocks of these graphs only set variables or wait, and nothing in either graph looks at the entity
of the other one. Two machines are the same but for the order of these two in the pool and their
numbers, and for what their journals say of anything but the writes to module variables. Then all
updates come to an end on both, and leave the same entities, the same graphs with their defaults,
and the same of each instance, its variables included; of each entity the same writes are observed
in the same order, and in each update the same is reported. -/
theorem independent_modules_commute {m m' : Machine} {a b a' b' : Instance}
    (hentity : a.entity ≠ b.entity) (hgraph : a.graph ≠ b.graph)
    (ha : (m.world.library.read a.graph).Avoids b.entity)
    (hb : (m.world.library.read b.graph).Avoids a.entity)
    (hm : m.Ordinary) (hm' : m'.Ordinary) (hsame : m.world.Agrees m'.world)
    (hidle : m.world.pool.pending = []) (hfirst : m.world.pool.instances = [a, b])
    (hsecond : m'.world.pool.instances = [b', a']) (ha' : a' = a.renumbered a'.id)
    (hb' : b' = b.renumbered b'.id) (ticks : List Tick) (depth : Nat) :
    ∃ reports n reports' n',
      (updateAll ticks).run (Service.atDepth (depth + 1)) m = some (reports, n) ∧
      (updateAll ticks).run (Service.atDepth (depth + 1)) m' = some (reports', n') ∧
      n'.world.store = n.world.store ∧ n'.world.library = n.world.library ∧
      (∀ id, n'.world.pool.statesOf id = n.world.pool.statesOf id) ∧
      (∀ id, n'.world.heardOf id = n.world.heardOf id) ∧
      List.Forall₂ (fun r r' => ∀ id, reportsOf r' id = reportsOf r id) reports reports' := by
  let p : Strangers := ⟨a.entity, a.graph, b.entity, b.graph, hentity, hgraph⟩
  have hmirrors : p.Mirrors m m' :=
    { agrees := hsame
      idle := hidle
      instances := ⟨[a], [b], [a'], [b'], hfirst, hsecond,
        .cons ⟨⟨rfl, rfl⟩, _, ha'⟩ .nil, .cons ⟨⟨rfl, rfl⟩, _, hb'⟩ .nil⟩
      avoids := ha
      avoids' := hb
      ordinary := hm
      ordinary' := hm' }
  obtain ⟨reports, n, reports', n', hrun, hrun', hreports, hn⟩ := hmirrors.updateAll ticks depth
  have hecho : ∀ {p : Strangers} {r r' : ModuleReport}, p.Echoes r r' →
      r.entity = p.entity ∧ r'.entity = p.entity ∧ r'.renumbered 0 = r.renumbered 0 := by
    rintro p r _ ⟨hr, n, rfl⟩
    exact ⟨hr, hr, rfl⟩
  have htwin : ∀ {p : Strangers} {i i' : Instance}, p.Twins i i' →
      i.entity = p.entity ∧ i'.entity = p.entity ∧ i'.renumbered 0 = i.renumbered 0 := by
    rintro p i _ ⟨hi, n, rfl⟩
    exact ⟨hi.entity, hi.entity, rfl⟩
  refine ⟨reports, n, reports', n', hrun, hrun', (congrArg World.store hn.agrees.plain :),
    (congrArg World.library hn.agrees.plain :), hn.instances.alike hentity htwin htwin,
    hn.agrees.heard, hreports.imp fun r r' hr => hr.alike hentity hecho hecho⟩

/-! ## Two neighbours -/

namespace Neighbours

/-- Counts for itself, and gives up. -/
def counter : Graph where
  id := "counter"
  entry := "a"
  nodes := [⟨"a", .entry⟩,
    ⟨"b", .flow .instant "SetVariable" [("target", .text "n"), ("value", .int 2)]⟩,
    ⟨"c", .stop .failed (some "TIRED")⟩]
  edges := [.flow "a" "out" "b" "in", .flow "b" "out" "c" "in"]
  vars := [("n", .int 0)]

/-- Opens its entity, unless that is open. -/
def opener : Graph where
  id := "opener"
  entry := "a"
  nodes := [⟨"a", .entry⟩, ⟨"v", .value (.property "self" "open")⟩,
    ⟨"b", .condition none (some (.literal (.bool true))) .equals⟩,
    ⟨"c", .flow .instant "SetVar" [("name", .text "open"), ("value", .bool true)]⟩]
  edges := [.flow "a" "out" "b" "in", .flow "b" "false" "c" "in", .value "v" "b" "left"]

/-- A scene with the graphs and their entities, in which a module passes two nodes in an update. -/
def scene : World where
  store := (Store.empty.insert { id := ⟨"hall"⟩ }).insert { id := ⟨"gate"⟩ }
  library := .ofList [counter, opener]
  pool := { stepBound := 2 }

/-- The counter is started for the hall. -/
def count (w : World) : World :=
  (w.startGraph ⟨"hall"⟩ 0 []).2

/-- The opener is started for the gate. -/
def unlock (w : World) : World :=
  (w.startGraph ⟨"gate"⟩ 1 []).2

/-- A machine with the default actions. -/
def machine (world : World) : Machine :=
  Machine.withDefaultActions { world }

/-- Two updates. -/
def day : List Tick :=
  [{ clock := 0, time := 1, dt := 0 }, { clock := 0, time := 2, dt := 0 }]

theorem machine_ordinary (w : World) : (machine w).Ordinary :=
  Machine.ordinary_withDefaultActions rfl

theorem counter_avoids : counter.Avoids ⟨"gate"⟩ := by
  refine List.forall_mem_cons.mpr ⟨trivial, List.forall_mem_cons.mpr ⟨?_, ?_⟩⟩
  · show Text.trim "SetVariable" ∈ quietBlocks
    decide
  · exact List.forall_mem_singleton.mpr trivial

theorem opener_avoids : opener.Avoids ⟨"hall"⟩ := by
  refine List.forall_mem_cons.mpr ⟨trivial, List.forall_mem_cons.mpr ⟨Or.inr (Or.inl rfl),
    List.forall_mem_cons.mpr ⟨trivial, List.forall_mem_singleton.mpr ?_⟩⟩⟩
  show Text.trim "SetVar" ∈ quietBlocks
  decide

/-- The machines on which the one was started first, and the other. -/
def counted : Machine := machine (unlock (count scene))

def unlocked : Machine := machine (count (unlock scene))

theorem started : ∃ a b a' b' : Instance, counted.world.pool.instances = [a, b] ∧
    unlocked.world.pool.instances = [b', a'] ∧ (a.entity = ⟨"hall"⟩ ∧ a.graph = 0) ∧
    (b.entity = ⟨"gate"⟩ ∧ b.graph = 1) ∧ a' = a.renumbered a'.id ∧ b' = b.renumbered b'.id :=
  ⟨_, _, _, _, rfl, rfl, ⟨rfl, rfl⟩, ⟨rfl, rfl⟩, rfl, rfl⟩

/-- In the second update the counter gives up, and the gate is opened. -/
theorem counted_day : ((updateAll day).run (Service.atDepth 1) counted).map
    (fun r => (r.1, ((r.2.world.store.get? ⟨"gate"⟩).bind (·.value? "open")).map (·.flag))) =
      some ([[], [⟨1, ⟨"hall"⟩, "counter", some ⟨.designer "TIRED", "c"⟩⟩,
        ⟨2, ⟨"gate"⟩, "opener", none⟩]], some true) := by
  decide +kernel

end Neighbours

/-- The counter gives up in the second update, and the gate is opened, if the opener was started
first. -/
theorem neighbours_commute : ∃ (a b a' b' : Instance) (reports : List (List ModuleReport))
    (n : Machine), a.entity ≠ b.entity ∧ a.graph ≠ b.graph ∧
    (Neighbours.counted.world.library.read a.graph).Avoids b.entity ∧
    (Neighbours.counted.world.library.read b.graph).Avoids a.entity ∧
    Neighbours.counted.Ordinary ∧ Neighbours.unlocked.Ordinary ∧
    Neighbours.counted.world.Agrees Neighbours.unlocked.world ∧
    Neighbours.counted.world.pool.instances = [a, b] ∧
    Neighbours.unlocked.world.pool.instances = [b', a'] ∧
    (updateAll Neighbours.day).run (Service.atDepth 1) Neighbours.unlocked = some (reports, n) ∧
    reports.map (reportsOf · ⟨"hall"⟩) =
      [[], [⟨0, ⟨"hall"⟩, "counter", some ⟨.designer "TIRED", "c"⟩⟩]] ∧
    ((n.world.store.get? ⟨"gate"⟩).bind (·.value? "open")).map (·.flag) = some true := by
  obtain ⟨a, b, a', b', hfirst, hsecond, ⟨hhall, ha⟩, ⟨hgate, hb⟩, ha', hb'⟩ := Neighbours.started
  have hentity : a.entity ≠ b.entity := by
    rw [hhall, hgate]
    decide
  have hgraph : a.graph ≠ b.graph := by
    rw [ha, hb]
    decide
  have havoids : (Neighbours.counted.world.library.read a.graph).Avoids b.entity := by
    rw [ha, hgate]
    exact Neighbours.counter_avoids
  have havoids' : (Neighbours.counted.world.library.read b.graph).Avoids a.entity := by
    rw [hb, hhall]
    exact Neighbours.opener_avoids
  have hsame : Neighbours.counted.world.Agrees Neighbours.unlocked.world :=
    ⟨rfl, fun _ => rfl, fun _ => rfl⟩
  obtain ⟨reports, n, reports', n', hrun, hrun', hstore, -, -, -, hreports⟩ :=
    independent_modules_commute hentity hgraph havoids havoids' (Neighbours.machine_ordinary _)
      (Neighbours.machine_ordinary _) hsame rfl hfirst hsecond ha' hb' Neighbours.day 0
  have hday := Neighbours.counted_day
  rw [hrun] at hday
  have hmap : reports'.map (reportsOf · ⟨"hall"⟩) = reports.map (reportsOf · ⟨"hall"⟩) := by
    clear hrun hrun' hday
    induction hreports with
    | nil => rfl
    | cons h _ ih => rw [List.map_cons, List.map_cons, h, ih]
  obtain ⟨hrep, hopen⟩ := Prod.mk.inj (Option.some.inj hday)
  refine ⟨a, b, a', b', reports', n', hentity, hgraph, havoids, havoids',
    Neighbours.machine_ordinary _, Neighbours.machine_ordinary _, hsame, hfirst, hsecond, hrun', ?_,
    hstore ▸ hopen⟩
  rw [hmap]
  exact congrArg (List.map (reportsOf · ⟨"hall"⟩)) hrep

end SceneLogic
