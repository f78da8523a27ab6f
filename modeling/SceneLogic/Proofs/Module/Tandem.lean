import Mathlib.Data.List.Forall2
import SceneLogic.Defaults
import SceneLogic.Proofs.Module.Apart
import SceneLogic.Proofs.Module.Visit

/-!
# Two runs of a module

Two modules of different graphs run for different entities, they only set variables and wait, and
neither looks at the entity of the other. One of them is followed in two runs at once: in worlds
that are the same but for what belongs to the other module. There it does the same, so that the
worlds stay the same in this sense, and in either run it leaves alone what belongs to the other
one (`Strangers.Beside`).

* `Script.Meet` — two scripts that come to an end, and to what
* `Instance.runNode_meets` — a node that is run in two such worlds
* `stepAll_meets` — the turns of all instances of the module
-/

namespace SceneLogic

/-! ## Two runs -/

/-- Two scripts come to an end, each on its machine and in its world, and to what is asked for. -/
def Script.Meet {α β : Type} (service : Service) (m m' : Machine) (s : Script α) (s' : Script β)
    (w w' : World) (Q : α → World → β → World → Prop) : Prop :=
  ∃ a v b v', s.run service { m with world := w } = some (a, { m with world := v }) ∧
    s'.run service { m' with world := w' } = some (b, { m' with world := v' }) ∧ Q a v b v'

namespace Script.Meet

variable {α β γ δ : Type} {service : Service} {m m' : Machine} {w w' v v' : World}
  {Q : α → World → β → World → Prop} {R : γ → World → δ → World → Prop}

theorem done {a : α} {b : β} (h : Q a w b w') : Meet service m m' (.done a) (.done b) w w' Q :=
  ⟨a, w, b, w', rfl, rfl, h⟩

theorem read {k : World → Script α} {k' : World → Script β}
    (h : Meet service m m' (k w) (k' w') w w' Q) :
    Meet service m m' (.read k) (.read k') w w' Q :=
  h

theorem write {s : Script α} {s' : Script β} (h : Meet service m m' s s' v v' Q) :
    Meet service m m' (.write v s) (.write v' s') w w' Q :=
  h

theorem bind {s : Script α} {s' : Script β} {f : α → Script γ} {f' : β → Script δ}
    (h : Meet service m m' s s' w w' Q)
    (hf : ∀ a v b v', Q a v b v' → Meet service m m' (f a) (f' b) v v' R) :
    Meet service m m' (s.bind f) (s'.bind f') w w' R := by
  obtain ⟨a, v, b, v', hrun, hrun', hq⟩ := h
  obtain ⟨c, u, d, u', hnext, hnext', hr⟩ := hf a v b v' hq
  refine ⟨c, u, d, u', ?_, ?_, hr⟩
  · rw [Script.run_bind, hrun]
    exact hnext
  · rw [Script.run_bind, hrun']
    exact hnext'

theorem mono {s : Script α} {s' : Script β} {Q' : α → World → β → World → Prop}
    (h : Meet service m m' s s' w w' Q) (hq : ∀ a v b v', Q a v b v' → Q' a v b v') :
    Meet service m m' s s' w w' Q' := by
  obtain ⟨a, v, b, v', hrun, hrun', h⟩ := h
  exact ⟨a, v, b, v', hrun, hrun', hq a v b v' h⟩

theorem record {x x' : Happening} {P : World → World → Prop}
    (h : P (w.record x) (w'.record x')) : Meet service m m' (Script.record x) (Script.record x')
      w w' fun _ v _ v' => P v v' :=
  ⟨(), _, (), _, rfl, rfl, h⟩

end Script.Meet

/-- Variables of entities are set by the default action, and the names of the blocks that wait are
no names of actions. -/
structure Machine.Ordinary (m : Machine) : Prop where
  setVar : Dict.get? m.actions "SetVar" = some Control.setVar
  wait : Dict.get? m.actions "Wait" = none
  animation : Dict.get? m.actions "PlayAnimation" = none

/-- Registered where nothing was, the default actions are such. -/
theorem Machine.ordinary_withDefaultActions {m : Machine} (h : m.actions = []) :
    m.withDefaultActions.Ordinary := by
  have hregistered : ∀ (l : List (String × Action)) (m : Machine),
      (l.foldl (fun m a => m.registerAction a.1 a.2) m).actions =
        l.foldl (fun d a => Dict.insert d a.1 a.2) m.actions := by
    intro l
    induction l with
    | nil => exact fun _ => rfl
    | cons a rest ih => exact fun m => ih (m.registerAction a.1 a.2)
  have hactions : m.withDefaultActions.actions = Dict.ofList defaultActions := by
    rw [withDefaultActions, hregistered, h, Dict.ofList]
  exact ⟨by rw [hactions]; rfl, by rw [hactions]; rfl, by rw [hactions]; rfl⟩

/-- The instance with another number. -/
def Instance.renumbered (i : Instance) (n : InstanceId) : Instance :=
  { i with id := n }

/-- The report under another number. -/
def ModuleReport.renumbered (r : ModuleReport) (n : InstanceId) : ModuleReport :=
  { r with instanceId := n }

/-! ## What two modules have to do with each other -/

/-- The entity and the graph of a module, and those of another one. -/
structure Strangers where
  entity : EntityId
  graph : GraphRef
  other : EntityId
  cell : GraphRef
  entities : entity ≠ other
  graphs : graph ≠ cell

namespace Strangers

/-- The other way round. -/
def flip (p : Strangers) : Strangers where
  entity := p.other
  graph := p.cell
  other := p.entity
  cell := p.graph
  entities := p.entities.symm
  graphs := p.graphs.symm

/-- The instance is one of the module. -/
structure Has (p : Strangers) (i : Instance) : Prop where
  entity : i.entity = p.entity
  graph : i.graph = p.graph

/-- Two worlds that the module has come to from others. They are the same but for what belongs to
the other module, and this was left alone on the way. -/
structure Beside (p : Strangers) (u u' w w' : World) : Prop where
  agrees : w.AgreesBut p.other p.cell w'
  left : u.AgreesBut p.entity p.graph w
  right : u'.AgreesBut p.entity p.graph w'
  avoids : (w.library.read p.graph).Avoids p.other

/-- The occasions are the same in these worlds. -/
structure Faces (p : Strangers) (s s' : Situation) (u u' w w' : World) : Prop
    extends p.Beside u u' w w' where
  acting : s.entity = p.entity
  occasion : s' = { s with awareness := s'.awareness }
  awareness : w'.awareness? s' = w.awareness? s

variable {p : Strangers} {s s' : Situation} {u u' w w' : World} {i : Instance}

theorem Has.apart (hi : p.Has i) : i.entity ≠ p.other := by
  rw [hi.entity]
  exact p.entities

theorem Has.same {j : Instance} (hi : p.Has i) (h : i.Same j) : p.Has j :=
  ⟨h.entity.trans hi.entity, h.graph.trans hi.graph⟩

namespace Beside

/-- Entries of the journal do not matter. -/
theorem record (h : p.Beside u u' w w') {x x' : Happening} (hx : x.write? = none)
    (hx' : x'.write? = none) : p.Beside u u' (w.record x) (w'.record x') where
  agrees := (((w.agrees_record hx).but _ _).symm.trans h.agrees).trans
    ((w'.agrees_record hx').but _ _)
  left := h.left.trans ((w.agrees_record hx).but _ _)
  right := h.right.trans ((w'.agrees_record hx').but _ _)
  avoids := h.avoids

/-- The module writes one of its variables. -/
theorem publish (h : p.Beside u u' w w') (i j : InstanceId) (name : String) (v : Value) :
    p.Beside u u' (w.publishWrite i p.entity p.graph name v)
      (w'.publishWrite j p.entity p.graph name v) where
  agrees := h.agrees.publish p.graphs i j name v
  left := h.left.trans (.published w i p.entity p.graph name v)
  right := h.right.trans (.published w' j p.entity p.graph name v)
  avoids := by
    rw [World.read_publishWrite, if_pos rfl]
    exact h.avoids

/-- The module changes its entity. -/
theorem modify (h : p.Beside u u' w w') (f : Entity → Entity) :
    p.Beside u u' (w.modifyEntity p.entity f) (w'.modifyEntity p.entity f) where
  agrees := h.agrees.modify p.entities f
  left := h.left.trans (.modified w p.entity p.graph f)
  right := h.right.trans (.modified w' p.entity p.graph f)
  avoids := h.avoids

theorem read (h : p.Beside u u' w w') : w'.library.read p.graph = w.library.read p.graph :=
  h.agrees.read p.graphs

theorem get? (h : p.Beside u u' w w') : w'.store.get? p.entity = w.store.get? p.entity :=
  h.agrees.get? p.entities

end Beside

namespace Faces

theorem record (h : p.Faces s s' u u' w w') {x x' : Happening} (hx : x.write? = none)
    (hx' : x'.write? = none) : p.Faces s s' u u' (w.record x) (w'.record x') :=
  ⟨h.toBeside.record hx hx', h.acting, h.occasion, h.awareness⟩

theorem write (h : p.Faces s s' u u' w w') (hi : p.Has i) (n : InstanceId) (name : String)
    (v : Value) : p.Faces s s' u u' (w.publishWrite i.id i.entity i.graph name v)
      (w'.publishWrite n i.entity i.graph name v) := by
  rw [hi.entity, hi.graph]
  exact ⟨h.toBeside.publish i.id n name v, h.acting, h.occasion, h.awareness⟩

theorem modify (h : p.Faces s s' u u' w w') (f : Entity → Entity) :
    p.Faces s s' u u' (w.modifyEntity p.entity f) (w'.modifyEntity p.entity f) :=
  ⟨h.toBeside.modify f, h.acting, h.occasion, h.awareness⟩

/-- The module looks things up in both worlds, of which it sees the same. -/
theorem lookup (h : p.Faces s s' u u' w w') (i : Instance) :
    i.lookup w' s' = (i.lookup w s).inStore w'.store := by
  have hcanvas : w'.canvas = w.canvas := (congrArg World.canvas h.agrees.masked :)
  have htime : w'.pool.time = w.pool.time :=
    (congrArg (fun w => w.pool.time) h.agrees.masked :)
  unfold Instance.lookup Lookup.inStore
  rw [hcanvas, htime, h.occasion]

theorem evidence (h : p.Faces s s' u u' w w') (i : Instance) :
    i.evidence w' s' = (i.evidence w s).inStore w'.store := by
  unfold Instance.evidence Evidence.inStore
  rw [h.lookup, h.awareness, h.occasion]

theorem owns (h : p.Faces s s' u u' w w') (hi : p.Has i) (name : String) :
    i.owns w' name = i.owns w name := by
  unfold Instance.owns Instance.entityHas
  rw [hi.entity, h.get?]

/-- What the module sees of the other entity, it does not look at. -/
theorem past (h : p.Faces s s' u u' w w') (i : Instance) :
    ∀ id ≠ p.other, w'.store.get? id = (i.lookup w s).store.get? id :=
  fun _ hid => h.agrees.get? hid

theorem contains (h : p.Faces s s' u u' w w') (hi : p.Has i) :
    w'.store.contains i.entity = w.store.contains i.entity := by
  rw [hi.entity]
  exact congrArg Option.isSome h.get?

end Faces

end Strangers

/-! ## Blocks -/

section Blocks

variable {p : Strangers} {s s' : Situation} {u u' w w' : World} {i : Instance} {n : InstanceId}
  {m m' : Machine} {depth : Nat}

/-- An instance of the module became this one, in either run under its own number, and the module is
still where it was. -/
def Strangers.Kept (p : Strangers) (s s' : Situation) (u u' : World) (i : Instance)
    (n : InstanceId) (j : Instance) (v : World) (j' : Instance) (v' : World) : Prop :=
  j' = j.renumbered n ∧ i.Same j ∧ p.Faces s s' u u' v v'

/-- The same, for what comes with an answer. -/
def Strangers.Tied {α : Type} (p : Strangers) (s s' : Situation) (u u' : World) (i : Instance)
    (n : InstanceId) (r : α × Instance) (v : World) (r' : α × Instance) (v' : World) : Prop :=
  r' = (r.1, r.2.renumbered n) ∧ i.Same r.2 ∧ p.Faces s s' u u' v v'

/-- The default action sets a variable of the acting entity. -/
theorem Control.setVar_meets (service : Service) {t t' : Situation} (h : p.Faces s s' u u' w w')
    (ht : t.entity = p.entity) (ht' : t'.entity = p.entity) (params : Params) :
    Script.Meet service m m' (setVar t params) (setVar t' params) w w' fun _ v _ v' =>
      p.Faces s s' u u' v v' := by
  unfold setVar Script.withText
  split
  · refine .read ?_
    rw [ht, ht', h.get?]
    split
    · exact .done h
    · split
      · exact .done h
      · exact .write (.done (h.modify _))
  · exact .done h

namespace Instance

theorem perform_setVar (hm : m.Ordinary) (hm' : m'.Ordinary) (h : p.Faces s s' u u' w w')
    (params : Params) :
    Script.Meet (Service.atDepth (depth + 1)) m m' (i.perform s "SetVar" params)
      ((i.renumbered n).perform s' "SetVar" params) w w' fun _ v _ v' =>
        p.Faces s s' u u' v v' := by
  have hacting : s'.entity = p.entity := by
    rw [h.occasion]
    exact h.acting
  have hset : Script.Meet (Service.atDepth depth) m m'
      (Control.setVar { s with scope := some i.vars } params)
      (Control.setVar { s' with scope := some i.vars } params) w w' fun _ v _ v' =>
        p.Faces s s' u u' v v' := Control.setVar_meets _ h h.acting hacting params
  obtain ⟨a, v, b, v', hrun, hrun', hv⟩ := hset
  refine ⟨(), v, (), v', ?_, ?_, hv⟩
  · simp only [perform, Script.act, Script.run, Service.atDepth, Service.above, hm.setVar, hrun]
    rfl
  · simp only [perform, Script.act, Script.run, Service.atDepth, Service.above, hm'.setVar]
    show (((Control.setVar { s' with scope := some i.vars } params).run _ _).map _).bind _ = _
    rw [hrun']
    rfl

/-- Nothing is done about an action that is not registered. -/
theorem perform_missing {name : String} (hm : Dict.get? m.actions name = none)
    (hm' : Dict.get? m'.actions name = none) (h : p.Faces s s' u u' w w') (params : Params) :
    Script.Meet (Service.atDepth (depth + 1)) m m' (i.perform s name params)
      ((i.renumbered n).perform s' name params) w w' fun _ v _ v' => p.Faces s s' u u' v v' := by
  refine ⟨(), w, (), w', ?_, ?_, h⟩
  · simp only [perform, Script.act, Script.run, Service.atDepth, Service.above, hm]
    rfl
  · simp only [perform, Script.act, Script.run, Service.atDepth, Service.above, hm']
    rfl

theorem write_meets {service : Service} (h : p.Faces s s' u u' w w') (hi : p.Has i) (name : String)
    (v : Value) : Script.Meet service m m' (i.write name v) ((i.renumbered n).write name v)
      w w' (p.Kept s s' u u' i n) :=
  .read (.write (.done ⟨rfl, ⟨rfl, rfl, rfl, rfl⟩, h.write hi n name v⟩))

theorem assign_meets {service : Service} (h : p.Faces s s' u u' w w') (hi : p.Has i)
    (name : String) (v : Value) :
    Script.Meet service m m' (i.assign name v) ((i.renumbered n).assign name v) w w'
      (p.Kept s s' u u' i n) := by
  refine .read ?_
  have howns : (i.renumbered n).owns w' name = i.owns w name := h.owns hi name
  have hcontains : w'.store.contains (i.renumbered n).entity = w.store.contains i.entity :=
    Strangers.Faces.contains (i := i) h hi
  rw [howns, hcontains]
  split
  · exact write_meets h hi name v
  · split
    · refine .write (.done ⟨rfl, .refl i, ?_⟩)
      show p.Faces s s' u u' (w.modifyEntity i.entity _) (w'.modifyEntity i.entity _)
      rw [hi.entity]
      exact h.modify _
    · exact write_meets h hi name v

theorem setVar_meets (hm : m.Ordinary) (hm' : m'.Ordinary) (h : p.Faces s s' u u' w w')
    (hi : p.Has i) (params : Params) :
    Script.Meet (Service.atDepth (depth + 1)) m m' (i.setVar s params)
      ((i.renumbered n).setVar s' params) w w' (p.Kept s s' u u' i n) := by
  have haside : ∀ params, Script.Meet (Service.atDepth (depth + 1)) m m'
      ((i.perform s "SetVar" params).bind fun _ => .done i)
      (((i.renumbered n).perform s' "SetVar" params).bind fun _ => .done (i.renumbered n))
      w w' (p.Kept s s' u u' i n) := fun params =>
    .bind (perform_setVar hm hm' h params) fun _ _ _ _ hv => .done ⟨rfl, .refl i, hv⟩
  unfold setVar
  split
  · exact haside params
  · next name _ =>
    refine .read ?_
    have hvalue : modifiedValue ((i.renumbered n).lookup w' s') name params =
        modifiedValue (i.lookup w s) name params := by
      have hlookup : (i.renumbered n).lookup w' s' = (i.lookup w s).inStore w'.store := h.lookup i
      rw [hlookup]
      exact modifiedValue_inStore hi.apart (h.past i) name params
    have howns : (i.renumbered n).owns w' name = i.owns w name := h.owns hi name
    dsimp only
    rw [hvalue, howns]
    split
    · exact write_meets h hi name _
    · exact haside _

/-- A quiet block that is run at once. -/
theorem runInstant_meets (hm : m.Ordinary) (hm' : m'.Ordinary) (h : p.Faces s s' u u' w w')
    (hi : p.Has i) {block : String} (hblock : Text.trim block ∈ quietBlocks) (params : Params) :
    Script.Meet (Service.atDepth (depth + 1)) m m' (i.runInstant s block params)
      ((i.renumbered n).runInstant s' block params) w w' (p.Tied s s' u u' i n) := by
  unfold runInstant
  dsimp only
  split
  · exact .done ⟨rfl, .refl i, h⟩
  · split
    · split
      · exact .done ⟨rfl, .refl i, h⟩
      · refine .bind (assign_meets h hi _ _) fun j v j' v' hj => ?_
        obtain ⟨rfl, hsame, hv⟩ := hj
        exact .done ⟨rfl, hsame, hv⟩
    · split
      · refine .bind (setVar_meets hm hm' h hi params) fun j v j' v' hj => ?_
        obtain ⟨rfl, hsame, hv⟩ := hj
        exact .done ⟨rfl, hsame, hv⟩
      · next hvariable hvar =>
        -- What is left are the blocks that wait, whose names are no names of actions.
        have hnone : Dict.get? m.actions (Text.trim block) = none ∧
            Dict.get? m'.actions (Text.trim block) = none := by
          simp only [quietBlocks, List.mem_cons, hvariable, hvar, List.not_mem_nil, false_or,
            or_false] at hblock
          rcases hblock with hname | hname
          · rw [hname]
            exact ⟨hm.wait, hm'.wait⟩
          · rw [hname]
            exact ⟨hm.animation, hm'.animation⟩
        exact .bind (perform_missing hnone.1 hnone.2 h params) fun _ _ _ _ hv =>
          .done ⟨rfl, .refl i, hv⟩

theorem runWait_renumbered (i : Instance) (n : InstanceId) (node : NodeId) (params : Params)
    (dt : Float) : (i.renumbered n).runWait node params dt =
      ((i.runWait node params dt).1, (i.runWait node params dt).2.renumbered n) := by
  unfold runWait renumbered
  dsimp only
  split
  · split <;> rfl
  · split <;> rfl

theorem runAnimation_renumbered (i : Instance) (n : InstanceId) (node : NodeId) (params : Params)
    (now : Float) : (i.renumbered n).runAnimation node params now =
      ((i.runAnimation node params now).1, (i.runAnimation node params now).2.renumbered n) := by
  unfold runAnimation renumbered
  dsimp only
  split
  · split <;> rfl
  · split <;> rfl

theorem evaluate_renumbered (i : Instance) (n : InstanceId) (g : Graph) (node : NodeId)
    (left right : Option Operand) (test : Test) (e : Evidence) :
    (i.renumbered n).evaluate g node left right test e =
      ((i.evaluate g node left right test e).1,
        (i.evaluate g node left right test e).2.renumbered n) := by
  unfold evaluate renumbered
  dsimp only
  split <;> rfl

/-- A quiet block that waits. -/
theorem runAsync_meets {service : Service} (h : p.Faces s s' u u' w w') {block : String}
    (hblock : Text.trim block ∈ quietBlocks) (node : NodeId) (params : Params) (dt : Float) :
    Script.Meet service m m' (i.runAsync s node block params dt)
      ((i.renumbered n).runAsync s' node block params dt) w w' (p.Tied s s' u u' i n) := by
  unfold runAsync
  split
  · have harm : Script.Meet service m m'
        (if i.armsWait node params then Script.record (.atNode i.id (.armed node)) else .done ())
        (if (i.renumbered n).armsWait node params then
          Script.record (.atNode (i.renumbered n).id (.armed node)) else .done ()) w w'
        fun _ v _ v' => p.Faces s s' u u' v v' := by
      have harms : (i.renumbered n).armsWait node params = i.armsWait node params := rfl
      rw [harms]
      split
      · exact .record (h.record rfl rfl)
      · exact .done h
    refine .bind harm fun _ v _ v' hv => .done ⟨runWait_renumbered i n node params dt, ?_, hv⟩
    obtain ⟨blocks, hblocks⟩ := i.runWait_same node params dt
    rw [hblocks]
    exact ⟨rfl, rfl, rfl, rfl⟩
  · split
    · next hmove =>
      rw [hmove] at hblock
      exact absurd hblock (by decide)
    · split
      · have hclock : w'.clock = w.clock := (congrArg World.clock h.agrees.masked :)
        refine .read ?_
        rw [hclock, runAnimation_renumbered]
        obtain ⟨blocks, hblocks⟩ := i.runAnimation_same node params w.clock
        refine .done ⟨rfl, ?_, h⟩
        rw [hblocks]
        exact ⟨rfl, rfl, rfl, rfl⟩
      · exact .done ⟨rfl, .refl i, h⟩

/-- A node of a graph that avoids the other entity. -/
theorem runNode_meets (hm : m.Ordinary) (hm' : m'.Ordinary) (h : p.Faces s s' u u' w w')
    (hi : p.Has i) {g : Graph} (hg : g.Avoids p.other) {node : Node} (hnode : node ∈ g.nodes)
    (dt : Float) :
    Script.Meet (Service.atDepth (depth + 1)) m m' (i.runNode s dt g node)
      ((i.renumbered n).runNode s' dt g node) w w' (p.Tied s s' u u' i n) := by
  have hlookup : (i.renumbered n).lookup w' s' = (i.lookup w s).inStore w'.store := h.lookup i
  have havoids := hg node hnode
  unfold runNode
  split
  · exact .done ⟨rfl, .refl i, h⟩
  · exact .done ⟨rfl, .refl i, h⟩
  · exact .done ⟨rfl, .refl i, h⟩
  · exact .done ⟨rfl, .refl i, h⟩
  · next left right test hkind =>
    rw [hkind] at havoids
    have hevidence : (i.renumbered n).evidence w' s' = (i.evidence w s).inStore w'.store :=
      h.evidence i
    have hevaluate := i.evaluate_inStore (e := i.evidence w s) hi.apart (h.past i) hg node.id left
      right havoids
    have hsame : i.Same (i.evaluate g node.id left right test (i.evidence w s)).2 := by
      obtain ⟨snapshots, hsnapshots⟩ := evaluate_same (i := i) (g := g) node.id left right test
        (i.evidence w s)
      rw [hsnapshots]
      exact ⟨rfl, rfl, rfl, rfl⟩
    refine .read ?_
    rw [hevidence, evaluate_renumbered, hevaluate]
    exact .done ⟨rfl, hsame, h⟩
  · next name cases hkind =>
    refine .read ?_
    rw [hlookup]
    dsimp only
    cases hfeed : g.feed? node.id "value" with
    | none =>
      dsimp only
      rw [Lookup.valueOf_inStore hi.apart (h.past i)]
      exact .done ⟨rfl, .refl i, h⟩
    | some source =>
      dsimp only
      rw [Lookup.source_inStore hi.apart (h.past i) (hg.feed hfeed)]
      exact .done ⟨rfl, .refl i, h⟩
  · next mode block params hkind =>
    rw [hkind] at havoids
    refine .read ?_
    rw [hlookup, Lookup.ports_inStore hi.apart (h.past i) hg]
    dsimp only
    split
    · exact runInstant_meets hm hm' h hi havoids _
    · exact runAsync_meets h havoids node.id _ dt
  · exact .done ⟨rfl, .refl i, h⟩

theorem visit_meets (hm : m.Ordinary) (hm' : m'.Ordinary) (h : p.Faces s s' u u' w w')
    (hi : p.Has i) {g : Graph} (hg : g.Avoids p.other) {node : Node} (hnode : node ∈ g.nodes)
    (dt : Float) :
    Script.Meet (Service.atDepth (depth + 1)) m m' (i.visit s dt g node)
      ((i.renumbered n).visit s' dt g node) w w' (p.Tied s s' u u' i n) := by
  refine .bind (.record (P := p.Faces s s' u u') (h.record rfl rfl)) fun _ v _ v' hv => ?_
  refine .bind (runNode_meets hm hm' hv hi hg hnode dt) fun r v r' v' hr => ?_
  obtain ⟨rfl, hsame, hv⟩ := hr
  obtain ⟨outcome, j⟩ := r
  cases outcome with
  | leave port =>
    exact .bind (.record (P := p.Faces s s' u u') (hv.record rfl rfl)) fun _ _ _ _ hv =>
      .done ⟨rfl, hsame, hv⟩
  | stay => exact .done ⟨rfl, hsame, hv⟩
  | finish error => exact .done ⟨rfl, hsame, hv⟩

/-! ## Turns -/

end Instance

/-- The turn of an instance of the module came to this, in either run under its own number. -/
structure Strangers.Turned (p : Strangers) (u u' : World) (i : Instance) (n : InstanceId)
    (r : Option ModuleReport × Instance) (v : World) (r' : Option ModuleReport × Instance)
    (v' : World) : Prop where
  alike : r' = (r.1.map (·.renumbered n), r.2.renumbered n)
  same : i.Same r.2
  report : ∀ report, r.1 = some report → report.entity = p.entity
  beside : p.Beside u u' v v'

namespace Instance

theorem runSteps_meets (hm : m.Ordinary) (hm' : m'.Ordinary) (dt : Float) (steps : Nat)
    (h : p.Faces s s' u u' w w') (hi : p.Has i) :
    Script.Meet (Service.atDepth (depth + 1)) m m' (runSteps s dt steps i)
      (runSteps s' dt steps (i.renumbered n)) w w' (p.Turned u u' i n) := by
  induction steps generalizing i w w' with
  | zero => exact .done ⟨rfl, .refl i, nofun, h.toBeside⟩
  | succ steps ih =>
    refine .read ?_
    have hgraph : w'.library.read (i.renumbered n).graph = w.library.read i.graph := by
      show w'.library.read i.graph = _
      rw [hi.graph]
      exact h.read
    have hg : (w.library.read i.graph).Avoids p.other := by
      rw [hi.graph]
      exact h.avoids
    have hended : ∀ {j : Instance} {error : Option Fault} {report : ModuleReport}, i.Same j →
        some (j.report error) = some report → report.entity = p.entity := by
      intro j error report hsame heq
      cases heq
      exact (hi.same hsame).entity
    rw [hgraph]
    dsimp only
    cases hfind : (w.library.read i.graph).find? i.cursor with
    | none =>
      have hfind' : (w.library.read i.graph).find? (i.renumbered n).cursor = none := hfind
      rw [hfind']
      exact .done ⟨rfl, .refl i, fun _ => hended (.refl i), h.toBeside⟩
    | some node =>
      have hfind' : (w.library.read i.graph).find? (i.renumbered n).cursor = some node := hfind
      rw [hfind']
      refine .bind (visit_meets hm hm' h hi hg (List.mem_of_find?_eq_some hfind) dt)
        fun r v r' v' hr => ?_
      obtain ⟨rfl, hsame, hv⟩ := hr
      obtain ⟨outcome, j⟩ := r
      cases outcome with
      | stay => exact .done ⟨rfl, hsame, nofun, hv.toBeside⟩
      | finish error => exact .done ⟨rfl, hsame, fun _ => hended hsame, hv.toBeside⟩
      | leave port =>
        dsimp only
        split
        · exact .done ⟨rfl, hsame, fun _ => hended hsame, hv.toBeside⟩
        · next target _ =>
          have hmoved : i.Same { j with cursor := target } :=
            ⟨hsame.id, hsame.entity, hsame.moduleId, hsame.graph⟩
          exact (ih hv (hi.same hmoved)).mono fun r v r' v' hr =>
            ⟨hr.alike, hmoved.trans hr.same, hr.report, hr.beside⟩

end Instance

/-- A situation arises in two worlds that the module sees alike. -/
theorem Strangers.Beside.faces (h : p.Beside u u' w w') (hi : p.Has i) (data : Params) :
    p.Faces (w.situationFor i.entity data).1 (w'.situationFor i.entity data).1 u u'
      (w.situationFor i.entity data).2 (w'.situationFor i.entity data).2 := by
  have hdirector : w'.director = w.director := (congrArg World.director h.agrees.masked :)
  have hlibrary : (w.situationFor i.entity data).2.library = w.library := by
    unfold World.situationFor
    split <;> rfl
  exact
    { agrees := (((w.agrees_situationFor i.entity data).but _ _).symm.trans h.agrees).trans
        ((w'.agrees_situationFor i.entity data).but _ _)
      left := h.left.trans ((w.agrees_situationFor i.entity data).but _ _)
      right := h.right.trans ((w'.agrees_situationFor i.entity data).but _ _)
      avoids := by
        rw [hlibrary]
        exact h.avoids
      acting := by
        rw [← hi.entity]
        unfold World.situationFor
        split <;> rfl
      occasion := by
        unfold World.situationFor
        rw [hdirector]
        split <;> rfl
      awareness := by
        unfold World.situationFor
        rw [hdirector]
        split
        · rfl
        · show some ((w'.senses.attend i.entity).2.read (w'.senses.attend i.entity).1) =
            some ((w.senses.attend i.entity).2.read (w.senses.attend i.entity).1)
          rw [Senses.read_attend, Senses.read_attend, h.agrees.awareness] }

namespace Instance

/-- The turn of an instance. -/
theorem step_meets (hm : m.Ordinary) (hm' : m'.Ordinary) (dt : Float) (h : p.Beside u u' w w')
    (hi : p.Has i) :
    Script.Meet (Service.atDepth (depth + 1)) m m' (i.step dt) ((i.renumbered n).step dt) w w'
      (p.Turned u u' i n) := by
  have hstep : ∀ j : Instance, j.step dt = .read fun w =>
      .write (w.situationFor j.entity [("dt", .float dt)]).2
        (runSteps (w.situationFor j.entity [("dt", .float dt)]).1 dt
          (w.situationFor j.entity [("dt", .float dt)]).2.pool.stepBound j) := fun _ => rfl
  have hfaces := h.faces hi [("dt", .float dt)]
  have hbound : (w'.situationFor i.entity [("dt", .float dt)]).2.pool.stepBound =
      (w.situationFor i.entity [("dt", .float dt)]).2.pool.stepBound :=
    (congrArg (fun w => w.pool.stepBound) hfaces.agrees.masked :)
  have hentity : (i.renumbered n).entity = i.entity := rfl
  rw [hstep, hstep, hentity]
  refine .read (.write ?_)
  rw [hbound]
  exact runSteps_meets hm hm' dt _ hfaces hi

end Instance

/-- The same instance of the module, under one number and another. -/
structure Strangers.Twins (p : Strangers) (i i' : Instance) : Prop where
  has : p.Has i
  alike : ∃ n, i' = i.renumbered n

/-- The same report about the module, under one number and another. -/
structure Strangers.Echoes (p : Strangers) (r r' : ModuleReport) : Prop where
  entity : r.entity = p.entity
  alike : ∃ n, r' = r.renumbered n

theorem Instance.terminalResult?_entity {report : ModuleReport}
    (h : i.terminalResult? = some report) : report.entity = i.entity := by
  unfold terminalResult? at h
  split at h
  · cases h
  · cases h
    rfl
  · cases h
    rfl

theorem Instance.terminalResult?_renumbered (i : Instance) (n : InstanceId) :
    (i.renumbered n).terminalResult? = i.terminalResult?.map (·.renumbered n) := by
  unfold terminalResult? renumbered
  dsimp only
  split <;> rfl

/-- The turns of all instances of the module. -/
theorem stepAll_meets (depth : Nat) (hm : m.Ordinary) (hm' : m'.Ordinary) (dt : Float)
    {is is' : List Instance} (his : List.Forall₂ p.Twins is is') (h : p.Beside u u' w w') :
    Script.Meet (Service.atDepth (depth + 1)) m m' (stepAll dt is) (stepAll dt is') w w'
      fun r v r' v' => List.Forall₂ p.Echoes r.1 r'.1 ∧ List.Forall₂ p.Twins r.2 r'.2 ∧
        p.Beside u u' v v' := by
  induction his generalizing w w' with
  | nil => exact .done ⟨.nil, .nil, h⟩
  | @cons i i' rest rest' hi _ ih =>
    obtain ⟨hi, n, rfl⟩ := hi
    have hremoved : w'.pool.removed = w.pool.removed :=
      (congrArg (fun w => w.pool.removed) h.agrees.masked :)
    have hentity : (i.renumbered n).entity = i.entity := rfl
    refine .read ?_
    rw [hremoved, hentity, i.terminalResult?_renumbered n]
    split
    · exact ih h
    · cases hresult : i.terminalResult? with
      | some result =>
        have hmine : result.entity = p.entity :=
          (Instance.terminalResult?_entity hresult).trans hi.entity
        refine .bind (ih h) fun r v r' v' hr => ?_
        exact .done ⟨.cons ⟨hmine, n, rfl⟩ hr.1, hr.2⟩
      | none =>
        refine .bind (Instance.step_meets hm hm' dt h hi) fun r v r' v' hr => ?_
        obtain ⟨rfl, hsame, hreport, hv⟩ := hr
        obtain ⟨ended, j⟩ := r
        refine .bind (ih hv) fun q x q' x' hq => ?_
        obtain ⟨hreports, hkept, hx⟩ := hq
        cases ended with
        | some result => exact .done ⟨.cons ⟨hreport _ rfl, n, rfl⟩ hreports, hkept, hx⟩
        | none => exact .done ⟨hreports, .cons ⟨hi.same hsame, n, rfl⟩ hkept, hx⟩

end Blocks

end SceneLogic
