import SceneLogic.Proofs.Module.Outside

/-!
# Progress in an update

In an update an instance goes on until it ends, or stays on a block that may wait, or has come by
as many nodes as the step bound allows. In the last case its cursor has moved on by that number.

* `Going` — an instance in the course of an update
* `Advanced` — an instance that an update has kept
* `InHand` — the instances that an update has yet to handle
* `stepAll_advances` — an update as a whole, whatever goes on beside it
-/

namespace SceneLogic

/-- The instance came to a block that may wait. -/
def Graph.Waits (g : Graph) (trail : List NodeEvent) : Prop :=
  ∃ id node, .entered id ∈ trail ∧ g.find? id = some node ∧ node.isAsync = true

theorem Graph.Waits.mono {g : Graph} {trail trail' : List NodeEvent} (h : g.Waits trail)
    (hsuffix : trail <:+ trail') : g.Waits trail' := by
  obtain ⟨id, node, hmem, hnode⟩ := h
  exact ⟨id, node, hsuffix.subset hmem, hnode⟩

/-- The number of nodes that the cursor has come by. -/
def Graph.hops (g : Graph) (trail : List NodeEvent) : Nat :=
  (g.cursors trail).length

/-- An instance in the course of an update that began in the world `w`: of `bound` steps `left`
are left. -/
structure Going (i : Instance) (w : World) (bound left : Nat) (i' : Instance) (w' : World) :
    Prop where
  held : w'.Held [i.id]
  same : i.Same i'
  fit : w'.Fit i'
  running : i'.status = .running
  graph : w'.skeletonOf i.graph = w.skeletonOf i.graph
  trail : w.trail i.id <:+ w'.trail i.id
  hops : (w.skeletonOf i.graph).hops (w.trail i.id) + bound ≤
    (w.skeletonOf i.graph).hops (w'.trail i.id) + left

/-- An instance that an update has kept: it came to a block that may wait, or has made all its
steps. -/
structure Advanced (i : Instance) (w : World) (bound : Nat) (i' : Instance) (w' : World) :
    Prop where
  same : i.Same i'
  fit : w'.Fit i'
  trail : w.trail i.id <:+ w'.trail i.id
  progress : (w.skeletonOf i.graph).Waits (w'.trail i.id) ∨
    (w.skeletonOf i.graph).hops (w.trail i.id) + bound ≤
      (w.skeletonOf i.graph).hops (w'.trail i.id)

/-- How an instance comes out of an update: with a report, or kept. -/
def CameOut (i : Instance) (w : World) (bound : Nat) (r : Option ModuleReport × Instance)
    (w' : World) : Prop :=
  match r.1 with
  | some report => report.instanceId = i.id ∧ report.entity = i.entity ∧ w'.Right i.id
  | none => Advanced i w bound r.2 w'

namespace Going

variable {i i' : Instance} {w w' v : World} {bound left : Nat} {node : Node}
  {r : NodeOutcome × Instance}

theorem onWay (h : Going i w bound left i' w') :
    OnWay (w.skeletonOf i.graph) i' (w'.trail i.id) := by
  rcases h.fit.way with ⟨_, hway⟩ | hrefused
  · rwa [h.same.graph, h.same.id, h.graph] at hway
  · have hstatus := h.running
    rw [hrefused.status] at hstatus
    cases hstatus

/-- An instance that runs is about to make its steps. -/
theorem start {w₁ : World} (hw : w.Held [i.id]) (hfit : w.Fit i) (hstatus : i.status = .running)
    (hsame : w.SameModules w₁) : Going i w bound bound i w₁ := by
  obtain ⟨_, hon⟩ := (Apart.of_same hsame).mono (List.nil_subset [i.id]) hw
  exact
    { held := hon.held
      same := .refl i
      fit := hfit.carry hon.graphs (hsame.trail _) fun _ _ hmem => hsame.history ▸ hmem
      running := hstatus
      graph := World.skeletonOf_keep hon.graphs hfit.cell
      trail := (hsame.trail i.id).symm ▸ List.suffix_refl _
      hops := (hsame.trail i.id).symm ▸ Nat.le_refl _ }

/-- The instance is out of the way of what goes on beside it. -/
theorem away (h : Going i w bound left i' w') :
    i.id < w'.pool.nextId ∧ i.id ∉ w'.knownIds :=
  h.held.away i.id List.mem_cons_self

theorem cell (h : Going i w bound left i' w') : i.graph < w'.library.cells.length :=
  h.same.graph ▸ h.fit.cell

/-- An instance that has moved on with its trail agrees with it. -/
theorem fit_of_onWay {i'' : Instance} {new : List PoolEvent} (h : Going i w bound left i' w')
    (hv : Onward [i.id] w' new v) (hsame : i.Same i'') (hstatus : i''.status = .running)
    (hway : OnWay (w.skeletonOf i.graph) i'' (v.trail i.id)) : v.Fit i'' where
  cell := by
    rw [hsame.graph]
    exact (hv.graphs _ h.cell).1
  started := by
    intro entity cell hmem
    rw [hsame.id] at hmem
    rw [hsame.graph, ← h.same.graph]
    refine h.fit.started entity cell ?_
    rw [h.same.id]
    exact hv.started_before h.away.1 entity cell hmem
  way := by
    refine Or.inl ⟨hstatus, ?_⟩
    rw [hsame.graph, hsame.id, World.skeletonOf_keep hv.graphs h.cell, h.graph]
    exact hway

/-- A trail without revisits is right, whoever else has gone on. -/
theorem right_of {new : List PoolEvent} (h : Going i w bound left i' w')
    (hv : Onward [i.id] w' new v) (hright : NoRevisit (w.skeletonOf i.graph) (v.trail i.id)) :
    v.Right i.id := by
  intro entity cell hmem
  have hcell := h.fit.started entity cell
    (h.same.id ▸ hv.started_before h.away.1 entity cell hmem)
  rw [World.Barred, hcell, h.same.graph, World.skeletonOf_keep hv.graphs h.cell, h.graph]
  refine ⟨⟨(hv.graphs _ h.cell).1, fun hcircle => ?_⟩, hright⟩
  rw [h.onWay.acyclic] at hcircle
  cases hcircle

/-- An instance that has made all its steps is kept. -/
theorem kept (h : Going i w bound 0 i' w') : CameOut i w bound (none, i') w' :=
  ⟨h.same, h.fit, h.trail, Or.inr h.hops⟩

/-- An instance may be reported at any moment. -/
theorem reported (h : Going i w bound left i' w') {error : Option Fault} :
    CameOut i w bound (some (i'.report error), i') w' :=
  ⟨h.same.id, h.same.entity, h.same.id ▸ h.fit.right⟩

/-- What was done at the node before it was left, if it was. -/
theorem visited (h : Going i w bound left i' w') {u : World}
    (hu : u = w'.record (.atNode i'.id (.entered node.id)))
    (htimer : i'.RanTimer (Apart []) node r u v) :
    (∃ new, Onward [i.id] w' new v) ∧
      ((v.trail i.id = .entered node.id :: w'.trail i.id ∧
          (node.isWait = true → r.1 = .stay → r.2.Timed node.id)) ∨
        (v.trail i.id = .armed node.id :: .entered node.id :: w'.trail i.id ∧ r.1 = .stay ∧
          node.isWait = true ∧ ¬ i'.Timed node.id ∧ r.2.Timed node.id)) := by
  rw [h.same.id] at hu
  have hentered : Apart [i.id] w' u := hu ▸ .of_note w' i.id _
  have htrail : u.trail i.id = .entered node.id :: w'.trail i.id := by
    rw [hu, World.trail_atNode_self]
  obtain ⟨_, hu'⟩ := hentered h.held
  cases htimer with
  | kept happart hwait =>
    obtain ⟨_, hv⟩ := happart ⟨hu'.held.toSane, nofun⟩
    obtain ⟨hid, hout⟩ := hu'.held.away i.id List.mem_cons_self
    refine ⟨hentered.trans (happart.mono (List.nil_subset _)) h.held, Or.inl ⟨?_, ?_⟩⟩
    · rw [(hv.others i.id hid hout List.not_mem_nil).2, htrail]
    · exact fun hw hs => (hwait hw hs).2
  | armed hwait hnot hstay htimed hv =>
    rw [h.same.id] at hv
    have harmed : Apart [i.id] u v := hv ▸ .of_note u i.id _
    refine ⟨hentered.trans harmed h.held, Or.inr ⟨?_, hstay, hwait, hnot, htimed⟩⟩
    rw [hv, World.trail_atNode_self, htrail]

/-- The instance stays on its node. -/
theorem stays {new : List PoolEvent} (h : Going i w bound (left + 1) i' w')
    (hnode : (w.skeletonOf i.graph).find? i'.cursor = some node) (hran : i'.RanNode node r)
    (hstay : r.1 = .stay) (hv : Onward [i.id] w' new v)
    (htrail : (v.trail i.id = .entered node.id :: w'.trail i.id ∧
          (node.isWait = true → r.1 = .stay → r.2.Timed node.id)) ∨
        (v.trail i.id = .armed node.id :: .entered node.id :: w'.trail i.id ∧ r.1 = .stay ∧
          node.isWait = true ∧ ¬ i'.Timed node.id ∧ r.2.Timed node.id)) :
    Advanced i w bound r.2 v := by
  obtain ⟨hsame, _, hstatus⟩ := hran.stands
  have hway : OnWay (w.skeletonOf i.graph) r.2 (v.trail i.id) := by
    rcases htrail with ⟨htrail, htimed⟩ | ⟨htrail, _, hwait, hnot, htimed⟩
    · rw [htrail]
      exact h.onWay.stay hnode hran hstay fun hw => htimed hw hstay
    · rw [htrail]
      exact h.onWay.arm hnode hran hstay hwait hnot htimed
  have hmem : .entered node.id ∈ v.trail i.id ∧ w'.trail i.id <:+ v.trail i.id := by
    rcases htrail with ⟨htrail, _⟩ | ⟨htrail, _⟩
    · rw [htrail]
      exact ⟨List.mem_cons_self, List.suffix_cons _ _⟩
    · rw [htrail]
      refine ⟨List.mem_cons_of_mem _ List.mem_cons_self, ?_⟩
      exact (List.suffix_cons _ _).trans (List.suffix_cons _ _)
  exact
    { same := h.same.trans hsame
      fit := h.fit_of_onWay hv (h.same.trans hsame) (hstatus.trans h.running) hway
      trail := h.trail.trans hmem.2
      progress := by
        refine Or.inl ⟨node.id, node, hmem.1, ?_, hran.stay hstay⟩
        rw [Graph.find?_id hnode]
        exact hnode }

/-- The instance leaves its node, and is reported if no edge leads on. -/
theorem leaves {new : List PoolEvent} {port : String} {i'' : Instance} {w'' : World} {g : Graph}
    (h : Going i w bound (left + 1) i' w') (hgraph : g.skeleton = w.skeletonOf i.graph)
    (hnode : (w.skeletonOf i.graph).find? i'.cursor = some node)
    (hran : i'.RanNode node (.leave port, i'')) (hv : Onward [i.id] w' new v)
    (htrail : v.trail i.id = .entered node.id :: w'.trail i.id)
    (hw : w'' = v.record (.atNode i''.id (.left node.id port))) :
    Instance.After g node (Going i w bound left) (CameOut i w bound) (.leave port, i'') w'' := by
  obtain ⟨hsame, _, hstatus⟩ := hran.stands
  have hsame' := h.same.trans hsame
  dsimp only at hsame' hstatus
  rw [hsame'.id] at hw
  obtain ⟨new', hw'⟩ := Apart.of_note v i.id (.left node.id port) hv.held
  rw [← hw] at hw'
  have hon := hv.trans h.held hw'
  have htrail' : w''.trail i.id = .left node.id port :: .entered node.id :: w'.trail i.id := by
    rw [hw, World.trail_atNode_self, htrail]
  have hnext : g.next? node.id port = (w.skeletonOf i.graph).next? node.id port := by
    rw [← hgraph]
    rfl
  unfold Instance.After
  dsimp only
  rw [hnext]
  cases hnext : (w.skeletonOf i.graph).next? node.id port with
  | none =>
    refine ⟨hsame'.id, hsame'.entity, h.right_of hon ?_⟩
    rw [htrail']
    exact h.onWay.leave hnode hran rfl
  | some next =>
    have hway := h.onWay.move hnode hran rfl hnext
    have hsuffix : w'.trail i.id <:+ w''.trail i.id := by
      rw [htrail']
      exact (List.suffix_cons _ _).trans (List.suffix_cons _ _)
    rw [← htrail'] at hway
    exact
      { held := hw'.held
        same := hsame'.trans ⟨rfl, rfl, rfl, rfl⟩
        fit := h.fit_of_onWay hon (hsame'.trans ⟨rfl, rfl, rfl, rfl⟩) (hstatus.trans h.running)
          hway
        running := hstatus.trans h.running
        graph := (World.skeletonOf_keep hon.graphs h.cell).trans h.graph
        trail := h.trail.trans hsuffix
        hops := by
          have hhops := h.hops
          unfold Graph.hops at hhops ⊢
          rw [htrail', Graph.cursors_left_some hnext, Graph.cursors_entered, List.length_cons]
          omega }

/-- After a visit the instance is kept, is reported, or goes on. -/
theorem after (h : Going i w bound (left + 1) i' w')
    (hnode : (w'.library.read i'.graph).find? i'.cursor = some node) (hran : i'.RanNode node r)
    {u w'' : World} (hu : u = w'.record (.atNode i'.id (.entered node.id)))
    (htimer : i'.RanTimer (Apart []) node r u v)
    (hw : w'' = match r.1 with
      | .leave port => v.record (.atNode r.2.id (.left node.id port))
      | _ => v) :
    Instance.After (w'.library.read i'.graph) node (Going i w bound left) (CameOut i w bound) r
      w'' := by
  have hgraph : (w'.library.read i'.graph).skeleton = w.skeletonOf i.graph := by
    rw [h.same.graph]
    exact h.graph
  have hfind : (w.skeletonOf i.graph).find? i'.cursor = some node := by
    rw [← hgraph]
    exact hnode
  obtain ⟨⟨new, hv⟩, htrail⟩ := h.visited hu htimer
  obtain ⟨o, i''⟩ := r
  -- Only an instance that stays may have set a timer.
  cases o with
  | stay =>
    rw [hw]
    exact h.stays hfind hran rfl hv htrail
  | finish error =>
    rw [hw]
    obtain ⟨hsame, _, _⟩ := hran.stands
    have hsame' := h.same.trans hsame
    obtain ⟨htrail, _⟩ := htrail.resolve_right fun hstay => nomatch hstay.2.1
    exact ⟨hsame'.id, hsame'.entity, h.right_of hv (htrail ▸ h.onWay.enter hfind)⟩
  | leave port =>
    obtain ⟨htrail, _⟩ := htrail.resolve_right fun hstay => nomatch hstay.2.1
    exact h.leaves hgraph hfind hran hv htrail hw

end Going

/-! ## An update as a whole -/

/-- How an instance that an update took out has fared. -/
inductive Stepped (i : Instance) (w : World) (r : List ModuleReport × List Instance) (w' : World) :
    Prop
  | gone {new : List PoolEvent} : w'.history = new ++ w.history →
      i.entity ∈ w.pool.removed ∨ .cancelled i.entity ∈ new → Stepped i w r w'
  | reported {report : ModuleReport} : report ∈ r.1 → report.instanceId = i.id → Stepped i w r w'
  | kept {i' : Instance} : i' ∈ r.2 → Advanced i w w.pool.stepBound i' w' → Stepped i w r w'

/-- What an update has made of the instances that it took out. -/
structure Handled (w : World) (instances : List Instance) (r : List ModuleReport × List Instance)
    (w' : World) : Prop where
  ids : (r.2.map (·.id)).Sublist (instances.map (·.id))
  fit : ∀ i ∈ r.2, w'.Fit i
  right : ∀ i ∈ instances, w'.Right i.id
  stepped : ∀ i ∈ instances, Stepped i w r w'

namespace Advanced

variable {busy : List InstanceId} {new : List PoolEvent} {bound : Nat} {i i' : Instance}
  {u v w : World}

/-- The instance has kept still before. -/
theorem rebase (h : Advanced i v bound i' w) (hv : Onward busy u new v) (hfit : u.Fit i)
    (hid : i.id < u.pool.nextId) (hout : i.id ∉ u.knownIds) (hbusy : i.id ∉ busy) :
    Advanced i u bound i' w := by
  have htrail := (hv.others i.id hid hout hbusy).2
  have hgraph := World.skeletonOf_keep hv.graphs hfit.cell
  exact
    { same := h.same
      fit := h.fit
      trail := htrail ▸ h.trail
      progress := by
        have hprogress := h.progress
        rwa [htrail, hgraph] at hprogress }

/-- The instance keeps still afterwards. -/
theorem carry (h : Advanced i u bound i' v) (hw : Onward busy v new w)
    (hid : i.id < v.pool.nextId) (hout : i.id ∉ v.knownIds) (hbusy : i.id ∉ busy) :
    Advanced i u bound i' w := by
  have htrail := (hw.others i.id hid hout hbusy).2
  have hi := h.same.id
  exact
    { same := h.same
      fit := hw.fit h.fit (hi ▸ hid) (hi ▸ hout) (hi ▸ hbusy)
      trail := htrail ▸ h.trail
      progress := by
        rw [htrail]
        exact h.progress }

end Advanced

theorem Stepped.rebase {busy : List InstanceId} {new : List PoolEvent} {i : Instance}
    {u v w : World} {r r' : List ModuleReport × List Instance} (h : Stepped i v r w)
    (hreports : r.1 ⊆ r'.1) (hkept : r.2 ⊆ r'.2) (hv : Onward busy u new v) (hfit : u.Fit i)
    (hid : i.id < u.pool.nextId) (hout : i.id ∉ u.knownIds) (hbusy : i.id ∉ busy) :
    Stepped i u r' w := by
  cases h with
  | gone hhistory hgone =>
    refine .gone (by rw [hhistory, hv.history, ← List.append_assoc]) ?_
    rcases hgone with hmem | hmem
    · rcases hv.removed _ hmem with hmem | hmem
      · exact Or.inl hmem
      · exact Or.inr (List.mem_append_right _ hmem)
    · exact Or.inr (List.mem_append_left _ hmem)
  | reported hmem hr => exact .reported (hreports hmem) hr
  | kept hmem hadv =>
    rw [hv.bound] at hadv
    exact .kept (hkept hmem) (hadv.rebase hv hfit hid hout hbusy)

section Update

variable {service : Service} {c : Conduct}

theorem Instance.atWork_apart (hservice : service.Keeps c (Apart [])) (i : Instance) :
    i.AtWork service c (Apart []) (Apart []) where
  steady := Apart.steady []
  service := hservice
  within := fun h => h
  own := by
    intro u v h
    cases h with
    | publish name v =>
      exact .of_same ⟨rfl, rfl, fun _ => rfl, u.keepsGraphs_publishWrite _ _ _ _ _⟩
    | assign name v => exact .of_same ⟨rfl, rfl, fun _ => rfl, .refl u⟩

/-- An instance that runs comes out of its step reported, or has advanced. -/
theorem Instance.step_comesOut (hservice : service.Keeps c (Apart [])) {i : Instance} (dt : Float)
    {w : World} (hw : w.Held [i.id]) (hfit : w.Fit i) (hstatus : i.status = .running) :
    (i.step dt).Yields service c (Apart [i.id]) w (CameOut i w w.pool.stepBound) := by
  have hsame := w.situationFor_sameModules i.entity [("dt", .float dt)]
  refine .read ?_
  generalize w.situationFor i.entity [("dt", .float dt)] = arisen at hsame
  obtain ⟨s, w₁⟩ := arisen
  have hapart : Apart [i.id] w w₁ := (Apart.of_same hsame).mono (List.nil_subset _)
  refine .write (Apart.steady _) hapart ?_
  obtain ⟨_, hon⟩ := hapart hw
  have hgoing : Going i w w.pool.stepBound w.pool.stepBound i w₁ := .start hw hfit hstatus hsame
  rw [hon.bound]
  -- `Going` is the invariant of the steps.
  refine runSteps_yields (Apart.steady _) (P := Going i w w.pool.stepBound) ?_ ?_ ?_ _ _ _ hgoing
  · exact fun i' w' h => h.kept
  · exact fun n i' w' h _ => h.reported
  · intro n i' w' node h hnode
    have hat := (i.atWork_apart hservice).same h.same
    refine (visit_yields hat (Apart.steady _) (fun h => h.mono (List.nil_subset _)) ?_).mono ?_
    · rw [h.same.id]
      exact fun u e => .of_note u i.id e
    · rintro r w'' _ ⟨hran, u, v, hu, htimer, hw''⟩
      exact h.after hnode hran hu htimer hw''

/-! ## The instances in hand -/

/-- Instances that an update has taken out of the pool and has yet to handle. -/
structure InHand (w : World) (instances : List Instance) : Prop where
  held : w.Held (instances.map (·.id))
  nodup : (instances.map (·.id)).Nodup
  fit : ∀ i ∈ instances, w.Fit i

namespace InHand

variable {i j : Instance} {rest : List Instance} {w w' : World} {new : List PoolEvent}

theorem away (h : InHand w rest) (hj : j ∈ rest) : j.id < w.pool.nextId ∧ j.id ∉ w.knownIds :=
  h.held.away j.id (List.mem_map.mpr ⟨j, hj, rfl⟩)

theorem tail (h : InHand w (i :: rest)) : InHand w rest where
  held := ⟨h.held.toSane, fun id hid => h.held.away id (List.mem_cons_of_mem _ hid)⟩
  nodup := (List.nodup_cons.mp h.nodup).2
  fit := fun j hj => h.fit j (List.mem_cons_of_mem _ hj)

theorem head (h : InHand w (i :: rest)) : w.Held [i.id] := by
  refine ⟨h.held.toSane, fun id hid => ?_⟩
  rw [List.mem_singleton.mp hid]
  exact h.away List.mem_cons_self

theorem head_not_mem (h : InHand w (i :: rest)) : i.id ∉ rest.map (·.id) :=
  (List.nodup_cons.mp h.nodup).1

theorem not_head (h : InHand w (i :: rest)) (hj : j ∈ rest) : j.id ∉ [i.id] := by
  intro hmem
  refine h.head_not_mem ?_
  rw [← List.mem_singleton.mp hmem]
  exact List.mem_map.mpr ⟨j, hj, rfl⟩

/-- While the first instance is at work the others keep still. -/
theorem after (h : InHand w (i :: rest)) (hon : Onward [i.id] w new w') : InHand w' rest where
  held := by
    refine ⟨hon.held.toSane, fun id hid => ?_⟩
    obtain ⟨j, hj, rfl⟩ := List.mem_map.mp hid
    obtain ⟨hlt, hout⟩ := h.tail.away hj
    exact ⟨Nat.lt_of_lt_of_le hlt hon.next, (hon.others j.id hlt hout (h.not_head hj)).1⟩
  nodup := h.tail.nodup
  fit := by
    intro j hj
    obtain ⟨hlt, hout⟩ := h.tail.away hj
    exact hon.fit (h.tail.fit j hj) hlt hout (h.not_head hj)

end InHand

namespace Handled

variable {i : Instance} {rest : List Instance} {busy : List InstanceId} {new : List PoolEvent}
  {u v w : World} {r r' : List ModuleReport × List Instance}

/-- One more instance, which was handled before the others. -/
theorem cons (h : Handled v rest r w) (hin : InHand u (i :: rest)) (hbusy : busy ⊆ [i.id])
    (hv : Onward busy u new v) (hi : Stepped i u r' w) (hright : w.Right i.id)
    (hreports : r.1 ⊆ r'.1) (hkept : r.2 ⊆ r'.2)
    (hids : (r'.2.map (·.id)).Sublist ((i :: rest).map (·.id))) (hfit : ∀ j ∈ r'.2, w.Fit j) :
    Handled u (i :: rest) r' w where
  ids := hids
  fit := hfit
  right := by
    intro j hj
    rcases List.mem_cons.mp hj with rfl | hj
    · exact hright
    · exact h.right j hj
  stepped := by
    intro j hj
    rcases List.mem_cons.mp hj with rfl | hj
    · exact hi
    · obtain ⟨hlt, hout⟩ := hin.tail.away hj
      have hfree : j.id ∉ busy := fun hmem => hin.not_head hj (hbusy hmem)
      exact (h.stepped j hj).rebase hreports hkept hv (hin.tail.fit j hj) hlt hout hfree

/-- One more instance, which was cancelled or had ended when its turn came. -/
theorem skip (h : Handled u rest r w) (hin : InHand u (i :: rest))
    (hon : Onward (rest.map (·.id)) u new w) (hi : Stepped i u r' w) (hreports : r.1 ⊆ r'.1)
    (hkept : r'.2 = r.2) : Handled u (i :: rest) r' w := by
  have hstill : Onward [] u [] u := .refl ⟨hin.held.toSane, nofun⟩
  obtain ⟨hlt, hout⟩ := hin.away List.mem_cons_self
  have hfit := hon.fit (hin.fit i List.mem_cons_self) hlt hout hin.head_not_mem
  refine h.cons hin (List.nil_subset _) hstill hi hfit.right hreports ?_ ?_ ?_
  · rw [hkept]
    exact List.Subset.refl _
  · rw [hkept]
    exact h.ids.cons _
  · rw [hkept]
    exact h.fit

/-- One more instance, which made its steps before the others and was reported. -/
theorem report (h : Handled v rest r w) (hin : InHand u (i :: rest)) (hv : Onward [i.id] u new v)
    {new' : List PoolEvent} (hon : Onward (rest.map (·.id)) v new' w) {report : ModuleReport}
    (hid : report.instanceId = i.id) (hright : v.Right i.id) :
    Handled u (i :: rest) (report :: r.1, r.2) w :=
  h.cons hin (List.Subset.refl _) hv (.reported List.mem_cons_self hid)
    (hon.right_all hin.head_not_mem hright) (List.subset_cons_self _ _) (List.Subset.refl _)
    (h.ids.cons _) h.fit

/-- One more instance, which made its steps before the others and is kept. -/
theorem keep (h : Handled v rest r w) (hin : InHand u (i :: rest)) (hv : Onward [i.id] u new v)
    {new' : List PoolEvent} (hon : Onward (rest.map (·.id)) v new' w) {i' : Instance}
    (hadv : Advanced i u u.pool.stepBound i' v) : Handled u (i :: rest) (r.1, i' :: r.2) w := by
  obtain ⟨hlt, hout⟩ := hv.held.away i.id List.mem_cons_self
  have hadv := hadv.carry hon hlt hout hin.head_not_mem
  refine h.cons hin (List.Subset.refl _) hv (.kept List.mem_cons_self hadv)
    (hadv.same.id ▸ hadv.fit.right) (List.Subset.refl _) (List.subset_cons_self _ _) ?_ ?_
  · rw [List.map_cons, List.map_cons, hadv.same.id]
    exact h.ids.cons_cons _
  · intro j hj
    rcases List.mem_cons.mp hj with rfl | hj
    · exact hadv.fit
    · exact h.fit j hj

end Handled

theorem Instance.running_of_not_terminal (i : Instance) (h : i.terminalResult? = none) :
    i.status = .running := by
  cases hs : i.status with
  | running => rfl
  | _ => simp [terminalResult?, hs] at h

/-- An update handles all instances that it took out. -/
theorem stepAll_advances (hservice : service.Keeps c (Apart [])) (dt : Float)
    (instances : List Instance) : ∀ {w : World}, InHand w instances →
      (stepAll dt instances).Yields service c (Apart (instances.map (·.id))) w
        (Handled w instances) := by
  -- By induction on the instances in hand. While the first one is at work the others are
  -- away, and while these are at work the first one is.
  induction instances with
  | nil =>
    intro w _
    exact .done (Apart.steady _) ⟨.refl _, nofun, nofun, nofun⟩
  | cons i rest ih =>
    intro w hin
    have hrest : ∀ {u v}, Apart (rest.map (·.id)) u v → Apart ((i :: rest).map (·.id)) u v :=
      fun h => h.mono (List.subset_cons_self _ _)
    have hfirst : ∀ {u v}, Apart [i.id] u v → Apart ((i :: rest).map (·.id)) u v :=
      fun h => h.mono (List.cons_subset.mpr ⟨List.mem_cons_self, List.nil_subset _⟩)
    refine .read ?_
    split
    · next hgone =>
      refine ((ih hin.tail).loosen hrest).mono fun r w' _ ⟨hapart, h⟩ => ?_
      obtain ⟨new, hon⟩ := hapart hin.tail.held
      have hi : Stepped i w r w' := .gone hon.history (Or.inl (List.contains_iff_mem.mp hgone))
      exact h.skip hin hon hi (List.Subset.refl _) rfl
    · split
      · next report hreport =>
        refine .bind (Apart.steady _) ((ih hin.tail).loosen hrest) fun r w' _ ⟨hapart, h⟩ => ?_
        obtain ⟨new, hon⟩ := hapart hin.tail.held
        have hi : Stepped i w (report :: r.1, r.2) w' :=
          .reported List.mem_cons_self (i.toldBy_terminalResult hreport).id
        exact .done (Apart.steady _) (h.skip hin hon hi (List.subset_cons_self _ _) rfl)
      · next hterminal =>
        have hstep := i.step_comesOut hservice dt hin.head (hin.fit i List.mem_cons_self)
          (i.running_of_not_terminal hterminal)
        refine .bind (Apart.steady _) (hstep.loosen hfirst) fun r₁ w₁ _ ⟨hapart₁, hout⟩ => ?_
        obtain ⟨new₁, hon₁⟩ := hapart₁ hin.head
        have hin₁ := hin.after hon₁
        refine .bind (Apart.steady _) ((ih hin₁).loosen hrest) fun r w' _ ⟨hapart, h⟩ => ?_
        obtain ⟨new, hon⟩ := hapart hin₁.held
        obtain ⟨ended, i'⟩ := r₁
        cases ended with
        | some report => exact .done (Apart.steady _) (h.report hin hon₁ hon hout.1 hout.2.2)
        | none => exact .done (Apart.steady _) (h.keep hin hon₁ hon hout)

end Update

end SceneLogic
