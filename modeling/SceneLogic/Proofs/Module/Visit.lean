import SceneLogic.Module.Run
import SceneLogic.Proofs.Conduct

/-!
# What an instance does at a node

Running a node mixes the instance's own work with actions, which are requests. The lemmas here
say what comes of the own work, whatever the actions do:

* `write_yields` to `runMoveTo_yields` — blocks change at most the variables of the instance
* `runNode_yields` — the instance stays where it is; it stays on only for a block that may wait;
  a test for a change that looks for the first time fails; timers are set once
* `runSteps_yields`, `stepAll_yields` — the rules for the two loops of an update
-/

namespace SceneLogic

/-! ## Kinds of nodes -/

namespace Node

/-- The node is a wait. -/
def isWait (n : Node) : Bool :=
  match n.kind with
  | .flow _ block _ => block = "Wait"
  | _ => false

/-- The node is a block that may wait. -/
def isAsync (n : Node) : Bool :=
  match n.kind with
  | .flow mode block _ => mode.effective block = .async
  | _ => false

/-- The node tests whether a value changed. -/
def testsChange (n : Node) : Bool :=
  match n.kind with
  | .condition _ _ test => test = .changed
  | _ => false

theorem isAsync_eq_false_of_testsChange {n : Node} (h : n.testsChange = true) :
    n.isAsync = false := by
  unfold testsChange at h
  unfold isAsync
  split at h
  · next hk => rw [hk]
  · cases h

end Node

/-! ## Surroundings -/

namespace Instance

/-- The changes of the world that the blocks of an instance make by themselves. -/
inductive Writes (i : Instance) : World → World → Prop
  | publish (w : World) (name : String) (v : Value) :
      Writes i w (w.publishWrite i.id i.entity i.graph name v)
  | assign (w : World) (name : String) (v : Value) :
      Writes i w (w.modifyEntity i.entity (·.assign name v))

/-- An instance is at work where requests keep `G`, and its own writes keep `H`. -/
structure AtWork (service : Service) (c : Conduct) (G H : World → World → Prop) (i : Instance) :
    Prop where
  steady : Steady H
  service : service.Keeps c G
  within : ∀ {u v}, G u v → H u v
  own : ∀ {u v}, i.Writes u v → H u v

/-- The number, entity and graph of an instance, which it keeps for good. -/
structure Same (i i' : Instance) : Prop where
  id : i'.id = i.id
  entity : i'.entity = i.entity
  moduleId : i'.moduleId = i.moduleId
  graph : i'.graph = i.graph

variable {service : Service} {c : Conduct} {G H K : World → World → Prop} {i : Instance}
  {w : World} {s : Situation} {dt : Float} {g : Graph} {node : Node}

theorem Same.refl (i : Instance) : Same i i :=
  ⟨rfl, rfl, rfl, rfl⟩

theorem Same.trans {i j k : Instance} (h : Same i j) (h' : Same j k) : Same i k :=
  ⟨h'.id.trans h.id, h'.entity.trans h.entity, h'.moduleId.trans h.moduleId,
    h'.graph.trans h.graph⟩

theorem AtWork.same {i' : Instance} (h : AtWork service c G H i) (hs : Same i i') :
    AtWork service c G H i' where
  steady := h.steady
  service := h.service
  within := h.within
  own := by
    intro u v hw
    cases hw with
    | publish name x =>
      rw [hs.id, hs.entity, hs.graph]
      exact h.own (.publish u name x)
    | assign name x =>
      rw [hs.entity]
      exact h.own (.assign u name x)

/-! ## Blocks -/

theorem perform_yields (h : AtWork service c G H i) (name : String) (params : Params) :
    (i.perform s name params).Yields service c H w fun _ _ => True :=
  .perform h.steady h.service h.within fun _ _ => .done h.steady trivial

theorem write_yields (h : AtWork service c G H i) (name : String) (v : Value) :
    (i.write name v).Yields service c H w fun i' _ => ∃ vars, i' = { i with vars } :=
  .read (.write h.steady (h.own (.publish w name v)) (.done h.steady ⟨_, rfl⟩))

theorem assign_yields (h : AtWork service c G H i) (name : String) (v : Value) :
    (i.assign name v).Yields service c H w fun i' _ => ∃ vars, i' = { i with vars } := by
  refine .read ?_
  split
  · exact write_yields h name v
  · split
    · exact .write h.steady (h.own (.assign w name v)) (.done h.steady ⟨i.vars, rfl⟩)
    · exact write_yields h name v

theorem setVar_yields (h : AtWork service c G H i) (params : Params) :
    (i.setVar s params).Yields service c H w fun i' _ => ∃ vars, i' = { i with vars } := by
  unfold setVar
  split
  · exact .bind h.steady (perform_yields h _ _) fun _ _ _ _ => .done h.steady ⟨i.vars, rfl⟩
  · refine .read ?_
    dsimp only
    split
    · exact write_yields h _ _
    · exact .bind h.steady (perform_yields h _ _) fun _ _ _ _ => .done h.steady ⟨i.vars, rfl⟩

/-- What comes of a block that does not wait. -/
structure RanThrough (i : Instance) (r : NodeOutcome × Instance) : Prop where
  vars : ∃ vars, r.2 = { i with vars }
  goesOn : r.1 ≠ .stay

theorem runInstant_yields (h : AtWork service c G H i) (block : String) (params : Params) :
    (i.runInstant s block params).Yields service c H w fun r _ => i.RanThrough r := by
  have hfail : (Script.done (NodeOutcome.finish (some .flowFailed), i)).Yields service c H w
      fun r _ => i.RanThrough r := .done h.steady ⟨⟨i.vars, rfl⟩, nofun⟩
  unfold runInstant
  dsimp only
  split
  · exact hfail
  · split
    · split
      · exact hfail
      · exact .bind h.steady (assign_yields h _ _) fun i' _ _ hi' =>
          .done h.steady ⟨hi', nofun⟩
    · split
      · exact .bind h.steady (setVar_yields h _) fun i' _ _ hi' => .done h.steady ⟨hi', nofun⟩
      · exact .bind h.steady (perform_yields h _ _) fun _ _ _ _ =>
          .done h.steady ⟨⟨i.vars, rfl⟩, nofun⟩

theorem runMoveTo_yields (h : AtWork service c G H i) (params : Params) :
    (i.runMoveTo s params).Yields service c H w fun r _ => r.2 = i := by
  refine .read ?_
  dsimp only
  split
  · exact .done h.steady rfl
  · refine .bind h.steady (perform_yields h _ _) fun _ w' _ _ => .read ?_
    split
    · exact .done h.steady rfl
    · exact .done h.steady rfl

theorem runAnimation_same (i : Instance) (node : NodeId) (params : Params) (now : Float) :
    ∃ blocks, (i.runAnimation node params now).2 = { i with blocks } := by
  unfold runAnimation
  split
  next started i₁ heq =>
    have hi₁ : ∃ blocks, i₁ = { i with blocks } := by
      split at heq
      · cases heq
        exact ⟨i.blocks, rfl⟩
      · cases heq
        exact ⟨_, rfl⟩
    obtain ⟨blocks, rfl⟩ := hi₁
    dsimp only
    split
    · exact ⟨_, rfl⟩
    · exact ⟨blocks, rfl⟩

/-! ## Timers -/

/-- The timer of a wait is set. -/
def Timed (i : Instance) (node : NodeId) : Prop :=
  ∃ remaining, Dict.get? i.blocks node = some (.wait remaining)

theorem runWait_same (i : Instance) (node : NodeId) (params : Params) (dt : Float) :
    ∃ blocks, (i.runWait node params dt).2 = { i with blocks } := by
  unfold runWait
  split
  · dsimp only
    split
    · exact ⟨_, rfl⟩
    · exact ⟨_, rfl⟩
  · dsimp only
    split
    · exact ⟨i.blocks, rfl⟩
    · exact ⟨_, rfl⟩

theorem runWait_of_arms {id : NodeId} {params : Params} (dt : Float)
    (h : i.armsWait id params = true) :
    ¬ i.Timed id ∧ (i.runWait id params dt).1 = .stay ∧ (i.runWait id params dt).2.Timed id := by
  unfold armsWait at h
  split at h
  · cases h
  · next hnone =>
    refine ⟨fun ⟨remaining, hget⟩ => hnone remaining hget, ?_⟩
    unfold runWait
    split
    · next remaining hget => exact absurd hget (hnone remaining)
    · have hseconds : ¬ waitSeconds params ≤ 0 := by simpa using h
      dsimp only
      rw [if_neg hseconds]
      exact ⟨rfl, _, Dict.get?_insert_self _ _ _⟩

/-- A wait that stays without setting its timer had set it before. -/
theorem runWait_of_not_arms {id : NodeId} {params : Params} (h : i.armsWait id params = false)
    (hstay : (i.runWait id params dt).1 = .stay) :
    i.Timed id ∧ (i.runWait id params dt).2.Timed id := by
  unfold armsWait at h
  unfold runWait at hstay ⊢
  split at h
  · next remaining hget =>
    refine ⟨⟨remaining, hget⟩, ?_⟩
    rw [hget] at hstay
    dsimp only at hstay ⊢
    split at hstay
    · cases hstay
    · next hleft =>
      rw [if_neg hleft]
      exact ⟨_, Dict.get?_insert_self _ _ _⟩
  · next hnone =>
    split at hstay
    · next remaining hget => exact absurd hget (hnone remaining)
    · have hseconds : waitSeconds params ≤ 0 := by simpa using h
      dsimp only at hstay
      rw [if_pos hseconds] at hstay
      cases hstay

/-! ## Nodes -/

/-- What comes of running a node: the instance stands where it stood. It stays on only for a
block that may wait, it remembers no other node's values, and a test for a change that has
nothing to compare with fails. Only such a test remembers a value, and it lets the instance go
on. -/
structure RanNode (i : Instance) (node : Node) (r : NodeOutcome × Instance) : Prop where
  same : ∃ vars blocks snapshots, r.2 = { i with vars, blocks, snapshots }
  stay : r.1 = .stay → node.isAsync = true
  snapshots : ∀ key, key ≠ snapshotKey node.id →
    Dict.get? r.2.snapshots key = Dict.get? i.snapshots key
  change : node.testsChange = true → Dict.get? i.snapshots (snapshotKey node.id) = none →
    ∀ port, r.1 = .leave port → port = "false"
  noted : r.2.snapshots ≠ i.snapshots → node.testsChange = true ∧ ∃ port, r.1 = .leave port

theorem RanNode.stands {r : NodeOutcome × Instance} (h : i.RanNode node r) :
    Same i r.2 ∧ r.2.cursor = i.cursor ∧ r.2.status = i.status := by
  obtain ⟨vars, blocks, snapshots, hsame⟩ := h.same
  rw [hsame]
  exact ⟨⟨rfl, rfl, rfl, rfl⟩, rfl, rfl⟩

/-- What running a node does to the timer of a wait, and to the world. -/
inductive RanTimer (H : World → World → Prop) (i : Instance) (node : Node)
    (r : NodeOutcome × Instance) (w w' : World) : Prop
  /-- No timer is set, and a wait that stays on has its timer already. -/
  | kept : H w w' → (node.isWait = true → r.1 = .stay → i.Timed node.id ∧ r.2.Timed node.id) →
      RanTimer H i node r w w'
  /-- The timer is set, which is all that happens. -/
  | armed : node.isWait = true → ¬ i.Timed node.id → r.1 = .stay → r.2.Timed node.id →
      w' = w.record (.atNode i.id (.armed node.id)) → RanTimer H i node r w w'

theorem RanThrough.ranNode {r : NodeOutcome × Instance} (h : i.RanThrough r)
    (hchange : node.testsChange = false) : i.RanNode node r where
  same := by
    obtain ⟨vars, hvars⟩ := h.vars
    exact ⟨vars, i.blocks, i.snapshots, hvars⟩
  stay := fun hs => absurd hs h.goesOn
  snapshots := by
    obtain ⟨vars, hvars⟩ := h.vars
    intro key _
    rw [hvars]
  change := by
    intro ht
    rw [hchange] at ht
    cases ht
  noted := by
    obtain ⟨vars, hvars⟩ := h.vars
    exact fun hne => absurd (congrArg Instance.snapshots hvars) hne

theorem evaluate_same (node : NodeId) (left right : Option Operand) (test : Test) (e : Evidence) :
    ∃ snapshots, (i.evaluate g node left right test e).2 = { i with snapshots } := by
  unfold evaluate
  dsimp only
  split
  · exact ⟨i.snapshots, rfl⟩
  · exact ⟨_, rfl⟩

theorem evaluate_snapshots {id : NodeId} {left right : Option Operand} {test : Test}
    {e : Evidence} {key : String} (hkey : key ≠ snapshotKey id) :
    Dict.get? (i.evaluate g id left right test e).2.snapshots key = Dict.get? i.snapshots key := by
  unfold evaluate
  dsimp only
  split
  · rfl
  · exact Dict.get?_insert_of_ne _ _ (Ne.symm hkey)

theorem evaluate_noted {id : NodeId} {left right : Option Operand} {test : Test} {e : Evidence}
    (h : (i.evaluate g id left right test e).2.snapshots ≠ i.snapshots) : test = .changed := by
  unfold evaluate at h
  cases test with
  | changed => rfl
  | _ => exact absurd rfl h

/-- A test for a change fails the first time. -/
theorem evaluate_changed_first {id : NodeId} {left right : Option Operand} {e : Evidence}
    (h : Dict.get? i.snapshots (snapshotKey id) = none) :
    (i.evaluate g id left right .changed e).1 = false := by
  simp only [evaluate, Evidence.outcome?, h]

theorem evaluate_ran {left right : Option Operand} {test : Test} {e : Evidence}
    (hk : node.kind = .condition left right test) :
    i.RanNode node
      (.leave (if (i.evaluate g node.id left right test e).1 then "true" else "false"),
        (i.evaluate g node.id left right test e).2) where
  same := by
    obtain ⟨snapshots, h⟩ := evaluate_same node.id left right test e
    exact ⟨i.vars, i.blocks, snapshots, h⟩
  stay := nofun
  snapshots := fun _ hkey => evaluate_snapshots hkey
  change := by
    intro hchange hnone port hport
    have htest : test = .changed := by
      unfold Node.testsChange at hchange
      rw [hk] at hchange
      exact of_decide_eq_true hchange
    subst htest
    rw [evaluate_changed_first hnone] at hport
    cases hport
    rfl
  noted := by
    intro hne
    refine ⟨?_, _, rfl⟩
    unfold Node.testsChange
    rw [hk]
    exact decide_eq_true (evaluate_noted hne)

/-- Blocks that are registered or built in leave everything but the variables alone. -/
theorem flow_ran {mode : FlowMode} {block : String} {params : Params}
    (hk : node.kind = .flow mode block params) {r : NodeOutcome × Instance}
    (hsame : ∃ vars blocks, r.2 = { i with vars, blocks })
    (hstay : r.1 = .stay → mode.effective block = .async) : i.RanNode node r where
  same := by
    obtain ⟨vars, blocks, h⟩ := hsame
    exact ⟨vars, blocks, i.snapshots, h⟩
  stay := by
    intro h
    unfold Node.isAsync
    rw [hk]
    exact decide_eq_true (hstay h)
  snapshots := by
    obtain ⟨vars, blocks, h⟩ := hsame
    intro key _
    rw [h]
  change := by
    intro ht
    unfold Node.testsChange at ht
    rw [hk] at ht
    cases ht
  noted := by
    obtain ⟨vars, blocks, h⟩ := hsame
    exact fun hne => absurd (congrArg Instance.snapshots h) hne

theorem isWait_flow {mode : FlowMode} {block : String} {params : Params}
    (hk : node.kind = .flow mode block params) : node.isWait = decide (block = "Wait") := by
  unfold Node.isWait
  rw [hk]

/-- Blocks other than waits set no timer. -/
theorem timer_kept {r : NodeOutcome × Instance} {w' : World} (hH : H w w')
    (hwait : node.isWait = false) : i.RanTimer H node r w w' := by
  refine .kept hH ?_
  rw [hwait]
  exact nofun

theorem runWait_yields (hH : Steady H) (hK : Steady K)
    (hnote : ∀ u e, K u (u.record (.atNode i.id e))) {mode : FlowMode} {params inputs : Params}
    (hk : node.kind = .flow mode "Wait" params) :
    (i.runAsync s node.id "Wait" inputs dt).Yields service c K w fun r w' =>
      i.RanNode node r ∧ i.RanTimer H node r w w' := by
  have hran : i.RanNode node (i.runWait node.id inputs dt) := by
    obtain ⟨blocks, hblocks⟩ := runWait_same i node.id inputs dt
    exact flow_ran hk ⟨i.vars, blocks, hblocks⟩ fun _ => by simp [FlowMode.effective]
  have hwait : node.isWait = true := by simp [isWait_flow hk]
  unfold runAsync
  rw [if_pos rfl]
  cases harms : i.armsWait node.id inputs with
  | true =>
    obtain ⟨hnot, hstay, htimed⟩ := runWait_of_arms dt harms
    refine .bind hK (.record hK (hnote _ _)) fun _ w' _ hw' => .done hK ⟨hran, ?_⟩
    exact .armed hwait hnot hstay htimed hw'
  | false =>
    refine .done hK ⟨hran, .kept (hH.refl w) fun _ hstay => ?_⟩
    exact runWait_of_not_arms harms hstay

theorem runAsync_yields (h : AtWork service c G H i) {mode : FlowMode} {block : String}
    {params inputs : Params} (hk : node.kind = .flow mode block params)
    (hasync : mode.effective block = .async) (hblock : block ≠ "Wait") :
    (i.runAsync s node.id block inputs dt).Yields service c H w fun r _ => i.RanNode node r := by
  unfold runAsync
  rw [if_neg hblock]
  split
  · refine (runMoveTo_yields h inputs).mono fun r _ _ hr => ?_
    exact flow_ran hk ⟨i.vars, i.blocks, hr⟩ fun _ => hasync
  · split
    · refine .read (.done h.steady ?_)
      obtain ⟨blocks, hblocks⟩ := runAnimation_same i node.id inputs w.clock
      exact flow_ran hk ⟨i.vars, blocks, hblocks⟩ fun _ => hasync
    · exact .done h.steady (flow_ran hk ⟨i.vars, i.blocks, rfl⟩ nofun)

theorem runNode_yields (h : AtWork service c G H i) (hK : Steady K)
    (hHK : ∀ {u v}, H u v → K u v) (hnote : ∀ u e, K u (u.record (.atNode i.id e))) :
    (i.runNode s dt g node).Yields service c K w fun r w' =>
      i.RanNode node r ∧ i.RanTimer H node r w w' := by
  -- Nodes other than flow blocks end at once, and without a request.
  have hquick : ∀ r : NodeOutcome × Instance, i.RanNode node r → node.isWait = false →
      (Script.done r).Yields service c K w fun r w' =>
        i.RanNode node r ∧ i.RanTimer H node r w w' :=
    fun r hran hwait => .done hK ⟨hran, timer_kept (h.steady.refl w) hwait⟩
  have hidle : ∀ o : NodeOutcome, o ≠ .stay → node.testsChange = false →
      i.RanNode node (o, i) :=
    fun o ho hchange => RanThrough.ranNode ⟨⟨i.vars, rfl⟩, ho⟩ hchange
  unfold runNode
  split
  case h_5 left right test hk =>
    exact .read (hquick _ (evaluate_ran hk) (by simp [Node.isWait, hk]))
  case h_6 name cases hk =>
    exact .read (hquick _ (hidle _ nofun (by simp [Node.testsChange, hk]))
      (by simp [Node.isWait, hk]))
  case h_7 mode block params hk =>
    refine .read ?_
    dsimp only
    -- A wait is the one block that sets a timer, and it does nothing else.
    by_cases hblock : block = "Wait"
    · subst hblock
      rw [show mode.effective "Wait" = .async by simp [FlowMode.effective]]
      exact runWait_yields h.steady hK hnote hk
    · have hwait : node.isWait = false := by simp [isWait_flow hk, hblock]
      split
      · next hinstant =>
        refine ((runInstant_yields h _ _).loosen hHK).mono fun r w' _ hr => ?_
        obtain ⟨vars, hvars⟩ := hr.2.vars
        refine ⟨flow_ran hk ⟨vars, i.blocks, hvars⟩ ?_, timer_kept hr.1 hwait⟩
        exact fun hstay => absurd hstay hr.2.goesOn
      · next hasync =>
        refine ((runAsync_yields h hk hasync hblock).loosen hHK).mono fun r w' _ hr => ?_
        exact ⟨hr.2, timer_kept hr.1 hwait⟩
  all_goals
    next hk =>
      exact hquick _ (hidle _ nofun (by simp [Node.testsChange, hk])) (by simp [Node.isWait, hk])

/-- The node is entered, run, and left if it lets go of the instance. -/
theorem visit_yields (h : AtWork service c G H i) (hK : Steady K)
    (hHK : ∀ {u v}, H u v → K u v) (hnote : ∀ u e, K u (u.record (.atNode i.id e))) :
    (i.visit s dt g node).Yields service c K w fun r w' =>
      i.RanNode node r ∧ ∃ u v, u = w.record (.atNode i.id (.entered node.id)) ∧
        i.RanTimer H node r u v ∧
        w' = match r.1 with
          | .leave port => v.record (.atNode r.2.id (.left node.id port))
          | _ => v := by
  refine .bind hK (.record hK (hnote _ _)) fun _ u _ hu => ?_
  refine .bind hK (runNode_yields h hK hHK hnote) fun r v _ hr => ?_
  obtain ⟨o, i'⟩ := r
  cases o with
  | stay => exact .done hK ⟨hr.1, u, v, hu, hr.2, rfl⟩
  | finish error => exact .done hK ⟨hr.1, u, v, hu, hr.2, rfl⟩
  | leave port =>
    have hid : i'.id = i.id := hr.1.stands.1.id
    refine .bind hK (.record hK (hid ▸ hnote _ _)) fun _ w' _ hw' => ?_
    exact .done hK ⟨hr.1, u, v, hu, hr.2, hw'⟩

/-! ## The loops of an update -/

/-- What follows a visit: the instance waits, ends, or moves on. -/
def After (g : Graph) (node : Node) (go : Instance → World → Prop)
    (Q : Option ModuleReport × Instance → World → Prop) (r : NodeOutcome × Instance)
    (w : World) : Prop :=
  match r.1 with
  | .stay => Q (none, r.2) w
  | .finish error => Q (some (r.2.report (error.map (⟨·, node.id⟩))), r.2) w
  | .leave port =>
    match g.next? node.id port with
    | none => Q (some (r.2.report none), r.2) w
    | some next => go { r.2 with cursor := next } w

/-- The rule for the steps of an instance: `P n` holds whenever `n` steps are left. -/
theorem runSteps_yields (hK : Steady K) {P : Nat → Instance → World → Prop}
    {Q : Option ModuleReport × Instance → World → Prop}
    (hstop : ∀ i w, P 0 i w → Q (none, i) w)
    (hlost : ∀ n i w, P (n + 1) i w → (w.library.read i.graph).find? i.cursor = none →
      Q (some (i.report (some ⟨.nodeNotFound, i.cursor⟩)), i) w)
    (hvisit : ∀ n i w node, P (n + 1) i w → (w.library.read i.graph).find? i.cursor = some node →
      (i.visit s dt (w.library.read i.graph) node).Yields service c K w
        (After (w.library.read i.graph) node (P n) Q)) :
    ∀ steps i w, P steps i w → (runSteps s dt steps i).Yields service c K w Q := by
  intro steps
  induction steps with
  | zero => exact fun i w h => .done hK (hstop i w h)
  | succ n ih =>
    intro i w h
    refine .read ?_
    dsimp only
    split
    · next hfind => exact .done hK (hlost n i w h hfind)
    · next node hfind =>
      refine .bind hK (hvisit n i w node h hfind) fun r w' _ hr => ?_
      obtain ⟨o, i'⟩ := r
      unfold After at hr
      cases o with
      | stay => exact .done hK hr
      | finish error => exact .done hK hr
      | leave port =>
        dsimp only at hr ⊢
        revert hr
        cases (w.library.read i.graph).next? node.id port with
        | none => exact fun hr => .done hK hr
        | some next => exact fun hr => ih _ _ hr

end Instance

/-- The report is about the instance; if that had ended before its turn, it is the report of this
end. -/
structure Instance.ToldBy (i : Instance) (result : ModuleReport) : Prop where
  id : result.instanceId = i.id
  entity : result.entity = i.entity
  terminal : ∀ ended, i.terminalResult? = some ended → result = ended

theorem Instance.toldBy_terminalResult (i : Instance) {result : ModuleReport}
    (h : i.terminalResult? = some result) : i.ToldBy result := by
  have hkey : result.instanceId = i.id ∧ result.entity = i.entity := by
    unfold terminalResult? at h
    split at h
    · cases h
    · cases h
      exact ⟨rfl, rfl⟩
    · cases h
      exact ⟨rfl, rfl⟩
  refine ⟨hkey.1, hkey.2, fun ended hended => ?_⟩
  rw [h] at hended
  exact Option.some.inj hended

/-- How an update sorts the instances that it took out: those of cancelled entities are gone,
the others are reported or kept. -/
inductive Sorted (gone : EntityId → Prop) :
    List Instance → List ModuleReport → List Instance → Prop
  | nil : Sorted gone [] [] []
  | gone {i : Instance} {rest : List Instance} {results : List ModuleReport}
      {kept : List Instance} : gone i.entity → Sorted gone rest results kept →
      Sorted gone (i :: rest) results kept
  | reported {i : Instance} {rest : List Instance} {result : ModuleReport}
      {results : List ModuleReport} {kept : List Instance} :
      i.ToldBy result → Sorted gone rest results kept →
      Sorted gone (i :: rest) (result :: results) kept
  | kept {i i' : Instance} {rest : List Instance} {results : List ModuleReport}
      {kept : List Instance} : i.Same i' → i.terminalResult? = none →
      Sorted gone rest results kept → Sorted gone (i :: rest) results (i' :: kept)

end SceneLogic
