import SceneLogic.Proofs.Module.Visit

/-!
# What blocks that wait remember

A wait remembers the seconds that remain, an animation the reading of the clock at which it began.
Both are forgotten when the block is left, so between two nodes an instance has no such state.

* `runWait_of_fresh` to `runAnimation_of_begun` — what the two blocks do, with and without a state
* `Instance.Suspended` — an instance has no state but that of its node
* `BlockState.Unresolved` — what a state is like as long as it is there
* `visit_rests` — running a node keeps it so
* `visit_run` — a visit as the run of its node between two entries of the journal
-/

namespace SceneLogic

/-- The seconds that an animation takes. -/
def animationSeconds (params : Params) : Float :=
  (params.number? "seconds" <|> params.number? "duration").getD 0.5

/-- The state is one of the block of the node. -/
def BlockState.Suits : BlockState → NodeKind → Prop
  | .wait _, .flow _ block _ => block = "Wait"
  | .animation _, .flow mode block _ => mode = .async ∧ block = "PlayAnimation"
  | _, _ => False

/-- The block goes on waiting: seconds remain, or an animation has begun. -/
def BlockState.Unresolved : BlockState → Prop
  | .wait remaining => ¬ remaining ≤ 0
  | .animation _ => True

/-- Only blocks remember anything. -/
theorem BlockState.Suits.isFlow {state : BlockState} {kind : NodeKind} (h : state.Suits kind) :
    ∃ mode block params, kind = .flow mode block params := by
  cases kind with
  | flow mode block params => exact ⟨mode, block, params, rfl⟩
  | _ => cases state <;> cases h

namespace Instance

variable {service : Service} {c : Conduct} {G H : World → World → Prop} {i : Instance}
  {w : World} {s : Situation} {dt now started remaining : Float} {g : Graph} {node : Node}
  {id : NodeId} {inputs params : Params} {mode : FlowMode} {block : String}

/-! ## The two blocks -/

theorem runWait_of_fresh (h : i.blocks = []) : i.runWait id inputs dt =
    if waitSeconds inputs ≤ 0 then (.leave "out", i)
    else (.stay, { i with blocks := [(id, .wait (waitSeconds inputs))] }) := by
  unfold runWait
  rw [h]
  rfl

theorem runWait_of_armed (h : i.blocks = [(id, .wait remaining)]) : i.runWait id inputs dt =
    if remaining - dt ≤ 0 then (.leave "out", { i with blocks := [] })
    else (.stay, { i with blocks := [(id, .wait (remaining - dt))] }) := by
  unfold runWait
  simp only [h, Dict.get?, Dict.erase, Dict.insert, if_true]

/-- An animation that begins now goes on as one that has begun now. -/
theorem runAnimation_of_begun
    (h : i.blocks = [(id, .animation started)] ∨ i.blocks = [] ∧ started = now) :
    i.runAnimation id inputs now =
      if (now - started) / 1000 ≥ animationSeconds inputs then
        (.leave "out", { i with blocks := [] })
      else (.stay, { i with blocks := [(id, .animation started)] }) := by
  unfold runAnimation animationSeconds
  rcases h with hbegun | ⟨hfresh, rfl⟩
  · have hsame : { i with blocks := [(id, .animation started)] } = i := by rw [← hbegun]
    simp only [hsame, hbegun, Dict.get?, Dict.erase, if_true]
  · simp only [hfresh, Dict.get?, Dict.erase, Dict.insert, if_true]

/-! ## Suspended state -/

/-- The instance has no state of a block, or only one of the node's. -/
def Suspended (i : Instance) (node : Node) : Prop :=
  i.blocks = [] ∨ ∃ state, BlockState.Suits state node.kind ∧ i.blocks = [(node.id, state)]

/-- After a node was run there is a state only if the instance stays on it, and goes on waiting. -/
structure RanBlock (node : Node) (r : NodeOutcome × Instance) : Prop where
  stays : r.1 = .stay → r.2.Suspended node
  goesOn : r.1 ≠ .stay → r.2.blocks = []
  unresolved : ∀ b ∈ r.2.blocks, b.2.Unresolved

theorem ranBlock_of_leave {port : String} {i' : Instance} (h : i'.blocks = []) :
    RanBlock node (.leave port, i') :=
  ⟨nofun, fun _ => h, fun _ hb => absurd (h ▸ hb) List.not_mem_nil⟩

theorem ranBlock_of_stay {state : BlockState} (hsuits : state.Suits node.kind)
    (hstate : state.Unresolved) :
    RanBlock node (.stay, { i with blocks := [(node.id, state)] }) :=
  ⟨fun _ => Or.inr ⟨state, hsuits, rfl⟩, fun hne => absurd rfl hne,
    fun _ hb => List.mem_singleton.mp hb ▸ hstate⟩

theorem runWait_rests (hk : node.kind = .flow mode "Wait" params) (h : i.Suspended node) :
    RanBlock node (i.runWait node.id inputs dt) := by
  have hwait : ∀ left, ¬ left ≤ 0 →
      RanBlock node (.stay, { i with blocks := [(node.id, .wait left)] }) :=
    fun left hleft => ranBlock_of_stay (hk ▸ rfl) hleft
  rcases h with hfresh | ⟨state, hsuits, harmed⟩
  · rw [runWait_of_fresh hfresh]
    split
    · exact ranBlock_of_leave hfresh
    · next hleft => exact hwait _ hleft
  · rw [hk] at hsuits
    cases state with
    | animation => exact absurd hsuits.2 (by decide)
    | wait =>
      rw [runWait_of_armed harmed]
      split
      · exact ranBlock_of_leave rfl
      · next hleft => exact hwait _ hleft

theorem runAnimation_rests (hk : node.kind = .flow .async "PlayAnimation" params)
    (h : i.Suspended node) : RanBlock node (i.runAnimation node.id inputs now) := by
  have hbegun : ∃ started, i.blocks = [(node.id, .animation started)] ∨
      i.blocks = [] ∧ started = now := by
    rcases h with hfresh | ⟨state, hsuits, hbegun⟩
    · exact ⟨now, Or.inr ⟨hfresh, rfl⟩⟩
    · rw [hk] at hsuits
      cases state with
      | wait => exact absurd (show "PlayAnimation" = "Wait" from hsuits) (by decide)
      | animation started => exact ⟨started, Or.inl hbegun⟩
  obtain ⟨started, hbegun⟩ := hbegun
  rw [runAnimation_of_begun hbegun]
  split
  · exact ranBlock_of_leave rfl
  · have hsuits : BlockState.Suits (.animation started) node.kind := hk ▸ ⟨rfl, rfl⟩
    exact ranBlock_of_stay hsuits trivial

/-- Only a wait and an animation have a state. -/
theorem Suspended.blocks_eq_nil (h : i.Suspended node)
    (hkind : ∀ state, ¬ BlockState.Suits state node.kind) : i.blocks = [] := by
  rcases h with hfresh | ⟨state, hsuits, -⟩
  · exact hfresh
  · exact absurd hsuits (hkind state)

/-- Nodes that remember nothing find no state and leave none. -/
theorem Suspended.ranBlock (h : i.Suspended node)
    (hkind : ∀ state, ¬ BlockState.Suits state node.kind) {r : NodeOutcome × Instance}
    (hr : r.2.blocks = i.blocks) : RanBlock node r := by
  have hnil := hr.trans (h.blocks_eq_nil hkind)
  exact ⟨fun _ => Or.inl hnil, fun _ => hnil, fun _ hb => absurd (hnil ▸ hb) List.not_mem_nil⟩

theorem not_suits (hk : node.kind = .flow mode block params) (hwait : block ≠ "Wait")
    (hplay : ¬ (mode = .async ∧ block = "PlayAnimation")) (state : BlockState) :
    ¬ state.Suits node.kind := by
  rw [hk]
  cases state with
  | wait => exact hwait
  | animation => exact hplay

theorem runAsync_rests (h : AtWork service c G H i) (hk : node.kind = .flow mode block params)
    (hmode : mode.effective block = .async) (hrests : i.Suspended node) :
    (i.runAsync s node.id block inputs dt).Yields service c (fun _ _ => True) w fun r _ =>
      RanBlock node r := by
  have hK : Steady fun _ _ : World => True := ⟨fun _ => trivial, fun _ _ => trivial⟩
  unfold runAsync
  by_cases hwait : block = "Wait"
  · subst hwait
    rw [if_pos rfl]
    refine .bind hK (R := fun _ _ => True) ?_ fun _ _ _ _ => .done hK (runWait_rests hk hrests)
    split
    · exact (Script.Yields.record hK trivial).mono fun _ _ _ _ => trivial
    · exact .done hK trivial
  obtain rfl : mode = .async := by
    simpa [FlowMode.effective, hwait] using hmode
  rw [if_neg hwait]
  by_cases hplay : block = "PlayAnimation"
  · subst hplay
    rw [if_neg (by decide), if_pos rfl]
    exact .read (.done hK (runAnimation_rests hk hrests))
  have hkind := not_suits hk hwait fun h => hplay h.2
  split
  · refine ((runMoveTo_yields h _).loosen fun _ => trivial).mono fun r _ _ hr => ?_
    exact hrests.ranBlock hkind (congrArg Instance.blocks hr.2)
  · exact .done hK (hrests.ranBlock hkind rfl)

theorem runNode_rests (h : AtWork service c G H i) (hrests : i.Suspended node) :
    (i.runNode s dt g node).Yields service c (fun _ _ => True) w fun r _ => RanBlock node r := by
  have hK : Steady fun _ _ : World => True := ⟨fun _ => trivial, fun _ _ => trivial⟩
  have hother : (∀ mode block params, node.kind ≠ .flow mode block params) →
      ∀ {r : NodeOutcome × Instance}, r.2.blocks = i.blocks → RanBlock node r := by
    refine fun hkind => hrests.ranBlock fun state hsuits => ?_
    obtain ⟨mode, block, params, hflow⟩ := hsuits.isFlow
    exact hkind mode block params hflow
  unfold runNode
  split
  case h_5 left right test hk =>
    obtain ⟨snapshots, heval⟩ := i.evaluate_same (g := g) node.id left right test (i.evidence w s)
    refine .read (.done hK (hother (r := (_, _)) (by simp [hk]) ?_))
    exact (congrArg Instance.blocks heval :)
  case h_6 hk => exact .read (.done hK (hother (by simp [hk]) rfl))
  case h_7 mode block params hk =>
    refine .read ?_
    dsimp only
    cases heffective : mode.effective block with
    | instant =>
      have hwait : block ≠ "Wait" := by
        rintro rfl
        simp [FlowMode.effective] at heffective
      have hmode : mode ≠ .async := by
        rintro rfl
        simp [FlowMode.effective] at heffective
      refine ((runInstant_yields h _ _).loosen fun _ => trivial).mono fun r _ _ hr => ?_
      obtain ⟨vars, hvars⟩ := hr.2.vars
      exact hrests.ranBlock (not_suits hk hwait fun h => hmode h.1)
        (congrArg Instance.blocks hvars :)
    | async => exact runAsync_rests h hk heffective hrests
  all_goals
    next hk => exact .done hK (hother (by simp [hk]) rfl)

/-! ## Visits as runs -/

/-- A visit takes down that the node is entered, runs it, and takes down that it is left. -/
theorem visit_run {m m' : Machine} {r : NodeOutcome × Instance}
    (h : (i.visit s dt g node).run service m = some (r, m')) :
    ∃ m₁, (i.runNode s dt g node).run service
        (m.record (.atNode i.id (.entered node.id))) = some (r, m₁) ∧
      m' = match r.1 with
        | .leave port => m₁.record (.atNode r.2.id (.left node.id port))
        | _ => m₁ := by
  rw [visit, Script.run_bind] at h
  change ((i.runNode s dt g node).bind _).run service
    (m.record (.atNode i.id (.entered node.id))) = _ at h
  rw [Script.run_bind] at h
  obtain ⟨⟨⟨o, i'⟩, m₁⟩, hrun, hend⟩ := Option.bind_eq_some_iff.mp h
  cases o with
  | stay => cases hend; exact ⟨_, hrun, rfl⟩
  | finish error => cases hend; exact ⟨_, hrun, rfl⟩
  | leave port => cases hend; exact ⟨_, hrun, rfl⟩

theorem visit_rests (h : AtWork service c G H i) (hrests : i.Suspended node) {m m' : Machine}
    {r : NodeOutcome × Instance} (hm : m.Obeys c)
    (hrun : (i.visit s dt g node).run service m = some (r, m')) : RanBlock node r := by
  obtain ⟨m₁, hnode, -⟩ := visit_run hrun
  exact (runNode_rests h hrests _ rfl (hm.withWorld _) hnode).2

end Instance

end SceneLogic
