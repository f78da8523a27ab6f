import SceneLogic.Proofs.Module.Idling
import SceneLogic.Proofs.Module.Update

/-!
# The nodes that are run in an update

What an update gives back does not tell which nodes were run in it, in which situation they were
run, or what came of them. Here its loops are followed once more to tell it.

* `Visit` — an instance runs a node
* `Instance.turn`, `turnsOf` — the nodes that one instance runs in an update, and all of them
* `visits_hold` to `visits_leave` — rules for the nodes that an instance runs
* `TookTurn`, `Instance.step_takesTurn` — what is known of a turn
* `stepAll_turned` — every instance that was taken out has its turn, or is removed before
-/

namespace SceneLogic

/-! ## Visits -/

/-- An instance runs a node. -/
structure Visit where
  /-- The machine when the instance comes to the node. -/
  machine : Machine
  situation : Situation
  before : Instance
  node : Node
  outcome : NodeOutcome
  after : Instance

namespace Visit

/-- The graph of the instance. -/
def graph (v : Visit) : Graph :=
  v.machine.world.library.read v.before.graph

/-- What the ports of a block have when it is run. -/
def inputs (v : Visit) : Params :=
  match v.node.kind with
  | .flow _ _ params =>
    (v.before.lookup v.machine.world v.situation).ports v.graph v.node.id params
  | _ => []

/-- The reading of the clock. -/
def clock (v : Visit) : Float :=
  v.machine.world.clock

/-- The visit is what it says. -/
structure Ran (service : Service) (dt : Float) (v : Visit) : Prop where
  node : v.graph.find? v.before.cursor = some v.node
  run : ∃ m, (v.before.visit v.situation dt v.graph v.node).run service v.machine =
    some ((v.outcome, v.after), m)

end Visit

namespace Instance

/-- The nodes that an instance runs until it ends, waits, or has run so many. -/
def visits (service : Service) (s : Situation) (dt : Float) :
    Nat → Instance → Machine → List Visit
  | 0, _, _ => []
  | steps + 1, i, m =>
    let g := m.world.library.read i.graph
    match g.find? i.cursor with
    | none => []
    | some node =>
      match (i.visit s dt g node).run service m with
      | none => []
      | some ((outcome, i'), m') =>
        ⟨m, s, i, node, outcome, i'⟩ ::
          match outcome with
          | .leave port =>
            match g.next? node.id port with
            | none => []
            | some next => visits service s dt steps { i' with cursor := next } m'
          | _ => []

/-- The nodes that an instance runs in an update. -/
def turn (service : Service) (dt : Float) (i : Instance) (m : Machine) : List Visit :=
  let (s, w) := m.world.situationFor i.entity [("dt", .float dt)]
  visits service s dt w.pool.stepBound i { m with world := w }

end Instance

/-- The nodes that instances run when they go on one after the other. -/
def turnsOf (service : Service) (dt : Float) : List Instance → Machine → List Visit
  | [], _ => []
  | i :: rest, m =>
    if m.world.pool.removed.contains i.entity then turnsOf service dt rest m
    else
      match i.terminalResult? with
      | some _ => turnsOf service dt rest m
      | none =>
        match (i.step dt).run service m with
        | none => []
        | some (_, m') => i.turn service dt m ++ turnsOf service dt rest m'

/-! ## Rules -/

namespace Instance

variable {service : Service} {c : Conduct} {K : World → World → Prop} {s : Situation}
  {dt : Float} {steps : Nat} {i i' : Instance} {m m' : Machine} {node : Node}
  {ended : Option ModuleReport}

theorem visits_succ {r : NodeOutcome × Instance}
    (hnode : (m.world.library.read i.graph).find? i.cursor = some node)
    (hrun : (i.visit s dt (m.world.library.read i.graph) node).run service m = some (r, m')) :
    visits service s dt (steps + 1) i m = ⟨m, s, i, node, r.1, r.2⟩ ::
      match r.1 with
      | .leave port =>
        match (m.world.library.read i.graph).next? node.id port with
        | none => []
        | some next => visits service s dt steps { r.2 with cursor := next } m'
      | _ => [] := by
  rw [visits]
  simp only [hnode, hrun]

/-- The rule for the nodes that an instance runs, after that for its steps. -/
theorem visits_hold (hK : Steady K) {P : Nat → Instance → World → Prop}
    {Q : Option ModuleReport × Instance → World → Prop}
    (hvisit : ∀ n i w node, P (n + 1) i w → (w.library.read i.graph).find? i.cursor = some node →
      (i.visit s dt (w.library.read i.graph) node).Yields service c K w
        (After (w.library.read i.graph) node (P n) Q)) :
    ∀ steps i m, P steps i m.world → m.Obeys c → ∀ v ∈ visits service s dt steps i m,
      (∃ n, P (n + 1) v.before v.machine.world) ∧ m.Leads c K v.machine ∧ v.Ran service dt := by
  intro steps
  induction steps with
  | zero => exact fun i m _ _ v hv => absurd hv List.not_mem_nil
  | succ n ih =>
    intro i m h hm v hv
    cases hnode : (m.world.library.read i.graph).find? i.cursor with
    | none => simp [visits, hnode] at hv
    | some node =>
      cases hrun : (i.visit s dt (m.world.library.read i.graph) node).run service m with
      | none => simp [visits, hnode, hrun] at hv
      | some r =>
        obtain ⟨⟨o, i'⟩, m₁⟩ := r
        obtain ⟨hlead, hafter⟩ := hvisit n i m.world node h hnode m rfl hm hrun
        rw [visits_succ hnode hrun] at hv
        rcases List.mem_cons.mp hv with rfl | hv
        · exact ⟨⟨n, h⟩, .refl hK hm, hnode, m₁, hrun⟩
        -- What is run later is run after the node is left by a port that leads on.
        cases o with
        | stay => exact absurd hv List.not_mem_nil
        | finish error => exact absurd hv List.not_mem_nil
        | leave port =>
          unfold After at hafter
          dsimp only at hv hafter
          cases hnext : (m.world.library.read i.graph).next? node.id port with
          | none =>
            rw [hnext] at hv
            exact absurd hv List.not_mem_nil
          | some next =>
            rw [hnext] at hv hafter
            obtain ⟨hp, hlead', hran⟩ := ih _ m₁ hafter hlead.1 v hv
            exact ⟨hp, hlead.trans hK hlead', hran⟩

/-- The first step, and the others if the node is left by a port that leads on. -/
theorem runSteps_succ {r : Option ModuleReport × Instance}
    (hnode : (m.world.library.read i.graph).find? i.cursor = some node)
    (hrun : (runSteps s dt (steps + 1) i).run service m = some (r, m')) :
    ∃ o i₁ m₁, (i.visit s dt (m.world.library.read i.graph) node).run service m =
        some ((o, i₁), m₁) ∧
      match o with
      | .stay => r = (none, i₁) ∧ m' = m₁
      | .finish error => r = (some (i₁.report (error.map (⟨·, node.id⟩))), i₁) ∧ m' = m₁
      | .leave port =>
        match (m.world.library.read i.graph).next? node.id port with
        | none => r = (some (i₁.report none), i₁) ∧ m' = m₁
        | some next =>
          (runSteps s dt steps { i₁ with cursor := next }).run service m₁ = some (r, m') := by
  rw [runSteps, Script.run] at hrun
  simp only [hnode, Script.run_bind] at hrun
  obtain ⟨⟨⟨o, i₁⟩, m₁⟩, hvisit, hrest⟩ := Option.bind_eq_some_iff.mp hrun
  refine ⟨o, i₁, m₁, hvisit, ?_⟩
  cases o with
  | stay => cases hrest; exact ⟨rfl, rfl⟩
  | finish error => cases hrest; exact ⟨rfl, rfl⟩
  | leave port =>
    dsimp only at hrest ⊢
    revert hrest
    cases (m.world.library.read i.graph).next? node.id port with
    | none => intro hrest; cases hrest; exact ⟨rfl, rfl⟩
    | some next => exact fun hrest => hrest

/-- An instance that stays on a node runs no other one, and is kept as it is then. -/
theorem visits_stay {r : Option ModuleReport × Instance}
    (hrun : (runSteps s dt steps i).run service m = some (r, m')) {before after : List Visit}
    {v : Visit} (hall : visits service s dt steps i m = before ++ v :: after)
    (hstay : v.outcome = .stay) : r = (none, v.after) ∧ after = [] := by
  induction steps generalizing i m before with
  | zero => exact absurd hall.symm (by simp [visits])
  | succ n ih =>
    cases hnode : (m.world.library.read i.graph).find? i.cursor with
    | none => exact absurd hall.symm (by simp [visits, hnode])
    | some node =>
      obtain ⟨o, i₁, m₁, hvisit, hrest⟩ := runSteps_succ hnode hrun
      rw [visits_succ hnode hvisit] at hall
      cases before with
      | nil =>
        obtain ⟨rfl, hafter⟩ := List.cons.inj hall
        dsimp only at hstay
        subst hstay
        exact ⟨hrest.1, hafter.symm⟩
      | cons first before =>
        obtain ⟨-, htail⟩ := List.cons.inj hall
        -- The node at hand is left by a port that leads on.
        cases o with
        | stay => exact absurd htail.symm (by simp)
        | finish error => exact absurd htail.symm (by simp)
        | leave port =>
          dsimp only at htail hrest
          cases hnext : (m.world.library.read i.graph).next? node.id port with
          | none => exact absurd htail.symm (by simp [hnext])
          | some next =>
            rw [hnext] at htail hrest
            exact ih hrest htail

/-- An instance whose node is there runs it first. -/
theorem visits_head {r : Option ModuleReport × Instance} (hsteps : 0 < steps)
    (hnode : (m.world.library.read i.graph).find? i.cursor = some node)
    (hrun : (runSteps s dt steps i).run service m = some (r, m')) :
    ∃ o i₁ rest, visits service s dt steps i m = ⟨m, s, i, node, o, i₁⟩ :: rest := by
  obtain ⟨n, rfl⟩ := Nat.exists_eq_add_of_lt hsteps
  rw [Nat.zero_add] at hrun ⊢
  obtain ⟨o, i₁, m₁, hvisit, -⟩ := runSteps_succ hnode hrun
  exact ⟨o, i₁, _, visits_succ hnode hvisit⟩

section Trails

variable (hK : Steady K) (hlasts : ∀ {u v}, K u v → u.Lasts v)
  {P : Nat → Instance → World → Prop} {Q : Option ModuleReport × Instance → World → Prop}
  (hvisit : ∀ n i w node, P (n + 1) i w → (w.library.read i.graph).find? i.cursor = some node →
    (i.visit s dt (w.library.read i.graph) node).Yields service c K w
      (After (w.library.read i.graph) node (P n) Q))
include hK hlasts hvisit

omit hK hlasts hvisit in
/-- When a node is left, this is on the trail. -/
theorem visit_left {port : String}
    (hrun : (i.visit s dt (m.world.library.read i.graph) node).run service m =
      some ((.leave port, i'), m')) : .left node.id port ∈ m'.world.trail i'.id := by
  obtain ⟨m₁, -, hm'⟩ := visit_run hrun
  rw [hm']
  show _ ∈ (m₁.world.record (.atNode i'.id (.left node.id port))).trail i'.id
  rw [World.trail_atNode_self]
  exact List.mem_cons_self

/-- Where an instance has left a node, this is on its trail when it runs the next ones. -/
theorem visits_left : ∀ steps i m, P steps i m.world → m.Obeys c →
    (visits service s dt steps i m).Pairwise fun v v' => ∀ port, v.outcome = .leave port →
      .left v.node.id port ∈ v'.machine.world.trail v.after.id := by
  intro steps
  induction steps with
  | zero => exact fun i m _ _ => .nil
  | succ n ih =>
    intro i m h hm
    cases hnode : (m.world.library.read i.graph).find? i.cursor with
    | none => simp [visits, hnode]
    | some node =>
      cases hrun : (i.visit s dt (m.world.library.read i.graph) node).run service m with
      | none => simp [visits, hnode, hrun]
      | some r =>
        obtain ⟨⟨o, i'⟩, m₁⟩ := r
        obtain ⟨hlead, hafter⟩ := hvisit n i m.world node h hnode m rfl hm hrun
        rw [visits_succ hnode hrun]
        cases o with
        | stay => exact List.pairwise_singleton _ _
        | finish error => exact List.pairwise_singleton _ _
        | leave port =>
          unfold After at hafter
          dsimp only at hafter ⊢
          cases hnext : (m.world.library.read i.graph).next? node.id port with
          | none => exact List.pairwise_singleton _ _
          | some next =>
            rw [hnext] at hafter
            refine List.pairwise_cons.mpr ⟨fun v hv port' hport => ?_, ih _ m₁ hafter hlead.1⟩
            cases hport
            obtain ⟨-, hlead', -⟩ := visits_hold hK hvisit n _ m₁ hafter hlead.1 v hv
            exact ((hlasts hlead'.2).trail i'.id).subset (visit_left hrun)

/-- Where an instance has left a node, this is on its trail for good. -/
theorem visits_leave (hstop : ∀ i w, P 0 i w → Q (none, i) w)
    (hlost : ∀ n i w, P (n + 1) i w → (w.library.read i.graph).find? i.cursor = none →
      Q (some (i.report (some ⟨.nodeNotFound, i.cursor⟩)), i) w) :
    ∀ steps i m, P steps i m.world → m.Obeys c → ∀ {r : Option ModuleReport × Instance},
      (runSteps s dt steps i).run service m = some (r, m') →
      ∀ v ∈ visits service s dt steps i m, ∀ port, v.outcome = .leave port →
        .left v.node.id port ∈ m'.world.trail v.after.id := by
  intro steps
  induction steps with
  | zero => exact fun i m _ _ r _ v hv => absurd hv List.not_mem_nil
  | succ n ih =>
    intro i m h hm r hrun v hv port hport
    cases hnode : (m.world.library.read i.graph).find? i.cursor with
    | none => simp [visits, hnode] at hv
    | some node =>
      obtain ⟨o, i', m₁, hfirst, hrest⟩ := runSteps_succ hnode hrun
      obtain ⟨hlead, hafter⟩ := hvisit n i m.world node h hnode m rfl hm hfirst
      rw [visits_succ hnode hfirst] at hv
      cases o with
      | stay =>
        rw [List.mem_singleton.mp hv] at hport
        cases hport
      | finish error =>
        rw [List.mem_singleton.mp hv] at hport
        cases hport
      | leave port' =>
        unfold After at hafter
        dsimp only at hv hrest hafter
        cases hnext : (m.world.library.read i.graph).next? node.id port' with
        | none =>
          rw [hnext] at hv hrest
          rw [List.mem_singleton.mp hv] at hport ⊢
          cases hport
          rw [hrest.2]
          exact visit_left hfirst
        | some next =>
          rw [hnext] at hv hrest hafter
          rcases List.mem_cons.mp hv with rfl | hv
          · cases hport
            have hsteps := runSteps_yields hK hstop hlost hvisit n _ _ hafter m₁ rfl hlead.1 hrest
            exact ((hlasts hsteps.1.2).trail i'.id).subset (visit_left hfirst)
          · exact ih _ m₁ hafter hlead.1 hrest v hv port hport

end Trails

end Instance

/-! ## Turns -/

section Turns

open World

variable {service : Service} {s : Situation} {dt : Float} {left : Nat} {i i' : Instance}
  {w w' : World} {m m' : Machine} {node : Node} {r : Option ModuleReport × Instance}

/-- An instance in the course of its turn, which began in the world `w`. -/
structure InTurn (i : Instance) (w : World) (left : Nat) (i' : Instance) (w' : World) : Prop where
  going : Going i w w.pool.stepBound left i' w'
  rests : w'.Rests i'

/-- An instance at the end of its turn. -/
structure TurnedOut (i : Instance) (w : World) (r : Option ModuleReport × Instance) (w' : World) :
    Prop where
  came : CameOut i w w.pool.stepBound r w'
  rests : r.1 = none → w'.Rests r.2

theorem Instance.RanTimer.apart {u v : World} {o : NodeOutcome × Instance}
    (h : i.RanTimer (Passes []) node o u v) : i.RanTimer (Apart []) node o u v := by
  cases h with
  | kept hpass hwait => exact .kept hpass.apart hwait
  | armed hwait hnot hstay htimed hv => exact .armed hwait hnot hstay htimed hv

theorem Instance.RanTimer.lasts {u v : World} {o : NodeOutcome × Instance}
    (h : i.RanTimer (Passes []) node o u v) : u.Lasts v := by
  cases h with
  | kept hpass hwait => exact hpass.preserves.toLasts
  | armed hwait hnot hstay htimed hv =>
    rw [hv]
    exact (Preserves.of_note u i.id _).toLasts

theorem Instance.atWork_passes (hservice : service.Keeps .pooling (Passes [])) (i : Instance) :
    i.AtWork service .pooling (Passes []) (Passes []) where
  steady := Passes.steady []
  service := hservice
  within := fun h => h
  own := fun h => .of_same (sameModules_of_writes h)

/-- After a visit the turn goes on, or is over. -/
theorem InTurn.visit (hservice : service.Keeps .pooling (Passes []))
    (h : InTurn i w (left + 1) i' w')
    (hnode : (w'.library.read i'.graph).find? i'.cursor = some node) :
    (i'.visit s dt (w'.library.read i'.graph) node).Yields service .pooling (Passes [i.id]) w'
      (Instance.After (w'.library.read i'.graph) node (InTurn i w left) (TurnedOut i w)) := by
  rintro m rfl hm ⟨o, i''⟩ m' hrun
  have hat := i'.atWork_passes hservice
  have hnote : ∀ u e, Passes [i.id] u (u.record (.atNode i'.id e)) :=
    h.going.same.id ▸ fun u e => .of_note u i'.id e
  obtain ⟨hlead, hran, u, v, hu, htimer, hm'⟩ :=
    Instance.visit_yields hat (Passes.steady [i.id]) (fun h => h.beside) hnote m rfl hm hrun
  have hblock := Instance.visit_rests hat (h.rests.suspended hnode) hm hrun
  have hafter := h.going.after hnode hran hu htimer.apart hm'
  refine ⟨hlead, ?_⟩
  unfold Instance.After at hafter ⊢
  cases o with
  | finish error => exact ⟨hafter, nofun⟩
  | leave port =>
    dsimp only at hafter ⊢
    revert hafter
    cases (m.world.library.read i'.graph).next? node.id port with
    | none => exact fun hafter => ⟨hafter, nofun⟩
    | some next => exact fun hafter => ⟨hafter, Or.inl (hblock.goesOn nofun)⟩
  | stay =>
    refine ⟨hafter, fun _ => ?_⟩
    obtain ⟨hsame, hcursor, -⟩ := hran.stands
    rcases hblock.stays rfl with hnil | hstate
    · exact Or.inl hnil
    -- The instance has come to the node, so that its state belongs there.
    refine Or.inr ⟨hafter.fit.cell, node, ?_, Or.inr hstate, ?_⟩
    · have hgraph := skeletonOf_keep hlead.2.preserves.graphs (h.going.fit.cell)
      dsimp only at hsame hcursor ⊢
      rw [hsame.graph, hgraph, hcursor]
      exact hnode
    · dsimp only at hsame hm' ⊢
      rw [hm', hsame.id]
      refine (htimer.lasts.trail i'.id).subset ?_
      rw [hu, trail_atNode_self]
      exact List.mem_cons_self

/-- The turn of an instance, from one machine to the other. -/
structure TookTurn (service : Service) (dt : Float) (i : Instance) (m : Machine)
    (r : Option ModuleReport × Instance) (m' : Machine) : Prop where
  running : i.status = .running
  leads : m.Leads .pooling (Passes [i.id]) m'
  out : TurnedOut i m.world r m'.world
  visits : ∀ v ∈ i.turn service dt m,
    (∃ left, InTurn i m.world (left + 1) v.before v.machine.world) ∧
      m.Leads .pooling (Passes [i.id]) v.machine ∧ v.Ran service dt
  left : (i.turn service dt m).Pairwise fun v v' => ∀ port, v.outcome = .leave port →
    .left v.node.id port ∈ v'.machine.world.trail v.after.id
  leaves : ∀ v ∈ i.turn service dt m, ∀ port, v.outcome = .leave port →
    .left v.node.id port ∈ m'.world.trail v.after.id
  /-- The node on which the instance stays is the last one. -/
  stays : ∀ before v after, i.turn service dt m = before ++ v :: after → v.outcome = .stay →
    r = (none, v.after) ∧ after = []
  bound : i.turn service dt m ≠ [] → 0 < m.world.pool.stepBound
  /-- It begins where the instance stands. -/
  head : 0 < m.world.pool.stepBound → ∀ node,
    (m.world.library.read i.graph).find? i.cursor = some node →
    ∃ v rest, i.turn service dt m = v :: rest ∧ v.before = i ∧ v.node = node

theorem Instance.step_takesTurn (hservice : service.Keeps .pooling (Passes []))
    (hm : m.Obeys .pooling) (hheld : m.world.Held [i.id]) (hfit : m.world.Fit i)
    (hstatus : i.status = .running) (hrests : m.world.Rests i)
    (hrun : (i.step dt).run service m = some (r, m')) : TookTurn service dt i m r m' := by
  have hsame := m.world.situationFor_sameModules i.entity [("dt", .float dt)]
  have hlib : (m.world.situationFor i.entity [("dt", .float dt)]).2.library = m.world.library := by
    unfold World.situationFor
    split
    · rfl
    · rfl
  rw [Instance.step, Script.run] at hrun
  have hturn : i.turn service dt m =
      visits service (m.world.situationFor i.entity [("dt", .float dt)]).1 dt
        (m.world.situationFor i.entity [("dt", .float dt)]).2.pool.stepBound i
        { m with world := (m.world.situationFor i.entity [("dt", .float dt)]).2 } := rfl
  generalize m.world.situationFor i.entity [("dt", .float dt)] = arisen at hsame hlib hrun hturn
  obtain ⟨s, w₁⟩ := arisen
  dsimp only at hsame hlib hrun hturn
  rw [Script.run] at hrun
  have hpass : Passes [i.id] m.world w₁ := .of_same hsame
  have hstart : InTurn i m.world w₁.pool.stepBound i w₁ := by
    rw [hsame.pool]
    exact ⟨.start hheld hfit hstatus hsame, hrests.mono hpass.preserves.toLasts⟩
  have hvisit : ∀ n i' w' node, InTurn i m.world (n + 1) i' w' →
      (w'.library.read i'.graph).find? i'.cursor = some node →
      (i'.visit s dt (w'.library.read i'.graph) node).Yields service .pooling (Passes [i.id]) w'
        (After (w'.library.read i'.graph) node (InTurn i m.world n) (TurnedOut i m.world)) :=
    fun _ _ _ _ h hnode => h.visit hservice hnode
  have hlead : m.Leads .pooling (Passes [i.id]) { m with world := w₁ } := ⟨hm.withWorld w₁, hpass⟩
  have hstop : ∀ i' w', InTurn i m.world 0 i' w' → TurnedOut i m.world (none, i') w' :=
    fun i' w' h => ⟨h.going.kept, fun _ => h.rests⟩
  have hlost : ∀ n i' w', InTurn i m.world (n + 1) i' w' →
      (w'.library.read i'.graph).find? i'.cursor = none →
      TurnedOut i m.world (some (i'.report (some ⟨.nodeNotFound, i'.cursor⟩)), i') w' :=
    fun n i' w' h _ => ⟨h.going.reported, fun hnone => absurd hnone (Option.some_ne_none _)⟩
  obtain ⟨hlead', hout⟩ := runSteps_yields (Passes.steady [i.id]) hstop hlost hvisit _ _ _ hstart
    { m with world := w₁ } rfl hlead.1 hrun
  have hheld := visits_hold (Passes.steady [i.id]) hvisit _ i
    { m with world := w₁ } hstart hlead.1
  refine ⟨hstatus, hlead.trans (Passes.steady [i.id]) hlead', hout, fun v hv => ?_, ?_, ?_, ?_, ?_,
    ?_⟩
  · obtain ⟨hin, hlead'', hran⟩ := hheld v (hturn ▸ hv)
    exact ⟨hin, hlead.trans (Passes.steady [i.id]) hlead'', hran⟩
  · rw [hturn]
    exact visits_left (Passes.steady [i.id]) (fun h => h.preserves.toLasts) hvisit _ i
      { m with world := w₁ } hstart hlead.1
  · rw [hturn]
    exact visits_leave (Passes.steady [i.id]) (fun h => h.preserves.toLasts) hvisit hstop hlost _ i
      { m with world := w₁ } hstart hlead.1 hrun
  · rw [hturn]
    exact fun before v after hall hstay => visits_stay hrun hall hstay
  · intro hne
    rw [hturn] at hne
    rw [← hsame.pool]
    refine Nat.pos_of_ne_zero fun hzero => hne ?_
    rw [hzero]
    rfl
  · intro hbound node hnode
    rw [← hsame.pool] at hbound
    rw [← hlib] at hnode
    obtain ⟨o, i₁, rest, hvisits⟩ := visits_head (m := { m with world := w₁ }) hbound hnode hrun
    exact ⟨_, rest, hturn.trans hvisits, rfl, rfl⟩

/-! ## All turns of an update -/

/-- What became of the turn of an instance that was taken out in the world `w`. -/
inductive Turned (service : Service) (dt : Float) (w : World) (i : Instance)
    (visits : List Visit) (kept : List Instance) (w' : World) : Prop
  /-- It was removed before. -/
  | passed : visits = [] → i.entity ∈ w.pool.removed ∨ w.Removes w' i.entity →
      Turned service dt w i visits kept w'
  /-- It had ended before. -/
  | ended : visits = [] → i.status ≠ .running → Turned service dt w i visits kept w'
  | taken {m m₁ : Machine} {r : Option ModuleReport × Instance} : w.Preserves m.world →
      m.world.pool.stepBound = w.pool.stepBound → TookTurn service dt i m r m₁ →
      visits = i.turn service dt m → (r.1 = none → r.2 ∈ kept) → m₁.world.Lasts w' →
      Turned service dt w i visits kept w'

/-- What became of the turns of all instances that were taken out. -/
structure AllTurned (service : Service) (dt : Float) (instances : List Instance) (w : World)
    (visits : List Visit) (kept : List Instance) (w' : World) : Prop where
  about : ∀ v ∈ visits, v.before.id ∈ instances.map (·.id)
  turns : ∀ i ∈ instances,
    Turned service dt w i (visits.filter fun v => v.before.id = i.id) kept w'
  rests : ∀ i ∈ kept, w'.Rests i
  preserves : w.Preserves w'

/-- The instance was left alone before the update came to it. -/
theorem Turned.rebase {v : World} {visits : List Visit} {kept kept' : List Instance}
    (h : Turned service dt v i visits kept w') (hwv : w.Preserves v)
    (hbound : v.pool.stepBound = w.pool.stepBound) (hvw : v.Lasts w') (hkept : kept ⊆ kept') :
    Turned service dt w i visits kept' w' := by
  cases h with
  | passed hnil hgone =>
    refine .passed hnil ?_
    rcases hgone with hmem | hgone
    · exact (hwv.removed _ hmem).imp_right (·.mono hvw)
    · exact Or.inr (hwv.toLasts.removes hgone)
  | ended hnil hstatus => exact .ended hnil hstatus
  | taken hpass hbound' htook hvisits hstays hlasts =>
    exact .taken (Preserves.steady.trans hwv hpass) (hbound'.trans hbound) htook hvisits
      (fun hnone => hkept (hstays hnone)) hlasts

namespace AllTurned

variable {instances : List Instance} {visits : List Visit} {kept : List Instance}

/-- Instances of other numbers ran no node. -/
theorem filter_eq_nil (h : AllTurned service dt instances w visits kept w') {id : InstanceId}
    (hid : id ∉ instances.map (·.id)) : (visits.filter fun v => v.before.id = id) = [] := by
  refine List.filter_eq_nil_iff.mpr fun v hv heq => hid ?_
  exact of_decide_eq_true heq ▸ h.about v hv

/-- One more instance, which runs no node. -/
theorem skip (h : AllTurned service dt instances w visits kept w')
    (hnew : i.id ∉ instances.map (·.id)) (hi : Turned service dt w i [] kept w') :
    AllTurned service dt (i :: instances) w visits kept w' where
  about v hv := List.mem_cons_of_mem _ (h.about v hv)
  turns := by
    intro j hj
    rcases List.mem_cons.mp hj with rfl | hj
    · rw [h.filter_eq_nil hnew]
      exact hi
    · exact h.turns j hj
  rests := h.rests
  preserves := h.preserves

/-- One more instance, which had its turn before the others. -/
theorem cons {m m₁ : Machine} {kept' : List Instance}
    (h : AllTurned service dt instances m₁.world visits kept w')
    (hnew : i.id ∉ instances.map (·.id)) (htook : TookTurn service dt i m r m₁)
    (hbound : m₁.world.pool.stepBound = m.world.pool.stepBound) (hkept : kept ⊆ kept')
    (hstays : ∀ j ∈ kept', j ∈ kept ∨ r.1 = none ∧ j = r.2) (hkeeps : r.1 = none → r.2 ∈ kept') :
    AllTurned service dt (i :: instances) m.world (i.turn service dt m ++ visits) kept' w' := by
  have hown : ∀ v ∈ i.turn service dt m, v.before.id = i.id := by
    intro v hv
    obtain ⟨⟨left, hin⟩, -⟩ := htook.visits v hv
    exact hin.going.same.id
  have hpass := htook.leads.2.preserves
  refine ⟨fun v hv => ?_, fun j hj => ?_, fun j hj => ?_, Preserves.steady.trans hpass h.preserves⟩
  · rcases List.mem_append.mp hv with hv | hv
    · exact hown v hv ▸ List.mem_cons_self
    · exact List.mem_cons_of_mem _ (h.about v hv)
  · rw [List.filter_append]
    rcases List.mem_cons.mp hj with rfl | hj
    · rw [h.filter_eq_nil hnew, List.append_nil,
        List.filter_eq_self.mpr fun v hv => decide_eq_true (hown v hv)]
      exact .taken (Preserves.steady.refl _) rfl htook rfl hkeeps h.preserves.toLasts
    · have hother : ∀ v ∈ i.turn service dt m, ¬ decide (v.before.id = j.id) = true := by
        intro v hv heq
        refine hnew ?_
        rw [← hown v hv, of_decide_eq_true heq]
        exact List.mem_map_of_mem hj
      rw [List.filter_eq_nil_iff.mpr hother, List.nil_append]
      exact (h.turns j hj).rebase hpass hbound h.preserves.toLasts hkept
  · rcases hstays j hj with hj | ⟨hnone, rfl⟩
    · exact h.rests j hj
    · exact (htook.out.rests hnone).mono h.preserves.toLasts

end AllTurned

/-- Every instance that an update took out has its turn, or had ended or was removed before. -/
theorem stepAll_turned (hservice : service.Keeps .pooling (Passes [])) (instances : List Instance)
    {results : List ModuleReport} {kept : List Instance} (hm : m.Obeys .pooling)
    (hin : InHand m.world instances) (hrests : ∀ i ∈ instances, m.world.Rests i)
    (hrun : (stepAll dt instances).run service m = some ((results, kept), m')) :
    AllTurned service dt instances m.world (turnsOf service dt instances m) kept m'.world := by
  induction instances generalizing m results kept with
  | nil =>
    cases hrun
    exact ⟨fun v hv => absurd hv List.not_mem_nil, fun j hj => absurd hj List.not_mem_nil,
      fun j hj => absurd hj List.not_mem_nil, Preserves.steady.refl _⟩
  | cons i rest ih =>
    have hrest : ∀ j ∈ rest, m.world.Rests j := fun j hj => hrests j (List.mem_cons_of_mem _ hj)
    rw [stepAll, Script.run] at hrun
    rw [turnsOf]
    split at hrun
    · next hgone =>
      rw [if_pos hgone]
      refine (ih hm hin.tail hrest hrun).skip hin.head_not_mem ?_
      exact .passed rfl (Or.inl (List.contains_iff_mem.mp hgone))
    next hspared =>
    rw [if_neg hspared]
    cases hterminal : i.terminalResult? with
    | some result =>
      rw [hterminal] at hrun
      dsimp only at hrun ⊢
      rw [Script.run_bind] at hrun
      obtain ⟨⟨⟨results', kept'⟩, m₁⟩, hall, hend⟩ := Option.bind_eq_some_iff.mp hrun
      cases hend
      refine (ih hm hin.tail hrest hall).skip hin.head_not_mem (.ended rfl fun hstatus => ?_)
      simp [Instance.terminalResult?, hstatus] at hterminal
    | none =>
      rw [hterminal] at hrun
      dsimp only at hrun ⊢
      rw [Script.run_bind] at hrun
      obtain ⟨⟨⟨ended, i'⟩, m₁⟩, hstep, hrun⟩ := Option.bind_eq_some_iff.mp hrun
      dsimp only at hrun
      rw [Script.run_bind] at hrun
      obtain ⟨⟨⟨results', kept'⟩, m₂⟩, hall, hend⟩ := Option.bind_eq_some_iff.mp hrun
      have htook := i.step_takesTurn hservice hm hin.head (hin.fit i List.mem_cons_self)
        (i.running_of_not_terminal hterminal) (hrests i List.mem_cons_self) hstep
      obtain ⟨hm₁, hpass⟩ := htook.leads
      obtain ⟨new, hon⟩ := hpass.apart hin.head
      rw [hstep]
      cases ended with
      | some result =>
        cases hend
        exact (ih hm₁ (hin.after hon) (fun j hj => (hrest j hj).mono hpass.preserves.toLasts)
          hall).cons hin.head_not_mem htook hon.bound (List.Subset.refl _)
          (fun _ hj => Or.inl hj) fun hnone => absurd hnone (Option.some_ne_none _)
      | none =>
        cases hend
        refine (ih hm₁ (hin.after hon) (fun j hj => (hrest j hj).mono hpass.preserves.toLasts)
          hall).cons hin.head_not_mem htook hon.bound (List.subset_cons_self _ _)
          (fun j hj => ?_) fun _ => List.mem_cons_self
        exact (List.mem_cons.mp hj).symm.imp_right fun heq => ⟨rfl, heq⟩

end Turns

end SceneLogic
