import SceneLogic.Module.Run
import SceneLogic.Proofs.Number.Squares
import SceneLogic.Proofs.Returning
import SceneLogic.Proofs.Steering

/-!
# When a walk is over

A walk has the registered action take a step in each update, and is over when the entity is near
the goal. The action takes no step if the entity is near it already. Both have the same distance in
mind, but do not measure it alike: the action goes by where the entity is drawn and compares the
distance, the walk goes by where the store has the entity and compares the square of the distance.
So an entity that is drawn elsewhere may rest without end, and so may one at the single distance
that is more than five in the square but not in the root.

* `walks_end_where_the_store_has_arrived` — the outcome when the action takes no step
* `not_always_over` — an entity that is drawn at the goal and stored elsewhere
-/

namespace SceneLogic

open Number

namespace Point

theorem lengthSq_sub_swap (a b : Point) : (a - b).lengthSq = (b - a).lengthSq :=
  congrArg₂ (· + ·) (sub_mul_self_swap a.x b.x) (sub_mul_self_swap a.y b.y)

/-- What is near by its distance is near by the square, unless that is the next double. -/
theorem distanceSq_le_of_length_le {start goal : Point}
    (h : (goal - start).length ≤ Movement.arrivalDistance) :
    start.distanceSq goal ≤ Instance.arrivalSq ∨ start.distanceSq goal = pastTwentyFive := by
  rw [length, lengthSq_sub_swap] at h
  exact sqrt_le_five h

end Point

namespace Instance

variable {i : Instance} {m : Machine} {s : Situation} {g : Graph} {node : Node}

/-- The point that a walk is for. -/
def walkGoal (inputs : Params) : Point :=
  ⟨(inputs.number? "x").getD 0, (inputs.number? "y").getD 0⟩

/-- What the action is asked to do. -/
def walkParams (inputs : Params) : Params :=
  [("x", .float (walkGoal inputs).x), ("y", .float (walkGoal inputs).y),
    ("speed", .float ((inputs.number? "speed").getD 100))]

/-- The node is a walk, and its ports have these values when it is run. -/
def Walks (i : Instance) (w : World) (s : Situation) (g : Graph) (node : Node) (inputs : Params) :
    Prop :=
  ∃ mode params, node.kind = .flow mode "MoveTo" params ∧ mode.effective "MoveTo" = .async ∧
    (i.lookup w s).ports g node.id params = inputs

/-- The action steers for the goal of the walk. -/
theorem walkParams_steers {w : World} {inputs : Params}
    (h : (walkGoal inputs).isFinite = true) :
    Movement.Steers w s (walkParams inputs) (walkGoal inputs) Movement.moveToward := by
  obtain ⟨hx, hy⟩ := Bool.and_eq_true_iff.mp h
  refine .toward ?_ ?_
  · change (if (walkGoal inputs).x.isNaN = true then none else some (walkGoal inputs).x) = _
    rw [not_isNaN_of_isFinite hx]
    rfl
  · change (if (walkGoal inputs).y.isNaN = true then none else some (walkGoal inputs).y) = _
    rw [not_isNaN_of_isFinite hy]
    rfl

/-- A walk asks for a step and then looks where the store has the entity. -/
theorem runNode_walk {inputs : Params} {m' : Machine} {e : Entity} {service : Service}
    (h : i.Walks m.world s g node inputs) (hthere : m.world.store.contains i.entity = true)
    (hact : (i.perform s "MoveToward" (walkParams inputs)).run service m = some ((), m'))
    (he : m'.world.store.get? i.entity = some e) (dt : Float) :
    (i.runNode s dt g node).run service m = some
      ((if e.position.distanceSq (walkGoal inputs) ≤ arrivalSq then .leave "out" else .stay, i),
        m') := by
  obtain ⟨mode, params, hkind, hmode, rfl⟩ := h
  have hgone : ¬ (!m.world.store.contains i.entity) = true := by
    rw [hthere]
    decide
  simp only [runNode, hkind, Script.run, hmode]
  change (i.runMoveTo s _).run service m = _
  simp only [runMoveTo, Script.run]
  rw [if_neg hgone, Script.run_bind]
  change ((i.perform s "MoveToward" (walkParams _)).run service m).bind _ = _
  rw [hact, Option.bind_some]
  simp only [Script.run, he]
  rfl

end Instance

/-- Where the action takes no step, since the entity is near the goal by the position that the
action reads, a walk of a living entity changes nothing. It is over if the entity is near the goal
in the store, and else it stays. If the store has the entity where the action finds it, the walk is
over unless the square of the distance is the double next to twenty-five. -/
theorem walks_end_where_the_store_has_arrived {m : Machine} {i : Instance} {s : Situation}
    {g : Graph} {node : Node} {inputs : Params} {e : Entity} {start : Point}
    (hmove : Dict.get? m.actions "MoveToward" = some Movement.moveToward)
    (hentity : s.entity = i.entity) (hwalks : i.Walks m.world s g node inputs)
    (he : m.world.store.get? i.entity = some e) (hlive : e.isAlive = true)
    (hstart : m.world.positionOf? i.entity = some start)
    (hgoal : (Instance.walkGoal inputs).isFinite = true)
    (hnear : (Instance.walkGoal inputs - start).length ≤ Movement.arrivalDistance) (dt : Float)
    (depth : Nat) :
    let stored := e.position.distanceSq (Instance.walkGoal inputs)
    ∃ outcome,
      (i.runNode s dt g node).run (Service.atDepth (depth + 1)) m = some ((outcome, i), m) ∧
      (stored ≤ Instance.arrivalSq → outcome = .leave "out") ∧
      (¬ stored ≤ Instance.arrivalSq → outcome = .stay) ∧
      (e.position = start → (outcome = .leave "out" ↔ stored ≠ pastTwentyFive)) := by
  intro stored
  have hact : (i.perform s "MoveToward" (Instance.walkParams inputs)).run
      (Service.atDepth (depth + 1)) m = some ((), m) := by
    refine Script.act_run hmove (Movement.Steers.run_none
      (Instance.walkParams_steers hgoal) ?_ (hentity ▸ hstart) (if_pos hnear) _)
    change m.world.isAlive s.entity = true
    rw [hentity, World.isAlive, he]
    exact hlive
  have hthere : m.world.store.contains i.entity = true := Option.isSome_iff_exists.mpr ⟨e, he⟩
  refine ⟨_, Instance.runNode_walk hwalks hthere hact he dt, fun h => if_pos h,
    fun h => if_neg h, fun hdrawn => ?_⟩
  subst hdrawn
  by_cases hstored : stored ≤ Instance.arrivalSq
  · rw [if_pos hstored]
    refine iff_of_true rfl fun hpast => ?_
    rw [hpast] at hstored
    exact absurd hstored (by decide +kernel)
  · rw [if_neg hstored]
    exact iff_of_false NodeOutcome.noConfusion
      (not_not_intro ((Point.distanceSq_le_of_length_le hnear).resolve_left hstored))

/-- There is such a distance. -/
example : Point.distanceSq ⟨5, 0.000000059604644775390625⟩ Point.origin = pastTwentyFive := by
  decide +kernel

namespace Walk

/-- A walk to the origin. -/
def node : Node :=
  ⟨"b", .flow .async "MoveTo" [("x", .float 0), ("y", .float 0), ("speed", .float 10)]⟩

def graph : Graph where
  id := "walks"
  entry := "a"
  nodes := [⟨"a", .entry⟩, node]
  edges := [.flow "a" "out" "b" "in"]

/-- The hero is drawn at the origin, and the store has it farther to the right. -/
def machine (x : Float) : Machine :=
  Machine.withDefaultActions
    { world :=
        { store := Store.empty.insert { id := ⟨"hero"⟩, x }
          canvas := some (Canvas.draw {} ⟨"hero"⟩ Point.origin)
          library := .ofList [graph] } }

def module : Instance :=
  Instance.ofGraph 1 ⟨"hero"⟩ 0 graph []

def situation : Situation :=
  ⟨⟨"hero"⟩, [("dt", .float 1)], none, none, none⟩

def inputs : Params :=
  [("x", .float 0), ("y", .float 0), ("speed", .float 10)]

theorem walks (x : Float) : module.Walks (machine x).world situation graph node inputs :=
  ⟨.async, _, rfl, rfl, rfl⟩

end Walk

/-- The walk of a hero that is drawn and stored at the goal is over. -/
theorem hero_has_walked :
    (Walk.module.runNode Walk.situation 1 Walk.graph Walk.node).run (Service.atDepth 1)
      (Walk.machine 0) = some ((.leave "out", Walk.module), Walk.machine 0) := by
  have hstart : (Walk.machine 0).world.positionOf? ⟨"hero"⟩ = some Point.origin := rfl
  obtain ⟨outcome, hrun, hover, -, -⟩ :=
    walks_end_where_the_store_has_arrived (m := Walk.machine 0) (e := { id := ⟨"hero"⟩ }) rfl rfl
      (Walk.walks 0) rfl rfl hstart (by decide +kernel) (by decide +kernel) 1 0
  rw [hover (by decide +kernel)] at hrun
  exact hrun

/-- A walk is not always over when the action finds the entity near the goal. -/
theorem not_always_over : ¬ ∀ (m : Machine) (i : Instance) (s : Situation) (g : Graph) (node : Node)
    (inputs : Params) (e : Entity) (start : Point) (dt : Float) (depth : Nat)
    (outcome : NodeOutcome),
    Dict.get? m.actions "MoveToward" = some Movement.moveToward → s.entity = i.entity →
    i.Walks m.world s g node inputs → m.world.store.get? i.entity = some e →
    e.isAlive = true → m.world.positionOf? i.entity = some start →
    (Instance.walkGoal inputs).isFinite = true →
    ((inputs.number? "speed").getD 100).isFinite = true →
    (Instance.walkGoal inputs - start).length ≤ Movement.arrivalDistance →
    (i.runNode s dt g node).run (Service.atDepth (depth + 1)) m = some ((outcome, i), m) →
    outcome = .leave "out" := by
  intro h
  have hstep : Movement.step? Point.origin (Instance.walkGoal Walk.inputs)
      ((Walk.machine 100).world.speed Walk.situation (Instance.walkParams Walk.inputs) 100)
      Walk.situation.dt = none := by
    decide +kernel
  have hact : (Walk.module.perform Walk.situation "MoveToward"
      (Instance.walkParams Walk.inputs)).run (Service.atDepth 1) (Walk.machine 100) =
      some ((), Walk.machine 100) :=
    Script.act_run rfl (Movement.Steers.run_none
      (Instance.walkParams_steers (by decide +kernel)) rfl rfl hstep _)
  have hrun := Instance.runNode_walk (Walk.walks 100) rfl hact rfl 1
  have hfar : ¬ (({ id := ⟨"hero"⟩, x := 100 } : Entity).position.distanceSq
      (Instance.walkGoal Walk.inputs) ≤ Instance.arrivalSq) := by
    decide +kernel
  rw [if_neg hfar] at hrun
  cases h (Walk.machine 100) Walk.module Walk.situation Walk.graph Walk.node Walk.inputs
    { id := ⟨"hero"⟩, x := 100 } Point.origin 1 0 .stay rfl rfl (Walk.walks 100) rfl rfl rfl
    (by decide +kernel) (by decide +kernel) (by decide +kernel) hrun

end SceneLogic
