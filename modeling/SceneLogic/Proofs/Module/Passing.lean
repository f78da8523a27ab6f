import SceneLogic.Module.Run

/-!
# Passing nodes

When an instance leaves off it has ended, or stays on a block that may wait, or is on its way and
has passed as many nodes as it was allowed. `Instance.runSteps` does not tell the last two apart,
and they are worlds apart: who is on its way can be sent on, and it comes to the same as if it had
never been stopped.

* `Instance.passNodes` — the same steps, with an answer that tells them apart
* `Instance.runSteps_eq` — they are the steps of an update
* `Instance.passNodes_add` — passing some nodes and then some more is passing all of them
-/

namespace SceneLogic

/-! ## Steps that can be stopped -/

/-- How an instance leaves off. -/
inductive Passage where
  | ended (report : ModuleReport)
  /-- It stays on a block that may wait. -/
  | stayed
  /-- It has passed as many nodes as it was allowed. -/
  | underWay

/-- The report of an instance that has ended. -/
def Passage.report? : Passage → Option ModuleReport
  | .ended report => some report
  | _ => none

namespace Instance

/-- Runs nodes until the instance ends, stays, or has passed so many. -/
def passNodes (s : Situation) (dt : Float) : Nat → Instance → Script (Passage × Instance)
  | 0, i => .done (.underWay, i)
  | steps + 1, i =>
    .read fun w =>
      let g := w.library.read i.graph
      match g.find? i.cursor with
      | none => .done (.ended (i.report (some ⟨.nodeNotFound, i.cursor⟩)), i)
      | some node =>
        (i.visit s dt g node).bind fun (outcome, i) =>
          match outcome with
          | .stay => .done (.stayed, i)
          | .finish error => .done (.ended (i.report (error.map (⟨·, node.id⟩))), i)
          | .leave port =>
            match g.next? node.id port with
            | none => .done (.ended (i.report none), i)
            | some next => passNodes s dt steps { i with cursor := next }

/-- These are the steps of an update, where only reports count. -/
theorem runSteps_eq (s : Situation) (dt : Float) (steps : Nat) (i : Instance) :
    runSteps s dt steps i = (passNodes s dt steps i).bind fun r => .done (r.1.report?, r.2) := by
  induction steps generalizing i with
  | zero => rfl
  | succ steps ih =>
    unfold runSteps passNodes
    simp only [Script.bind]
    congr 1
    funext w
    cases (w.library.read i.graph).find? i.cursor with
    | none => rfl
    | some node =>
      dsimp only
      rw [Script.bind_assoc]
      congr 1
      funext r
      obtain ⟨outcome, i₁⟩ := r
      cases outcome with
      | stay => rfl
      | finish error => rfl
      | leave port =>
        dsimp only
        cases (w.library.read i.graph).next? node.id port with
        | none => rfl
        | some next => exact ih _

/-- Goes on only if the instance is under way. -/
def sendOn (s : Situation) (dt : Float) (steps : Nat) (r : Passage × Instance) :
    Script (Passage × Instance) :=
  match r.1 with
  | .underWay => passNodes s dt steps r.2
  | _ => .done r

/-- Whoever is sent on passes the nodes that it would have passed. -/
theorem passNodes_add (s : Situation) (dt : Float) (steps more : Nat) (i : Instance) :
    passNodes s dt (steps + more) i = (passNodes s dt steps i).bind (sendOn s dt more) := by
  induction steps generalizing i with
  | zero => rw [Nat.zero_add]; rfl
  | succ steps ih =>
    rw [Nat.add_right_comm]
    unfold passNodes
    simp only [Script.bind]
    congr 1
    funext w
    cases (w.library.read i.graph).find? i.cursor with
    | none => rfl
    | some node =>
      dsimp only
      rw [Script.bind_assoc]
      congr 1
      funext r
      obtain ⟨outcome, i₁⟩ := r
      cases outcome with
      | stay => rfl
      | finish error => rfl
      | leave port =>
        dsimp only
        cases (w.library.read i.graph).next? node.id port with
        | none => rfl
        | some next => exact ih _

end Instance

end SceneLogic
