import SceneLogic.Proofs.Blindness
import SceneLogic.Proofs.Module.Passing

/-!
# Running modules are blind

A module does not read the journal, and the only question about the number of nodes that it may
pass in an update is asked when the update lets it go on.

* `Instance.passNodes_blind` — nodes are passed in the same way with the veil and without
* `updateModules_blind` — under a veil that hides no step bound a whole update is the same
-/

namespace SceneLogic

variable {v : Veil}

theorem World.situationFor_veiled (v : Veil) (w : World) (entity : EntityId) (data : Params) :
    (w.veiled v).situationFor entity data =
      ((w.situationFor entity data).1, (w.situationFor entity data).2.veiled v) := by
  unfold situationFor
  rw [veiled_director]
  cases w.director with
  | none => rfl
  | some d => rfl

namespace Instance

theorem perform_blind (i : Instance) (s : Situation) (name : String) (params : Params) :
    (i.perform s name params).Blind v :=
  .act _ _ _

theorem write_blind (i : Instance) (name : String) (value : Value) :
    (i.write name value).Blind v :=
  fun _ => .read (.write rfl .done)

theorem assign_blind (i : Instance) (name : String) (value : Value) :
    (i.assign name value).Blind v := by
  intro w
  refine .read (.ite (fun _ => i.write_blind name value w) fun _ => ?_)
  exact .ite (fun _ => .write rfl .done) fun _ => i.write_blind name value w

theorem setVar_blind (i : Instance) (s : Situation) (params : Params) :
    (i.setVar s params).Blind v := by
  unfold setVar
  cases params.text? "name" with
  | none => exact .bind (i.perform_blind _ _ _) fun _ => .done
  | some name =>
    intro w
    refine .read (.ite (fun _ => i.write_blind name _ w) fun _ => ?_)
    exact (i.perform_blind _ _ _ w).bind fun _ _ => .done

theorem runInstant_blind (i : Instance) (s : Situation) (block : String) (params : Params) :
    (i.runInstant s block params).Blind v := by
  intro w
  refine .ite (fun _ => .done) fun _ => .ite (fun _ => ?_) fun _ => .ite (fun _ => ?_) fun _ => ?_
  · cases params.text? "target" with
    | none => exact .done
    | some target => exact (i.assign_blind target _ w).bind fun _ _ => .done
  · exact (i.setVar_blind s params w).bind fun _ _ => .done
  · exact (i.perform_blind _ _ _ w).bind fun _ _ => .done

theorem runMoveTo_blind (i : Instance) (s : Situation) (params : Params) :
    (i.runMoveTo s params).Blind v := by
  intro w
  refine .read (.ite (fun _ => .done) fun _ => (i.perform_blind _ _ _ w).bind fun _ w₁ => ?_)
  refine .read ?_
  rw [World.veiled_store]
  cases w₁.store.get? i.entity with
  | none => exact .done
  | some e => exact .done

theorem runAsync_blind (i : Instance) (s : Situation) (node : NodeId) (block : String)
    (params : Params) (dt : Float) : (i.runAsync s node block params dt).Blind v := by
  intro w
  refine .ite (fun _ => ?_) fun _ => .ite (fun _ => i.runMoveTo_blind s params w) fun _ =>
    .ite (fun _ => .read .done) fun _ => .done
  refine Script.Alike.bind ?_ fun _ _ => .done
  exact .ite (fun _ => Script.Blind.record _ w) fun _ => .done

theorem runNode_blind (i : Instance) (s : Situation) (dt : Float) (g : Graph) (node : Node) :
    (i.runNode s dt g node).Blind v := by
  intro w
  unfold runNode
  split
  · exact .done
  · exact .done
  · exact .done
  · exact .done
  · exact .read .done
  · exact .read .done
  · next mode block params _ =>
    refine .read ?_
    cases mode.effective block with
    | instant => exact i.runInstant_blind s block _ w
    | async => exact i.runAsync_blind s node.id block _ dt w
  · exact .done

theorem visit_blind (i : Instance) (s : Situation) (dt : Float) (g : Graph) (node : Node) :
    (i.visit s dt g node).Blind v := by
  refine .bind (.record _) fun _ => .bind (i.runNode_blind s dt g node) fun r => ?_
  obtain ⟨outcome, i₁⟩ := r
  cases outcome with
  | leave port => exact .bind (.record _) fun _ => .done
  | stay => exact .done
  | finish error => exact .done

/-- An instance passes nodes in the same way with the veil and without. -/
theorem passNodes_blind (s : Situation) (dt : Float) (steps : Nat) (i : Instance) :
    (passNodes s dt steps i).Blind v := by
  induction steps generalizing i with
  | zero => exact .done
  | succ steps ih =>
    intro w
    refine .read ?_
    rw [World.veiled_library]
    dsimp only
    cases (w.library.read i.graph).find? i.cursor with
    | none => exact .done
    | some node =>
      refine (i.visit_blind s dt _ node w).bind fun r => ?_
      obtain ⟨outcome, i₁⟩ := r
      cases outcome with
      | stay => exact fun _ => .done
      | finish error => exact fun _ => .done
      | leave port =>
        dsimp only
        cases (w.library.read i.graph).next? node.id port with
        | none => exact fun _ => .done
        | some next => exact ih _

theorem runSteps_blind (s : Situation) (dt : Float) (steps : Nat) (i : Instance) :
    (runSteps s dt steps i).Blind v := by
  rw [runSteps_eq]
  exact .bind (passNodes_blind s dt steps i) fun _ => .done

theorem step_blind (hv : v.stepBound = none) (i : Instance) (dt : Float) :
    (i.step dt).Blind v := by
  intro w
  refine .read ?_
  rw [World.situationFor_veiled]
  refine .write rfl ?_
  have hbound : ∀ w : World, (w.veiled v).pool.stepBound = w.pool.stepBound := by
    intro w
    rw [World.veiled, hv]
    rfl
  rw [hbound]
  exact runSteps_blind _ dt _ i _

end Instance

theorem stepAll_blind (hv : v.stepBound = none) (dt : Float) (instances : List Instance) :
    (stepAll dt instances).Blind v := by
  induction instances with
  | nil => exact .done
  | cons i rest ih =>
    intro w
    refine .read (.ite (fun _ => ih w) fun _ => ?_)
    cases i.terminalResult? with
    | some result => exact (ih w).bind fun _ _ => .done
    | none =>
      refine (i.step_blind hv dt w).bind fun r w₁ => (ih w₁).bind fun _ _ => ?_
      obtain ⟨_ | result, _⟩ := r
      · exact .done
      · exact .done

/-- An update of all modules is the same under a veil that hides no step bound. -/
theorem updateModules_blind (hv : v.stepBound = none) (time dt : Float) :
    (updateModules time dt).Blind v := by
  intro w
  refine .read (.write rfl ((stepAll_blind hv dt _ _).bind fun _ _ => ?_))
  exact .read (.write rfl .done)

end SceneLogic
