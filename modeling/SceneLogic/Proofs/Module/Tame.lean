import SceneLogic.Proofs.Director.Ledger
import SceneLogic.Proofs.Module.Visit
import SceneLogic.Proofs.Senses.Cells

/-!
# What an update does by itself

In the turns that an update of the modules gives them, instances note what they do, write
variables, and have registered actions performed. They ask nobody for a condition, announce
nothing, and leave the director aside. `Conduct.working` has these limits, and the lemmas follow
the blocks, the nodes and the loops of an update.

All of it is tame and leaves all contacts alone, and so do the opening and the close of an update:
`updateModules_steps`.
-/

namespace SceneLogic

/-- A tame change that touches nothing. -/
structure World.Reserved (w w' : World) : Prop extends w.Tame w' where
  contacts : w.senses.SameContacts w'.senses

namespace World

theorem reserved_of_tame {w w' : World} (h : w.Tame w') (hsenses : w'.senses = w.senses) :
    w.Reserved w' :=
  ⟨h, by rw [hsenses]; exact .refl _⟩

/-- Attending to an entity is no contact. -/
theorem contacts_situationFor (w : World) (entity : EntityId) (data : Params) :
    w.senses.SameContacts (w.situationFor entity data).2.senses := by
  unfold situationFor
  split
  · exact .refl _
  · exact w.senses.sameContacts_attend entity

end World

/-- What is done in the turns of an update, apart from what its requests set off. -/
inductive OwnStep : World → World → Prop
  | note (w : World) (id : InstanceId) (e : NodeEvent) : OwnStep w (w.record (.atNode id e))
  | write {w w' : World} {i : Instance} : i.Writes w w' → OwnStep w w'
  | sense (w : World) (entity : EntityId) (data : Params) :
      OwnStep w (w.situationFor entity data).2

/-- What may be done in the turns of an update. -/
def Conduct.working : Conduct where
  step := OwnStep
  announces _ := False
  checks := False
  registers := False

/-- What an update of the modules may do. -/
def Conduct.stepping : Conduct where
  step := World.Reserved
  announces _ := False
  checks := False
  registers := False

theorem Conduct.working_relies : Conduct.working.Relies where
  refl _ := trivial
  trans _ _ := trivial
  step _ := trivial

theorem Conduct.stepping_relies : Conduct.stepping.Relies where
  refl _ := trivial
  trans _ _ := trivial
  step _ := trivial

theorem OwnStep.reserved {w w' : World} (h : OwnStep w w') : w.Reserved w' := by
  cases h with
  | note id e => exact World.reserved_of_tame (w.tame_record rfl rfl) rfl
  | write h =>
    cases h with
    | publish name v => exact World.reserved_of_tame (w.tame_publishWrite _ _ _ name v) rfl
    | assign name v => exact World.reserved_of_tame (w.tame_modifyEntity _ (fun _ => rfl) fun _ => rfl) rfl
  | sense entity data =>
    exact ⟨(w.acted_situationFor entity data).toTame, w.contacts_situationFor entity data⟩

theorem Conduct.working_within : Conduct.working.Within .stepping where
  step := OwnStep.reserved
  part := fun h => absurd h id
  announces := id
  performs := id
  checks := id
  registers := id
  rely := fun _ => trivial

namespace Instance

variable {i : Instance} {s : Situation} {w : World} {dt : Float}

/-! ## Blocks -/

theorem perform_works (i : Instance) (name : String) (params : Params) :
    (i.perform s name params).Obeys .working w :=
  .perform trivial fun _ _ => .done

theorem write_works (i : Instance) (name : String) (v : Value) :
    (i.write name v).Obeys .working w :=
  .read (.write (.write (.publish w name v)) .done)

theorem assign_works (i : Instance) (name : String) (v : Value) :
    (i.assign name v).Obeys .working w := by
  refine .read ?_
  split
  · exact write_works i name v
  · split
    · exact .write (.write (.assign w name v)) .done
    · exact write_works i name v

theorem setVar_works (i : Instance) (params : Params) :
    (i.setVar s params).Obeys .working w := by
  have hregistered : ∀ params, ((i.perform s "SetVar" params).bind fun _ =>
      .done i).Obeys .working w :=
    fun params => .bind Conduct.working_relies (perform_works i _ params) fun _ _ _ => .done
  unfold setVar
  split
  · exact hregistered params
  · refine .read ?_
    dsimp only
    split
    · exact write_works i _ _
    · exact hregistered _

theorem runInstant_works (i : Instance) (block : String) (params : Params) :
    (i.runInstant s block params).Obeys .working w := by
  unfold runInstant
  dsimp only
  split
  · exact .done
  · split
    · split
      · exact .done
      · exact .bind Conduct.working_relies (assign_works i _ _) fun _ _ _ => .done
    · split
      · exact .bind Conduct.working_relies (setVar_works i _) fun _ _ _ => .done
      · exact .bind Conduct.working_relies (perform_works i _ _) fun _ _ _ => .done

theorem runMoveTo_works (i : Instance) (params : Params) :
    (i.runMoveTo s params).Obeys .working w := by
  refine .read ?_
  dsimp only
  split
  · exact .done
  · refine .bind Conduct.working_relies (perform_works i _ _) fun _ v _ => .read ?_
    split
    · exact .done
    · exact .done

theorem note_works (i : Instance) (e : NodeEvent) :
    (Script.record (.atNode i.id e)).Obeys .working w :=
  .read (.write (.note w i.id e) .done)

theorem runAsync_works (i : Instance) (node : NodeId) (block : String) (params : Params) :
    (i.runAsync s node block params dt).Obeys .working w := by
  unfold runAsync
  split
  · refine .bind Conduct.working_relies ?_ fun _ _ _ => .done
    split
    · exact note_works i _
    · exact .done
  · split
    · exact runMoveTo_works i params
    · split
      · exact .read .done
      · exact .done

/-! ## Nodes -/

theorem runNode_works (i : Instance) (g : Graph) (node : Node) :
    (i.runNode s dt g node).Obeys .working w := by
  unfold runNode
  split
  case h_5 => exact .read .done
  case h_6 => exact .read .done
  case h_7 =>
    refine .read ?_
    dsimp only
    split
    · exact runInstant_works i _ _
    · exact runAsync_works i _ _ _
  all_goals exact .done

theorem visit_works (i : Instance) (g : Graph) (node : Node) :
    (i.visit s dt g node).Obeys .working w := by
  refine .bind Conduct.working_relies (note_works i _) fun _ u _ => ?_
  refine .bind Conduct.working_relies (runNode_works i g node) fun r v _ => ?_
  obtain ⟨o, i'⟩ := r
  cases o with
  | stay => exact .done
  | finish error => exact .done
  | leave port => exact .bind Conduct.working_relies (note_works i' _) fun _ _ _ => .done

theorem runSteps_works (steps : Nat) (i : Instance) (w : World) :
    (runSteps s dt steps i).Obeys .working w := by
  induction steps generalizing i w with
  | zero => exact .done
  | succ n ih =>
    refine .read ?_
    dsimp only
    split
    · exact .done
    · refine .bind Conduct.working_relies (visit_works i _ _) fun r v _ => ?_
      obtain ⟨o, i'⟩ := r
      cases o with
      | stay => exact .done
      | finish error => exact .done
      | leave port =>
        dsimp only
        split
        · exact .done
        · exact ih _ v

theorem step_works (i : Instance) (dt : Float) (w : World) : (i.step dt).Obeys .working w :=
  .read (.write (.sense w i.entity _) (runSteps_works _ i _))

end Instance

/-! ## Updates -/

theorem stepAll_works (dt : Float) (instances : List Instance) (w : World) :
    (stepAll dt instances).Obeys .working w := by
  induction instances generalizing w with
  | nil => exact .done
  | cons i rest ih =>
    refine .read ?_
    split
    · exact ih w
    · split
      · exact .bind Conduct.working_relies (ih w) fun _ _ _ => .done
      · refine .bind Conduct.working_relies (i.step_works dt w) fun r v _ => ?_
        refine .bind Conduct.working_relies (ih v) fun _ _ _ => ?_
        dsimp only
        split
        · exact .done
        · exact .done

theorem stepAll_steps (dt : Float) (instances : List Instance) (w : World) :
    (stepAll dt instances).Obeys .stepping w :=
  (stepAll_works dt instances w).mono Conduct.stepping_relies Conduct.working_within

theorem updateModules_steps (time dt : Float) (w : World) :
    (updateModules time dt).Obeys .stepping w := by
  have hreserved : ∀ (w : World) (pool : Pool) (e : PoolEvent),
      w.Reserved ({ w with pool }.record (.ofPool e)) := fun w pool e =>
    World.reserved_of_tame
      (World.tame_of_director rfl (World.quiet_of_entry rfl rfl) rfl rfl rfl (.refl w.store)
        (World.pictured_of_store rfl rfl rfl)) rfl
  refine .read (.write (hreserved w _ .opened) ?_)
  exact .bind Conduct.stepping_relies (stepAll_steps dt _ _) fun r v _ =>
    .read (.write (hreserved v _ (.closed r.1)) .done)

end SceneLogic
