import SceneLogic.Proofs.Director.Absorption

/-!
# Who reaches the turns

Turns are asked for in updates. A host may run updates whenever it likes, and so may actions:
`Conduct.turning` is the conduct of behaviours that reach the turns in this way only, and they keep
`World.InTurn`. Behaviours that run no updates are `aloof`: they leave the turns alone. The default
ones are both, and so are the modules.
-/

namespace SceneLogic

/-! ## Any behaviours -/

namespace World

variable {w w' : World}

theorem InTurn.openFrame (h : w.InTurn) (now threshold : Float) :
    (w.openFrame now threshold).2.InTurn := by
  obtain ⟨-, ⟨-, hsame⟩ | ⟨-, -, -, hlog⟩⟩ := w.openFrame_turns now threshold
  · exact h.same hsame
  · exact h.opened hlog

/-- An update begins no frame if it follows the last one closer than the threshold, and only then. -/
theorem openFrame_eq_false_iff {d : SceneLogic.Director} (hd : w.director = some d)
    (now threshold : Float) :
    (w.openFrame now threshold).1 = false ↔
      ∃ last, d.frame.lastUpdate = some last ∧ now - last < threshold := by
  have hbegin : (w.openFrame now threshold).1 = (d.frame.begin now threshold).1 := by
    unfold World.openFrame grant
    rw [hd]
  rw [hbegin]
  unfold Frame.begin
  cases d.frame.lastUpdate with
  | none => simp
  | some last =>
    by_cases hnear : now - last < threshold
    · simp [hnear]
    · simp [hnear]

end World

/-- The changes of the turns that a write may make: it reports an update, or components ask for
their turns. -/
inductive TurnStep : World → World → Prop
  | update (w : World) (now threshold : Float) : TurnStep w (w.openFrame now threshold).2
  | turns {w w' : World} : Relation.ReflTransGen World.TurnCall w w' → TurnStep w w'

/-- Behaviours that reach the turns by reports of updates and by asking for turns only. -/
def Conduct.turning : Conduct where
  step := TurnStep

namespace Conduct

theorem turning_keeps : Conduct.turning.Keeps fun w w' => w.InTurn → w'.InTurn where
  refl _ h := h
  trans h h' hw := h' (h hw)
  step := by
    intro v w hstep hv
    cases hstep with
    | update now threshold => exact hv.openFrame now threshold
    | turns hturns => exact hv.calls hturns
  rely _ := trivial
  emitted w e h := h.same ⟨rfl, rfl⟩
  part := nofun

/-- The director, the default behaviours and updates reach the turns in this way only. -/
theorem turning_roomy : Conduct.turning.Roomy where
  tame htame _ := .turns htame.turns
  opens := .update
  requests := by
    refine part_directing (fun w r => ?_) trivial
    exact .turns (.single (.other (w.sameTurns_judge r)))
  announces _ := trivial
  performs := trivial
  checks := trivial
  rely _ _ := trivial

end Conduct

/-! ## Behaviours that leave the turns alone -/

/-- Behaviours that take no turns, and run no updates. -/
def Conduct.aloof : Conduct where
  step := World.SameTurns

namespace Conduct

theorem aloof_keeps : Conduct.aloof.Keeps World.SameTurns where
  refl := .refl
  trans := .trans
  step h := h
  rely _ := trivial
  emitted _ _ := ⟨rfl, rfl⟩
  part h := h.elim

theorem aloof_relies : Conduct.aloof.Relies where
  refl _ := trivial
  trans _ _ := trivial
  step _ := trivial

theorem directing_within_aloof : Conduct.directing.Within .aloof where
  step h := h.1.sameTurns
  part := part_directing (fun w r => w.sameTurns_judge r) trivial
  announces := nofun
  performs := nofun
  checks _ := trivial
  registers := nofun
  rely _ := trivial

theorem acting_within_aloof : Conduct.acting.Within .aloof where
  step h := h.sameTurns
  part h := absurd h id
  announces _ := trivial
  performs := nofun
  checks := nofun
  registers := nofun
  rely _ := trivial

theorem looking_within_aloof : Conduct.looking.Within .aloof where
  step h := h.sameTurns
  part h := absurd h id
  announces := nofun
  performs := nofun
  checks := nofun
  registers := nofun
  rely _ := trivial

theorem working_within_aloof : Conduct.working.Within .aloof where
  step h := by
    cases h with
    | note id e => exact ⟨rfl, rfl⟩
    | write h =>
      cases h with
      | publish name v => exact ⟨rfl, rfl⟩
      | assign name v => exact ⟨rfl, rfl⟩
    | sense entity data => exact (World.acted_situationFor _ entity data).sameTurns
  part h := absurd h id
  announces := nofun
  performs _ := trivial
  checks := nofun
  registers := nofun
  rely _ := trivial

end Conduct

/-- The director takes turns in updates only, and the default behaviours take none. -/
theorem Machine.Standard.obeys_aloof {m : Machine} (h : m.Standard) : m.Obeys .aloof :=
  h.obeys Conduct.aloof_relies Conduct.directing_within_aloof Conduct.acting_within_aloof
    Conduct.looking_within_aloof

/-- The modules leave the turns alone. -/
theorem Director.tickModules_aloof (dt : Float) (newFrame : Bool) (w : World) :
    (tickModules dt newFrame).Obeys .aloof w := by
  have hupdate : (updateModules 0 dt).Obeys .aloof w := by
    refine .read (.write ⟨rfl, rfl⟩ ?_)
    refine .bind Conduct.aloof_relies ?_ fun r v _ => .read (.write ⟨rfl, rfl⟩ .done)
    exact (stepAll_works dt _ _).mono Conduct.aloof_relies Conduct.working_within_aloof
  refine .bind Conduct.aloof_relies hupdate fun results v _ => .read (.write ?_ .done)
  cases newFrame with
  | false => exact .refl v
  | true => exact ⟨rfl, rfl⟩

end SceneLogic
