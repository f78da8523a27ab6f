import Mathlib.Logic.Relation
import SceneLogic.Director

/-!
# Which components had their turn

In an update the enabled components of an entity ask the frame for their turns, and each is granted
its turn once in a frame. If the entity is live then the rule of the component is run, and the
journal has the turn: `World.turnLog`.

* `World.TurnCall` — what may become of the turns
* `World.InTurn` — nobody had two turns in one frame, and the director keeps all that were taken in
  the present one; `InTurn.calls` says that it stays so, and `InTurn.opened` that a new frame begins
  so
-/

namespace SceneLogic

/-! ## Reading the journal -/

/-- The turns of the present frame and of each past frame, the latest first. -/
structure TurnLog where
  present : List (EntityId × String) := []
  past : List (List (EntityId × String)) := []

namespace TurnLog

/-- Takes in an entry of the journal. -/
def enter (l : TurnLog) : Happening → TurnLog
  | .frameBegan => ⟨[], l.present :: l.past⟩
  | .updated id component => { l with present := (id, component) :: l.present }
  | _ => l

/-- The turns frame by frame, the present one first. -/
def frames (l : TurnLog) : List (List (EntityId × String)) :=
  l.present :: l.past

end TurnLog

theorem Frame.grantComponent_eq (f : Frame) (entity : EntityId) (component : String) :
    f.grantComponent entity component =
      if (entity, component) ∈ f.components then (false, f)
      else (true, { f with components := (entity, component) :: f.components }) := by
  unfold grantComponent grant
  by_cases hmem : (entity, component) ∈ f.components
  · rw [if_pos hmem, if_pos hmem]
  · rw [if_neg hmem, if_neg hmem]

namespace World

/-- The turns that the journal tells of, sorted by frames. -/
def turnLog (w : World) : TurnLog :=
  w.journal.foldr (fun h l => l.enter h) {}

/-- The components that had their turn in the present frame, as the director has them. -/
def ticked? (w : World) : Option (List (EntityId × String)) :=
  w.director.map (·.frame.components)

/-- The components that had their turn in the present frame. -/
def ticked (w : World) : List (EntityId × String) :=
  ((w.director).map (·.frame.components)).getD []

@[simp] theorem turnLog_record (w : World) (h : Happening) :
    (w.record h).turnLog = w.turnLog.enter h := rfl

@[simp] theorem ticked_record (w : World) (h : Happening) : (w.record h).ticked = w.ticked := rfl

theorem ticked_of_ticked? {w w' : World} (h : w'.ticked? = w.ticked?) : w'.ticked = w.ticked :=
  congrArg (Option.getD · []) h

theorem isSome_ticked? (w : World) : w.ticked?.isSome = w.director.isSome :=
  Option.isSome_map

/-- The turns of the present frame, and what the journal tells of turns, stay. -/
structure SameTurns (w w' : World) : Prop where
  ticked : w'.ticked? = w.ticked?
  log : w'.turnLog = w.turnLog

/-- What may become of the turns: a component asks for one, or all stays as it is. -/
inductive TurnCall : World → World → Prop
  | take (w : World) (id : EntityId) (component : String) :
      TurnCall w (Director.takeTurn w id component).2
  | other {w w' : World} : w.SameTurns w' → TurnCall w w'

/-- Nobody had two turns in one frame, and the director keeps the turns of the present one. -/
structure InTurn (w : World) : Prop where
  kept : ∀ turn ∈ w.turnLog.present, turn ∈ w.ticked
  once : ∀ turns ∈ w.turnLog.frames, turns.Nodup

variable {w w' : World}

theorem SameTurns.refl (w : World) : w.SameTurns w :=
  ⟨rfl, rfl⟩

theorem SameTurns.trans {u v w : World} (h : u.SameTurns v) (h' : v.SameTurns w) : u.SameTurns w :=
  ⟨h'.ticked.trans h.ticked, h'.log.trans h.log⟩

theorem sameTurns_of_director (hdirector : w'.director = w.director)
    (hlog : w'.turnLog = w.turnLog) : w.SameTurns w' :=
  ⟨by rw [ticked?, hdirector, ticked?], hlog⟩

/-- A turn that was taken before is refused. A fresh one is granted, and taken down if the entity is
live. -/
theorem takeTurn_cases {d : SceneLogic.Director} (hd : w.director = some d) (id : EntityId)
    (component : String) :
    (id, component) ∈ w.ticked ∧ Director.takeTurn w id component = (false, w) ∨
      (id, component) ∉ w.ticked ∧ ∃ w', Director.takeTurn w id component = (true, w') ∧
        w'.director.isSome = true ∧ w'.store = w.store ∧
        w'.ticked = (id, component) :: w.ticked ∧
        w'.turnLog =
          if w.isLive id then w.turnLog.enter (.updated id component) else w.turnLog := by
  have hticked : w.ticked = d.frame.components := by
    rw [ticked, hd]
    rfl
  rw [hticked]
  unfold Director.takeTurn grant
  rw [hd]
  dsimp only
  rw [Frame.grantComponent_eq]
  by_cases hmem : (id, component) ∈ d.frame.components
  · rw [if_pos hmem]
    exact Or.inl ⟨hmem, by rw [← hd]; rfl⟩
  · rw [if_neg hmem]
    refine Or.inr ⟨hmem, _, rfl, ?_⟩
    have hlive (frame : Frame) :
        isLive { w with director := some { d with frame } } id = w.isLive id := rfl
    dsimp only
    rw [hlive, Bool.true_and]
    cases w.isLive id with
    | true => exact ⟨rfl, rfl, rfl, rfl⟩
    | false => exact ⟨rfl, rfl, rfl, rfl⟩

/-- A turn that is granted is taken down if the entity is live, and not otherwise. The store stays. -/
theorem takeTurn_log (w : World) (id : EntityId) (component : String) :
    (Director.takeTurn w id component).2.store = w.store ∧
      (Director.takeTurn w id component).2.turnLog =
        if (Director.takeTurn w id component).1 && w.isLive id then
          w.turnLog.enter (.updated id component)
        else w.turnLog := by
  unfold Director.takeTurn grant
  cases w.director with
  | none => exact ⟨rfl, rfl⟩
  | some d =>
    dsimp only
    split
    · next hgranted => exact ⟨rfl, (if_pos hgranted).symm⟩
    · next hrefused => exact ⟨rfl, (if_neg hrefused).symm⟩

/-- Where there is no director nobody has a turn. -/
theorem takeTurn_of_none (hd : w.director = none) (id : EntityId) (component : String) :
    Director.takeTurn w id component = (false, w) := by
  unfold Director.takeTurn grant
  rw [hd]
  rfl

theorem InTurn.same (h : w.InTurn) (hsame : w.SameTurns w') : w'.InTurn where
  kept := by
    rw [hsame.log, ticked_of_ticked? hsame.ticked]
    exact h.kept
  once := by
    rw [hsame.log]
    exact h.once

theorem InTurn.take (h : w.InTurn) (id : EntityId) (component : String) :
    (Director.takeTurn w id component).2.InTurn := by
  cases hd : w.director with
  | none =>
    rw [takeTurn_of_none hd]
    exact h
  | some d =>
    rcases takeTurn_cases hd id component with ⟨-, hrefused⟩ | ⟨hfresh, w', htaken, -, -, hticked, hlog⟩
    · rw [hrefused]
      exact h
    · rw [htaken]
      cases hlive : w.isLive id with
      | false =>
        rw [hlive, if_neg Bool.false_ne_true] at hlog
        refine ⟨fun turn hturn => ?_, ?_⟩
        · rw [hticked]
          rw [hlog] at hturn
          exact List.mem_cons_of_mem _ (h.kept turn hturn)
        · rw [hlog]
          exact h.once
      | true =>
        rw [hlive, if_pos rfl] at hlog
        refine ⟨fun turn hturn => ?_, fun turns hturns => ?_⟩
        · rw [hticked]
          rw [hlog] at hturn
          rcases List.mem_cons.mp hturn with rfl | hturn
          · exact List.mem_cons_self
          · exact List.mem_cons_of_mem _ (h.kept turn hturn)
        · rw [hlog] at hturns
          rcases List.mem_cons.mp hturns with rfl | hturns
          · -- Whatever was taken in the present frame is kept, and this one was not.
            refine List.nodup_cons.mpr ⟨fun hmem => hfresh (h.kept _ hmem), ?_⟩
            exact h.once _ List.mem_cons_self
          · exact h.once _ (List.mem_cons_of_mem _ hturns)

theorem InTurn.calls (h : w.InTurn) (hcalls : Relation.ReflTransGen TurnCall w w') : w'.InTurn := by
  induction hcalls with
  | refl => exact h
  | tail _ hcall ih =>
    cases hcall with
    | take id component => exact ih.take id component
    | other hsame => exact ih.same hsame

/-- A new frame begins without turns. -/
theorem InTurn.opened (h : w.InTurn) (hlog : w'.turnLog = w.turnLog.enter .frameBegan) :
    w'.InTurn where
  kept := by
    rw [hlog]
    exact fun turn hturn => absurd hturn List.not_mem_nil
  once := by
    rw [hlog]
    intro turns hturns
    rcases List.mem_cons.mp hturns with rfl | hturns
    · exact .nil
    · exact h.once turns hturns

/-- Nobody had a turn yet. -/
theorem inTurn_of_none (h : w.turnLog = {}) : w.InTurn where
  kept := by
    rw [h]
    exact fun turn hturn => absurd hturn List.not_mem_nil
  once := by
    rw [h]
    intro turns hturns
    rw [List.mem_singleton.mp hturns]
    exact .nil

end World

end SceneLogic
