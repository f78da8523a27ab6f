import Mathlib.Logic.Relation
import SceneLogic.Action.Combat
import SceneLogic.Proofs.Conduct

/-!
# Blows and how attackers cool down

The world keeps for each attack and each attacker when the last blow was raised that has landed. A
blow is taken down when it is raised and, if it hits, when it has landed. In between the targets are
damaged, and whatever answers to that may raise other blows of the same attacker.

* `World.Fenced` — the table of last hits is what the journal tells, and each blow was raised when
  the last one that had landed was over for the cooldown
* `World.BlowCall` — what may become of the table: blows are raised by attackers that do not rest,
  and land
* `Conduct.fencing_keeps` — all of this keeps the world fenced
-/

namespace SceneLogic

/-! ## Reading the journal -/

/-- The entry as something that became of a blow. -/
def Happening.blow? : Happening → Option BlowEvent
  | .ofBlow event => some event
  | _ => none

/-- What became of blows, the latest first. -/
def World.blowLog (w : World) : List BlowEvent :=
  w.journal.filterMap Happening.blow?

/-- The blow, if it landed. -/
def BlowEvent.landed? : BlowEvent → Option Blow
  | .raised _ => none
  | .landed b => some b

/-- The last blow of an attack and an attacker that landed. -/
def lastLanded (weapon : Nat) (attacker : EntityId) (log : List BlowEvent) : Option Blow :=
  (log.filterMap BlowEvent.landed?).find? fun b => (b.weapon, b.attacker) = (weapon, attacker)

/-- Each blow was raised when the last one that had landed was over for the cooldown. -/
def Rested : List BlowEvent → Prop
  | [] => True
  | .raised b :: earlier =>
    (b.cooldown > 0 → ∀ b₀, lastLanded b.weapon b.attacker earlier = some b₀ →
      ¬ b.time - b₀.time < b.cooldown) ∧ Rested earlier
  | .landed _ :: earlier => Rested earlier

theorem lastLanded_landed (weapon : Nat) (attacker : EntityId) (b : Blow) (log : List BlowEvent) :
    lastLanded weapon attacker (.landed b :: log) =
      if (b.weapon, b.attacker) = (weapon, attacker) then some b
      else lastLanded weapon attacker log := by
  simp only [lastLanded, List.filterMap_cons, BlowEvent.landed?, List.find?_cons]
  by_cases h : (b.weapon, b.attacker) = (weapon, attacker)
  · simp only [h, decide_true, if_true]
  · simp only [h, decide_false, if_false]

theorem Rested.at_raised {log later earlier : List BlowEvent} {b : Blow} (h : Rested log)
    (heq : log = later ++ .raised b :: earlier) (hcooldown : b.cooldown > 0) {b₀ : Blow}
    (hlast : lastLanded b.weapon b.attacker earlier = some b₀) :
    ¬ b.time - b₀.time < b.cooldown := by
  subst heq
  induction later with
  | nil => exact h.1 hcooldown b₀ hlast
  | cons x rest ih =>
    cases x with
    | raised _ => exact ih h.2
    | landed _ => exact ih h

namespace World

variable {w w' : World}

/-- The table of last hits, and what the journal tells of blows, stay. -/
structure SameBlows (w w' : World) : Prop where
  hits : w'.lastHits = w.lastHits
  log : w'.blowLog = w.blowLog

/-- What may become of the table of last hits: a blow is raised by an attacker that does not rest,
a blow lands, or all stays as it is. -/
inductive BlowCall : World → World → Prop
  | raise (w : World) (b : Blow) : b.time = w.clock →
      Combat.resting w b.weapon b.attacker b.cooldown = false → BlowCall w (w.raise b)
  | land (w : World) (b : Blow) : BlowCall w (w.land b)
  | other {w w' : World} : w.SameBlows w' → BlowCall w w'

/-- The table of last hits has, for each attack and each attacker, when the last blow was raised
that landed, and this was respected. -/
structure Fenced (w : World) : Prop where
  hits : ∀ weapon attacker, Dict.get? w.lastHits (weapon, attacker) =
    (lastLanded weapon attacker w.blowLog).map (·.time)
  rested : Rested w.blowLog

/-- No blow has been raised yet, and nobody cools down. -/
structure NoBlowsYet (w : World) : Prop where
  hits : w.lastHits = []
  log : w.blowLog = []

theorem NoBlowsYet.fenced (h : w.NoBlowsYet) : w.Fenced where
  hits weapon attacker := by
    rw [h.hits, h.log]
    rfl
  rested := by
    rw [h.log]
    trivial

theorem Fenced.same (h : w.Fenced) (hsame : w.SameBlows w') : w'.Fenced where
  hits weapon attacker := by
    rw [hsame.hits, hsame.log]
    exact h.hits weapon attacker
  rested := hsame.log ▸ h.rested

/-- An attacker that does not rest may raise a blow. -/
theorem Fenced.raise (h : w.Fenced) {b : Blow} (htime : b.time = w.clock)
    (hrested : Combat.resting w b.weapon b.attacker b.cooldown = false) : (w.raise b).Fenced where
  hits weapon attacker := h.hits weapon attacker
  rested := by
    refine ⟨fun hcooldown b₀ hlast hsoon => ?_, h.rested⟩
    have hhit : Dict.get? w.lastHits (b.weapon, b.attacker) = some b₀.time := by
      rw [h.hits]
      exact congrArg (Option.map Blow.time) hlast
    rw [htime] at hsoon
    simp [Combat.resting, hhit, hcooldown, hsoon] at hrested

theorem Fenced.land (h : w.Fenced) (b : Blow) : (w.land b).Fenced where
  hits weapon attacker := by
    have hlog : (w.land b).blowLog = .landed b :: w.blowLog := rfl
    have hhits : (w.land b).lastHits = Dict.insert w.lastHits (b.weapon, b.attacker) b.time := rfl
    rw [hlog, hhits, lastLanded_landed, Dict.get?_insert]
    split
    · rfl
    · exact h.hits weapon attacker
  rested := h.rested

theorem Fenced.calls (h : w.Fenced) (hcalls : Relation.ReflTransGen BlowCall w w') :
    w'.Fenced := by
  induction hcalls with
  | refl => exact h
  | tail _ hcall ih =>
    cases hcall with
    | raise b htime hrested => exact ih.raise htime hrested
    | land b => exact ih.land b
    | other hsame => exact ih.same hsame

end World

end SceneLogic
