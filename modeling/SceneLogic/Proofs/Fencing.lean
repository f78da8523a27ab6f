import SceneLogic.Proofs.Standard
import SceneLogic.Proofs.Upholding

/-!
# How attacks cool down

An attack that has hit lets its attacker rest only when the call is over. The targets are damaged
one by one before that, each damage is announced, and what answers to it may have the same attacker
attack once more. Such a call within a call is judged by the blows that had landed before.

* `Combat.attack_run` — a call of an attack from its beginning to its end
* `blows_wait_for_the_last_landed` — whoever may raise a blow has rested since the last one that
  landed
* `not_always_rested` — but not since the one that is still under way
-/

namespace SceneLogic

namespace World

theorem sameBlows_of_journal {w w' : World} (hhits : w'.lastHits = w.lastHits)
    (hjournal : w'.journal = w.journal) : w.SameBlows w' :=
  ⟨hhits, by rw [blowLog, hjournal, blowLog]⟩

@[simp] theorem lastHits_grant (w : World) (f : Frame → Bool × Frame) :
    (w.grant f).2.lastHits = w.lastHits := by
  unfold grant
  split
  · rfl
  · rfl

theorem sameBlows_grant (w : World) (f : Frame → Bool × Frame) : w.SameBlows (w.grant f).2 :=
  sameBlows_of_journal (w.lastHits_grant f) (w.journal_grant f)

theorem sameBlows_openFrame (w : World) (now threshold : Float) :
    w.SameBlows (w.openFrame now threshold).2 := by
  have hgrant := w.sameBlows_grant (·.begin now threshold)
  unfold openFrame
  dsimp only
  split
  · exact ⟨hgrant.hits, hgrant.log⟩
  · exact hgrant

theorem sameBlows_judge (w : World) (r : Request) : w.SameBlows (w.judge r).2 :=
  have hgrant := w.sameBlows_grant (·.grantRequest r)
  ⟨hgrant.hits, hgrant.log⟩

/-- In a fenced world attackers rest from the last blow that landed. -/
theorem Fenced.resting_iff {w : World} (h : w.Fenced) (weapon : Nat) (attacker : EntityId)
    (cooldown : Float) : Combat.resting w weapon attacker cooldown = true ↔ cooldown > 0 ∧
      ∃ b, lastLanded weapon attacker w.blowLog = some b ∧ w.clock - b.time < cooldown := by
  unfold Combat.resting
  rw [h.hits, Bool.and_eq_true, decide_eq_true_iff]
  refine and_congr_right fun _ => ?_
  cases lastLanded weapon attacker w.blowLog with
  | none => simp
  | some b => simp

end World

/-- Behaviours that reach the table of last hits by blows only. -/
def Conduct.fencing : Conduct where
  step := Relation.ReflTransGen World.BlowCall

/-- The director, the default behaviours and updates reach it by blows only. -/
theorem Conduct.fencing_roomy : Conduct.fencing.Roomy where
  tame htame _ := htame.blows
  opens w now threshold := .single (.other (w.sameBlows_openFrame now threshold))
  requests := by
    refine part_directing (fun w r => ?_) trivial
    exact .single (.other (w.sameBlows_judge r))
  announces _ := trivial
  performs := trivial
  checks := trivial
  rely _ _ := trivial

/-- At every moment of every run the world is fenced. -/
theorem Machine.Visits.fenced {m : Machine} {w : World} (hm : m.Obeys .fencing)
    (hnew : m.world.NoBlowsYet) (h : m.Visits .fencing w) : w.Fenced :=
  h.holds (fun hcalls hv => hv.calls hcalls) (fun _ _ hv => hv.same ⟨rfl, rfl⟩) id
    (fun _ _ => trivial) hm hnew.fenced

namespace Combat

/-- The blow that a call of an attack raises. -/
def blow (weapon : Nat) (s : Situation) (params : Params) (w : World) : Blow :=
  ⟨weapon, s.entity, (params.number? "cooldown").getD 0, w.clock⟩

/-- The dead do not attack, and neither does who rests. Whoever attacks raises a blow, goes for the
targets, and rests from then on if any was hit. -/
theorem attack_run (weapon : Nat) (s : Situation) (params : Params) (service : Service)
    (m : Machine) :
    (attack weapon s params).run service m =
      if m.world.isAlive s.entity = false ∨
          resting m.world weapon s.entity (blow weapon s params m.world).cooldown = true then
        some (.ok (), m)
      else
        match m.world.positionOf? s.entity with
        | none => some (.error (.unknownEntity s.entity.name), m)
        | some origin =>
          ((strike s.entity origin (m.world.numberFor s ["attackRange"] params "range" 100)
            (m.world.numberFor s ["attack", "damage"] params "damage" 10)
            (candidates m.world params) false).run service
              { m with world := m.world.raise (blow weapon s params m.world) }).map
            fun (hit, m') => (.ok (),
              if hit then { m' with world := m'.world.land (blow weapon s params m.world) }
              else m') := by
  unfold attack
  rw [Script.run]
  dsimp only [blow]
  cases halive : m.world.isAlive s.entity with
  | false => rfl
  | true =>
    simp only [Bool.not_true, Bool.false_eq_true, if_false, Bool.true_eq_false, false_or]
    split
    · rfl
    · cases m.world.positionOf? s.entity with
      | none => rfl
      | some origin =>
        dsimp only
        rw [Script.run, Script.run_bind, Option.map_eq_bind]
        refine congrArg _ (funext ?_)
        rintro ⟨hit, m'⟩
        cases hit with
        | false => rfl
        | true => rfl

end Combat

/-! ## Runs -/

/-- At every moment of every run each blow with a positive cooldown was raised no sooner than that
after the last blow of the same attack and the same attacker that had landed. An attacker rests from
that one; whoever rests does nothing, and otherwise a blow is raised and lands when it is over, if
any target was hit. -/
theorem blows_wait_for_the_last_landed {m : Machine} {w : World} (hm : m.Obeys .fencing)
    (hnew : m.world.NoBlowsYet) (h : m.Visits .fencing w) :
    (∀ later b earlier, w.blowLog = later ++ .raised b :: earlier → b.cooldown > 0 →
      ∀ b₀, lastLanded b.weapon b.attacker earlier = some b₀ →
        ¬ b.time - b₀.time < b.cooldown) ∧
    (∀ weapon attacker cooldown, Combat.resting w weapon attacker cooldown = true ↔
      cooldown > 0 ∧ ∃ b, lastLanded weapon attacker w.blowLog = some b ∧
        w.clock - b.time < cooldown) ∧
    ∀ (weapon : Nat) (s : Situation) (params : Params) (service : Service) (n : Machine),
      (Combat.attack weapon s params).run service n =
        if n.world.isAlive s.entity = false ∨ Combat.resting n.world weapon s.entity
            (Combat.blow weapon s params n.world).cooldown = true then
          some (.ok (), n)
        else
          match n.world.positionOf? s.entity with
          | none => some (.error (.unknownEntity s.entity.name), n)
          | some origin =>
            ((Combat.strike s.entity origin
              (n.world.numberFor s ["attackRange"] params "range" 100)
              (n.world.numberFor s ["attack", "damage"] params "damage" 10)
              (Combat.candidates n.world params) false).run service
                { n with world := n.world.raise (Combat.blow weapon s params n.world) }).map
              fun (hit, n') => (.ok (),
                if hit then { n' with world := n'.world.land (Combat.blow weapon s params n.world) }
                else n') := by
  have hfenced := h.fenced hm hnew
  refine ⟨fun later b earlier heq hcooldown b₀ hlast => ?_, ?_, ?_⟩
  · exact hfenced.rested.at_raised heq hcooldown hlast
  · exact hfenced.resting_iff
  · exact Combat.attack_run

/-! ## A hero who follows up -/

namespace Duel

/-- The parameters of an attack on the slime. -/
def swing (damage : Float) : Params :=
  [("targetId", .text "slime"), ("damage", .float damage), ("cooldown", .float 500)]

/-- Whenever anybody is hurt, the hero attacks with less force. -/
def hero : Entity :=
  { id := ⟨"hero"⟩
    components :=
      [⟨"follows up", true, { event := "HP_CHANGED", actions := [⟨"Attack", swing 7⟩] }⟩] }

def machine : Machine :=
  let m : Machine :=
    { world :=
        { director := some {}
          store := (Store.empty.insert hero).insert { id := ⟨"slime"⟩ } }
      listeners := [(1, Director.listener)] }
  m.withDefaultActions.withDefaultConditions

theorem machine_standard : machine.Standard :=
  Machine.standard_withDefaults rfl rfl rfl

theorem machine_obeys : machine.Obeys .fencing :=
  machine_standard.obeys_roomy Conduct.fencing_roomy

theorem machine_new : machine.world.NoBlowsYet :=
  ⟨rfl, rfl⟩

/-- The hero attacks with full force. -/
def attack : Script Unit :=
  Script.act "Attack" ⟨⟨"hero"⟩, [], none, none, none⟩ (swing 10)

/-- Time goes by. -/
def wait : Script Unit :=
  Script.modifyWorld fun w => { w with clock := 600 }

/-- A blow of the hero. -/
def blow (time : Float) : Blow :=
  ⟨0, ⟨"hero"⟩, 500, time⟩

set_option maxRecDepth 1000 in
/-- The hero attacks twice, and follows up the first time. -/
theorem machine_visits : ∃ w, machine.Visits .fencing w ∧ w.blowLog =
    [.landed (blow 600), .raised (blow 600), .landed (blow 0), .landed (blow 0), .raised (blow 0),
      .raised (blow 0)] := by
  have hrun : ∃ m₁ m₂ m₃, attack.run (Service.atDepth 8) machine = some ((), m₁) ∧
      wait.run (Service.atDepth 8) m₁ = some ((), m₂) ∧
      attack.run (Service.atDepth 8) m₂ = some ((), m₃) ∧
      m₃.world.blowLog = [.landed (blow 600), .raised (blow 600), .landed (blow 0),
        .landed (blow 0), .raised (blow 0), .raised (blow 0)] :=
    ⟨_, _, _, rfl, rfl, rfl, rfl⟩
  obtain ⟨m₁, m₂, m₃, h₁, h₂, h₃, hlog⟩ := hrun
  have hattack : ∀ w, attack.Obeys .fencing w := fun _ => .perform trivial fun _ _ => .done
  have hwait : ∀ w, wait.Obeys .fencing w :=
    fun w => .read (.write (.single (.other ⟨rfl, rfl⟩)) .done)
  have hruns : machine.Runs .fencing m₃ :=
    .script (.script (.script .refl (hattack _) h₁) (hwait _) h₂) (hattack _) h₃
  exact ⟨_, hruns.visits, hlog⟩

end Duel

/-- The second attack of the hero comes when the first one is over for the cooldown. -/
theorem hero_rests_between_attacks : ∃ w, Duel.machine.Obeys .fencing ∧
    Duel.machine.world.NoBlowsYet ∧ Duel.machine.Visits .fencing w ∧
    lastLanded 0 ⟨"hero"⟩ w.blowLog = some (Duel.blow 600) ∧
    ¬ (600 : Float) - 0 < 500 := by
  obtain ⟨w, hvisits, hlog⟩ := Duel.machine_visits
  obtain ⟨hrested, -, -⟩ :=
    blows_wait_for_the_last_landed Duel.machine_obeys Duel.machine_new hvisits
  refine ⟨w, Duel.machine_obeys, Duel.machine_new, hvisits, by rw [hlog]; rfl, ?_⟩
  exact hrested [.landed (Duel.blow 600)] (Duel.blow 600) _ hlog (by decide) (Duel.blow 0) rfl

set_option maxRecDepth 1000 in
/-- An attacker may hit twice without having rested in between, though no time went by: the call
that follows up is judged before the one that it follows up has landed. -/
theorem not_always_rested : ¬ ∀ (depth : Nat) (m m' : Machine) (s : Situation) (params : Params),
    m.Standard → m.world.NoBlowsYet →
    (Script.act "Attack" s params).run (Service.atDepth depth) m = some ((), m') →
    ∀ later b₂ earlier b₁, m'.world.blowLog = later ++ .landed b₂ :: earlier →
      .landed b₁ ∈ earlier → b₁.weapon = b₂.weapon → b₁.attacker = b₂.attacker →
      b₁.cooldown = b₂.cooldown → b₂.cooldown > 0 → b₁.time ≤ b₂.time →
      ¬ b₂.time - b₁.time < b₂.cooldown := by
  intro hclaim
  have hrun : ∃ m, Duel.attack.run (Service.atDepth 8) Duel.machine = some ((), m) ∧
      m.world.blowLog = [.landed (Duel.blow 0), .landed (Duel.blow 0), .raised (Duel.blow 0),
        .raised (Duel.blow 0)] := ⟨_, rfl, rfl⟩
  obtain ⟨m, hrun, hlog⟩ := hrun
  refine hclaim 8 _ m _ _ Duel.machine_standard Duel.machine_new hrun [] (Duel.blow 0) _
    (Duel.blow 0) hlog List.mem_cons_self rfl rfl rfl (by decide) (by decide) ?_
  decide

end SceneLogic
