import SceneLogic.Module.Lookup
import SceneLogic.Proofs.Number.Monotone
import SceneLogic.Proofs.Striking

/-!
# Bounds for distances

A condition node may ask whether an entity is nearer or farther than a bound, and an attack passes
over those who are beyond its range. All three compare the square of the distance with the square
of the bound. So a larger bound is the wider one, unless the smaller one is negative and has the
larger square.

An attack asks this of its candidates one after the other, and whatever listens to the
announcement of a hit may move those who come later. So two attacks with different ranges can be
compared turn by turn, and as a whole where nobody listens.

* `Instance.Meets` — the condition nodes
* `Combat.turns` — the turns of an attack
* `bounds_keep_their_order` — larger bounds are wider
* `not_always_in_order` — negative bounds, and candidates that run away from the larger range
-/

namespace SceneLogic

/-! ## Conditions -/

/-- The condition node of an instance passes. -/
def Instance.Meets (i : Instance) (g : Graph) (node : NodeId) (left right : Option Operand)
    (e : Evidence) (test : Test) : Prop :=
  (i.evaluate g node left right test e).1 = true

namespace Instance

variable {i : Instance} {g : Graph} {node : NodeId} {left right : Option Operand} {e : Evidence}
  {target : String}

theorem meets_distanceLessThan {d : Float} :
    i.Meets g node left right e (.distanceLessThan target d) ↔
      ∃ q, e.lookup.distanceSq? target = some q ∧ q < d * d := by
  dsimp only [Meets, evaluate, Evidence.outcome?]
  cases e.lookup.distanceSq? target with
  | none => simp
  | some q => simp

theorem meets_distanceGreaterThan {d : Float} :
    i.Meets g node left right e (.distanceGreaterThan target d) ↔
      ∃ q, e.lookup.distanceSq? target = some q ∧ q > d * d := by
  dsimp only [Meets, evaluate, Evidence.outcome?]
  cases e.lookup.distanceSq? target with
  | none => simp
  | some q => simp

theorem meets_distanceLessThan_mono {d₁ d₂ : Float} (h : d₁ * d₁ ≤ d₂ * d₂)
    (hmeets : i.Meets g node left right e (.distanceLessThan target d₁)) :
    i.Meets g node left right e (.distanceLessThan target d₂) := by
  obtain ⟨q, hq, hlt⟩ := meets_distanceLessThan.mp hmeets
  exact meets_distanceLessThan.mpr ⟨q, hq, Number.lt_le_trans hlt h⟩

theorem meets_distanceGreaterThan_mono {d₁ d₂ : Float} (h : d₁ * d₁ ≤ d₂ * d₂)
    (hmeets : i.Meets g node left right e (.distanceGreaterThan target d₂)) :
    i.Meets g node left right e (.distanceGreaterThan target d₁) := by
  obtain ⟨q, hq, hlt⟩ := meets_distanceGreaterThan.mp hmeets
  exact meets_distanceGreaterThan.mpr ⟨q, hq, Number.le_lt_trans h hlt⟩

/-- Nothing is both nearer and farther than a bound. -/
theorem not_meets_both (d : Float) :
    ¬ (i.Meets g node left right e (.distanceLessThan target d) ∧
      i.Meets g node left right e (.distanceGreaterThan target d)) := by
  rw [meets_distanceLessThan, meets_distanceGreaterThan]
  rintro ⟨⟨q, hq, hless⟩, q', hq', hgreater⟩
  cases hq.symm.trans hq'
  exact Number.not_gt_of_lt hless hgreater

end Instance

/-! ## The turns of an attack -/

/-- The entity is in the same place in both worlds, and the same in the store. -/
def EntityId.AlikeIn (id : EntityId) (w w' : World) : Prop :=
  w'.positionOf? id = w.positionOf? id ∧ w'.store.get? id = w.store.get? id

namespace Combat

/-- A turn of an attack: whose it is, what the world is like then, and whether they are hit. -/
structure Turn where
  target : EntityId
  world : World
  hit : Bool

/-- The turns of candidates, and the machine after the last of them. -/
def turnsOf (service : Service) (attacker : EntityId) (origin : Point) (range damage : Float) :
    List EntityId → Machine → Option (List Turn × Machine)
  | [], m => some ([], m)
  | id :: rest, m =>
    (if inReach m.world attacker origin range id then
      ((wound id damage).run service m).map (·.2)
    else some m).bind fun m' =>
      (turnsOf service attacker origin range damage rest m').map fun (later, last) =>
        (⟨id, m.world, reaches m.world attacker origin range id⟩ :: later, last)

/-- The turns of an attack, none if it does not take place. -/
def turns (service : Service) (weapon : Nat) (s : Situation) (params : Params) (m : Machine) :
    Option (List Turn × Machine) :=
  if m.world.isAlive s.entity = false ∨
      resting m.world weapon s.entity (blow weapon s params m.world).cooldown = true then
    some ([], m)
  else
    match m.world.positionOf? s.entity with
    | none => some ([], m)
    | some origin =>
      turnsOf service s.entity origin (m.world.numberFor s ["attackRange"] params "range" 100)
        (m.world.numberFor s ["attack", "damage"] params "damage" 10) (candidates m.world params)
        { m with world := m.world.raise (blow weapon s params m.world) }

/-- The machine that an attack leaves after its turns: the attacker rests if it has hit anybody. -/
def settled (b : Blow) : List Turn × Machine → Machine
  | (all, m) => if all.any (·.hit) then { m with world := m.world.land b } else m

/-- The parameters, with another range. -/
def withRange (params : Params) (range : Float) : Params :=
  Dict.insert params "range" (.float range)

variable {service : Service} {attacker : EntityId} {origin : Point} {range damage : Float}
  {m m' : Machine} {id : EntityId}

theorem wound_run_hit {hit : Bool} (h : (wound id damage).run service m = some (hit, m')) :
    hit = (m.world.store.get? id).isSome := by
  rw [wound, Script.run] at h
  cases he : m.world.store.get? id with
  | none =>
    rw [he] at h
    cases h
    rfl
  | some e =>
    rw [he] at h
    obtain ⟨v, -, hdone⟩ := Option.bind_eq_some_iff.mp h
    cases hdone
    rfl

/-- An attack goes for its candidates in these turns. -/
theorem strike_run_turns (ids : List EntityId) (hit : Bool) (m : Machine) :
    (strike attacker origin range damage ids hit).run service m =
      (turnsOf service attacker origin range damage ids m).map fun (all, m') =>
        (hit || all.any (·.hit), m') := by
  induction ids generalizing hit m with
  | nil => simp [strike, turnsOf, Script.run]
  | cons id rest ih =>
    rw [strike_cons_run, turnsOf]
    by_cases hreach : inReach m.world attacker origin range id = true
    · rw [if_pos hreach, if_pos hreach]
      cases hrun : (wound id damage).run service m with
      | none => rfl
      | some r =>
        obtain ⟨h, m'⟩ := r
        have hgets : reaches m.world attacker origin range id = h := by
          rw [reaches, hreach, wound_run_hit hrun, Bool.true_and]
        simp only [Option.bind_some, Option.map_some, ih, Option.map_map, Function.comp_def,
          List.any_cons, hgets, Bool.or_assoc]
    · have hmisses : reaches m.world attacker origin range id = false := by
        rw [reaches, Bool.eq_false_of_not_eq_true hreach, Bool.false_and]
      rw [if_neg hreach, if_neg hreach]
      simp only [Option.bind_some, ih, Option.map_map, Function.comp_def, List.any_cons, hmisses,
        Bool.false_or]

/-- An attack comes to what its turns come to. -/
theorem attack_run_turns (weapon : Nat) (s : Situation) (params : Params) (m : Machine) :
    ((attack weapon s params).run service m).map (·.2) =
      (turns service weapon s params m).map (settled (blow weapon s params m.world)) := by
  rw [attack_run, turns]
  split
  · rfl
  · cases m.world.positionOf? s.entity with
    | none => rfl
    | some origin =>
      dsimp only
      rw [strike_run_turns]
      simp only [Option.map_map, Bool.false_or]
      rfl

/-! ## Turns with different ranges -/

variable {params : Params}

theorem hit_of_mem_turnsOf {ids : List EntityId} {all : List Turn}
    (h : turnsOf service attacker origin range damage ids m = some (all, m')) {t : Turn}
    (ht : t ∈ all) : t.hit = reaches t.world attacker origin range t.target := by
  induction ids generalizing m all with
  | nil =>
    cases h
    cases ht
  | cons id rest ih =>
    obtain ⟨m₁, -, h⟩ := Option.bind_eq_some_iff.mp h
    obtain ⟨⟨later, last⟩, hlater, heq⟩ := Option.map_eq_some_iff.mp h
    cases heq
    rcases List.mem_cons.mp ht with rfl | ht
    · rfl
    · exact ih hlater ht

/-- Who stands alike is reached with the wider range if with the narrower one. -/
theorem reaches_mono {range₁ range₂ : Float}
    (hwider : ∀ q, q > range₂ * range₂ → q > range₁ * range₁) {w w' : World}
    (halike : id.AlikeIn w w') (h : reaches w attacker origin range₁ id = true) :
    reaches w' attacker origin range₂ id = true := by
  rw [reaches, Bool.and_eq_true_iff, inReach_iff] at h ⊢
  rw [halike.1, halike.2]
  obtain ⟨⟨hother, ⟨p, hp, hnear⟩, halive⟩, hstored⟩ := h
  exact ⟨⟨hother, ⟨p, hp, fun hfar => hnear (hwider _ hfar)⟩, halive⟩, hstored⟩

theorem number?_withRange {key : String} (h : "range" ≠ key) (params : Params) (range : Float) :
    (withRange params range).number? key = params.number? key := by
  rw [Params.number?, withRange, Dict.get?_insert_of_ne _ _ h, Params.number?]

theorem text?_withRange {key : String} (h : "range" ≠ key) (params : Params) (range : Float) :
    (withRange params range).text? key = params.text? key := by
  rw [Params.text?, withRange, Dict.get?_insert_of_ne _ _ h, Params.text?]

theorem number?_range {range : Float} (h : range.isNaN = false) (params : Params) :
    (withRange params range).number? "range" = some range := by
  rw [Params.number?, withRange, Dict.get?_insert_self]
  exact if_neg (by rw [h]; exact Bool.false_ne_true)

/-- The range of an attack. -/
def rangeOf (w : World) (s : Situation) (params : Params) : Float :=
  w.numberFor s ["attackRange"] params "range" 100

/-- An attacker with a range of its own keeps that. Any other one takes what is given. -/
theorem rangeOf_wider {d₁ d₂ : Float} (hle : d₁ ≤ d₂) (hneg : -d₂ ≤ d₁) (w : World)
    (s : Situation) (params : Params) (q : Float)
    (h : q > rangeOf w s (withRange params d₂) * rangeOf w s (withRange params d₂)) :
    q > rangeOf w s (withRange params d₁) * rangeOf w s (withRange params d₁) := by
  obtain ⟨hd₁, hd₂⟩ := Number.isNaN_of_le hle
  unfold rangeOf World.numberFor at h ⊢
  cases hown : w.actorNumber? s ["attackRange"] with
  | some own =>
    rw [hown] at h
    exact h
  | none =>
    rw [hown, number?_range hd₂] at h
    rw [number?_range hd₁]
    exact Number.le_lt_trans (Number.square_le_square hle hneg) h

/-- What an attack does does not depend on its range, but for whom it gets at. -/
theorem turns_withRange (service : Service) (weapon : Nat) (s : Situation) (params : Params)
    (m : Machine) (d : Float) : turns service weapon s (withRange params d) m =
      if m.world.isAlive s.entity = false ∨
          resting m.world weapon s.entity (blow weapon s params m.world).cooldown = true then
        some ([], m)
      else
        match m.world.positionOf? s.entity with
        | none => some ([], m)
        | some origin =>
          turnsOf service s.entity origin (rangeOf m.world s (withRange params d))
            (m.world.numberFor s ["attack", "damage"] params "damage" 10)
            (candidates m.world params)
            { m with world := m.world.raise (blow weapon s params m.world) } := by
  have hblow : blow weapon s (withRange params d) m.world = blow weapon s params m.world := by
    rw [blow, number?_withRange (by decide), blow]
  have hdamage : m.world.numberFor s ["attack", "damage"] (withRange params d) "damage" 10 =
      m.world.numberFor s ["attack", "damage"] params "damage" 10 := by
    rw [World.numberFor, number?_withRange (by decide), World.numberFor]
  have hcandidates : candidates m.world (withRange params d) = candidates m.world params := by
    rw [candidates, text?_withRange (by decide), text?_withRange (by decide), candidates]
  rw [turns, hblow, hdamage, hcandidates, rangeOf]

/-- Two attacks that differ in their range hit the same who stand alike at their turns, but for
those whom only the wider range gets at. -/
theorem hit_with_wider_range {d₁ d₂ : Float} (hle : d₁ ≤ d₂) (hneg : -d₂ ≤ d₁) {weapon : Nat}
    {s : Situation} {all₁ all₂ : List Turn} {last₁ last₂ : Machine}
    (h₁ : turns service weapon s (withRange params d₁) m = some (all₁, last₁))
    (h₂ : turns service weapon s (withRange params d₂) m = some (all₂, last₂)) {t₁ t₂ : Turn}
    (ht₁ : t₁ ∈ all₁) (ht₂ : t₂ ∈ all₂) (hsame : t₂.target = t₁.target)
    (halike : t₁.target.AlikeIn t₁.world t₂.world) (hhit : t₁.hit = true) : t₂.hit = true := by
  rw [turns_withRange] at h₁ h₂
  split at h₁
  · cases h₁
    cases ht₁
  · next hgoes =>
    rw [if_neg hgoes] at h₂
    cases horigin : m.world.positionOf? s.entity with
    | none =>
      rw [horigin] at h₁
      cases h₁
      cases ht₁
    | some origin =>
      rw [horigin] at h₁ h₂
      rw [hit_of_mem_turnsOf h₁ ht₁] at hhit
      rw [hit_of_mem_turnsOf h₂ ht₂, hsame]
      exact reaches_mono (rangeOf_wider hle hneg m.world s params) halike hhit

/-! ## Where nobody listens -/

theorem alikeIn_woundedWorld (w : World) {id id' : EntityId} (e : Entity) (damage : Float)
    (h : id ≠ id') : id'.AlikeIn w (woundedWorld w id e damage) := by
  have hget : (woundedWorld w id e damage).store.get? id' = w.store.get? id' := by
    rw [get?_woundedWorld, if_neg h]
  refine ⟨?_, hget⟩
  have hsprite : (woundedWorld w id e damage).sprite? id' = w.sprite? id' := rfl
  rw [World.positionOf?, hsprite, hget, World.positionOf?]

theorem reaches_congr {w w' : World} (h : id.AlikeIn w w') :
    reaches w' attacker origin range id = reaches w attacker origin range id := by
  rw [reaches, inReach, h.1, h.2, reaches, inReach]

/-- Where nobody listens, a turn changes nothing but the entity that is hit. -/
theorem turn_deaf (attacker : EntityId) (origin : Point) (range damage : Float)
    (hdeaf : m.listeners = []) (id : EntityId) (depth : Nat) :
    ∃ v, (if inReach m.world attacker origin range id then
        ((wound id damage).run (Service.atDepth (depth + 1)) m).map (·.2)
      else some m) = some { m with world := v } ∧
      (reaches m.world attacker origin range id = false → v = m.world) ∧
      ∀ id', id ≠ id' → id'.AlikeIn m.world v := by
  split
  · next hreach =>
    cases he : m.world.store.get? id with
    | none =>
      exact ⟨m.world, by rw [wound_run_missing he]; rfl, fun _ => rfl, fun _ _ => ⟨rfl, rfl⟩⟩
    | some e =>
      refine ⟨woundedWorld m.world id e damage, by rw [wound_run_deaf hdeaf he]; rfl, fun h => ?_,
        fun id' hne => alikeIn_woundedWorld m.world e damage hne⟩
      simp [reaches, hreach, he] at h
  · exact ⟨m.world, rfl, fun _ => rfl, fun _ _ => ⟨rfl, rfl⟩⟩

/-- The entity is hit in one of the turns. -/
def HitIn (id : EntityId) (all : List Turn) : Prop :=
  ∃ t ∈ all, t.target = id ∧ t.hit = true

theorem hitIn_cons {t : Turn} {all : List Turn} :
    HitIn id (t :: all) ↔ t.target = id ∧ t.hit = true ∨ HitIn id all := by
  simp [HitIn]

/-- Where nobody listens, those are hit whom the attack gets at in the beginning. -/
theorem turnsOf_deaf (hdeaf : m.listeners = []) (ids : List EntityId) (depth : Nat) :
    ∃ all v, turnsOf (Service.atDepth (depth + 1)) attacker origin range damage ids m =
        some (all, { m with world := v }) ∧
      ∀ id, HitIn id all ↔ id ∈ ids ∧ reaches m.world attacker origin range id = true := by
  induction ids generalizing m with
  | nil => exact ⟨[], m.world, rfl, fun id => by simp [HitIn]⟩
  | cons id₀ rest ih =>
    obtain ⟨v, hturn, hmissed, halike⟩ := turn_deaf attacker origin range damage hdeaf id₀ depth
    obtain ⟨later, last, hlater, hhits⟩ := ih (m := { m with world := v }) hdeaf
    refine ⟨_, last, by rw [turnsOf, hturn, Option.bind_some, hlater]; rfl, fun id => ?_⟩
    rw [hitIn_cons, hhits, List.mem_cons]
    by_cases hid : id = id₀
    · subst hid
      cases hreaches : reaches m.world attacker origin range id with
      | true => simp
      | false => simp [hmissed hreaches, hreaches]
    · rw [reaches_congr (halike id (Ne.symm hid))]
      simp [hid, Ne.symm hid]

/-- Where nobody listens, whoever is hit with the narrower range is hit with the wider one. -/
theorem hitIn_wider_range {d₁ d₂ : Float} (hle : d₁ ≤ d₂) (hneg : -d₂ ≤ d₁)
    (hdeaf : m.listeners = []) (weapon : Nat) (s : Situation) (params : Params) (depth : Nat) :
    ∃ all₁ last₁ all₂ last₂,
      turns (Service.atDepth (depth + 1)) weapon s (withRange params d₁) m = some (all₁, last₁) ∧
      turns (Service.atDepth (depth + 1)) weapon s (withRange params d₂) m = some (all₂, last₂) ∧
      ∀ id, HitIn id all₁ → HitIn id all₂ := by
  rw [turns_withRange, turns_withRange]
  split
  · exact ⟨[], m, [], m, rfl, rfl, fun _ h => h⟩
  · cases m.world.positionOf? s.entity with
    | none => exact ⟨[], m, [], m, rfl, rfl, fun _ h => h⟩
    | some origin =>
      obtain ⟨all₁, v₁, h₁, hhits₁⟩ := turnsOf_deaf
        (m := { m with world := m.world.raise (blow weapon s params m.world) }) hdeaf
        (candidates m.world params) depth
      obtain ⟨all₂, v₂, h₂, hhits₂⟩ := turnsOf_deaf
        (m := { m with world := m.world.raise (blow weapon s params m.world) }) hdeaf
        (candidates m.world params) depth
      refine ⟨all₁, _, all₂, _, h₁, h₂, fun id => ?_⟩
      rw [hhits₁, hhits₂]
      exact And.imp_right (reaches_mono (rangeOf_wider hle hneg m.world s params) ⟨rfl, rfl⟩)

end Combat

/-- Of two bounds the larger one is the wider one, unless the smaller one is negative and farther
from zero. Whatever is nearer than the smaller one is nearer than the larger one, and whatever is
farther than the larger one is farther than the smaller one; nothing is both nearer and farther
than a bound. An attack with the larger range hits all whom one with the smaller range hits, if they
stand alike at their turns. So it hits them where nobody listens. -/
theorem bounds_keep_their_order {d₁ d₂ : Float} (hle : d₁ ≤ d₂) (hneg : -d₂ ≤ d₁) :
    (∀ (i : Instance) (g : Graph) (node : NodeId) (left right : Option Operand) (e : Evidence)
        (target : String),
      (i.Meets g node left right e (.distanceLessThan target d₁) →
        i.Meets g node left right e (.distanceLessThan target d₂)) ∧
      (i.Meets g node left right e (.distanceGreaterThan target d₂) →
        i.Meets g node left right e (.distanceGreaterThan target d₁)) ∧
      ∀ d, ¬ (i.Meets g node left right e (.distanceLessThan target d) ∧
        i.Meets g node left right e (.distanceGreaterThan target d))) ∧
    ∀ (weapon : Nat) (s : Situation) (params : Params) (m : Machine),
      (∀ service params', ((Combat.attack weapon s params').run service m).map (·.2) =
        (Combat.turns service weapon s params' m).map
          (Combat.settled (Combat.blow weapon s params' m.world))) ∧
      (∀ service all₁ last₁ all₂ last₂,
        Combat.turns service weapon s (Combat.withRange params d₁) m = some (all₁, last₁) →
        Combat.turns service weapon s (Combat.withRange params d₂) m = some (all₂, last₂) →
        ∀ t₁ ∈ all₁, ∀ t₂ ∈ all₂, t₂.target = t₁.target →
          t₁.target.AlikeIn t₁.world t₂.world → t₁.hit = true → t₂.hit = true) ∧
      (m.listeners = [] → ∀ depth, ∃ all₁ last₁ all₂ last₂,
        Combat.turns (Service.atDepth (depth + 1)) weapon s (Combat.withRange params d₁) m =
          some (all₁, last₁) ∧
        Combat.turns (Service.atDepth (depth + 1)) weapon s (Combat.withRange params d₂) m =
          some (all₂, last₂) ∧
        ∀ id, Combat.HitIn id all₁ → Combat.HitIn id all₂) := by
  have hsquares := Number.square_le_square hle hneg
  refine ⟨fun i g node left right e target => ⟨Instance.meets_distanceLessThan_mono hsquares,
    Instance.meets_distanceGreaterThan_mono hsquares, Instance.not_meets_both⟩,
    fun weapon s params m => ⟨fun service params' => ?_, ?_, fun hdeaf depth => ?_⟩⟩
  · exact Combat.attack_run_turns weapon s params' m
  · intro service all₁ last₁ all₂ last₂ h₁ h₂ t₁ ht₁ t₂ ht₂ hsame halike hhit
    exact Combat.hit_with_wider_range hle hneg h₁ h₂ ht₁ ht₂ hsame halike hhit
  · exact Combat.hitIn_wider_range hle hneg hdeaf weapon s params depth

namespace Melee

/-- What the hero looks up, who has the slime ten units away. -/
def evidence : Evidence where
  lookup := { entity := ⟨"hero"⟩, store := machine.world.store }

/-- An instance of no module in particular. -/
def observer : Instance where
  id := 0
  entity := ⟨"hero"⟩
  moduleId := "watch"
  graph := default
  cursor := ""
  vars := []

/-- Whose turns there were, and whether they were hit. -/
def course (all : List Combat.Turn) : List (EntityId × Bool) :=
  all.map fun t => (t.target, t.hit)

theorem hitIn_iff {id : EntityId} {all : List Combat.Turn} :
    Combat.HitIn id all ↔ (id, true) ∈ course all := by
  simp [Combat.HitIn, course]

/-- The course of an attack of the hero with a range. -/
def courseWith (range : Float) (m : Machine) : Option (List (EntityId × Bool)) :=
  (Combat.turns (Service.atDepth 2) 0 situation (Combat.withRange [] range) m).map fun r =>
    course r.1

theorem exists_turns (range : Float) (m : Machine) (all : List (EntityId × Bool))
    (h : courseWith range m = some all) : ∃ turns last,
      Combat.turns (Service.atDepth 2) 0 situation (Combat.withRange [] range) m =
        some (turns, last) ∧ course turns = all := by
  obtain ⟨⟨turns, last⟩, hturns, hcourse⟩ := Option.map_eq_some_iff.mp h
  exact ⟨turns, last, hturns, hcourse⟩

end Melee

/-- The slime is nearer than thirty units, as it is nearer than twenty, and it is hit with the range
thirty, as it is with the range twenty. -/
theorem slime_is_near :
    Melee.observer.Meets default "" none none Melee.evidence (.distanceLessThan "slime" 30) ∧
    ∃ turns last, Combat.turns (Service.atDepth 2) 0 Melee.situation (Combat.withRange [] 30)
      Melee.machine = some (turns, last) ∧ Combat.HitIn ⟨"slime"⟩ turns := by
  obtain ⟨hconditions, hattacks⟩ :=
    @bounds_keep_their_order 20 30 (by decide) (by decide)
  refine ⟨(hconditions _ _ _ _ _ _ _).1 (by unfold Instance.Meets; decide +kernel), ?_⟩
  obtain ⟨all₁, last₁, all₂, last₂, h₁, h₂, hhits⟩ :=
    (hattacks 0 Melee.situation [] Melee.machine).2.2 rfl 1
  obtain ⟨all, last, hall, hcourse⟩ := Melee.exists_turns 20 Melee.machine
    [(⟨"hero"⟩, false), (⟨"slime"⟩, true), (⟨"bat"⟩, false)] (by decide +kernel)
  cases hall.symm.trans h₁
  exact ⟨all₂, last₂, h₂, hhits _ (Melee.hitIn_iff.mpr (hcourse ▸ by decide))⟩

namespace Melee

/-- The bat is nearer than the slime, and flies away at whatever is announced. -/
def shy : Machine where
  world :=
    { store := ⟨[(⟨"hero"⟩, hero), (⟨"slime"⟩, { slime with x := 50 }),
        (⟨"bat"⟩, { bat with x := 5 })]⟩ }
  listeners := [(1, fun _ => .read fun w => .finish (w.place ⟨"bat"⟩ ⟨500, 0⟩))]

theorem evidence_finite {id : EntityId} {p : Point} (h : evidence.lookup.positionOf? id = some p) :
    p.isFinite = true := by
  obtain ⟨e, he, rfl⟩ := Option.map_eq_some_iff.mp h
  exact (entity_cases he).2.2

theorem shy_finite {id : EntityId} {p : Point} (h : shy.world.positionOf? id = some p) :
    p.isFinite = true := by
  obtain ⟨e, he, rfl⟩ := Option.map_eq_some_iff.mp h
  have hmem := Dict.mem_of_get? he
  simp only [shy, List.mem_cons, List.not_mem_nil, or_false, Prod.mk.injEq] at hmem
  rcases hmem with ⟨rfl, rfl⟩ | ⟨rfl, rfl⟩ | ⟨rfl, rfl⟩ <;> rfl

end Melee

/-- A larger bound is not the wider one if the smaller one is negative and farther from zero. And an
attack with a larger range may miss what one with a smaller range hits, if what comes first is
beyond that, and hitting it makes the other go away. -/
theorem not_always_in_order :
    (¬ ∀ (i : Instance) (g : Graph) (node : NodeId) (left right : Option Operand) (e : Evidence)
        (target : String) (d₁ d₂ : Float),
      (∀ id p, e.lookup.positionOf? id = some p → p.isFinite = true) →
      d₁.isFinite = true → d₂.isFinite = true → d₁ ≤ d₂ →
      i.Meets g node left right e (.distanceLessThan target d₁) →
      i.Meets g node left right e (.distanceLessThan target d₂)) ∧
    ¬ ∀ (weapon : Nat) (s : Situation) (params : Params) (m : Machine) (depth : Nat)
        (d₁ d₂ : Float) (all₁ all₂ : List Combat.Turn) (last₁ last₂ : Machine) (id : EntityId),
      (∀ id p, m.world.positionOf? id = some p → p.isFinite = true) →
      d₁.isFinite = true → d₂.isFinite = true → 0 ≤ d₁ → d₁ ≤ d₂ →
      Combat.turns (Service.atDepth depth) weapon s (Combat.withRange params d₁) m =
        some (all₁, last₁) →
      Combat.turns (Service.atDepth depth) weapon s (Combat.withRange params d₂) m =
        some (all₂, last₂) →
      Combat.HitIn id all₁ → Combat.HitIn id all₂ := by
  refine ⟨fun h => ?_, fun h => ?_⟩
  · have hnear := h Melee.observer default "" none none Melee.evidence "slime" (-20) 5
      (fun _ _ => Melee.evidence_finite) rfl rfl (by decide)
      (by unfold Instance.Meets; decide +kernel)
    revert hnear
    unfold Instance.Meets
    decide +kernel
  · obtain ⟨all₁, last₁, h₁, hcourse₁⟩ := Melee.exists_turns 10 Melee.shy
      [(⟨"hero"⟩, false), (⟨"slime"⟩, false), (⟨"bat"⟩, true)] (by decide +kernel)
    obtain ⟨all₂, last₂, h₂, hcourse₂⟩ := Melee.exists_turns 100 Melee.shy
      [(⟨"hero"⟩, false), (⟨"slime"⟩, true), (⟨"bat"⟩, false)] (by decide +kernel)
    have hhit := h 0 Melee.situation [] Melee.shy 2 10 100 all₁ all₂ last₁ last₂ ⟨"bat"⟩
      (fun _ _ => Melee.shy_finite) rfl rfl (by decide) (by decide) h₁ h₂
      (Melee.hitIn_iff.mpr (hcourse₁ ▸ by decide))
    rw [Melee.hitIn_iff, hcourse₂] at hhit
    revert hhit
    decide

end SceneLogic
