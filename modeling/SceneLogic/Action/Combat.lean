import SceneLogic.Action.Basic

/-!
# Combat

Attacks, projectiles, damage and healing. Every change of hit points is announced, and so is a
death by direct damage.
-/

namespace SceneLogic.Combat

/-- The hit points of an entity that has none of its own. -/
def defaultHp : Float := 100

/-- The data of an announced change of hit points. -/
def hpData (id : EntityId) (hp maxHp : Float) (cause : String) (amount : Float) : Params :=
  [("entityId", .text id.name), ("hp", .float hp), ("maxHp", .float maxHp),
    (cause, .float amount)]

/-! ## Damage to others -/

/-- Gives an entity without any hit points the default ones. -/
def withHp (e : Entity) : Entity :=
  match e.number? "hp", e.number? "maxHp" with
  | none, none => (e.assign "maxHp" (.float defaultHp)).assign "hp" (.float defaultHp)
  | _, _ => e

/-- The hit points and the greatest hit points after damage. -/
def damagedHp (e : Entity) (damage : Float) : Float × Float :=
  let given : Option Float × Option Float :=
    match e.number? "hp", e.number? "maxHp" with
    | none, none => (some defaultHp, some defaultHp)
    | hp, maxHp => (hp, maxHp)
  let next := Number.maximum ((given.1 <|> given.2).getD defaultHp - damage) 0
  (next, given.2.getD next)

/-- Damages an entity, and learns whether it was there to be damaged. -/
def wound (target : EntityId) (damage : Float) : Script Bool :=
  .read fun w =>
    match w.store.get? target with
    | none => .done false
    | some e =>
      let (hp, maxHp) := damagedHp e damage
      .write (w.modifyEntity target fun e => (withHp e).assign "hp" (.float hp))
        (.emit EventType.hpChanged (hpData target hp maxHp "damage" damage) none (.done true))

/-! ## Attacks -/

/-- The entities that an attack may hit: the named one, if it is known, or else those of a role,
or else all. -/
def candidates (w : World) (params : Params) : List EntityId :=
  match ((params.text? "targetId").map EntityId.mk).filter w.knows with
  | some id => [id]
  | none =>
    match params.text? "targetRole" with
    | some role => (w.store.byRole role).map (·.id)
    | none =>
      match w.canvas with
      | some canvas => canvas.ids
      | none => w.store.ids

/-- The attacker hit less than a cooldown ago. -/
def resting (w : World) (weapon : Nat) (attacker : EntityId) (cooldown : Float) : Bool :=
  cooldown > 0 &&
    match Dict.get? w.lastHits (weapon, attacker) with
    | some last => w.clock - last < cooldown
    | none => false

/-- The entity can be hit: it is another one, within range, and not dead. -/
def inReach (w : World) (attacker : EntityId) (origin : Point) (range : Float) (id : EntityId) :
    Bool :=
  id ≠ attacker &&
    (match w.positionOf? id with
      | some p => !(p.distanceSq origin > range * range)
      | none => false) &&
    (match (w.store.get? id).bind (·.hp?) with
      | some hp => !(hp ≤ 0)
      | none => true)

/-- Damages all candidates in reach, one after the other, and learns whether any was hit. -/
def strike (attacker : EntityId) (origin : Point) (range damage : Float) :
    List EntityId → Bool → Script Bool
  | [], hit => .done hit
  | id :: rest, hit =>
    .read fun w =>
      if inReach w attacker origin range id then
        (wound id damage).bind fun h => strike attacker origin range damage rest (hit || h)
      else strike attacker origin range damage rest hit

/-- An attack. Attacks of different weapon numbers cool down apart from each other. -/
def attack (weapon : Nat) : Action := fun s params =>
  .read fun w =>
    let blow : Blow := ⟨weapon, s.entity, (params.number? "cooldown").getD 0, w.clock⟩
    if !w.isAlive s.entity then .succeed
    else if resting w weapon s.entity blow.cooldown then .succeed
    else
      match w.positionOf? s.entity with
      | none => .fail (.unknownEntity s.entity.name)
      | some origin =>
        let range := w.numberFor s ["attackRange"] params "range" 100
        let damage := w.numberFor s ["attack", "damage"] params "damage" 10
        .write (w.raise blow)
          ((strike s.entity origin range damage (candidates w params) false).bind fun hit =>
            if hit then .read fun w => .finish (w.land blow) else .succeed)

/-- The point that a projectile is aimed at. -/
def aim? (w : World) (params : Params) : Option Point :=
  ((params.text? "targetId").bind fun name => w.positionOf? ⟨name⟩) <|>
    match params.number? "targetX", params.number? "targetY" with
    | some x, some y => some ⟨x, y⟩
    | _, _ => none

/-- Announces a projectile that flies from the entity to its target. -/
def fireProjectile : Action := fun s params =>
  .read fun w =>
    match w.positionOf? s.entity with
    | none => .fail (.unknownEntity s.entity.name)
    | some origin =>
      match aim? w params with
      | none => .fail (.missingParameter "targetId or targetX/targetY")
      | some target =>
        let delta := target - origin
        let distance := delta.length
        if distance == 0 then
          .fail (.invalidParameter "target" "target is at the owner's position")
        else
          let speed := w.numberFor s ["projectileSpeed"] params "speed" 300
          let damage := w.numberFor s ["attack", "damage"] params "damage" 10
          let velocity := delta.scaleBy (speed / distance)
          .emit EventType.spawnProjectile
            [("ownerId", .text s.entity.name), ("x", .float origin.x), ("y", .float origin.y),
              ("velX", .float velocity.x), ("velY", .float velocity.y),
              ("damage", .float damage)]
            none .succeed

/-! ## Damage to oneself -/

/-- The hit points and the greatest hit points that an entity has; missing ones count as zero,
and a missing greatest value as the present one. -/
def ownHp (e : Entity) : Float × Float :=
  let hp := (e.number? "hp").getD 0
  (hp, (e.number? "maxHp").getD hp)

/-- Takes hit points from the acting entity. -/
def takeDamage : Action := fun s params =>
  .read fun w =>
    match w.store.get? s.entity with
    | none => .fail (.unknownEntity s.entity.name)
    | some e =>
      let amount := (params.number? "amount").getD 1
      let (hp, maxHp) := ownHp e
      let next := Number.maximum (hp - amount) 0
      .write (w.modifyEntity s.entity (·.assign "hp" (.float next)))
        (.emit EventType.hpChanged (hpData s.entity next maxHp "damage" amount) none
          (if next ≤ 0 then
            .emit EventType.entityDied [("entityId", .text s.entity.name)] none .succeed
          else .succeed))

/-- Gives hit points to the acting entity. -/
def heal : Action := fun s params =>
  .read fun w =>
    match w.store.get? s.entity with
    | none => .fail (.unknownEntity s.entity.name)
    | some e =>
      let amount := (params.number? "amount").getD 10
      let (hp, maxHp) := ownHp e
      let next := Number.minimum (hp + amount) maxHp
      .write (w.modifyEntity s.entity (·.assign "hp" (.float next)))
        (.emit EventType.hpChanged (hpData s.entity next maxHp "healed" amount) none .succeed)

/-- The actions of this module with their names. -/
def actions : List (String × Action) :=
  [("Attack", attack 0), ("FireProjectile", fireProjectile), ("TakeDamage", takeDamage),
    ("Heal", heal)]

end SceneLogic.Combat
