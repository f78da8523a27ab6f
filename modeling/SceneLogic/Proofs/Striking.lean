import SceneLogic.Proofs.Fencing
import SceneLogic.Proofs.Loading
import SceneLogic.Proofs.Number.Comparing
import SceneLogic.Proofs.Steering
import SceneLogic.Proofs.Variables

/-!
# Whom an attack hits

An attack goes through its candidates and asks of each of them, as it is by then, whether it is in
reach. Nobody is moved by that and everybody comes up once, so the answer is the one that the scene
gave when the attack began, unless something answers to the announcements in between.

* `Combat.Struck` — who is to be hit
* `Combat.Wounded` — what a hit does to an entity
* `Combat.Hurts` — what an attack does to a world
* `attack_hits_whom_it_reaches` — all this is what an attack comes to where nobody listens
-/

namespace SceneLogic

/-- The entities of the store go by their names, and nothing is in the store or on the canvas
twice. -/
structure World.Keyed (w : World) : Prop where
  store : Dict.Unique w.store.entries
  names : ∀ id e, w.store.get? id = some e → e.id = id
  canvas : ∀ canvas, w.canvas = some canvas → Dict.Unique canvas.sprites

/-- The hit points of the entity and their greatest number are numbers, where it has them. -/
def Entity.CountsHp (e : Entity) : Prop :=
  ∀ x, e.lookup? "hp" = some x ∨ e.lookup? "maxHp" = some x →
    x.kind.isNumeric = true ∧ x.value.isNumber = true

namespace Combat

/-! ## Candidates -/

/-- The attack names no entity that is drawn or in the store. -/
def NamesNobody (w : World) (params : Params) : Prop :=
  ∀ name, params.text? "targetId" = some name → w.knows ⟨name⟩ = false

/-- The entity is a candidate of an attack: it is the one that the attack names, or it has the role
that the attack names instead, or there is neither and it is drawn, or in the store if there is
nothing to draw on. -/
inductive Candidate (w : World) (params : Params) : EntityId → Prop
  | named {name : String} (hname : params.text? "targetId" = some name)
      (hknown : w.knows ⟨name⟩ = true) : Candidate w params ⟨name⟩
  | ofRole {role : String} {id : EntityId} {e : Entity} (hname : NamesNobody w params)
      (hrole : params.text? "targetRole" = some role) (he : w.store.get? id = some e)
      (hhas : e.role = some role) : Candidate w params id
  | drawn {canvas : Canvas} {id : EntityId} (hname : NamesNobody w params)
      (hrole : params.text? "targetRole" = none) (hcanvas : w.canvas = some canvas)
      (hid : (canvas.get? id).isSome = true) : Candidate w params id
  | stored {id : EntityId} (hname : NamesNobody w params)
      (hrole : params.text? "targetRole" = none) (hcanvas : w.canvas = none)
      (hid : w.store.contains id = true) : Candidate w params id

/-- An attack whose attacker is at the origin hits the entity: it is a candidate and not the
attacker, it is not farther away than the range, and it is in the store and has not run out of hit
points. -/
structure Struck (w : World) (s : Situation) (params : Params) (origin : Point) (range : Float)
    (id : EntityId) : Prop where
  candidate : Candidate w params id
  other : id ≠ s.entity
  near : ∃ p, w.positionOf? id = some p ∧ ¬ p.distanceSq origin > range * range
  alive : ∃ e, w.store.get? id = some e ∧ ∀ hp, e.hp? = some hp → ¬ hp ≤ 0

variable {w : World} {params : Params}

theorem namesNobody_iff : NamesNobody w params ↔
    ((params.text? "targetId").map EntityId.mk).filter w.knows = none := by
  rw [Option.filter_eq_none_iff]
  simp [NamesNobody]

theorem mem_byRole (h : w.Keyed) (role : String) (id : EntityId) :
    id ∈ (w.store.byRole role).map (·.id) ↔
      ∃ e, w.store.get? id = some e ∧ e.role = some role := by
  simp only [Store.byRole, Store.toList, Dict.values, List.mem_map, List.mem_filter,
    decide_eq_true_eq, Prod.exists, exists_eq_right]
  constructor
  · rintro ⟨e, ⟨⟨k, hmem⟩, hrole⟩, rfl⟩
    have he : w.store.get? k = some e := Dict.get?_of_mem h.store hmem
    rw [h.names k e he]
    exact ⟨e, he, hrole⟩
  · rintro ⟨e, he, hrole⟩
    exact ⟨e, ⟨⟨id, Dict.mem_of_get? he⟩, hrole⟩, h.names id e he⟩

theorem NamesNobody.not_knows (h : NamesNobody w params) {name : String}
    (hname : params.text? "targetId" = some name) : ¬ w.knows ⟨name⟩ = true := by
  rw [h name hname]
  exact Bool.false_ne_true

/-! Who is a candidate, by what the attack names. -/

section Named

variable {id : EntityId}

theorem candidate_iff_named {name : String} (hname : params.text? "targetId" = some name)
    (hknown : w.knows ⟨name⟩ = true) : Candidate w params id ↔ id = ⟨name⟩ := by
  have hsomebody : ¬ NamesNobody w params := fun hnobody => hnobody.not_knows hname hknown
  constructor
  · rintro (⟨hname', -⟩ | ⟨hnobody, -⟩ | ⟨hnobody, -⟩ | ⟨hnobody, -⟩)
    · rw [hname] at hname'
      cases hname'
      rfl
    all_goals exact absurd hnobody hsomebody
  · rintro rfl
    exact .named hname hknown

variable (hnobody : NamesNobody w params)

include hnobody

theorem candidate_iff_ofRole {role : String} (hrole : params.text? "targetRole" = some role) :
    Candidate w params id ↔ ∃ e, w.store.get? id = some e ∧ e.role = some role := by
  constructor
  · rintro (⟨hname, hknown⟩ | ⟨-, hrole', he, hhas⟩ | ⟨-, hnone, -⟩ | ⟨-, hnone, -⟩)
    · exact absurd hknown (hnobody.not_knows hname)
    · rw [hrole] at hrole'
      cases hrole'
      exact ⟨_, he, hhas⟩
    all_goals simp [hrole] at hnone
  · rintro ⟨e, he, hhas⟩
    exact .ofRole hnobody hrole he hhas

variable (hrole : params.text? "targetRole" = none)

include hrole

theorem candidate_iff_drawn {canvas : Canvas} (hcanvas : w.canvas = some canvas) :
    Candidate w params id ↔ (canvas.get? id).isSome = true := by
  constructor
  · rintro (⟨hname, hknown⟩ | ⟨-, hsome, -⟩ | ⟨-, -, hcanvas', hid⟩ | ⟨-, -, hnone, -⟩)
    · exact absurd hknown (hnobody.not_knows hname)
    · simp [hrole] at hsome
    · rw [hcanvas] at hcanvas'
      cases hcanvas'
      exact hid
    · simp [hcanvas] at hnone
  · exact fun hid => .drawn hnobody hrole hcanvas hid

theorem candidate_iff_stored (hcanvas : w.canvas = none) :
    Candidate w params id ↔ w.store.contains id = true := by
  constructor
  · rintro (⟨hname, hknown⟩ | ⟨-, hsome, -⟩ | ⟨-, -, hsome, -⟩ | ⟨-, -, -, hid⟩)
    · exact absurd hknown (hnobody.not_knows hname)
    · simp [hrole] at hsome
    · simp [hcanvas] at hsome
    · exact hid
  · exact fun hid => .stored hnobody hrole hcanvas hid

end Named

/-- The candidates are as the parameters of the attack say. -/
theorem mem_candidates (h : w.Keyed) (id : EntityId) :
    id ∈ candidates w params ↔ Candidate w params id := by
  unfold candidates
  cases hnamed : ((params.text? "targetId").map EntityId.mk).filter w.knows with
  | some target =>
    obtain ⟨hmap, hknown⟩ := Option.filter_eq_some_iff.mp hnamed
    obtain ⟨name, hname, rfl⟩ := Option.map_eq_some_iff.mp hmap
    exact List.mem_singleton.trans (candidate_iff_named hname hknown).symm
  | none =>
    have hnobody := namesNobody_iff.mpr hnamed
    dsimp only
    cases hrole : params.text? "targetRole" with
    | some role => exact (mem_byRole h role id).trans (candidate_iff_ofRole hnobody hrole).symm
    | none =>
      dsimp only
      cases hcanvas : w.canvas with
      | some canvas =>
        rw [candidate_iff_drawn hnobody hrole hcanvas]
        exact Dict.contains_eq_true_iff.symm
      | none =>
        rw [candidate_iff_stored hnobody hrole hcanvas]
        exact Dict.contains_eq_true_iff.symm

theorem nodup_candidates (h : w.Keyed) (params : Params) : (candidates w params).Nodup := by
  unfold candidates
  split
  · exact List.nodup_singleton _
  · split
    · next role _ =>
      have hids : w.store.toList.map (·.id) = Dict.keys w.store.entries := by
        rw [Store.toList, Dict.values, List.map_map]
        refine List.map_congr_left fun entry hentry => ?_
        exact h.names entry.1 entry.2 (Dict.get?_of_mem h.store hentry)
      exact (hids ▸ h.store : (w.store.toList.map (·.id)).Nodup).sublist
        (List.filter_sublist.map _)
    · split
      · exact h.canvas _ ‹_›
      · exact h.store

/-! ## A hit -/

/-- What damage leaves of hit points. Nobody has less than none. -/
def hpAfter (hp damage : Float) : Float :=
  if hp - damage > 0 then hp - damage else 0

/-- What a hit does to an entity: its hit points become fewer. An entity without hit points has as
many as it may have at most, and if that is not said either, it may have the default number. -/
inductive Wounded (damage : Float) (e : Entity) : Entity → Prop
  | hurt {before after : List Variable} {x : Variable} {hp : Float}
      (hvars : e.vars = before ++ x :: after) (hbefore : ∀ y ∈ before, y.name ≠ "hp")
      (hname : x.name = "hp") (hvalue : x.value.float? = some hp) :
      Wounded damage e
        { e with vars := before ++ { x with value := .float (hpAfter hp damage) } :: after }
  | first {maxHp : Float} (hmissing : e.lookup? "hp" = none)
      (hmax : e.number? "maxHp" = some maxHp) :
      Wounded damage e
        { e with vars := e.vars ++ [⟨"hp", .float (hpAfter maxHp damage), .float⟩] }
  | unknown (hmissing : e.lookup? "hp" = none) (hmax : e.lookup? "maxHp" = none) :
      Wounded damage e
        { e with vars := e.vars ++
          [⟨"maxHp", .float defaultHp, .float⟩, ⟨"hp", .float (hpAfter defaultHp damage), .float⟩] }

/-- The event tells of the hit points that the entity has after a hit. -/
def TellsHp (damage : Float) (w : World) (id : EntityId) (event : Event) : Prop :=
  ∃ e hp, w.store.get? id = some e ∧ e.hp? = some hp ∧
    event = ⟨EventType.hpChanged, none,
      hpData id hp ((e.number? "maxHp").getD hp) "damage" damage, w.clock⟩

theorem TellsHp.carry {damage : Float} {v w : World} {id : EntityId} {event : Event}
    (h : TellsHp damage v id event) (hentity : w.store.get? id = v.store.get? id)
    (hclock : w.clock = v.clock) : TellsHp damage w id event := by
  rw [TellsHp, hentity, hclock]
  exact h

/-- The entities have been hit, and each hit was announced, in this order. Nothing else was done. -/
structure Hurts (damage : Float) (hits : List EntityId) (w w' : World) : Prop where
  ids : w'.store.ids = w.store.ids
  hit : ∀ id ∈ hits, ∃ e e', w.store.get? id = some e ∧ w'.store.get? id = some e' ∧
    Wounded damage e e'
  others : ∀ id ∉ hits, w'.store.get? id = w.store.get? id
  told : ∃ events : List Event, w'.journal = (events.map Happening.emitted).reverse ++ w.journal ∧
    List.Forall₂ (TellsHp damage w') hits events
  rest : w' = { w with store := w'.store, journal := w'.journal }

theorem Hurts.nil (damage : Float) (w : World) : Hurts damage [] w w where
  ids := rfl
  hit := fun _ h => nomatch h
  others := fun _ _ => rfl
  told := ⟨[], rfl, .nil⟩
  rest := rfl

/-- One who is not hit again is left as the hit left it. -/
theorem Hurts.cons {damage : Float} {id : EntityId} {hits : List EntityId} {u v w : World}
    (h : Hurts damage [id] u v) (h' : Hurts damage hits v w) (hid : id ∉ hits) :
    Hurts damage (id :: hits) u w where
  ids := h'.ids.trans h.ids
  hit := by
    intro id' hmem
    rcases List.mem_cons.mp hmem with rfl | hmem
    · obtain ⟨e, e', he, he', hwounded⟩ := h.hit id' (List.mem_singleton_self id')
      exact ⟨e, e', he, (h'.others id' hid).trans he', hwounded⟩
    · obtain ⟨e, e', he, he', hwounded⟩ := h'.hit id' hmem
      have hne : id' ∉ [id] := by
        rintro hid'
        rw [List.mem_singleton] at hid'
        exact hid (hid' ▸ hmem)
      exact ⟨e, e', (h.others id' hne).symm.trans he, he', hwounded⟩
  others := by
    intro id' hmem
    obtain ⟨hne, hmem⟩ := not_or.mp (mt List.mem_cons.mpr hmem)
    rw [h'.others id' hmem, h.others id' (mt List.mem_singleton.mp hne)]
  told := by
    obtain ⟨events, hjournal, htold⟩ := h.told
    obtain ⟨events', hjournal', htold'⟩ := h'.told
    cases htold with
    | @cons _ event _ _ htold hnil =>
      cases hnil
      have hclock : w.clock = v.clock := by rw [h'.rest]
      refine ⟨event :: events', ?_, .cons (htold.carry (h'.others id hid) hclock) htold'⟩
      simp [hjournal', hjournal]
  rest := by
    rw [h'.rest, h.rest]

/-! ## Carrying out a hit -/

/-- A number is assigned to a variable of a numeric kind as it is. -/
theorem assign_float {x : Variable} (h : x.kind.isNumeric = true) (n : Float) :
    x.assign (.float n) = { x with value := .float n } := by
  obtain ⟨name, value, kind⟩ := x
  cases kind with
  | int => rfl
  | float => rfl
  | _ => cases h

theorem number?_of_lookup? {e : Entity} {name : String} {x : Variable}
    (h : e.lookup? name = some x) : e.number? name = x.value.float? := by
  rw [Entity.number?, Entity.value?, h]
  rfl

theorem number?_eq_none {e : Entity} {name : String} (h : e.lookup? name = none) :
    e.number? name = none := by
  rw [Entity.number?, Entity.value?, h]
  rfl

theorem exists_float {v : Value} (h : v.isNumber = true) : ∃ n, v.float? = some n := by
  cases v with
  | int n => exact ⟨_, rfl⟩
  | float n => exact ⟨_, rfl⟩
  | _ => cases h

theorem number?_assign_of_ne (e : Entity) {name name' : String} (v : Value) (h : name' ≠ name) :
    (e.assign name v).number? name' = e.number? name' := by
  rw [Entity.number?, Entity.value?, e.lookup?_assign_of_ne v h]
  rfl

theorem number?_assign_float {e : Entity} {name : String}
    (h : ∀ x, e.lookup? name = some x → x.kind.isNumeric = true) (n : Float) :
    (e.assign name (.float n)).number? name = some n := by
  rw [number?_of_lookup? (e.lookup?_assign_self name _), Entity.assignedTo]
  cases hx : e.lookup? name with
  | none => rfl
  | some x =>
    dsimp only [Option.map_some, Option.getD_some]
    rw [assign_float (h x hx)]
    rfl

/-- Hit points that the entity has become fewer. -/
theorem wounded_of_hp {e : Entity} {x : Variable} {hp : Float} (hx : e.lookup? "hp" = some x)
    (hkind : x.kind.isNumeric = true) (hvalue : x.value.float? = some hp) (damage : Float) :
    Wounded damage e (e.assign "hp" (.float (hpAfter hp damage))) := by
  obtain ⟨hname, before, after, hvars, hbefore⟩ := Entity.exists_of_lookup?_eq_some hx
  have hassign : e.assign "hp" (.float (hpAfter hp damage)) =
      { e with vars := before ++ { x with value := .float (hpAfter hp damage) } :: after } := by
    rw [Entity.assign, hvars, Entity.assignIn_append hbefore, Entity.assignIn, if_pos hname,
      assign_float hkind]
  rw [hassign]
  exact .hurt hvars hbefore hname hvalue

/-- An entity with a greatest number of hit points gets what is left of these. -/
theorem wounded_of_maxHp {e : Entity} {maxHp : Float} (hmissing : e.lookup? "hp" = none)
    (hmax : e.number? "maxHp" = some maxHp) (damage : Float) :
    Wounded damage e (e.assign "hp" (.float (hpAfter maxHp damage))) := by
  have hassign : e.assign "hp" (.float (hpAfter maxHp damage)) =
      { e with vars := e.vars ++ [⟨"hp", .float (hpAfter maxHp damage), .float⟩] } := by
    rw [Entity.assign, Entity.assignIn_of_missing (Entity.ne_of_lookup?_eq_none hmissing)]
    rfl
  rw [hassign]
  exact .first hmissing hmax

/-- An entity without any hit points gets what is left of the default number. -/
theorem wounded_of_missing {e : Entity} (hmissing : e.lookup? "hp" = none)
    (hmax : e.lookup? "maxHp" = none) (damage : Float) :
    Wounded damage e (((e.assign "maxHp" (.float defaultHp)).assign "hp" (.float defaultHp)).assign
      "hp" (.float (hpAfter defaultHp damage))) := by
  have hvars := Entity.ne_of_lookup?_eq_none hmissing
  have hassign : ((e.assign "maxHp" (.float defaultHp)).assign "hp" (.float defaultHp)).assign
        "hp" (.float (hpAfter defaultHp damage)) =
      { e with vars := e.vars ++
        [⟨"maxHp", .float defaultHp, .float⟩,
          ⟨"hp", .float (hpAfter defaultHp damage), .float⟩] } := by
    simp only [Entity.assign, Entity.assignIn_of_missing (Entity.ne_of_lookup?_eq_none hmax),
      Entity.assignIn_append hvars]
    rfl
  rw [hassign]
  exact .unknown hmissing hmax

/-- The entity after a hit. -/
def hurt (damage : Float) (e : Entity) : Entity :=
  (withHp e).assign "hp" (.float (damagedHp e damage).1)

/-- What is told of a hit is what it leaves. -/
theorem wounded {e : Entity} (h : e.CountsHp) (damage : Float) :
    Wounded damage e (hurt damage e) ∧ (hurt damage e).hp? = some (damagedHp e damage).1 ∧
      ((hurt damage e).number? "maxHp").getD (damagedHp e damage).1 =
        (damagedHp e damage).2 := by
  unfold hurt
  have hhp := number?_assign_float fun x hx => (h x (.inl hx)).1
  cases hx : e.lookup? "hp" with
  | some x =>
    obtain ⟨hkind, hnumber⟩ := h x (.inl hx)
    obtain ⟨hp, hvalue⟩ := exists_float hnumber
    have hsome : e.number? "hp" = some hp := (number?_of_lookup? hx).trans hvalue
    have hwith : withHp e = e := by simp [withHp, hsome]
    have hdamaged : damagedHp e damage =
        (hpAfter hp damage, (e.number? "maxHp").getD (hpAfter hp damage)) := by
      simp [damagedHp, hsome, Number.maximum_zero, hpAfter]
    rw [hwith, hdamaged]
    refine ⟨wounded_of_hp hx hkind hvalue damage, hhp _, ?_⟩
    rw [number?_assign_of_ne e _ (by decide)]
  | none =>
    have hnone := number?_eq_none hx
    cases hx' : e.lookup? "maxHp" with
    | some x =>
      obtain ⟨-, hnumber⟩ := h x (.inr hx')
      obtain ⟨maxHp, hvalue⟩ := exists_float hnumber
      have hsome : e.number? "maxHp" = some maxHp := (number?_of_lookup? hx').trans hvalue
      have hwith : withHp e = e := by simp [withHp, hnone, hsome]
      have hdamaged : damagedHp e damage = (hpAfter maxHp damage, maxHp) := by
        simp [damagedHp, hnone, hsome, Number.maximum_zero, hpAfter]
      rw [hwith, hdamaged]
      refine ⟨wounded_of_maxHp hx hsome damage, hhp _, ?_⟩
      rw [number?_assign_of_ne e _ (by decide), hsome]
      rfl
    | none =>
      have hnone' := number?_eq_none hx'
      have hwith : withHp e =
          (e.assign "maxHp" (.float defaultHp)).assign "hp" (.float defaultHp) := by
        simp [withHp, hnone, hnone']
      have hdamaged : damagedHp e damage = (hpAfter defaultHp damage, defaultHp) := by
        simp [damagedHp, hnone, hnone', Number.maximum_zero, hpAfter]
      rw [hwith, hdamaged]
      refine ⟨wounded_of_missing hx hx' damage, number?_assign_float ?_ _, ?_⟩
      · intro y hy
        rw [Entity.lookup?_assign_self, Entity.assignedTo,
          Entity.lookup?_assign_of_ne _ _ (by decide), hx] at hy
        cases hy
        rfl
      · rw [number?_assign_of_ne _ _ (by decide), number?_assign_of_ne _ _ (by decide)]
        rw [number?_assign_float fun x hx => (h x (.inr hx)).1]
        rfl

variable {m : Machine} {id : EntityId}

/-- The world after a hit. -/
def woundedWorld (w : World) (id : EntityId) (e : Entity) (damage : Float) : World :=
  (w.modifyEntity id fun e' => (withHp e').assign "hp" (.float (damagedHp e damage).1)).record
    (.emitted ⟨EventType.hpChanged, none,
      hpData id (damagedHp e damage).1 (damagedHp e damage).2 "damage" damage, w.clock⟩)

theorem get?_woundedWorld (w : World) (id : EntityId) (e : Entity) (damage : Float)
    (id' : EntityId) : (woundedWorld w id e damage).store.get? id' =
      if id = id' then
        (w.store.get? id').map fun e' => (withHp e').assign "hp" (.float (damagedHp e damage).1)
      else w.store.get? id' :=
  World.store_get?_modifyEntity w id _ id'

/-- Where nobody listens, a hit is over when it is announced. -/
theorem wound_run_deaf (hdeaf : m.listeners = []) {e : Entity}
    (he : m.world.store.get? id = some e) (damage : Float) (depth : Nat) :
    (wound id damage).run (Service.atDepth (depth + 1)) m =
      some (true, { m with world := woundedWorld m.world id e damage }) := by
  rw [wound, Script.run, he]
  simp only [Script.run, Service.atDepth, Service.above, hdeaf, List.map_nil,
    Service.deliverTo, Machine.record, Option.bind_some]
  rfl

/-- Who is in the store and hit is hurt. -/
theorem wound_run (hdeaf : m.listeners = []) {e : Entity} (he : m.world.store.get? id = some e)
    (hcounts : e.CountsHp) (damage : Float) (depth : Nat) :
    ∃ w, (wound id damage).run (Service.atDepth (depth + 1)) m =
        some (true, { m with world := w }) ∧
      Hurts damage [id] m.world w := by
  obtain ⟨hwounded, hhp, hmax⟩ := wounded hcounts damage
  have hget := get?_woundedWorld m.world id e damage
  have hself : (woundedWorld m.world id e damage).store.get? id = some (hurt damage e) := by
    rw [hget, if_pos rfl, he]
    rfl
  refine ⟨_, wound_run_deaf hdeaf he damage depth, Dict.keys_modify m.world.store.entries id _,
    fun id' hid => ?_, fun id' hid => ?_, ⟨[_], rfl, .cons ⟨hurt damage e, _, hself, hhp, ?_⟩ .nil⟩,
    rfl⟩
  · obtain rfl := List.mem_singleton.mp hid
    exact ⟨e, hurt damage e, he, hself, hwounded⟩
  · rw [hget, if_neg fun h => hid (List.mem_singleton.mpr h.symm)]
  · rw [hmax]
    rfl

/-- Who is not in the store is not. -/
theorem wound_run_missing (he : m.world.store.get? id = none) (damage : Float)
    (service : Service) : (wound id damage).run service m = some (false, m) := by
  rw [wound, Script.run, he]
  rfl

/-! ## Going through the candidates -/

/-- The attack gets at the entity. -/
def reaches (w : World) (attacker : EntityId) (origin : Point) (range : Float) (id : EntityId) :
    Bool :=
  inReach w attacker origin range id && (w.store.get? id).isSome

variable {attacker : EntityId} {origin : Point} {range damage : Float}

/-- Hits on others do not change whether the attack gets at an entity. -/
theorem Hurts.reaches_eq {hits : List EntityId} {w w' : World} (h : Hurts damage hits w w')
    (hid : id ∉ hits) :
    reaches w' attacker origin range id = reaches w attacker origin range id := by
  have hget := h.others id hid
  have hposition : w'.positionOf? id = w.positionOf? id := by
    have hcanvas : w'.canvas = w.canvas := by rw [h.rest]
    rw [World.positionOf?, World.sprite?, hcanvas, hget, World.positionOf?, World.sprite?]
  rw [reaches, inReach, hposition, hget, reaches, inReach]

/-- The first candidate gets its turn before the others. -/
theorem strike_cons_run (id : EntityId) (rest : List EntityId) (hit : Bool) (service : Service)
    (m : Machine) : (strike attacker origin range damage (id :: rest) hit).run service m =
      if inReach m.world attacker origin range id = true then
        ((wound id damage).run service m).bind fun r =>
          (strike attacker origin range damage rest (hit || r.1)).run service r.2
      else (strike attacker origin range damage rest hit).run service m := by
  rw [strike, Script.run]
  split
  · exact Script.run_bind service _ _ m
  · rfl

/-- All candidates that the attack gets at in the beginning are hurt. -/
theorem strike_run (hdeaf : m.listeners = []) {ids : List EntityId} (hids : ids.Nodup)
    (hcounts : ∀ id ∈ ids, ∀ e, m.world.store.get? id = some e → e.CountsHp) (hit : Bool)
    (depth : Nat) :
    ∃ w, (strike attacker origin range damage ids hit).run (Service.atDepth (depth + 1)) m =
        some (hit || !(ids.filter (reaches m.world attacker origin range)).isEmpty,
          { m with world := w }) ∧
      Hurts damage (ids.filter (reaches m.world attacker origin range)) m.world w := by
  induction ids generalizing m hit with
  | nil =>
    refine ⟨m.world, ?_, .nil damage m.world⟩
    rw [List.filter_nil, List.isEmpty_nil, Bool.not_true, Bool.or_false]
    rfl
  | cons id rest ih =>
    obtain ⟨hnew, hrest⟩ := List.nodup_cons.mp hids
    have hcounts' := fun id' hid' => hcounts id' (List.mem_cons_of_mem id hid')
    rw [strike_cons_run]
    by_cases hreach : inReach m.world attacker origin range id = true
    · rw [if_pos hreach]
      cases he : m.world.store.get? id with
      | some e =>
        have hgets : reaches m.world attacker origin range id = true := by
          simp [reaches, hreach, he]
        obtain ⟨v, hrun, hhurts⟩ :=
          wound_run hdeaf he (hcounts id List.mem_cons_self e he) damage depth
        -- The hit leaves the others where and as they were, so they are reached as before.
        have hsame : ∀ id' ∈ rest, id' ∉ [id] := fun id' hid' hmem =>
          hnew (List.mem_singleton.mp hmem ▸ hid')
        have hfilter : rest.filter (reaches v attacker origin range) =
            rest.filter (reaches m.world attacker origin range) :=
          List.filter_congr fun id' hid' => hhurts.reaches_eq (hsame id' hid')
        have hcounts'' : ∀ id' ∈ rest, ∀ e, v.store.get? id' = some e → e.CountsHp :=
          fun id' hid' e' he' =>
            hcounts' id' hid' e' ((hhurts.others id' (hsame id' hid')).symm.trans he')
        obtain ⟨w, hrun', hhurts'⟩ :=
          ih (m := { m with world := v }) hdeaf hrest hcounts'' (hit || true)
        rw [hfilter] at hrun' hhurts'
        rw [List.filter_cons_of_pos hgets, hrun, Option.bind_some, hrun']
        refine ⟨w, ?_, hhurts.cons hhurts' fun hmem => hnew (List.mem_filter.mp hmem).1⟩
        simp
      | none =>
        have hmisses : ¬ reaches m.world attacker origin range id = true := by simp [reaches, he]
        rw [wound_run_missing he, Option.bind_some, Bool.or_false, List.filter_cons_of_neg hmisses]
        exact ih hdeaf hrest hcounts' hit
    · have hmisses : ¬ reaches m.world attacker origin range id = true := by
        simp [reaches, hreach]
      rw [if_neg hreach, List.filter_cons_of_neg hmisses]
      exact ih hdeaf hrest hcounts' hit

theorem inReach_iff (w : World) (attacker : EntityId) (origin : Point) (range : Float)
    (id : EntityId) : inReach w attacker origin range id = true ↔ id ≠ attacker ∧
      (∃ p, w.positionOf? id = some p ∧ ¬ p.distanceSq origin > range * range) ∧
      ∀ hp, (w.store.get? id).bind (·.hp?) = some hp → ¬ hp ≤ 0 := by
  rw [inReach, Bool.and_eq_true_iff, Bool.and_eq_true_iff, decide_eq_true_iff, and_assoc]
  refine and_congr_right fun _ => and_congr ?_ ?_
  · cases w.positionOf? id with
    | none => simp
    | some p => simp
  · cases (w.store.get? id).bind (·.hp?) with
    | none => simp
    | some hp => simp

/-- Those whom the attack gets at among its candidates are to be hit. -/
theorem mem_hits_iff (h : w.Keyed) (s : Situation) (params : Params) :
    id ∈ (candidates w params).filter (reaches w s.entity origin range) ↔
      Struck w s params origin range id := by
  rw [List.mem_filter, mem_candidates h, reaches, Bool.and_eq_true_iff, inReach_iff,
    Option.isSome_iff_exists]
  constructor
  · rintro ⟨hcandidate, ⟨hother, hnear, halive⟩, e, he⟩
    rw [he] at halive
    exact ⟨hcandidate, hother, hnear, e, he, halive⟩
  · rintro ⟨hcandidate, hother, hnear, e, he, halive⟩
    refine ⟨hcandidate, ⟨hother, hnear, ?_⟩, e, he⟩
    rw [he]
    exact halive

/-- An attacker that lives, has rested and is somewhere goes for the candidates, and rests again if
any of them was hit. -/
theorem attack_run_of_strike {weapon : Nat} {m : Machine} {s : Situation} {origin : Point}
    (halive : m.world.isAlive s.entity = true)
    (hrested : resting m.world weapon s.entity ((params.number? "cooldown").getD 0) = false)
    (horigin : m.world.positionOf? s.entity = some origin) {service : Service} {v : World}
    {hits : List EntityId}
    (hrun : (strike s.entity origin (m.world.numberFor s ["attackRange"] params "range" 100)
      (m.world.numberFor s ["attack", "damage"] params "damage" 10) (candidates m.world params)
      false).run service { m with world := m.world.raise (blow weapon s params m.world) } =
        some (false || !hits.isEmpty, { m with world := v })) :
    (attack weapon s params).run service m = some (.ok (), { m with
      world := if hits = [] then v else v.land (blow weapon s params m.world) }) := by
  have hgoes : ¬ (m.world.isAlive s.entity = false ∨
      resting m.world weapon s.entity (blow weapon s params m.world).cooldown = true) := by
    rintro (hdead | hrests)
    · cases halive.symm.trans hdead
    · cases hrested.symm.trans hrests
  rw [attack_run, if_neg hgoes, horigin]
  dsimp only
  rw [hrun, Bool.false_or, Option.map_some]
  cases hits with
  | nil => rfl
  | cons id rest => rfl

/-- The attacker has hit now, if it has hit anybody. -/
theorem lastHits_of_hits {u v : World} (hlast : v.lastHits = u.lastHits) (b : Blow)
    (hits : List EntityId) (key : Nat × EntityId) :
    Dict.get? (if hits = [] then v else v.land b).lastHits key =
      if key = (b.weapon, b.attacker) ∧ hits ≠ [] then some b.time
      else Dict.get? u.lastHits key := by
  by_cases hnone : hits = []
  · rw [if_pos hnone, if_neg fun h => h.2 hnone, hlast]
  · have hland : (v.land b).lastHits = Dict.insert v.lastHits (b.weapon, b.attacker) b.time := rfl
    rw [if_neg hnone, hland, hlast, Dict.get?_insert]
    simp only [hnone, ne_eq, not_false_eq_true, and_true, eq_comm (a := key)]

end Combat

/-- Where nobody listens, an attack of a living and rested attacker hits exactly those candidates
that are to be hit in the beginning, each of them once and in their order. They lose hit points and
this is announced, and the attacker rests from now on if there are any. Nothing else is done. Of
places that are given by numbers those are near enough that are at most as far as the range. -/
theorem attack_hits_whom_it_reaches (weapon : Nat) {m : Machine} {s : Situation} {params : Params}
    {origin : Point} (hkeyed : m.world.Keyed) (hdeaf : m.listeners = [])
    (hcounts : ∀ id e, m.world.store.get? id = some e → e.CountsHp)
    (halive : m.world.isAlive s.entity = true)
    (hrested : Combat.resting m.world weapon s.entity ((params.number? "cooldown").getD 0) = false)
    (horigin : m.world.positionOf? s.entity = some origin) (depth : Nat) :
    let range := m.world.numberFor s ["attackRange"] params "range" 100
    let damage := m.world.numberFor s ["attack", "damage"] params "damage" 10
    let blow := Combat.blow weapon s params m.world
    ∃ hits w w', (Combat.attack weapon s params).run (Service.atDepth (depth + 1)) m =
        some (.ok (), { m with world := w' }) ∧
      hits.Nodup ∧ hits.Sublist (Combat.candidates m.world params) ∧
      (∀ id, id ∈ hits ↔ Combat.Struck m.world s params origin range id) ∧
      Combat.Hurts damage hits (m.world.raise blow) w ∧
      w' = (if hits = [] then w else w.land blow) ∧
      (∀ key, Dict.get? w'.lastHits key = if key = (weapon, s.entity) ∧ hits ≠ [] then
        some m.world.clock else Dict.get? m.world.lastHits key) ∧
      (range.isNaN = false → origin.isFinite = true → ∀ id p, m.world.positionOf? id = some p →
        p.isFinite = true →
        (¬ p.distanceSq origin > range * range ↔ p.distanceSq origin ≤ range * range)) := by
  intro range damage blow
  let hits := (Combat.candidates m.world params).filter
    (Combat.reaches m.world s.entity origin range)
  have hnodup := Combat.nodup_candidates hkeyed params
  obtain ⟨w, hrun, hhurts⟩ : ∃ w, (Combat.strike s.entity origin range damage
        (Combat.candidates m.world params) false).run (Service.atDepth (depth + 1))
          { m with world := m.world.raise blow } =
        some (false || !hits.isEmpty, { m with world := w }) ∧
      Combat.Hurts damage hits (m.world.raise blow) w :=
    Combat.strike_run (m := { m with world := m.world.raise blow }) hdeaf hnodup
      (fun id _ e he => hcounts id e he) false depth
  refine ⟨hits, w, _, Combat.attack_run_of_strike halive hrested horigin hrun, hnodup.filter _,
    List.filter_sublist, fun id => Combat.mem_hits_iff hkeyed s params, hhurts, rfl,
    Combat.lastHits_of_hits (by rw [hhurts.rest]; rfl) blow hits,
    fun hrange horigin id p _ hp => ?_⟩
  exact Number.not_lt_iff_le
    (Point.isNaN_distanceSq (Bool.and_eq_true_iff.mp hp) (Bool.and_eq_true_iff.mp horigin))
    (Number.isNaN_mul_self hrange)

namespace Melee

def hero : Entity where
  id := ⟨"hero"⟩

def slime : Entity where
  id := ⟨"slime"⟩
  x := 10

def bat : Entity where
  id := ⟨"bat"⟩
  x := 200

/-- The slime is near the hero and the bat is not. -/
def machine : Machine where
  world := { store := ⟨[(⟨"hero"⟩, hero), (⟨"slime"⟩, slime), (⟨"bat"⟩, bat)]⟩ }

def situation : Situation :=
  ⟨⟨"hero"⟩, [], none, none, none⟩

theorem entity_cases {id : EntityId} {e : Entity} (h : machine.world.store.get? id = some e) :
    e.id = id ∧ e.vars = [] ∧ e.position.isFinite = true := by
  have hmem := Dict.mem_of_get? h
  simp only [machine, List.mem_cons, List.not_mem_nil, or_false, Prod.mk.injEq] at hmem
  rcases hmem with ⟨rfl, rfl⟩ | ⟨rfl, rfl⟩ | ⟨rfl, rfl⟩ <;> exact ⟨rfl, rfl, rfl⟩

theorem machine_keyed : machine.world.Keyed where
  store := by simp [machine, Dict.Unique, Dict.keys]
  names := fun _ _ h => (entity_cases h).1
  canvas := fun _ h => nomatch h

theorem machine_countsHp : ∀ id e, machine.world.store.get? id = some e → e.CountsHp := by
  intro id e he x hx
  simp [Entity.lookup?, (entity_cases he).2.1] at hx

/-- Nobody is named, so all are candidates. -/
theorem candidate {id : EntityId} (h : machine.world.store.contains id = true) :
    Combat.Candidate machine.world [] id :=
  .stored (fun _ h => nomatch h) rfl rfl h

end Melee

/-- The hero hits the slime, which has the rest of the default hit points then, and misses the
bat. -/
theorem hero_hits_the_slime : ∃ w,
    (Combat.attack 0 Melee.situation []).run (Service.atDepth 1) Melee.machine =
      some (.ok (), { Melee.machine with world := w }) ∧
    (w.store.get? ⟨"slime"⟩).bind (·.hp?) = some 90 ∧
    w.store.get? ⟨"bat"⟩ = some Melee.bat ∧
    Dict.get? w.lastHits (0, ⟨"hero"⟩) = some 0 := by
  obtain ⟨hits, w, w', hrun, -, -, hhits, hhurts, hw', hlast, -⟩ :=
    @attack_hits_whom_it_reaches 0 Melee.machine Melee.situation [] _
      Melee.machine_keyed rfl Melee.machine_countsHp rfl rfl rfl 0
  have hslime : (⟨"slime"⟩ : EntityId) ∈ hits :=
    (hhits _).mpr ⟨Melee.candidate rfl, by decide, ⟨_, rfl, by decide⟩, Melee.slime, rfl,
      fun _ h => nomatch h⟩
  have hbat : (⟨"bat"⟩ : EntityId) ∉ hits := fun hmem => by
    obtain ⟨p, hp, hnear⟩ := ((hhits _).mp hmem).near
    cases hp
    exact hnear (by decide)
  have hsome : hits ≠ [] := List.ne_nil_of_mem hslime
  rw [if_neg hsome] at hw'
  subst hw'
  refine ⟨_, hrun, ?_, (hhurts.others _ hbat).trans rfl, (hlast _).trans (if_pos ⟨rfl, hsome⟩)⟩
  obtain ⟨e, e', he, he', hwounded⟩ := hhurts.hit _ hslime
  cases he
  have hget : (w.land (Combat.blow 0 Melee.situation [] Melee.machine.world)).store.get? ⟨"slime"⟩ =
      some e' := he'
  rw [hget]
  cases hwounded with
  | hurt hvars => simp [Melee.slime] at hvars
  | first _ hmax => cases hmax
  | unknown =>
    have hleft : Combat.hpAfter Combat.defaultHp 10 = 90 := by decide +kernel
    exact congrArg some hleft

namespace Melee

/-- The slime has been taken off the canvas. -/
def unseen : Machine :=
  { machine with
    world := { machine.world with canvas := some ⟨[(⟨"hero"⟩, { position := .origin })]⟩ } }

theorem unseen_keyed : unseen.world.Keyed where
  store := machine_keyed.store
  names := machine_keyed.names
  canvas := by
    rintro canvas h
    cases h
    exact List.nodup_singleton _

theorem unseen_finite : ∀ id p, unseen.world.positionOf? id = some p → p.isFinite = true := by
  intro id p hp
  by_cases hid : id = ⟨"hero"⟩
  · subst hid
    cases hp
    rfl
  · have hstore : unseen.world.positionOf? id = (machine.world.store.get? id).map (·.position) := by
      have hsprite : unseen.world.sprite? id = none := if_neg (Ne.symm hid)
      rw [World.positionOf?, hsprite]
      rfl
    obtain ⟨e, he, rfl⟩ := Option.map_eq_some_iff.mp (hstore.symm.trans hp)
    exact (entity_cases he).2.2

end Melee

/-- Not all that are in the store are candidates where nobody is named. -/
theorem not_always_hit : ¬ ∀ (weapon : Nat) (m m' : Machine) (s : Situation) (params : Params)
    (origin : Point) (depth : Nat) (id : EntityId) (e : Entity) (p : Point),
    m.world.Keyed → m.listeners = [] →
    (∀ id e, m.world.store.get? id = some e → e.CountsHp) →
    (∀ id p, m.world.positionOf? id = some p → p.isFinite = true) →
    m.world.isAlive s.entity = true →
    Combat.resting m.world weapon s.entity ((params.number? "cooldown").getD 0) = false →
    m.world.positionOf? s.entity = some origin →
    (Combat.attack weapon s params).run (Service.atDepth (depth + 1)) m = some (.ok (), m') →
    params.text? "targetId" = none → params.text? "targetRole" = none →
    m.world.store.get? id = some e → id ≠ s.entity → m.world.positionOf? id = some p →
    p.distanceSq origin ≤ m.world.numberFor s ["attackRange"] params "range" 100 *
      m.world.numberFor s ["attackRange"] params "range" 100 →
    (∀ hp, e.hp? = some hp → ¬ hp ≤ 0) →
    ∃ e', m'.world.store.get? id = some e' ∧
      Combat.Wounded (m.world.numberFor s ["attack", "damage"] params "damage" 10) e e' := by
  intro h
  obtain ⟨m', hrun, hstore⟩ : ∃ m', (Combat.attack 0 Melee.situation []).run (Service.atDepth 1)
        Melee.unseen = some (.ok (), m') ∧
      m'.world.store.get? ⟨"slime"⟩ = some Melee.slime :=
    ⟨_, rfl, rfl⟩
  obtain ⟨e', he', hwounded⟩ := h 0 _ _ _ _ _ 0 ⟨"slime"⟩ Melee.slime _ Melee.unseen_keyed rfl
    Melee.machine_countsHp Melee.unseen_finite rfl rfl rfl hrun rfl rfl rfl (by decide) rfl
    (by decide) fun _ h => nomatch h
  have hsame : e' = Melee.slime := Option.some.inj (he'.symm.trans hstore)
  have hlength := congrArg (·.vars.length) hsame
  cases hwounded with
  | hurt hvars => simp [Melee.slime] at hvars
  | first => cases hlength
  | unknown => cases hlength

end SceneLogic
