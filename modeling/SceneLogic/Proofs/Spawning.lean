import SceneLogic.Action.Control
import SceneLogic.Proofs.Pictures

/-!
# Whom the spawner may overwrite

The spawner numbers the entities that it creates, so no two of them have the same name, whatever
their templates are. It does not look whether an entity of the name is there already. One that is
was there before the spawner began, and it is overwritten.

* `Spawner.numbered_number` — the number can be read off the name
* `World.Creates` — what a sequence of calls of the spawner does
* `spawner_overwrites_nobody_it_created` — each spawn of such a sequence
* `not_always_unused` — an entity of the scene that has such a name
-/

namespace SceneLogic

/-! ## Names -/

namespace Spawner

/-- The name that a number gives to an entity. -/
def numbered (stem : String) (n : Nat) : EntityId :=
  ⟨stem ++ "-" ++ toString n⟩

theorem toList_numbered (stem : String) (n : Nat) :
    (numbered stem n).name.toList = stem.toList ++ '-' :: Nat.toDigits 10 n := by
  simp [numbered]

/-- What follows the last hyphen are the digits. -/
theorem takeWhile_numbered (stem : String) (n : Nat) :
    (numbered stem n).name.toList.reverse.takeWhile (· ≠ '-') = (Nat.toDigits 10 n).reverse := by
  have hdigits : ∀ c ∈ (Nat.toDigits 10 n).reverse, decide (c ≠ '-') = true := by
    intro c hc
    have hdigit := Nat.isDigit_of_mem_toDigits (by decide) (by decide) (List.mem_reverse.mp hc)
    rw [decide_eq_true_iff]
    rintro rfl
    exact absurd hdigit (by decide)
  rw [toList_numbered, List.reverse_append, List.reverse_cons, List.append_assoc,
    List.takeWhile_append_of_pos hdigits]
  simp

/-- Names with different numbers are different, whatever stands before the numbers. -/
theorem numbered_number {stem stem' : String} {n n' : Nat}
    (h : numbered stem n = numbered stem' n') : n = n' := by
  have hdigits : Nat.toDigits 10 n = Nat.toDigits 10 n' := by
    rw [← List.reverse_inj, ← takeWhile_numbered stem, h, takeWhile_numbered]
  have hread := congrArg (fun digits => Nat.ofDigitChars 10 digits 0) hdigits
  simpa using hread

theorem nextId_eq (core : Spawner) (order : SpawnOrder) :
    ∃ stem, core.nextId order = numbered stem core.next :=
  ⟨_, rfl⟩

end Spawner

/-! ## Calls -/

/-- What is done with entities by the spawner, or to them by the host. -/
inductive SpawnerCall where
  /-- The action `SpawnEntity` is performed. -/
  | spawn (s : Situation) (params : Params)
  /-- The action `Disable` is performed, which has the spawner remove the acting entity. -/
  | disable (s : Situation) (params : Params)
  /-- The spawner removes an entity. -/
  | despawn (id : EntityId)
  /-- The host takes an entity out of the store. -/
  | erase (id : EntityId)

/-- Carries out a call, whether it ends well or not. -/
def SpawnerCall.carryOut : SpawnerCall → Script Unit
  | .spawn s params => (Control.spawnEntity s params).bind fun _ => .done ()
  | .disable s params => (Control.disable s params).bind fun _ => .done ()
  | .despawn id => .read fun w =>
      match w.despawn id with
      | some (_, w) => .write w (.done ())
      | none => .done ()
  | .erase id => Script.modifyWorld fun w => { w with store := w.store.erase id }

/-- The spawner has created these entities, the latest first. Each of them has a number of its own
that was still to come, and what is in the store besides them has been there before. -/
structure World.Creates (created : List EntityId) (w w' : World) : Prop where
  core : ∃ core core', w.spawner = some core ∧ w'.spawner = some core' ∧ core.next ≤ core'.next ∧
    ∀ id ∈ created, ∃ stem n, id = Spawner.numbered stem n ∧ core.next ≤ n ∧ n < core'.next
  nodup : created.Nodup
  log : w'.spawned = created ++ w.spawned
  unique : Dict.Unique w.store.entries → Dict.Unique w'.store.entries
  kept : Dict.Unique w.store.entries → ∀ id ∉ created,
    w'.store.get? id = none ∨ w'.store.get? id = w.store.get? id

namespace World.Creates

variable {u v w : World} {created created' : List EntityId}

theorem refl {core : Spawner} (hcore : w.spawner = some core) : w.Creates [] w where
  core := ⟨core, core, hcore, hcore, Nat.le_refl _, fun _ h => nomatch h⟩
  nodup := .nil
  log := rfl
  unique := id
  kept := fun _ _ _ => .inr rfl

/-- Numbers that were given out do not come again. -/
theorem trans (h : Creates created u v) (h' : Creates created' v w) :
    Creates (created' ++ created) u w where
  core := by
    obtain ⟨core, core₁, hcore, hcore₁, hle, hnames⟩ := h.core
    obtain ⟨core₂, core', hcore₂, hcore', hle', hnames'⟩ := h'.core
    obtain rfl := Option.some.inj (hcore₁.symm.trans hcore₂)
    refine ⟨core, core', hcore, hcore', Nat.le_trans hle hle', fun id hid => ?_⟩
    rcases List.mem_append.mp hid with hid | hid
    · obtain ⟨stem, n, hname, hlow, hhigh⟩ := hnames' id hid
      exact ⟨stem, n, hname, Nat.le_trans hle hlow, hhigh⟩
    · obtain ⟨stem, n, hname, hlow, hhigh⟩ := hnames id hid
      exact ⟨stem, n, hname, hlow, Nat.lt_of_lt_of_le hhigh hle'⟩
  nodup := by
    obtain ⟨core, core₁, -, hcore₁, -, hnames⟩ := h.core
    obtain ⟨core₂, core', hcore₂, -, -, hnames'⟩ := h'.core
    obtain rfl := Option.some.inj (hcore₁.symm.trans hcore₂)
    refine List.nodup_append.mpr ⟨h'.nodup, h.nodup, fun id hid id' hid' heq => ?_⟩
    obtain ⟨stem, n, hname, hlow, -⟩ := hnames' id hid
    obtain ⟨stem', n', hname', -, hhigh⟩ := hnames id' hid'
    have hsame := Spawner.numbered_number (hname.symm.trans (heq.trans hname'))
    omega
  log := by
    rw [h'.log, h.log, List.append_assoc]
  unique := fun hunique => h'.unique (h.unique hunique)
  kept := by
    intro hunique id hid
    obtain ⟨hid', hid⟩ := not_or.mp (mt List.mem_append.mpr hid)
    rcases h'.kept (h.unique hunique) id hid' with hnone | hsame
    · exact .inl hnone
    · rw [hsame]
      exact h.kept hunique id hid

/-- A spawn creates an entity of the next number, and leaves the others alone. -/
theorem of_spawn {core : Spawner} (hcore : w.spawner = some core) (order : SpawnOrder) :
    ∃ w', w.spawn order = some (core.nextId order, w') ∧ w.Creates [core.nextId order] w' ∧
      w'.store.get? (core.nextId order) = some (order.entity (core.nextId order)) ∧
      ∀ id ≠ core.nextId order, w'.store.get? id = w.store.get? id := by
  have hkept : ∀ id ≠ core.nextId order,
      (w.store.insert (order.entity (core.nextId order))).get? id = w.store.get? id := by
    intro id hid
    refine Dict.get?_insert_of_ne _ _ ?_
    rw [SpawnOrder.entity_id]
    exact hid.symm
  have hfound : (w.store.insert (order.entity (core.nextId order))).get? (core.nextId order) =
      some (order.entity (core.nextId order)) := by
    unfold Store.insert Store.get?
    rw [SpawnOrder.entity_id]
    exact Dict.get?_insert_self _ _ _
  obtain ⟨stem, hname⟩ := core.nextId_eq order
  refine ⟨_, by rw [spawn, hcore]; rfl, ?_, hfound, hkept⟩
  exact
    { core := by
        refine ⟨core, _, hcore, rfl, Nat.le_succ _, fun id hid => ?_⟩
        exact ⟨stem, core.next, (List.mem_singleton.mp hid).trans hname, Nat.le_refl _,
          Nat.lt_succ_self _⟩
      nodup := by simp
      log := rfl
      unique := fun hunique => Dict.Unique.insert hunique _ _
      kept := fun _ id hid => .inr (hkept id (mt List.mem_singleton.mpr hid)) }

/-- A removal creates nobody. -/
theorem of_erase {w' : World} {core core' : Spawner} (hcore : w.spawner = some core)
    (hcore' : w'.spawner = some core') (hnext : core'.next = core.next) {id : EntityId}
    (hstore : w'.store = w.store.erase id) (hspawned : w'.spawned = w.spawned) :
    w.Creates [] w' where
  core := ⟨core, core', hcore, hcore', Nat.le_of_eq hnext.symm, fun _ h => nomatch h⟩
  nodup := .nil
  log := hspawned
  unique := by
    rw [hstore]
    exact fun hunique => Dict.Unique.erase hunique id
  kept := by
    intro hunique id' _
    rw [hstore]
    by_cases heq : id = id'
    · subst heq
      exact .inl (Dict.get?_erase_self hunique _)
    · exact .inr (Dict.get?_erase_of_ne _ heq)

theorem of_despawn {core : Spawner} (hcore : w.spawner = some core) (id : EntityId) :
    ∃ found w', w.despawn id = some (found, w') ∧ w.Creates [] w' := by
  refine ⟨_, _, by rw [despawn, hcore]; rfl, ?_⟩
  exact of_erase hcore rfl rfl rfl rfl

end World.Creates

namespace SpawnerCall

variable {service : Service} {m : Machine}

/-- Whatever the call is, it comes to an end. -/
theorem carryOut_run {core : Spawner} (hcore : m.world.spawner = some core) (call : SpawnerCall) :
    ∃ m' created, call.carryOut.run service m = some ((), m') ∧
      m.world.Creates created m'.world := by
  cases call with
  | spawn s params =>
    obtain ⟨w, hspawn, hcreates, -, -⟩ :=
      World.Creates.of_spawn hcore (Control.spawnOrder m.world s params)
    refine ⟨{ m with world := w }, _, ?_, hcreates⟩
    simp only [carryOut, Control.spawnEntity, Script.bind, Script.run, hspawn]
    rfl
  | disable s params =>
    obtain ⟨found, w, hdespawn, hcreates⟩ := World.Creates.of_despawn hcore s.entity
    refine ⟨{ m with world := w }, _, ?_, hcreates⟩
    simp only [carryOut, Control.disable, Script.bind, Script.run, hdespawn]
    rfl
  | despawn id =>
    obtain ⟨found, w, hdespawn, hcreates⟩ := World.Creates.of_despawn hcore id
    refine ⟨{ m with world := w }, _, ?_, hcreates⟩
    simp only [carryOut, Script.run, hdespawn]
  | erase id => exact ⟨_, _, rfl, .of_erase hcore hcore rfl rfl rfl⟩

/-- Whatever the calls are, they come to an end. -/
theorem forEach_run {core : Spawner} (hcore : m.world.spawner = some core)
    (calls : List SpawnerCall) :
    ∃ m' created, (Script.forEach calls carryOut).run service m = some ((), m') ∧
      m.world.Creates created m'.world := by
  induction calls generalizing m core with
  | nil => exact ⟨m, [], rfl, .refl hcore⟩
  | cons call rest ih =>
    obtain ⟨m₁, created, hrun, hcreates⟩ := carryOut_run hcore call
    obtain ⟨-, core₁, -, hcore₁, -⟩ := hcreates.core
    obtain ⟨m₂, created', hrest, hcreates'⟩ := ih hcore₁
    refine ⟨m₂, created' ++ created, ?_, hcreates.trans hcreates'⟩
    rw [Script.forEach, Script.run_bind, hrun]
    exact hrest

end SpawnerCall

/-! ## The law -/

/-- After any calls of the spawner, another spawn ends well. The entity has an id that differs from
all that were created in these calls, and no other entity of the store is changed. If the id is that
of an entity of the store, then this entity has been there since before the calls. So if no id of
the store has a number that is still to come, the id is a new one. -/
theorem spawner_overwrites_nobody_it_created (service : Service) {m : Machine} {core : Spawner}
    (hcore : m.world.spawner = some core) (hunique : Dict.Unique m.world.store.entries)
    (earlier : List SpawnerCall) (s : Situation) (params : Params) :
    ∃ (m₁ m₂ : Machine) (created : List EntityId) (id : EntityId),
      (Script.forEach earlier SpawnerCall.carryOut).run service m = some ((), m₁) ∧
      (Control.spawnEntity s params).run service m₁ = some (.ok (), m₂) ∧
      m₁.world.spawned = created ++ m.world.spawned ∧
      m₂.world.spawned = id :: m₁.world.spawned ∧
      (id :: created).Nodup ∧
      m₂.world.store.get? id = some ((Control.spawnOrder m₁.world s params).entity id) ∧
      (∀ id' ≠ id, m₂.world.store.get? id' = m₁.world.store.get? id') ∧
      (m₁.world.store.get? id = none ∨ m₁.world.store.get? id = m.world.store.get? id) ∧
      ((∀ stem n, core.next ≤ n → m.world.store.get? (Spawner.numbered stem n) = none) →
        m₁.world.store.get? id = none) := by
  obtain ⟨m₁, created, hrun, hcreates⟩ := SpawnerCall.forEach_run hcore earlier
  obtain ⟨core₀, core₁, hcore₀, hcore₁, hle, -⟩ := hcreates.core
  obtain rfl := Option.some.inj (hcore.symm.trans hcore₀)
  obtain ⟨w, hspawn, hcreates', hfound, hothers⟩ :=
    World.Creates.of_spawn hcore₁ (Control.spawnOrder m₁.world s params)
  obtain ⟨stem, hname⟩ := core₁.nextId_eq (Control.spawnOrder m₁.world s params)
  have hnodup := (hcreates.trans hcreates').nodup
  have hkept := hcreates.kept hunique _ (List.nodup_cons.mp hnodup).1
  refine ⟨m₁, { m₁ with world := w }, created, _, hrun, ?_, hcreates.log, hcreates'.log, hnodup,
    hfound, hothers, hkept, fun hfresh => ?_⟩
  · simp only [Control.spawnEntity, Script.run, hspawn]
    rfl
  · rcases hkept with hnone | hsame
    · exact hnone
    · rw [hsame, hname]
      exact hfresh stem _ hle

namespace Nest

def nest : Entity where
  id := ⟨"nest"⟩

/-- An egg that was laid by hand, and is called as the spawner would call its first. -/
def egg : Entity where
  id := ⟨"spawn-1"⟩
  vars := [.ofValue "gold" (.int 5)]

/-- A nest with a spawner, and what else is in the scene. -/
def machine (others : List Entity) : Machine where
  world :=
    { store := others.foldl Store.insert (Store.empty.insert nest)
      spawner := some { kind := .recording } }

theorem machine_unique (others : List Entity) :
    Dict.Unique (machine others).world.store.entries := by
  have hinsert : ∀ (store : Store), Dict.Unique store.entries →
      Dict.Unique (others.foldl Store.insert store).entries := by
    induction others with
    | nil => exact fun _ h => h
    | cons e rest ih => exact fun store h => ih _ (Dict.Unique.insert h _ _)
  exact hinsert _ (Dict.Unique.insert (d := []) List.nodup_nil _ _)

def situation : Situation :=
  ⟨⟨"nest"⟩, [], none, none, none⟩

end Nest

/-- The nest lays one egg, and then another one. -/
theorem nest_lays_two_eggs : ∃ m₁ m₂ : Machine,
    (Script.forEach [.spawn Nest.situation []] SpawnerCall.carryOut).run (Service.atDepth 1)
      (Nest.machine []) = some ((), m₁) ∧
    (Control.spawnEntity Nest.situation []).run (Service.atDepth 1) m₁ = some (.ok (), m₂) ∧
    m₂.world.spawned = [⟨"spawn-2"⟩, ⟨"spawn-1"⟩] ∧
    m₁.world.store.get? ⟨"spawn-2"⟩ = none ∧
    m₂.world.store.get? ⟨"spawn-1"⟩ = m₁.world.store.get? ⟨"spawn-1"⟩ := by
  obtain ⟨m₁, m₂, created, id, hrun, hspawn, hlog, hlog', -, -, hothers, -, hfresh⟩ :=
    spawner_overwrites_nobody_it_created (Service.atDepth 1) (m := Nest.machine []) rfl
      (Nest.machine_unique _) [.spawn Nest.situation []] Nest.situation []
  have hlaid : m₁.world.spawned = [⟨"spawn-1"⟩] := by
    obtain rfl := (Prod.mk.inj (Option.some.inj hrun)).2
    rfl
  have hid : id = ⟨"spawn-2"⟩ := by
    obtain rfl := (Prod.mk.inj (Option.some.inj hrun)).2
    obtain rfl := (Prod.mk.inj (Option.some.inj hspawn)).2
    exact (List.cons.inj hlog').1.symm
  subst hid
  refine ⟨m₁, m₂, hrun, hspawn, by rw [hlog', hlaid], ?_, hothers _ (by decide)⟩
  refine hfresh fun stem n _ => ?_
  have hne : Nest.nest.id ≠ Spawner.numbered stem n := fun heq => by
    have hhyphen := congrArg (fun id : EntityId => '-' ∈ id.name.toList) heq
    simp [Nest.nest, Spawner.toList_numbered] at hhyphen
  exact (Dict.get?_insert_of_ne _ _ hne).trans rfl

/-- The egg that was laid by hand is gone, with the gold that is in it. -/
theorem not_always_unused : ¬ ∀ (service : Service) (m m' : Machine) (s : Situation)
    (params : Params) (id : EntityId) (e : Entity), m.world.spawner.isSome = true →
    Dict.Unique m.world.store.entries →
    (Control.spawnEntity s params).run service m = some (.ok (), m') →
    m.world.store.get? id = some e → m'.world.store.get? id = some e := by
  intro h
  obtain ⟨m', hrun, hstore⟩ : ∃ m', (Control.spawnEntity Nest.situation []).run
        (Service.atDepth 1) (Nest.machine [Nest.egg]) = some (.ok (), m') ∧
      (m'.world.store.get? ⟨"spawn-1"⟩).map (·.vars.length) = some 0 :=
    ⟨_, rfl, rfl⟩
  have hkept := h _ _ _ _ _ ⟨"spawn-1"⟩ Nest.egg rfl (Nest.machine_unique _) hrun rfl
  rw [hkept] at hstore
  cases hstore

end SceneLogic
