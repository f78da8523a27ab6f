import SceneLogic.Machine
import SceneLogic.Proofs.Conduct

/-!
# What nobody sees

The journal is what an observer sees of a run, and nothing in the scene reads it. Neither does
anything but the modules read how many nodes they may pass in an update. That much is said of a
script by the script itself, however other scripts set it off.

* `World.veiled` — the same world with a longer past, and perhaps another step bound
* `Script.Alike` — two scripts, carried out from a world and from the veiled one, do the same,
  whatever comes of their requests
* `Script.Blind` — a script that does the same with the veil and without
* `Script.run_veiled` — on a machine whose behaviours are blind, what follows from a blind script
  is the same, however deep they set each other off

Whether the run comes to an end at a given depth is the same, too.
-/

namespace SceneLogic

/-- What is kept from view. -/
structure Veil where
  /-- What happened before everything that is in the journal, the latest first. -/
  past : List Happening := []
  /-- The step bound of the modules, if it is to be another one. -/
  stepBound : Option Nat := none

namespace World

/-- The world behind a veil. -/
def veiled (v : Veil) (w : World) : World :=
  { w with
    journal := w.journal ++ v.past
    pool := { w.pool with stepBound := v.stepBound.getD w.pool.stepBound } }

variable (v : Veil) (w : World)

@[simp] theorem veiled_store : (w.veiled v).store = w.store := rfl
@[simp] theorem veiled_clock : (w.veiled v).clock = w.clock := rfl
@[simp] theorem veiled_spawner : (w.veiled v).spawner = w.spawner := rfl
@[simp] theorem veiled_stage : (w.veiled v).stage = w.stage := rfl
@[simp] theorem veiled_senses : (w.veiled v).senses = w.senses := rfl
@[simp] theorem veiled_library : (w.veiled v).library = w.library := rfl
@[simp] theorem veiled_director : (w.veiled v).director = w.director := rfl

theorem record_veiled (h : Happening) : (w.veiled v).record h = (w.record h).veiled v := rfl

end World

/-- The machine behind a veil. -/
def Machine.veiled (v : Veil) (m : Machine) : Machine :=
  { m with world := m.world.veiled v }

/-! ## Scripts -/

/-- Carried out from the world, and from the same world behind the veil, the scripts do the same.
After a request the world may be any. -/
inductive Script.Alike (v : Veil) : {α : Type} → Script α → Script α → World → Prop
  | done {α : Type} {a : α} {w : World} : Alike v (.done a) (.done a) w
  | read {α : Type} {k k' : World → Script α} {w : World} :
      Alike v (k w) (k' (w.veiled v)) w → Alike v (.read k) (.read k') w
  | write {α : Type} {k k' : Script α} {w w₁ w₂ : World} : w₂ = w₁.veiled v → Alike v k k' w₁ →
      Alike v (.write w₁ k) (.write w₂ k') w
  | emit {α : Type} {type : String} {data : Params} {target : Option EntityId} {k k' : Script α}
      {w : World} : (∀ w', Alike v k k' w') →
      Alike v (.emit type data target k) (.emit type data target k') w
  | perform {α : Type} {name : String} {s : Situation} {params : Params} {k k' : Script α}
      {w : World} : (∀ w', Alike v k k' w') →
      Alike v (.perform name s params k) (.perform name s params k') w
  | check {α : Type} {name : String} {s : Situation} {params : Params} {k k' : Bool → Script α}
      {w : World} : (∀ b w', Alike v (k b) (k' b) w') →
      Alike v (.check name s params k) (.check name s params k') w
  | subscribe {α : Type} {listener : Listener} {k k' : SubscriptionId → Script α} {w : World} :
      (∀ e w', Alike v (listener e) (listener e) w') → (∀ id, Alike v (k id) (k' id) w) →
      Alike v (.subscribe listener k) (.subscribe listener k') w
  | unsubscribe {α : Type} {id : SubscriptionId} {k k' : Bool → Script α} {w : World} :
      (∀ b, Alike v (k b) (k' b) w) → Alike v (.unsubscribe id k) (.unsubscribe id k') w
  | registerAction {α : Type} {name : String} {action : Action} {k k' : Script α} {w : World} :
      (∀ s params w', Alike v (action s params) (action s params) w') → Alike v k k' w →
      Alike v (.registerAction name action k) (.registerAction name action k') w
  | registerCondition {α : Type} {name : String} {condition : Condition} {k k' : Script α}
      {w : World} : (∀ s params w', Alike v (condition s params) (condition s params) w') →
      Alike v k k' w → Alike v (.registerCondition name condition k) (.registerCondition name condition k') w

/-- The script does the same behind the veil, from whatever world it is carried out. -/
def Script.Blind (v : Veil) {α : Type} (s : Script α) : Prop :=
  ∀ w, Alike v s s w

/-- All behaviours of the machine are blind. -/
structure Machine.Blind (v : Veil) (m : Machine) : Prop where
  listeners : ∀ l ∈ m.listeners, ∀ e, (l.2 e).Blind v
  actions : ∀ a ∈ m.actions, ∀ s params, (a.2 s params).Blind v
  conditions : ∀ a ∈ m.conditions, ∀ s params, (a.2 s params).Blind v

namespace Script

variable {v : Veil} {α β : Type}

theorem Alike.bind {s s' : Script α} {f f' : α → Script β} {w : World} (hs : s.Alike v s' w)
    (hf : ∀ a w', (f a).Alike v (f' a) w') : (s.bind f).Alike v (s'.bind f') w := by
  induction hs with
  | done => exact hf _ _
  | read _ ih => exact .read (ih hf)
  | write hw _ ih => exact .write hw (ih hf)
  | emit _ ih => exact .emit fun w' => ih w' hf
  | perform _ ih => exact .perform fun w' => ih w' hf
  | check _ ih => exact .check fun b w' => ih b w' hf
  | subscribe hl _ _ ih => exact .subscribe hl fun id => ih id hf
  | unsubscribe _ ih => exact .unsubscribe fun b => ih b hf
  | registerAction ha _ _ ih => exact .registerAction ha (ih hf)
  | registerCondition hc _ _ ih => exact .registerCondition hc (ih hf)

theorem Alike.ite {p : Prop} [Decidable p] {a a' b b' : Script α} {w : World}
    (ha : p → a.Alike v a' w) (hb : ¬ p → b.Alike v b' w) :
    (if p then a else b).Alike v (if p then a' else b') w := by
  by_cases hp : p
  · rw [if_pos hp, if_pos hp]
    exact ha hp
  · rw [if_neg hp, if_neg hp]
    exact hb hp

theorem Blind.done {a : α} : (Script.done a).Blind v :=
  fun _ => .done

theorem Blind.bind {s : Script α} {f : α → Script β} (hs : s.Blind v) (hf : ∀ a, (f a).Blind v) :
    (s.bind f).Blind v :=
  fun w => (hs w).bind hf

theorem Blind.forEach {items : List α} {body : α → Script Unit} (h : ∀ a, (body a).Blind v) :
    (Script.forEach items body).Blind v := by
  induction items with
  | nil => exact .done
  | cons a rest ih => exact .bind (h a) fun _ => ih

theorem Blind.record (h : Happening) : (Script.record h).Blind v :=
  fun w => .read (.write (w.record_veiled v h) .done)

theorem Blind.announce (type : String) (data : Params) (target : Option EntityId) :
    (announce type data target).Blind v :=
  fun _ => .emit fun _ => .done

theorem Blind.act (name : String) (s : Situation) (params : Params) : (act name s params).Blind v :=
  fun _ => .perform fun _ => .done

theorem Blind.modifyWorld {f : World → World} (hf : ∀ w : World, f (w.veiled v) = (f w).veiled v) :
    (modifyWorld f).Blind v :=
  fun w => .read (.write (hf w) .done)

end Script

/-! ## Machines -/

namespace Machine

variable {v : Veil} {m : Machine}

theorem Blind.withWorld (h : m.Blind v) (w : World) : Blind v { m with world := w } :=
  ⟨h.listeners, h.actions, h.conditions⟩

theorem Blind.subscribe (h : m.Blind v) {listener : Listener} (hl : ∀ e, (listener e).Blind v) :
    (m.subscribe listener).2.Blind v where
  listeners := by
    intro l hmem
    rcases List.mem_append.mp hmem with hmem | hmem
    · exact h.listeners l hmem
    · rw [List.mem_singleton.mp hmem]
      exact hl
  actions := h.actions
  conditions := h.conditions

theorem Blind.unsubscribe (h : m.Blind v) (id : SubscriptionId) : (m.unsubscribe id).2.Blind v where
  listeners := fun l hmem => h.listeners l (List.mem_filter.mp hmem).1
  actions := h.actions
  conditions := h.conditions

theorem Blind.registerAction (h : m.Blind v) (name : String) {action : Action}
    (ha : ∀ s params, (action s params).Blind v) : (m.registerAction name action).Blind v where
  listeners := h.listeners
  actions := by
    intro a hmem
    rcases Dict.mem_insert hmem with hmem | hmem
    · exact h.actions a hmem
    · rw [hmem]
      exact ha
  conditions := h.conditions

theorem Blind.registerCondition (h : m.Blind v) (name : String) {condition : Condition}
    (hc : ∀ s params, (condition s params).Blind v) :
    (m.registerCondition name condition).Blind v where
  listeners := h.listeners
  actions := h.actions
  conditions := by
    intro a hmem
    rcases Dict.mem_insert hmem with hmem | hmem
    · exact h.conditions a hmem
    · rw [hmem]
      exact hc

end Machine

/-! ## Runs -/

/-- A result with the machine behind the veil. -/
def Veil.over {α : Type} (v : Veil) (r : α × Machine) : α × Machine :=
  (r.1, r.2.veiled v)

/-- Asked by a blind machine, the service gives the same answers behind the veil, and leaves the
machine blind. -/
structure Service.Unseeing (v : Veil) (service : Service) : Prop where
  deliver : ∀ e {m}, m.Blind v →
    service.deliver e (m.veiled v) = (service.deliver e m).map (Machine.veiled v)
  delivered : ∀ {e m m'}, m.Blind v → service.deliver e m = some m' → m'.Blind v
  perform : ∀ name s params {m}, m.Blind v →
    service.perform name s params (m.veiled v) =
      (service.perform name s params m).map (Machine.veiled v)
  performed : ∀ {name s params m m'}, m.Blind v → service.perform name s params m = some m' →
    m'.Blind v
  check : ∀ name s params {m}, m.Blind v →
    service.check name s params (m.veiled v) = (service.check name s params m).map v.over
  checked : ∀ {name s params m b m'}, m.Blind v → service.check name s params m = some (b, m') →
    m'.Blind v

namespace Script

variable {v : Veil} {service : Service} {α β : Type}

/-- What blind scripts lead to is the same behind the veil, and the machine is still blind. -/
theorem Alike.run (hservice : service.Unseeing v) {s s' : Script α} {w : World}
    (hs : s.Alike v s' w) : ∀ m : Machine, m.world = w → m.Blind v →
      s'.run service (m.veiled v) = (s.run service m).map v.over ∧
        ∀ {a m'}, s.run service m = some (a, m') → m'.Blind v := by
  -- By induction on how the scripts are alike. What a request leaves behind is a blind machine of
  -- any world, and the same machine behind the veil.
  induction hs with
  | done =>
    intro m hw hm
    refine ⟨rfl, fun h => ?_⟩
    rw [Script.run] at h
    cases h
    exact hm
  | read _ ih =>
    intro m hw hm
    subst hw
    exact ih m rfl hm
  | write hw₁ _ ih =>
    intro m hw hm
    subst hw₁
    exact ih _ rfl (hm.withWorld _)
  | @emit _ type data target k k' _ _ ih =>
    intro m hw hm
    have hm₁ : (m.record (.emitted (m.event type data target))).Blind v := hm.withWorld _
    have hask := hservice.deliver (m.event type data target) hm₁
    have hrun : (Script.emit type data target k').run service (m.veiled v) =
        ((service.deliver (m.event type data target)
          (m.record (.emitted (m.event type data target)))).map (Machine.veiled v)).bind
            fun m => k'.run service m := by
      rw [← hask]
      rfl
    rw [hrun]
    simp only [Script.run]
    cases hdeliver : service.deliver (m.event type data target)
        (m.record (.emitted (m.event type data target))) with
    | none =>
      refine ⟨rfl, fun h => ?_⟩
      cases h
    | some m₂ => exact ih m₂.world m₂ rfl (hservice.delivered hm₁ hdeliver)
  | @perform _ name s params k k' _ _ ih =>
    intro m hw hm
    simp only [Script.run]
    rw [hservice.perform name s params hm]
    cases hperform : service.perform name s params m with
    | none =>
      refine ⟨rfl, fun h => ?_⟩
      cases h
    | some m₂ => exact ih m₂.world m₂ rfl (hservice.performed hm hperform)
  | @check _ name s params k k' _ _ ih =>
    intro m hw hm
    simp only [Script.run]
    rw [hservice.check name s params hm]
    cases hcheck : service.check name s params m with
    | none =>
      refine ⟨rfl, fun h => ?_⟩
      cases h
    | some r => exact ih r.1 r.2.world r.2 rfl (hservice.checked hm hcheck)
  | subscribe hl _ _ ih =>
    intro m hw hm
    exact ih m.nextSubscription (m.subscribe _).2 hw (hm.subscribe hl)
  | unsubscribe _ ih =>
    intro m hw hm
    exact ih (m.listeners.any _) (m.unsubscribe _).2 hw (hm.unsubscribe _)
  | registerAction ha _ _ ih =>
    intro m hw hm
    exact ih (m.registerAction _ _) hw (hm.registerAction _ ha)
  | registerCondition hc _ _ ih =>
    intro m hw hm
    exact ih (m.registerCondition _ _) hw (hm.registerCondition _ hc)

end Script

namespace Service

variable {v : Veil} {service : Service}

theorem deliverTo_veiled (hservice : service.Unseeing v) (e : Event) (ls : List Listener)
    (hls : ∀ l ∈ ls, ∀ e, (l e).Blind v) {m : Machine} (hm : m.Blind v) :
    deliverTo service e ls (m.veiled v) = (deliverTo service e ls m).map (Machine.veiled v) ∧
      ∀ {m'}, deliverTo service e ls m = some m' → m'.Blind v := by
  induction ls generalizing m with
  | nil =>
    refine ⟨rfl, fun h => ?_⟩
    cases h
    exact hm
  | cons l rest ih =>
    obtain ⟨hrun, hblind⟩ := (hls l List.mem_cons_self e m.world).run hservice m rfl hm
    simp only [deliverTo]
    rw [hrun]
    cases h : (l e).run service m with
    | none =>
      refine ⟨rfl, fun h => ?_⟩
      cases h
    | some r => exact ih (fun l hl => hls l (List.mem_cons_of_mem _ hl)) (hblind h)

theorem Unseeing.above (hservice : service.Unseeing v) : (above service).Unseeing v where
  deliver e m hm := (deliverTo_veiled hservice e _ (fun l hl => by
    obtain ⟨a, ha, rfl⟩ := List.mem_map.mp hl
    exact hm.listeners a ha) hm).1
  delivered {e m _} hm h := (deliverTo_veiled hservice e _ (fun l hl => by
    obtain ⟨a, ha, rfl⟩ := List.mem_map.mp hl
    exact hm.listeners a ha) hm).2 h
  perform name s params m hm := by
    have hsame : (m.veiled v).actions = m.actions := rfl
    simp only [Service.above, hsame]
    cases hget : Dict.get? m.actions name with
    | none => rfl
    | some action =>
      have hblind := hm.actions _ (Dict.mem_of_get? hget) s params m.world
      dsimp only
      rw [(hblind.run hservice m rfl hm).1, Option.map_map, Option.map_map]
      rfl
  performed {name s params m m'} hm h := by
    simp only [Service.above] at h
    cases hget : Dict.get? m.actions name with
    | none =>
      rw [hget] at h
      cases h
      exact hm
    | some action =>
      rw [hget] at h
      obtain ⟨⟨_, m₁⟩, hrun, rfl⟩ := Option.map_eq_some_iff.mp h
      exact ((hm.actions _ (Dict.mem_of_get? hget) s params m.world).run hservice m rfl hm).2 hrun
  check name s params m hm := by
    have hsame : (m.veiled v).conditions = m.conditions := rfl
    simp only [Service.above, hsame]
    cases hget : Dict.get? m.conditions name with
    | none => rfl
    | some condition =>
      have hblind := hm.conditions _ (Dict.mem_of_get? hget) s params m.world
      dsimp only
      rw [(hblind.run hservice m rfl hm).1, Option.map_map, Option.map_map]
      rfl
  checked {name s params m b m'} hm h := by
    simp only [Service.above] at h
    cases hget : Dict.get? m.conditions name with
    | none =>
      rw [hget] at h
      cases h
      exact hm
    | some condition =>
      rw [hget] at h
      obtain ⟨⟨_, m₁⟩, hrun, heq⟩ := Option.map_eq_some_iff.mp h
      cases heq
      exact ((hm.conditions _ (Dict.mem_of_get? hget) s params m.world).run hservice m rfl
        hm).2 hrun

/-- However deep scripts set each other off, the answers are the same behind the veil. -/
theorem unseeing_atDepth (v : Veil) : ∀ depth, (atDepth depth).Unseeing v
  | 0 => ⟨fun _ _ _ => rfl, nofun, fun _ _ _ _ _ => rfl, nofun, fun _ _ _ _ _ => rfl, nofun⟩
  | depth + 1 =>
    let below := (unseeing_atDepth v depth).above
    ⟨below.deliver, below.delivered, below.perform, below.performed, below.check, below.checked⟩

end Service

/-- On a machine whose behaviours are blind, a blind script leads to the same behind the veil, at
whatever depth it comes to an end or does not. -/
theorem Script.run_veiled {v : Veil} {α : Type} {s : Script α} {m : Machine} (hm : m.Blind v)
    (hs : s.Blind v) (depth : Nat) :
    s.run (Service.atDepth depth) (m.veiled v) =
      (s.run (Service.atDepth depth) m).map v.over :=
  ((hs m.world).run (Service.unseeing_atDepth v depth) m rfl hm).1

/-- A blind script leaves a blind machine. -/
theorem Script.Blind.leaves {v : Veil} {α : Type} {s : Script α} {m m' : Machine} {depth : Nat}
    {a : α} (hs : s.Blind v) (hm : m.Blind v)
    (hrun : s.run (Service.atDepth depth) m = some (a, m')) : m'.Blind v :=
  ((hs m.world).run (Service.unseeing_atDepth v depth) m rfl hm).2 hrun

end SceneLogic
