import Mathlib.Data.List.Nodup
import SceneLogic.Proofs.Director.Aloof

/-!
# Update logic runs once in a frame

An update offers each component that answers to it a turn, and in a turn the rule is evaluated. The
updates of one frame give no component two turns, whatever behaviours do meanwhile.

If behaviours are aloof then more can be said of the update that begins a frame. As long as the store
stays as it is, `World.due` lists the turns that it gives, in order, and later updates of the frame
give none.

* `Director.updateEntities_turned` — the turns of one pass, while the store stays as it is
* `Machine.Lingers` — a frame that goes on after its first update
* `update_logic_runs_once_a_frame` — both results
* `not_always_in_first_update` — the store must stay as it is for modules, too, and not only for
  actions and the host
-/

namespace SceneLogic

/-! ## A pass while the store stays as it is -/

/-- The store and the turns stay as they are. -/
structure World.Still (w w' : World) : Prop extends w.SameTurns w' where
  store : w'.store = w.store

/-- A service that gives some of the answers of another: only those that leave the store as it is. -/
structure Service.Spares (sparing service : Service) : Prop extends sparing.Extends service where
  delivering : ∀ {e m m'}, sparing.deliver e m = some m' → m'.world.store = m.world.store
  performing : ∀ {name s params m m'}, sparing.perform name s params m = some m' →
    m'.world.store = m.world.store
  checking : ∀ {name s params m b m'}, sparing.check name s params m = some (b, m') →
    m'.world.store = m.world.store

/-- What an evaluation may do by itself. -/
def Conduct.evaluating : Conduct where
  step := World.Still
  announces _ := False
  registers := False

theorem Conduct.evaluating_relies : Conduct.evaluating.Relies where
  refl _ := trivial
  trans _ _ := trivial
  step _ := trivial

namespace World

variable {u v w : World}

theorem still_steady : Steady Still where
  refl w := ⟨.refl w, rfl⟩
  trans h h' := ⟨h.toSameTurns.trans h'.toSameTurns, h'.store.trans h.store⟩

theorem still_situationFor (w : World) (id : EntityId) (data : Params) :
    w.Still (w.situationFor id data).2 := by
  refine ⟨(w.acted_situationFor id data).sameTurns, ?_⟩
  unfold situationFor
  split
  · rfl
  · rfl

theorem still_judge (w : World) (r : Request) : w.Still (w.judge r).2 := by
  refine ⟨w.sameTurns_judge r, ?_⟩
  unfold judge grant
  cases w.director with
  | none => rfl
  | some d => rfl

/-- These components have had their turns, one after the other, and the store has stayed. -/
structure Turned (turns : List (EntityId × String)) (w w' : World) : Prop where
  store : w'.store = w.store
  ticked : w'.ticked? = w.ticked?.map (turns.reverse ++ ·)
  log : w'.turnLog = { w.turnLog with present := turns.reverse ++ w.turnLog.present }

theorem Still.turned (h : v.Still w) : Turned [] v w := by
  refine ⟨h.store, ?_, h.log⟩
  rw [h.ticked]
  simp

theorem Turned.trans {turns turns' : List (EntityId × String)} (h : Turned turns u v)
    (h' : Turned turns' v w) : Turned (turns ++ turns') u w := by
  refine ⟨h'.store.trans h.store, ?_, ?_⟩
  · rw [h'.ticked, h.ticked]
    simp [Function.comp_def]
  · rw [h'.log, h.log]
    simp

theorem Turned.isSome {turns : List (EntityId × String)} (h : Turned turns v w) :
    w.director.isSome = v.director.isSome := by
  rw [← isSome_ticked?, h.ticked, Option.isSome_map, isSome_ticked?]

theorem Turned.mem_ticked {turns : List (EntityId × String)} (h : Turned turns v w)
    (hdirector : v.director.isSome = true) (turn : EntityId × String) :
    turn ∈ w.ticked ↔ turn ∈ turns ∨ turn ∈ v.ticked := by
  obtain ⟨d, hd⟩ := Option.isSome_iff_exists.mp hdirector
  have hticked : w.ticked = turns.reverse ++ v.ticked := by
    show w.ticked?.getD [] = _
    rw [h.ticked]
    simp [ticked?, World.ticked, hd]
  rw [hticked, List.mem_append, List.mem_reverse]

/-- A live component that had no turn yet in the frame is granted one. -/
theorem takeTurn_turned (hdirector : w.director.isSome = true) {id : EntityId} {component : String}
    (hlive : w.isLive id = true) (hfresh : (id, component) ∉ w.ticked) :
    ∃ w', Director.takeTurn w id component = (true, w') ∧ Turned [(id, component)] w w' := by
  obtain ⟨d, hd⟩ := Option.isSome_iff_exists.mp hdirector
  rcases takeTurn_cases hd id component with
    ⟨hmem, -⟩ | ⟨-, w', htaken, hsome, hstore, hticked, hlog⟩
  · exact absurd hmem hfresh
  · refine ⟨w', htaken, hstore, ?_, ?_⟩
    · obtain ⟨d', hd'⟩ := Option.isSome_iff_exists.mp hsome
      simp only [World.ticked, hd, hd', Option.map_some, Option.getD_some] at hticked
      simp [ticked?, hd, hd', hticked]
    · rw [hlog, if_pos hlive]
      rfl

/-- The turns that an update offers to the components of an entity. -/
def turnsOf (w : World) (id : EntityId) : List (EntityId × String) :=
  (w.ticking id).map fun c => (id, c.id)

theorem Turned.turnsOf {turns : List (EntityId × String)} (h : Turned turns v w) :
    w.turnsOf = v.turnsOf :=
  funext fun id => by rw [World.turnsOf, ticking_of_store h.store, World.turnsOf]

end World

namespace Director

variable {sparing : Service} {m m' : Machine} {dt : Float}

/-- In its turn a component evaluates its rule, which leaves the turns of others alone. -/
theorem evaluate_obeys_evaluating (r : Rule) (s : Situation) (w : World) :
    (r.evaluate s (request s)).Obeys .evaluating w := by
  refine .bind Conduct.evaluating_relies (.read (.write ⟨⟨rfl, rfl⟩, rfl⟩ .done)) fun _ u _ => ?_
  refine select_obeys Conduct.evaluating_relies trivial fun calls v _ _ => ?_
  refine .bind Conduct.evaluating_relies ?_ fun _ _ _ => .done
  refine .forEach Conduct.evaluating_relies fun call _ v _ => ?_
  rw [request_eq]
  refine .read (.write (v.still_judge _) (.ite ?_ fun _ => .done))
  exact fun _ => .perform trivial fun _ _ => .done

theorem evaluate_still (hsparing : sparing.Keeps .aloof World.Still) {r : Rule} {s : Situation}
    (hm : m.Obeys .aloof) {b : Bool} (hrun : (r.evaluate s (request s)).run sparing m = some (b, m')) :
    m.Leads .aloof World.Still m' :=
  (evaluate_obeys_evaluating r s m.world).leads World.still_steady hsparing (fun h => h)
    (fun _ _ => ⟨⟨rfl, rfl⟩, rfl⟩) id id (fun _ _ => trivial) m rfl hm hrun

/-- The components of a live entity have their turns in order, if they had none yet. -/
theorem updateComponents_turned (hsparing : sparing.Keeps .aloof World.Still) {id : EntityId}
    {comps : List Component} (hm : m.Obeys .aloof) (hdirector : m.world.director.isSome = true)
    (hlive : comps ≠ [] → m.world.isLive id = true)
    (hfresh : ∀ c ∈ comps, (id, c.id) ∉ m.world.ticked)
    (hnodup : (comps.map fun c => (id, c.id)).Nodup)
    (hrun : (updateComponents id dt comps).run sparing m = some ((), m')) :
    m'.Obeys .aloof ∧ World.Turned (comps.map fun c => (id, c.id)) m.world m'.world := by
  induction comps generalizing m with
  | nil =>
    cases hrun
    exact ⟨hm, (World.still_steady.refl _).turned⟩
  | cons c rest ih =>
    have hlive := hlive (List.cons_ne_nil c rest)
    obtain ⟨hnew, hrest⟩ : (id, c.id) ∉ rest.map (fun c => (id, c.id)) ∧
        (rest.map fun c => (id, c.id)).Nodup := List.nodup_cons.mp hnodup
    obtain ⟨w, htaken, hturned⟩ :=
      World.takeTurn_turned hdirector hlive (hfresh c List.mem_cons_self)
    have hstays : w.isLive id = m.world.isLive id := by
      rw [World.isLive, World.isLive, hturned.store]
    rw [updateComponents, Script.run, Script.run, htaken] at hrun
    simp only [Bool.not_true, Bool.false_eq_true, if_false, hstays, hlive] at hrun
    rw [Script.run, Script.run_bind] at hrun
    obtain ⟨⟨b, n⟩, hevaluate, hrun⟩ := Option.bind_eq_some_iff.mp hrun
    obtain ⟨hn, hstill⟩ := evaluate_still hsparing (hm.withWorld _) hevaluate
    have hturned := hturned.trans
      (World.still_steady.trans (World.still_situationFor w id _) hstill).turned
    rw [List.append_nil] at hturned
    -- The others find the store as it was, and one more turn taken.
    obtain ⟨hm', hothers⟩ := ih hn (by rw [hturned.isSome, hdirector])
      (fun _ => by rw [World.isLive, hturned.store]; exact hlive)
      (fun x hx hmem => by
        rcases (hturned.mem_ticked hdirector _).mp hmem with hmem | hmem
        · rw [← List.mem_singleton.mp hmem] at hnew
          exact hnew (List.mem_map_of_mem hx)
        · exact hfresh x (List.mem_cons_of_mem _ hx) hmem) hrest hrun
    exact ⟨hm', hturned.trans hothers⟩

/-- Entities have their turns in order, and each one those of its components. -/
theorem updateEntities_turned (hsparing : sparing.Keeps .aloof World.Still) {ids : List EntityId}
    (hm : m.Obeys .aloof) (hdirector : m.world.director.isSome = true)
    (hfresh : ∀ turn ∈ ids.flatMap m.world.turnsOf, turn ∉ m.world.ticked)
    (hnodup : (ids.flatMap m.world.turnsOf).Nodup)
    (hrun : (Script.forEach ids (updateEntity dt)).run sparing m = some ((), m')) :
    m'.Obeys .aloof ∧ World.Turned (ids.flatMap m.world.turnsOf) m.world m'.world := by
  induction ids generalizing m with
  | nil =>
    cases hrun
    exact ⟨hm, (World.still_steady.refl _).turned⟩
  | cons id rest ih =>
    rw [List.flatMap_cons] at hfresh hnodup ⊢
    obtain ⟨hown, hothers, hapart⟩ := List.nodup_append.mp hnodup
    rw [Script.forEach, Script.run_bind] at hrun
    obtain ⟨⟨_, n⟩, hentity, hrun⟩ := Option.bind_eq_some_iff.mp hrun
    obtain ⟨hn, hturned⟩ := updateComponents_turned hsparing hm hdirector
      (fun hne => World.isLive_of_component (List.head_mem hne))
      (fun c hc => hfresh _ (List.mem_append_left _ (List.mem_map_of_mem hc))) hown hentity
    have hlater : (rest.flatMap n.world.turnsOf) = rest.flatMap m.world.turnsOf := by
      rw [hturned.turnsOf]
    obtain ⟨hm', hturned'⟩ := ih hn (by rw [hturned.isSome, hdirector])
      (fun turn hturn hmem => by
        rw [hlater] at hturn
        rcases (hturned.mem_ticked hdirector turn).mp hmem with hmem | hmem
        · exact hapart turn hmem turn hturn rfl
        · exact hfresh turn (List.mem_append_right _ hturn) hmem) (hlater ▸ hothers) hrun
    rw [hlater] at hturned'
    exact ⟨hm', hturned.trans hturned'⟩

end Director

/-! ## The turns of an update -/

/-- The components that an update has to run: the enabled ones that are triggered by `TICK` or
`OnUpdate`, if the entity is active and alive. -/
def Entity.due (e : Entity) : List Component :=
  if e.active && e.isAlive then
    e.components.filter fun c => c.enabled && (c.trigger == "TICK" || c.trigger == "OnUpdate")
  else []

/-- The turns that an update has to give, in the order of the store and then of the components. -/
def World.due (w : World) : List (EntityId × String) :=
  w.store.entries.flatMap fun x => x.2.due.map fun c => (x.1, c.id)

/-- The store has no name twice, and no entity has two components of one name. -/
structure Store.Distinct (s : Store) : Prop where
  entities : Dict.Unique s.entries
  components : ∀ e ∈ s.toList, (e.components.map (·.id)).Nodup

namespace World

variable {w w' : World}

/-- What is due is what the components in the store are offered. -/
theorem due_eq (h : w.store.Distinct) : w.due = w.store.ids.flatMap w.turnsOf := by
  rw [Store.ids, Dict.keys, List.flatMap_map]
  refine List.flatMap_congr fun x hx => ?_
  have hfound : w.store.get? x.1 = some x.2 := Dict.get?_of_mem h.entities hx
  rw [turnsOf, ticking, componentsOf, hfound]
  dsimp only
  rw [Entity.due, Entity.isLive]
  refine congrArg (List.map _) (if_congr Iff.rfl (List.filter_congr fun c _ => ?_) rfl)
  rw [EventType.answers, EventType.aliases, if_pos rfl, List.contains_cons, List.contains_nil,
    Bool.or_false]
  rfl

/-- As long as the store stays, an update offers what is due. -/
theorem offered_eq_due (hstore : w'.store = w.store) (h : w.store.Distinct) :
    w'.store.ids.flatMap w'.turnsOf = w.due := by
  rw [← due_eq (hstore ▸ h), due, due, hstore]

theorem nodup_due (h : w.store.Distinct) : w.due.Nodup := by
  refine List.nodup_flatMap.mpr ⟨fun x hx => ?_, ?_⟩
  · have hsublist : x.2.due.Sublist x.2.components := by
      unfold Entity.due
      split
      · exact List.filter_sublist
      · exact List.nil_sublist _
    have hnames : (x.2.due.map (·.id)).Nodup :=
      (h.components x.2 (List.mem_map_of_mem hx)).sublist (hsublist.map _)
    refine List.Nodup.of_map Prod.snd ?_
    rw [List.map_map]
    exact hnames
  · -- The turns of different entities are different.
    refine (List.pairwise_map.mp h.entities).imp fun {x y} hne turn hx hy => hne ?_
    obtain ⟨c, -, rfl⟩ := List.mem_map.mp hx
    obtain ⟨c', -, heq⟩ := List.mem_map.mp hy
    exact (congrArg Prod.fst heq).symm

end World

/-! ## The updates of a frame -/

/-- The answers of a service that spares the store leave the turns alone as well, if behaviours do. -/
theorem Service.Spares.keeps {sparing service : Service} (h : sparing.Spares service)
    (hservice : service.Keeps .aloof World.SameTurns) : sparing.Keeps .aloof World.Still where
  deliver hm hrun :=
    have hlead := hservice.deliver hm (h.toExtends.deliver hrun)
    ⟨hlead.1, hlead.2, h.delivering hrun⟩
  perform hm hrun :=
    have hlead := hservice.perform hm (h.toExtends.perform hrun)
    ⟨hlead.1, hlead.2, h.performing hrun⟩
  check hm hrun :=
    have hlead := hservice.check hm (h.toExtends.check hrun)
    ⟨hlead.1, hlead.2, h.checking hrun⟩

namespace Director

variable {sparing : Service} {m m' : Machine} {dt : Float}

/-- A component evaluates its rule if it is granted a turn while its entity is live, and then the
turn is taken down. -/
theorem updateComponents_cons (service : Service) (m : Machine) (id : EntityId) (dt : Float)
    (c : Component) (rest : List Component) :
    let (granted, w) := takeTurn m.world id c.id
    let (s, sensed) := w.situationFor id [("dt", .float dt)]
    w.turnLog = (if granted && m.world.isLive id then m.world.turnLog.enter (.updated id c.id)
      else m.world.turnLog) ∧
    (updateComponents id dt (c :: rest)).run service m =
      if granted && m.world.isLive id then
        ((c.rule.evaluate s (request s)).bind fun _ => updateComponents id dt rest).run service
          { m with world := sensed }
      else if granted then some ((), { m with world := w })
      else (updateComponents id dt rest).run service { m with world := w } := by
  have hrun : (updateComponents id dt (c :: rest)).run service m =
      Script.run service (if !(takeTurn m.world id c.id).1 then updateComponents id dt rest
        else if !(takeTurn m.world id c.id).2.isLive id then .done ()
        else .write ((takeTurn m.world id c.id).2.situationFor id [("dt", .float dt)]).2
          ((c.rule.evaluate ((takeTurn m.world id c.id).2.situationFor id [("dt", .float dt)]).1
            (request ((takeTurn m.world id c.id).2.situationFor id [("dt", .float dt)]).1)).bind
              fun _ => updateComponents id dt rest))
        { m with world := (takeTurn m.world id c.id).2 } := rfl
  obtain ⟨hstore, hlog⟩ := m.world.takeTurn_log id c.id
  have hlive : (takeTurn m.world id c.id).2.isLive id = m.world.isLive id := by
    rw [World.isLive, World.isLive, hstore]
  revert hrun hlog hlive
  generalize takeTurn m.world id c.id = taken
  obtain ⟨granted, w⟩ := taken
  intro hrun hlog hlive
  refine ⟨hlog, hrun.trans ?_⟩
  dsimp only at hlive ⊢
  rw [hlive]
  cases granted with
  | false => rfl
  | true =>
    cases m.world.isLive id with
    | false => rfl
    | true => rfl

/-- The update that begins a frame gives the turns that are due, and no others. -/
theorem tickRules_turned (hsparing : sparing.Keeps .aloof World.Still) (hm : m.Obeys .aloof)
    (hdistinct : m.world.store.Distinct)
    (hrun : (tickRules dt).run sparing m = some (true, m')) :
    m'.Obeys .aloof ∧ m'.world.store = m.world.store ∧
      m'.world.ticked? = some m.world.due.reverse ∧
      m'.world.turnLog.frames = m.world.due.reverse :: m.world.turnLog.frames := by
  obtain ⟨hstore, hcases⟩ := m.world.openFrame_turns m.world.clock m.world.settings.threshold
  revert hrun hstore hcases
  unfold tickRules
  rw [Script.run]
  generalize m.world.openFrame m.world.clock m.world.settings.threshold = opened
  obtain ⟨newFrame, w⟩ := opened
  intro hrun hstore hcases
  dsimp only at hrun hstore hcases
  rw [Script.run, Script.run_bind] at hrun
  obtain ⟨⟨_, n⟩, hentities, hrun⟩ := Option.bind_eq_some_iff.mp hrun
  cases hrun
  obtain ⟨hfalse, -⟩ | ⟨-, -, hticked, hlog⟩ := hcases
  · cases hfalse
  · have hdue : w.store.ids.flatMap w.turnsOf = m.world.due := World.offered_eq_due hstore hdistinct
    have hdirector : w.director.isSome = true := by
      rw [← w.isSome_ticked?, hticked]
      rfl
    have hfresh : ∀ turn ∈ w.store.ids.flatMap w.turnsOf, turn ∉ w.ticked := by
      have hnone : w.ticked = [] := congrArg (Option.getD · []) hticked
      rw [hnone]
      exact fun _ _ => List.not_mem_nil
    obtain ⟨hm', hturned⟩ := updateEntities_turned hsparing (hm.withWorld w) hdirector hfresh
      (hdue ▸ World.nodup_due hdistinct) hentities
    obtain ⟨hstore', hticked', hlog'⟩ : World.Turned m.world.due w m'.world := hdue ▸ hturned
    refine ⟨hm', hstore'.trans hstore, ?_, ?_⟩
    · rw [hticked', hticked, Option.map_some, List.append_nil]
    · rw [hlog', hlog]
      simp [TurnLog.enter, TurnLog.frames]

end Director

/-- The frame goes on after its first update, with the store from then. The host carries out scripts
and runs updates that begin no frame, and before each update the store is as it was. -/
inductive Machine.Lingers (store : Store) (m : Machine) : Machine → Prop
  | refl : Lingers store m m
  | script {m₁ m₂ : Machine} {depth : Nat} {α : Type} {s : Script α} {a : α} :
      Lingers store m m₁ → s.Obeys .aloof m₁.world →
      s.run (Service.atDepth depth) m₁ = some (a, m₂) → Lingers store m m₂
  | update {m₁ m₂ : Machine} {depth : Nat} {dt : Float} {reports : List ModuleReport} :
      Lingers store m m₁ → m₁.world.store = store →
      (m₁.world.openFrame m₁.world.clock m₁.world.settings.threshold).1 = false →
      (Director.update dt).run (Service.atDepth depth) m₁ = some (reports, m₂) →
      Lingers store m m₂

/-- Where everybody who is due has had their turn, nobody has another. -/
theorem Machine.Lingers.sameTurns {store : Store} {m m' : Machine} (h : m.Lingers store m')
    (hm : m.Obeys .aloof)
    (hcaught : ∀ w : World, w.store = store → w.ticked? = m.world.ticked? → w.CaughtUp) :
    m'.Obeys .aloof ∧ m.world.SameTurns m'.world := by
  induction h with
  | refl => exact ⟨hm, .refl _⟩
  | @script m₁ m₂ depth _ s a _ hs hrun ih =>
    obtain ⟨hm₁, hsame⟩ := ih
    have hlead := Script.run_obeys Conduct.aloof_keeps
      (Service.keeps_atDepth Conduct.aloof_keeps depth) hs m₁ rfl hm₁ hrun
    exact ⟨hlead.1, hsame.trans hlead.2⟩
  | @update m₁ m₂ depth dt reports _ hstore hrepeated hrun ih =>
    obtain ⟨hm₁, hsame⟩ := ih
    rw [Director.update_eq, Script.run_bind,
      Director.tickRules_idle (hcaught m₁.world hstore hsame.ticked) hrepeated] at hrun
    obtain ⟨-, ⟨-, hopened⟩ | ⟨hnew, -⟩⟩ :=
      m₁.world.openFrame_turns m₁.world.clock m₁.world.settings.threshold
    · have hlead := Script.run_obeys Conduct.aloof_keeps
        (Service.keeps_atDepth Conduct.aloof_keeps depth) (Director.tickModules_aloof dt false _) _
        rfl (hm₁.withWorld _) hrun
      exact ⟨hlead.1, (hsame.trans hopened).trans hlead.2⟩
    · rw [hrepeated] at hnew
      cases hnew

/-- In every run no component has two turns in one frame, and an update begins no frame just if it
follows the last one closer than the threshold. A component evaluates its rule in its turns and not
otherwise.

If actions leave the turns alone, and neither they nor conditions change the store during the pass of
the update that begins a frame, then this update gives the turns that are due in the store, and no
others, in order. As long as the later updates of the frame find the store as it was then, they give
none. -/
theorem update_logic_runs_once_a_frame {m m' : Machine} (hm : m.Obeys .turning)
    (hnew : m.world.turnLog = {}) (h : m.Runs .turning m') :
    (∀ turns ∈ m'.world.turnLog.frames, turns.Nodup) ∧
    (∀ (w : World) (d : Director) (now threshold : Float), w.director = some d →
      ((w.openFrame now threshold).1 = false ↔
        ∃ last, d.frame.lastUpdate = some last ∧ now - last < threshold)) ∧
    (∀ (service : Service) (n : Machine) (id : EntityId) (dt : Float) (c : Component)
        (rest : List Component),
      let (granted, w) := Director.takeTurn n.world id c.id
      let (s, sensed) := w.situationFor id [("dt", .float dt)]
      w.turnLog = (if granted && n.world.isLive id then n.world.turnLog.enter (.updated id c.id)
        else n.world.turnLog) ∧
      (Director.updateComponents id dt (c :: rest)).run service n =
        if granted && n.world.isLive id then
          ((c.rule.evaluate s (Director.request s)).bind fun _ =>
            Director.updateComponents id dt rest).run service { n with world := sensed }
        else if granted then some ((), { n with world := w })
        else (Director.updateComponents id dt rest).run service { n with world := w }) ∧
    ∀ (sparing : Service) (depth : Nat) (dt : Float) (n n₁ n₂ : Machine)
        (reports : List ModuleReport), sparing.Spares (Service.atDepth depth) → n.Obeys .aloof →
      n.world.store.Distinct → (Director.tickRules dt).run sparing n = some (true, n₁) →
      (Director.tickModules dt true).run (Service.atDepth depth) n₁ = some (reports, n₂) →
      (Director.update dt).run (Service.atDepth depth) n = some (reports, n₂) ∧
      n₂.world.turnLog.frames = n.world.due.reverse :: n.world.turnLog.frames ∧
      ∀ later, n₂.Lingers n.world.store later → later.world.turnLog = n₂.world.turnLog := by
  obtain ⟨-, hkept⟩ := h.leads Conduct.turning_keeps hm
  refine ⟨(hkept (World.inTurn_of_none hnew)).once, ?_, Director.updateComponents_cons, ?_⟩
  · exact fun w d now threshold hd => World.openFrame_eq_false_iff hd now threshold
  · intro sparing depth dt n n₁ n₂ reports hsparing hn hdistinct hrules hmodules
    have hservice := Service.keeps_atDepth Conduct.aloof_keeps depth
    obtain ⟨hn₁, hstore, hticked, hframes⟩ :=
      Director.tickRules_turned (hsparing.keeps hservice) hn hdistinct hrules
    obtain ⟨hn₂, hsame⟩ := Script.run_obeys Conduct.aloof_keeps hservice
      (Director.tickModules_aloof dt true _) n₁ rfl hn₁ hmodules
    refine ⟨?_, ?_, fun later hlater => ?_⟩
    · rw [Director.update_eq, Script.run_bind, hsparing.toExtends.run hrules]
      exact hmodules
    · rw [hsame.log]
      exact hframes
    · refine (hlater.sameTurns hn₂ fun w hw hsameTurns id c hc => ?_).2.log
      -- What is due in the store has had its turn in the first update.
      have hturn : (id, c.id) ∈ w.store.ids.flatMap w.turnsOf :=
        List.mem_flatMap.mpr
          ⟨id, Director.mem_ids_of_ticking hc, List.mem_map_of_mem (f := fun c => (id, c.id)) hc⟩
      have hdue : w.store.ids.flatMap w.turnsOf = n.world.due := World.offered_eq_due hw hdistinct
      have hhad : w.ticked = n.world.due.reverse := by
        refine congrArg (Option.getD · []) ((hsameTurns.trans hsame.ticked).trans hticked)
      rw [hhad, List.mem_reverse, ← hdue]
      exact hturn

/-! ## Clocks, and a patient -/

namespace Clocks

/-- A rule without conditions, for an action that nobody has registered. -/
def rule (event : String) : Rule :=
  { event, actions := [Night.hum] }

/-- A clock that ticks and strikes in every update. Its alarm is off. -/
def clock : Entity :=
  { id := ⟨"clock"⟩
    components := [⟨"ticks", true, rule "TICK"⟩, ⟨"alarm", false, rule "OnUpdate"⟩,
      ⟨"strikes", true, rule "OnUpdate"⟩] }

/-- A clock that is not active. -/
def stopped : Entity :=
  { id := ⟨"stopped"⟩, active := false, components := [⟨"ticks", true, rule "TICK"⟩] }

/-- A watch, which ticks after the clock. -/
def watch : Entity :=
  { id := ⟨"watch"⟩, components := [⟨"ticks", true, rule "OnUpdate"⟩] }

/-- The director and the clocks, with the default behaviours. -/
def machine : Machine :=
  let m : Machine :=
    { world :=
        { director := some {}, store := ((Store.empty.insert clock).insert stopped).insert watch }
      listeners := [(1, Director.listener)] }
  m.withDefaultActions.withDefaultConditions

theorem machine_standard : machine.Standard :=
  Machine.standard_withDefaults rfl rfl rfl

theorem machine_distinct : machine.world.store.Distinct := by
  refine ⟨?_, ?_⟩
  · show [(⟨"clock"⟩ : EntityId), ⟨"stopped"⟩, ⟨"watch"⟩].Nodup
    decide
  · show ∀ e ∈ [clock, stopped, watch], (e.components.map (·.id)).Nodup
    decide

/-- Whatever is not registered leaves the store as it is. -/
theorem unregistered_spares : Night.unregistered.Spares (Service.atDepth 1) where
  toExtends := Night.unregistered_calms.toExtends
  delivering := nofun
  performing := by
    intro name s params m m' hperform
    obtain ⟨-, hm⟩ := Option.ite_none_right_eq_some.mp hperform
    cases hm
    rfl
  checking := by
    intro name s params m b m' hcheck
    obtain ⟨-, hm⟩ := Option.ite_none_right_eq_some.mp hcheck
    cases hm
    rfl

end Clocks

/-- In the first update the clock ticks and strikes, and then the watch ticks. The second update of
the frame gives no turn. -/
theorem clocks_tick_once : ∃ m₁ m₂ m₃, Clocks.machine.Obeys .turning ∧
    Clocks.machine.world.turnLog = {} ∧ Clocks.machine.Runs .turning m₃ ∧
    Night.unregistered.Spares (Service.atDepth 1) ∧ Clocks.machine.Obeys .aloof ∧
    Clocks.machine.world.store.Distinct ∧
    (Director.tickRules 0).run Night.unregistered Clocks.machine = some (true, m₁) ∧
    (Director.tickModules 0 true).run (Service.atDepth 1) m₁ = some ([], m₂) ∧
    m₂.Lingers Clocks.machine.world.store m₃ ∧
    m₂.world.turnLog.frames =
      [[(⟨"watch"⟩, "ticks"), (⟨"clock"⟩, "strikes"), (⟨"clock"⟩, "ticks")], []] ∧
    m₃.world.turnLog = m₂.world.turnLog ∧ ∀ turns ∈ m₃.world.turnLog.frames, turns.Nodup := by
  have hrun : ∃ m₁ m₂ m₃,
      (Director.tickRules 0).run Night.unregistered Clocks.machine = some (true, m₁) ∧
      (Director.tickModules 0 true).run (Service.atDepth 1) m₁ = some ([], m₂) ∧
      m₂.world.store = Clocks.machine.world.store ∧
      (m₂.world.openFrame m₂.world.clock m₂.world.settings.threshold).1 = false ∧
      (Director.update 0).run (Service.atDepth 1) m₂ = some ([], m₃) := by
    refine ⟨_, _, _, rfl, rfl, rfl, ?_, rfl⟩
    refine (World.openFrame_eq_false_iff rfl _ _).mpr ⟨0, rfl, ?_⟩
    show (0 : Float) - 0 < ({} : Settings).threshold
    decide
  obtain ⟨m₁, m₂, m₃, hrules, hmodules, hstore, hrepeated, hsecond⟩ := hrun
  have hturning := Clocks.machine_standard.obeys_roomy Conduct.turning_roomy
  have haloof := Clocks.machine_standard.obeys_aloof
  have hupdate : (Director.update 0).run (Service.atDepth 1) Clocks.machine = some ([], m₂) := by
    rw [Director.update_eq, Script.run_bind, Clocks.unregistered_spares.toExtends.run hrules]
    exact hmodules
  have hruns : Clocks.machine.Runs .turning m₃ :=
    .script (.script .refl (Director.update_obeys_roomy Conduct.turning_roomy 0 _) hupdate)
      (Director.update_obeys_roomy Conduct.turning_roomy 0 _) hsecond
  have hlingers : m₂.Lingers Clocks.machine.world.store m₃ := .update .refl hstore hrepeated hsecond
  obtain ⟨honce, -, -, hfirst⟩ := update_logic_runs_once_a_frame hturning rfl hruns
  obtain ⟨-, hframes, hlater⟩ := hfirst Night.unregistered 1 0 Clocks.machine m₁ m₂ []
    Clocks.unregistered_spares haloof Clocks.machine_distinct hrules hmodules
  exact ⟨m₁, m₂, m₃, hturning, rfl, hruns, Clocks.unregistered_spares, haloof,
    Clocks.machine_distinct, hrules, hmodules, hlingers, hframes, hlater m₃ hlingers, honce⟩

namespace Ward

/-- Somebody without hit points, who would wake in an update. -/
def patient : Entity :=
  { id := ⟨"patient"⟩
    components := [⟨"wakes", true, { event := "OnUpdate", actions := [Night.hum] }⟩]
    vars := [.ofValue "hp" (.int 0)] }

/-- Gives hit points, and stops. -/
def cure : Graph where
  id := "cure"
  entry := "a"
  nodes := [⟨"a", .entry⟩,
    ⟨"b", .flow .instant "SetVariable" [("target", .text "hp"), ("value", .int 5)]⟩,
    ⟨"c", .stop .success none⟩]
  edges := [.flow "a" "out" "b" "in", .flow "b" "out" "c" "in"]

/-- The director and the patient, for whom a module runs. There are no actions at all. -/
def machine : Machine :=
  let w : World :=
    { director := some {}, store := .insert {} patient, library := .ofList [cure] }
  { world := (w.startModule ⟨"patient"⟩ "cure" []).2, listeners := [(1, Director.listener)] }

end Ward

/-- A later update of a frame may give a turn, though no action is registered and the host does
nothing between the updates: a module has changed the store. -/
theorem not_always_in_first_update : ∃ m₁ m₂, Ward.machine.actions = [] ∧
    Ward.machine.conditions = [] ∧ Ward.machine.world.store.Distinct ∧
    (Director.update 1).run (Service.atDepth 4) Ward.machine =
      some ([⟨1, ⟨"patient"⟩, "cure", none⟩], m₁) ∧
    (m₁.world.openFrame m₁.world.clock m₁.world.settings.threshold).1 = false ∧
    m₁.world.turnLog.frames = [[], []] ∧
    (Director.update 1).run (Service.atDepth 4) m₁ = some ([], m₂) ∧
    m₂.world.turnLog.frames = [[(⟨"patient"⟩, "wakes")], []] := by
  refine ⟨_, _, rfl, rfl, ?_, rfl, ?_, rfl, rfl, rfl⟩
  · refine ⟨?_, ?_⟩
    · show [(⟨"patient"⟩ : EntityId)].Nodup
      decide
    · show ∀ e ∈ [Ward.patient], (e.components.map (·.id)).Nodup
      decide
  · refine (World.openFrame_eq_false_iff rfl _ _).mpr ⟨0, rfl, ?_⟩
    show (0 : Float) - 0 < ({} : Settings).threshold
    decide

end SceneLogic
