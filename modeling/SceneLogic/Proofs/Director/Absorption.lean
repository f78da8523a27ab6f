import SceneLogic.Proofs.Returning
import SceneLogic.Proofs.Standard

/-!
# Repeated updates

A host may run an update twice in one frame. The second one finds that the components had their turn
and repeats no update logic.

An update has two halves: `Director.tickRules` opens the frame and runs the update logic, and
`Director.tickModules` lets the modules go on. `World.Calmer` says that nobody has more to do in an
update than before. As long as the first update makes the world no less calm, each component that
could run afterwards has had its turn: `World.CaughtUp`. Then the first half of another update in
the frame does nothing.
-/

namespace SceneLogic

namespace World

/-- The components of an entity that an update runs. -/
def ticking (w : World) (id : EntityId) : List Component :=
  w.componentsOf id fun t => EventType.answers t EventType.tick

/-- No component runs in an update that would not have run before, and none has lost its turn. -/
structure Calmer (w w' : World) : Prop where
  ticking : ∀ id, w'.ticking id ⊆ w.ticking id
  ticked : w.ticked ⊆ w'.ticked
  director : w.director.isSome = true → w'.director.isSome = true

/-- All components that an update runs had their turn in the present frame. -/
def CaughtUp (w : World) : Prop :=
  ∀ id, ∀ c ∈ w.ticking id, (id, c.id) ∈ w.ticked

variable {w w' : World}

theorem Calmer.refl (w : World) : w.Calmer w :=
  ⟨fun _ => List.Subset.refl _, List.Subset.refl _, id⟩

theorem Calmer.trans {u v w : World} (h : u.Calmer v) (h' : v.Calmer w) : u.Calmer w where
  ticking id := List.Subset.trans (h'.ticking id) (h.ticking id)
  ticked := List.Subset.trans h.ticked h'.ticked
  director hu := h'.director (h.director hu)

/-- What an update runs is up to the store. -/
theorem ticking_of_store (hstore : w'.store = w.store) (id : EntityId) :
    w'.ticking id = w.ticking id := by
  rw [ticking, ticking, componentsOf, componentsOf, hstore]

theorem calmer_of_store (hstore : w'.store = w.store) (hticked : w.ticked ⊆ w'.ticked)
    (hdirector : w.director.isSome = true → w'.director.isSome = true) : w.Calmer w' where
  ticking id := by
    rw [ticking_of_store hstore]
    exact List.Subset.refl _
  ticked := hticked
  director := hdirector

theorem calmer_record (w : World) (h : Happening) : w.Calmer (w.record h) :=
  calmer_of_store rfl (List.Subset.refl _) id

theorem calmer_situationFor (w : World) (id : EntityId) (data : Params) :
    w.Calmer (w.situationFor id data).2 := by
  unfold situationFor
  split
  · exact .refl w
  · exact calmer_of_store rfl (List.Subset.refl _) fun h => h

/-- An answer of the frame takes no turn back. -/
theorem calmer_grant (w : World) {f : Frame → Bool × Frame}
    (hf : ∀ frame, frame.components ⊆ (f frame).2.components) : w.Calmer (w.grant f).2 := by
  unfold grant
  cases hd : w.director with
  | none => exact .refl w
  | some d =>
    refine calmer_of_store rfl ?_ fun _ => rfl
    simp only [ticked, hd, Option.map_some, Option.getD_some]
    exact hf d.frame

end World

/-! ## Services that calm -/

/-- A service that gives some of the answers of another: only those that leave nobody with more to
do in an update. -/
structure Service.Calms (calm service : Service) : Prop extends calm.Extends service where
  performing : ∀ {name s params m m'}, calm.perform name s params m = some m' →
    m.world.Calmer m'.world
  checking : ∀ {name s params m b m'}, calm.check name s params m = some (b, m') →
    m.world.Calmer m'.world

namespace Script

variable {α β : Type} {calm service : Service}

/-- However the script ends, nobody has more to do in an update than at its start. -/
def Calms (calm : Service) (s : Script α) : Prop :=
  ∀ m a m', s.run calm m = some (a, m') → m.world.Calmer m'.world

theorem Calms.done {a : α} : (Script.done a).Calms calm := by
  intro m a' m' hrun
  cases hrun
  exact .refl m.world

theorem Calms.bind {s : Script α} {f : α → Script β} (hs : s.Calms calm)
    (hf : ∀ a, (f a).Calms calm) : (s.bind f).Calms calm := by
  intro m b m' hrun
  rw [run_bind] at hrun
  obtain ⟨⟨a, m₁⟩, hrun₁, hrun⟩ := Option.bind_eq_some_iff.mp hrun
  exact (hs _ _ _ hrun₁).trans (hf a _ _ _ hrun)

/-- A script that reads the world and makes it no less calm. -/
theorem Calms.change {f : World → World} {k : World → Script α}
    (hf : ∀ w : World, w.Calmer (f w))
    (hk : ∀ w, (k w).Calms calm) : (Script.read fun w => .write (f w) (k w)).Calms calm := by
  intro m a m' hrun
  exact (hf m.world).trans (hk m.world _ _ _ hrun)

theorem Calms.perform (hcalm : calm.Calms service) {name : String} {s : Situation}
    {params : Params} {k : Script α} (hk : k.Calms calm) :
    (Script.perform name s params k).Calms calm := by
  intro m a m' hrun
  obtain ⟨m₁, hperform, hrun⟩ := Option.bind_eq_some_iff.mp hrun
  exact (hcalm.performing hperform).trans (hk _ _ _ hrun)

theorem Calms.check (hcalm : calm.Calms service) {name : String} {s : Situation}
    {params : Params} {k : Bool → Script α} (hk : ∀ b, (k b).Calms calm) :
    (Script.check name s params k).Calms calm := by
  intro m a m' hrun
  obtain ⟨⟨b, m₁⟩, hcheck, hrun⟩ := Option.bind_eq_some_iff.mp hrun
  exact (hcalm.checking hcheck).trans (hk b _ _ _ hrun)

theorem Calms.forEach {items : List α} {body : α → Script Unit}
    (h : ∀ a, (body a).Calms calm) : (Script.forEach items body).Calms calm := by
  induction items with
  | nil => exact .done
  | cons a rest ih => exact .bind (h a) fun _ => ih

end Script

section Rules

variable {calm service : Service}

theorem allHold_calms (hcalm : calm.Calms service) (s : Situation)
    (conditions : List ConditionCall) : (Script.allHold s conditions).Calms calm := by
  induction conditions with
  | nil => exact .done
  | cons c rest ih =>
    refine .check hcalm fun b => ?_
    cases b with
    | false => exact .done
    | true => exact ih

theorem firstHolding_calms (hcalm : calm.Calms service) (s : Situation)
    (conditions : List ConditionCall) : (Script.firstHolding s conditions).Calms calm := by
  induction conditions with
  | nil => exact .done
  | cons c rest ih =>
    refine .check hcalm fun b => ?_
    cases b with
    | false => exact ih
    | true => exact .done

theorem select_calms (hcalm : calm.Calms service) (r : Rule) (s : Situation) :
    (r.select s).Calms calm := by
  unfold Rule.select
  split
  · exact .bind (allHold_calms hcalm s _) fun _ => .done
  · split
    · exact .done
    · exact .bind (firstHolding_calms hcalm s _) fun _ => .done
  · exact .bind (firstHolding_calms hcalm s _) fun _ => .done

end Rules

namespace Director

variable {calm service : Service}

theorem request_calms (hcalm : calm.Calms service) (s : Situation) (call : ActionCall) :
    (request s call).Calms calm := by
  have hjudge : ∀ w : World, w.Calmer (w.judge (call.by s.entity)).2 := fun w =>
    (w.calmer_grant (f := (·.grantRequest (call.by s.entity))) fun frame => by
      rw [(frame.grantRequest_others _).2]
      exact List.Subset.refl _).trans (World.calmer_record _ _)
  rw [request_eq]
  refine .change hjudge fun w => ?_
  split
  · exact .perform hcalm .done
  · exact .done

theorem evaluate_calms (hcalm : calm.Calms service) (r : Rule) (s : Situation) :
    (r.evaluate s (request s)).Calms calm := by
  refine .bind (.change (fun w => w.calmer_record _) fun _ => .done) fun _ => ?_
  refine .bind (select_calms hcalm r s) fun calls => ?_
  exact .bind (.forEach fun call => request_calms hcalm s call) fun _ => .done

/-! ## The first update -/

/-- A component that asks for its turn has had it afterwards, and nobody else has more to do. -/
theorem takeTurn_calms {w : World} (hdirector : w.director.isSome = true) (id : EntityId)
    (component : String) :
    (id, component) ∈ (takeTurn w id component).2.ticked ∧
      w.Calmer (takeTurn w id component).2 := by
  obtain ⟨d, hd⟩ := Option.isSome_iff_exists.mp hdirector
  rcases World.takeTurn_cases hd id component with
    ⟨hmem, hrefused⟩ | ⟨-, w', htaken, hdirector', hstore, hticked, -⟩
  · rw [hrefused]
    exact ⟨hmem, .refl w⟩
  · rw [htaken]
    dsimp only
    rw [hticked]
    refine ⟨List.mem_cons_self, World.calmer_of_store hstore ?_ fun _ => hdirector'⟩
    rw [hticked]
    exact List.subset_cons_self _ _

/-- After the turns of an entity, those of its components that an update would still run have had
theirs. -/
theorem updateComponents_catches_up (hcalm : calm.Calms service) (id : EntityId) (dt : Float)
    (comps : List Component) {m m' : Machine} (hdirector : m.world.director.isSome = true)
    (hrun : (updateComponents id dt comps).run calm m = some ((), m')) :
    m.world.Calmer m'.world ∧ ∀ c ∈ comps, c ∈ m'.world.ticking id → (id, c.id) ∈ m'.world.ticked := by
  induction comps generalizing m with
  | nil =>
    cases hrun
    exact ⟨.refl _, nofun⟩
  | cons c rest ih =>
    obtain ⟨hturn, hcalmer⟩ := takeTurn_calms hdirector id c.id
    rw [updateComponents, Script.run, Script.run] at hrun
    -- Whoever goes on from a world that is calmer catches up with the rest.
    have hrest : ∀ n : Machine, (takeTurn m.world id c.id).2.Calmer n.world →
        (updateComponents id dt rest).run calm n = some ((), m') →
        m.world.Calmer m'.world ∧
          ∀ x ∈ c :: rest, x ∈ m'.world.ticking id → (id, x.id) ∈ m'.world.ticked := by
      intro n hn hrun
      have hn' := hcalmer.trans hn
      obtain ⟨hend, hticked⟩ := ih (hn'.director hdirector) hrun
      refine ⟨hn'.trans hend, fun x hx hticking => ?_⟩
      rcases List.mem_cons.mp hx with rfl | hx
      · exact (hn.trans hend).ticked hturn
      · exact hticked x hx hticking
    split at hrun
    · exact hrest _ (.refl _) hrun
    · split at hrun
      · -- The entity is not live, and so has nothing to do any more.
        next hdead =>
        cases hrun
        refine ⟨hcalmer, fun x _ hx => ?_⟩
        rw [World.isLive_of_component hx] at hdead
        cases hdead
      · rw [Script.run, Script.run_bind] at hrun
        obtain ⟨⟨b, n⟩, hevaluate, hrun⟩ := Option.bind_eq_some_iff.mp hrun
        refine hrest n ?_ hrun
        exact (World.calmer_situationFor _ id _).trans (evaluate_calms hcalm c.rule _ _ _ _ hevaluate)

theorem updateEntities_catch_up (hcalm : calm.Calms service) (dt : Float) (ids : List EntityId)
    {m m' : Machine} (hdirector : m.world.director.isSome = true)
    (hrun : (Script.forEach ids (updateEntity dt)).run calm m = some ((), m')) :
    m.world.Calmer m'.world ∧
      ∀ id ∈ ids, ∀ c ∈ m'.world.ticking id, (id, c.id) ∈ m'.world.ticked := by
  induction ids generalizing m with
  | nil =>
    cases hrun
    exact ⟨.refl _, nofun⟩
  | cons id rest ih =>
    rw [Script.forEach, Script.run_bind] at hrun
    obtain ⟨⟨_, n⟩, hentity, hrun⟩ := Option.bind_eq_some_iff.mp hrun
    obtain ⟨hcalmer, hticked⟩ := updateComponents_catches_up hcalm id dt _ hdirector hentity
    obtain ⟨hend, hothers⟩ := ih (hcalmer.director hdirector) hrun
    refine ⟨hcalmer.trans hend, fun x hx c hc => ?_⟩
    rcases List.mem_cons.mp hx with rfl | hx
    · have hc' := hend.ticking x hc
      exact hend.ticked (hticked c (hcalmer.ticking x hc') hc')
    · exact hothers x hx c hc

/-- The first half of an update: it opens the frame, if there is a new one, and runs the update
logic of all entities. -/
def tickRules (dt : Float) : Script Bool :=
  .read fun w =>
    let (newFrame, w) := w.openFrame w.clock w.settings.threshold
    .write w ((Script.forEach w.store.ids (updateEntity dt)).bind fun _ => .done newFrame)

/-- The second half of an update: the modules go on, and a new frame forgets which contacts began
and ended before it. -/
def tickModules (dt : Float) (newFrame : Bool) : Script (List ModuleReport) :=
  (updateModules 0 dt).bind fun results =>
    .read fun w =>
      .write (if newFrame then { w with senses := w.senses.beginFrame } else w) (.done results)

theorem update_eq (dt : Float) : update dt = (tickRules dt).bind (tickModules dt) := by
  unfold update tickRules
  refine congrArg Script.read (funext fun w => ?_)
  have hopened : ∀ opened : Bool × World,
      Script.write (if opened.1 then opened.2.record .frameBegan else opened.2)
        ((Script.forEach opened.2.store.ids (updateEntity dt)).bind fun _ =>
          tickModules dt opened.1) =
      (Script.write (if opened.1 then opened.2.record .frameBegan else opened.2)
        ((Script.forEach (if opened.1 then opened.2.record .frameBegan else opened.2).store.ids
          (updateEntity dt)).bind fun _ => .done opened.1)).bind (tickModules dt) := by
    rintro ⟨newFrame, v⟩
    have hstore : (if newFrame then v.record .frameBegan else v).store = v.store := by
      cases newFrame with
      | false => rfl
      | true => rfl
    dsimp only
    rw [Script.bind, Script.bind_assoc, hstore]
    rfl
  exact hopened (w.grant (·.begin w.clock w.settings.threshold))

/-- Whoever has something to do in an update is in the store. -/
theorem mem_ids_of_ticking {w : World} {id : EntityId} {c : Component} (h : c ∈ w.ticking id) :
    id ∈ w.store.ids := by
  have hlive := World.isLive_of_component h
  unfold World.isLive at hlive
  split at hlive
  · next e he => exact List.mem_map_of_mem (Dict.mem_of_get? he)
  · cases hlive

theorem openFrame_director {w : World} (h : w.director.isSome = true) (now threshold : Float) :
    (w.openFrame now threshold).2.director.isSome = true := by
  obtain ⟨d, hd⟩ := Option.isSome_iff_exists.mp h
  unfold World.openFrame World.grant
  rw [hd]
  dsimp only
  split
  · rfl
  · rfl

/-- When the update logic of a first update is done, everybody has had their turn. -/
theorem tickRules_catches_up (hcalm : calm.Calms service) (dt : Float) {m m' : Machine}
    {newFrame : Bool} (hdirector : m.world.director.isSome = true)
    (hrun : (tickRules dt).run calm m = some (newFrame, m')) : m'.world.CaughtUp := by
  have hdirector := openFrame_director hdirector m.world.clock m.world.settings.threshold
  revert hrun hdirector
  unfold tickRules
  rw [Script.run]
  generalize m.world.openFrame m.world.clock m.world.settings.threshold = opened
  obtain ⟨begun, w⟩ := opened
  intro hrun hdirector
  dsimp only at hrun
  rw [Script.run, Script.run_bind] at hrun
  obtain ⟨⟨_, n⟩, hentities, hrun⟩ := Option.bind_eq_some_iff.mp hrun
  cases hrun
  obtain ⟨hcalmer, hticked⟩ := updateEntities_catch_up hcalm dt _ hdirector hentities
  exact fun id c hc => hticked id (mem_ids_of_ticking (hcalmer.ticking id hc)) c hc

/-! ## The second update -/

theorem updateComponents_absorbed {service : Service} {m : Machine} (id : EntityId) (dt : Float)
    {comps : List Component} (hticked : ∀ c ∈ comps, (id, c.id) ∈ m.world.ticked) :
    (updateComponents id dt comps).run service m = some ((), m) := by
  induction comps with
  | nil => rfl
  | cons c rest ih =>
    have hrefused : takeTurn m.world id c.id = (false, m.world) := by
      cases hd : m.world.director with
      | none => exact World.takeTurn_of_none hd id c.id
      | some d =>
        have hc := hticked c List.mem_cons_self
        exact (World.takeTurn_cases hd id c.id).elim (·.2) fun h => absurd hc h.1
    rw [updateComponents, Script.run, Script.run, hrefused]
    exact ih fun x hx => hticked x (List.mem_cons_of_mem _ hx)

theorem updateEntities_absorbed {service : Service} {m : Machine} (h : m.world.CaughtUp)
    (dt : Float) (ids : List EntityId) :
    (Script.forEach ids (updateEntity dt)).run service m = some ((), m) := by
  induction ids with
  | nil => rfl
  | cons id rest ih =>
    have hentity : (updateEntity dt id).run service m = some ((), m) :=
      updateComponents_absorbed id dt (h id)
    rw [Script.forEach, Script.run_bind, hentity]
    exact ih

/-- Once everybody has had their turn, the first half of another update in the frame reports the
update to the frame, and does nothing else. -/
theorem tickRules_idle {service : Service} {m : Machine} (h : m.world.CaughtUp)
    (hrepeated : (m.world.openFrame m.world.clock m.world.settings.threshold).1 = false)
    (dt : Float) : (tickRules dt).run service m = some (false, { m with
      world := (m.world.openFrame m.world.clock m.world.settings.threshold).2 }) := by
  obtain ⟨hstore, hcases⟩ := m.world.openFrame_turns m.world.clock m.world.settings.threshold
  revert hrepeated hstore hcases
  unfold tickRules
  rw [Script.run]
  generalize m.world.openFrame m.world.clock m.world.settings.threshold = opened
  obtain ⟨newFrame, w⟩ := opened
  rintro rfl hstore (⟨-, hsame⟩ | ⟨hnew, -⟩)
  · have hcaught : w.CaughtUp := by
      intro id c hc
      rw [World.ticked_of_ticked? hsame.ticked]
      rw [World.ticking_of_store hstore] at hc
      exact h id c hc
    dsimp only
    rw [Script.run, Script.run_bind, updateEntities_absorbed hcaught]
    rfl
  · cases hnew

/-- The same, where it is known how the frame takes down the time. -/
theorem tickRules_absorbed {service : Service} {m : Machine} {d : Director} {last : Float}
    (h : m.world.CaughtUp) (hd : m.world.director = some d) (hlast : d.frame.lastUpdate = some last)
    (hnear : m.world.clock - last < m.world.settings.threshold) (dt : Float) :
    (tickRules dt).run service m = some (false, { m with
      world := { m.world with
        director := some { d with
          frame := { d.frame with lastUpdate := m.world.clock } } } }) := by
  have hopened := World.openFrame_repeated hd hlast hnear
  rw [tickRules_idle h (by rw [hopened]), hopened]

end Director

/-! ## Nothing to update -/

/-- There is no instance, and no update is under way. -/
structure Pool.Idle (p : Pool) : Prop where
  known : p.known = []
  removed : p.removed = []
  updating : p.updating = false

/-- The scene is as it was. Only the journal, the time of the modules and the note of the last
update may have gone on. -/
structure World.SameScene (w w' : World) : Prop where
  director : w'.director.map (fun d => { d with frame := { d.frame with lastUpdate := none } }) =
    w.director.map fun d => { d with frame := { d.frame with lastUpdate := none } }
  pool : { w'.pool with time := 0 } = { w.pool with time := 0 }
  others : { w' with director := none, pool := {}, journal := [] } =
    { w with director := none, pool := {}, journal := [] }

/-- Where there is no instance, the second half of an update in the frame reports nothing. -/
theorem Director.tickModules_idle {service : Service} {m : Machine} (h : m.world.pool.Idle)
    (dt : Float) : ∃ w, (tickModules dt false).run service m = some ([], { m with world := w }) ∧
      w.director = m.world.director ∧ m.world.SameScene w := by
  obtain ⟨hinstances, hpending⟩ := List.append_eq_nil_iff.mp h.known
  unfold tickModules
  rw [Script.run_bind]
  unfold updateModules
  rw [Script.run, Pool.begin, hinstances]
  refine ⟨_, rfl, rfl, rfl, ?_, rfl⟩
  simp [Pool.settle, World.record, hinstances, hpending, h.removed, h.updating]

/-- A second update in a frame repeats no update logic. In the first one no action, no condition and
no module gave anybody more to do. Then the second one opens no frame, and its first half requests
no action, checks no condition and changes nothing, but takes down the time. All that is left of it
is what the modules do. Where there are none it reports nothing, and the scene stays as it was. -/
theorem repeated_update_is_absorbed {service calm : Service} {m m₁ m₂ : Machine} {dt : Float}
    {newFrame : Bool} {reports : List ModuleReport} {d : Director} {last now : Float}
    (hcalm : calm.Calms service) (hdirector : m.world.director.isSome = true)
    (hrules : (Director.tickRules dt).run calm m = some (newFrame, m₁))
    (hmodules : (Director.tickModules dt newFrame).run service m₁ = some (reports, m₂))
    (hcalmer : m₁.world.Calmer m₂.world) (hd : m₂.world.director = some d)
    (hlast : d.frame.lastUpdate = some last) (hnear : now - last < m₂.world.settings.threshold)
    (dt' : Float) :
    let later := { m₂ with world := { m₂.world with clock := now } }
    let noted := { m₂ with
      world := { m₂.world with
        clock := now
        director := some { d with frame := { d.frame with lastUpdate := some now } } } }
    (Director.update dt).run service m = some (reports, m₂) ∧
    (Director.tickRules dt').run service later = some (false, noted) ∧
    (Director.update dt').run service later =
      (Director.tickModules dt' false).run service noted ∧
    (m₂.world.pool.Idle → ∃ w,
      (Director.update dt').run service later = some ([], { m₂ with world := w }) ∧
        later.world.SameScene w) := by
  intro later noted
  have hcaught : m₂.world.CaughtUp := by
    have hcaught₁ := Director.tickRules_catches_up hcalm dt hdirector hrules
    exact fun id c hc => hcalmer.ticked (hcaught₁ id c (hcalmer.ticking id hc))
  have habsorbed : (Director.tickRules dt').run service later = some (false, noted) :=
    Director.tickRules_absorbed (m := later) hcaught hd hlast hnear dt'
  have hsecond : (Director.update dt').run service later =
      (Director.tickModules dt' false).run service noted := by
    rw [Director.update_eq, Script.run_bind, habsorbed]
    rfl
  refine ⟨?_, habsorbed, hsecond, fun hidle => ?_⟩
  · rw [Director.update_eq, Script.run_bind, hcalm.toExtends.run hrules]
    exact hmodules
  · obtain ⟨w, hrun, hdirector', hsame⟩ := Director.tickModules_idle (m := noted) hidle dt'
    refine ⟨w, hsecond.trans hrun, ?_, hsame.pool, hsame.others⟩
    rw [hdirector']
    show some _ = (m₂.world.director).map _
    rw [hd]
    rfl

/-! ## A lamp and a sleeper -/

namespace Night

/-- Hums; nobody has registered how that is done. -/
def hum : ActionCall :=
  ⟨"Hum", []⟩

/-- A lamp that hums in every update, if it is lit. -/
def lamp : Entity :=
  { id := ⟨"lamp"⟩
    components := [⟨"hums", true,
      { event := "OnUpdate", conditions := [⟨"IsLit", [], []⟩], actions := [hum] }⟩] }

/-- The director and the lamp. -/
def quiet : Machine where
  world := { director := some {}, store := .insert {} lamp }
  listeners := [(1, Director.listener)]

/-- The service that answers for what is not registered: such actions do nothing, and such
conditions hold. -/
def unregistered : Service where
  deliver _ _ := none
  perform name _ _ m := if (Dict.get? m.actions name).isNone then some m else none
  check name _ _ m := if (Dict.get? m.conditions name).isNone then some (true, m) else none

theorem unregistered_calms : unregistered.Calms (Service.atDepth 1) where
  deliver := nofun
  perform := by
    intro name s params m m' hperform
    obtain ⟨hnone, hm⟩ := Option.ite_none_right_eq_some.mp hperform
    simp only [Service.atDepth, Service.above, Option.isNone_iff_eq_none.mp hnone]
    exact hm
  check := by
    intro name s params m r hcheck
    obtain ⟨hnone, hr⟩ := Option.ite_none_right_eq_some.mp hcheck
    simp only [Service.atDepth, Service.above, Option.isNone_iff_eq_none.mp hnone]
    exact hr
  performing := by
    intro name s params m m' hperform
    obtain ⟨_, hm⟩ := Option.ite_none_right_eq_some.mp hperform
    cases hm
    exact .refl _
  checking := by
    intro name s params m b m' hcheck
    obtain ⟨_, hm⟩ := Option.ite_none_right_eq_some.mp hcheck
    cases hm
    exact .refl _

end Night

/-- The lamp hums in the first update. The second one, at the same time, does nothing. -/
theorem lamp_hums_once : ∃ m₁ m₂ d last w,
    Night.unregistered.Calms (Service.atDepth 1) ∧
    Night.quiet.world.director.isSome = true ∧
    (Director.tickRules 0).run Night.unregistered Night.quiet = some (true, m₁) ∧
    (Director.tickModules 0 true).run (Service.atDepth 1) m₁ = some ([], m₂) ∧
    m₁.world.Calmer m₂.world ∧ m₂.world.director = some d ∧ d.frame.lastUpdate = some last ∧
    (0 : Float) - last < m₂.world.settings.threshold ∧ m₂.world.pool.Idle ∧
    m₂.world.frameLog.present = [⟨Night.hum.by ⟨"lamp"⟩, true⟩] ∧
    (Director.update 0).run (Service.atDepth 1) { m₂ with world := { m₂.world with clock := 0 } } =
      some ([], { m₂ with world := w }) ∧
    World.SameScene { m₂.world with clock := 0 } w := by
  have hrun : ∃ m₁ m₂ d last,
      (Director.tickRules 0).run Night.unregistered Night.quiet = some (true, m₁) ∧
      (Director.tickModules 0 true).run (Service.atDepth 1) m₁ = some ([], m₂) ∧
      m₁.world.Calmer m₂.world ∧ m₂.world.director = some d ∧ d.frame.lastUpdate = some last ∧
      (0 : Float) - last < m₂.world.settings.threshold ∧ m₂.world.pool.Idle ∧
      m₂.world.frameLog.present = [⟨Night.hum.by ⟨"lamp"⟩, true⟩] := by
    refine ⟨_, _, _, _, rfl, rfl, ?_, rfl, rfl, ?_, ⟨rfl, rfl, rfl⟩, ?_⟩
    · exact World.calmer_of_store rfl (List.Subset.refl _) id
    · show (0 : Float) - 0 < ({} : Settings).threshold
      decide
    · rfl
  obtain ⟨m₁, m₂, d, last, hrules, hmodules, hcalmer, hd, hlast, hnear, hidle, hlog⟩ := hrun
  obtain ⟨-, -, -, hnothing⟩ := repeated_update_is_absorbed Night.unregistered_calms rfl hrules
    hmodules hcalmer hd hlast hnear 0
  obtain ⟨w, hsecond, hsame⟩ := hnothing hidle
  exact ⟨m₁, m₂, d, last, w, Night.unregistered_calms, rfl, hrules, hmodules, hcalmer, hd, hlast,
    hnear, hidle, hlog, hsecond, hsame⟩

namespace Night

/-- Somebody who is not active, and would hum in every update. -/
def sleeper : Entity :=
  { id := ⟨"sleeper"⟩
    active := false
    components := [⟨"hums", true, { event := "OnUpdate", actions := [hum] }⟩] }

/-- Somebody who wakes the sleeper in every update. -/
def waker : Entity :=
  { id := ⟨"waker"⟩
    components := [⟨"wakes", true,
      { event := "OnUpdate", actions := [⟨"Enable", [("targetId", .text "sleeper")]⟩] }⟩] }

/-- Waits for a second, and stops. -/
def nap : Graph where
  id := "nap"
  entry := "a"
  nodes := [⟨"a", .entry⟩, ⟨"b", .flow .async "Wait" [("seconds", .float 1)]⟩,
    ⟨"c", .stop .success none⟩]
  edges := [.flow "a" "out" "b" "in", .flow "b" "out" "c" "in"]

/-- The sleeper has their turn before the waker, for whom a module runs. -/
def restless : Machine :=
  let w : World :=
    { director := some {}
      store := (Store.empty.insert sleeper).insert waker
      library := .ofList [nap] }
  let m : Machine :=
    { world := (w.startModule ⟨"waker"⟩ "nap" []).2
      listeners := [(1, Director.listener)] }
  m.withDefaultActions.withDefaultConditions

theorem restless_standard : restless.Standard :=
  Machine.standard_withDefaults rfl rfl rfl

end Night

/-- A second update may do something though nothing has happened since the first one, at the same
time, and no entity has come in. Who was woken in the first update hums in the second one, and a
module that began to wait in the first one ends. -/
theorem not_always_absorbed : ∃ m₁ m₂ d last, Night.restless.Standard ∧
    (Director.update 1).run (Service.atDepth 4) Night.restless = some ([], m₁) ∧
    m₁.world.director = some d ∧ d.frame.lastUpdate = some last ∧
    m₁.world.clock - last < m₁.world.settings.threshold ∧
    m₁.world.store.ids = Night.restless.world.store.ids ∧
    (Director.update 1).run (Service.atDepth 4) m₁ =
      some ([⟨1, ⟨"waker"⟩, "nap", none⟩], m₂) ∧
    m₂.world.frameLog.present = ⟨Night.hum.by ⟨"sleeper"⟩, true⟩ :: m₁.world.frameLog.present := by
  refine ⟨_, _, _, _, Night.restless_standard, rfl, rfl, rfl, ?_, rfl, rfl, rfl⟩
  show (0 : Float) - 0 < ({} : Settings).threshold
  decide

end SceneLogic
