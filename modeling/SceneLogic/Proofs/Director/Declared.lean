import SceneLogic.Proofs.Director.Offering

/-!
# Which actions an event requests

`World.routed` says in one place which actions an event requests, and in which order. It reads the
scene and the outcomes of conditions only, and knows nothing of how the director goes about it.
`events_route_as_declared` says that the director requests just these, as long as conditions and
actions leave the scene alone.

`Script.Asks` follows the director's scripts: it says which requests a script makes. Since nothing
moves, what one part of a script asks does not depend on the parts before it.
-/

namespace SceneLogic

/-! ## The declaration -/

/-- The actions that a rule selects when its conditions turn out so. -/
def Rule.chosen (r : Rule) (holds : ConditionCall → Bool) : List ActionCall :=
  match r.logic with
  | .all => if r.conditions.all holds then r.actions else r.otherwise
  | .any => if r.conditions = [] ∨ r.conditions.any holds then r.actions else r.otherwise
  | .branch =>
    match r.conditions.find? holds with
    | some c => c.consequence
    | none => r.otherwise

/-- The outcome of a condition for an entity, by its name and its parameters. -/
abbrev Verdict := EntityId → String → Params → Bool

/-- What those rules of a list that react to an event request for an entity. -/
def requestsFor (verdict : Verdict) (e : Event) (id : EntityId) (rules : List Rule) :
    List Request :=
  (rules.filter (·.reactsTo e.type e.data)).flatMap fun r =>
    (r.chosen fun c => verdict id c.kind c.params).map (·.by id)

/-- What an event requests: for its target, or else for all entities, what their components
select; and for a target that is not dead what the rules of the scene select. -/
def World.routed (w : World) (verdict : Verdict) (e : Event) : List Request :=
  match e.target with
  | none => w.store.ids.flatMap fun id => requestsFor verdict e id (w.rulesOf id)
  | some target =>
    requestsFor verdict e target (w.rulesOf target) ++
      if w.isAlive target then requestsFor verdict e target w.sceneRules else []

/-- The director gives the event to rules, and does nothing else about it. -/
def Event.Ordinary (e : Event) : Prop :=
  e.type ∉ [EventType.collisionEnter, EventType.collisionStay, EventType.collisionExit,
    EventType.onStart, EventType.onClick, EventType.tick, EventType.onUpdate,
    EventType.eventSignal]

/-! ## Conditions and actions that leave the scene alone -/

namespace World

/-- The journal with further notes. -/
def noteAll (w : World) (notes : List Value) : World :=
  { w with journal := notes.map .noted ++ w.journal }

end World

/-- The request that an entry of the journal tells of. -/
def Happening.request? : Happening → Option Request
  | .requested request _ => some request
  | _ => none

/-- The requests that the journal tells of, the earliest first. -/
def World.requested (w : World) : List Request :=
  (w.journal.filterMap Happening.request?).reverse

/-- As long as the scene is as it was, actions do no more than make notes, and conditions only say
what they find of an entity that is given this data. -/
structure Service.Observes (service : Service) (m : Machine) (data : Params) (verdict : Verdict) :
    Prop where
  perform : ∀ name s params w, m.world.Unmoved w → ∃ notes,
    service.perform name s params { m with world := w } = some { m with world := w.noteAll notes }
  check : ∀ name params id u w, m.world.Unmoved u → (u.situationFor id data).2.Unmoved w →
    service.check name (u.situationFor id data).1 params { m with world := w } =
      some (verdict id name params, { m with world := w })

/-! ## What a script requests -/

/-- Carried out from the world, the script has this result and makes these requests, and the scene
is as it was. -/
def Script.Asks {α : Type} (service : Service) (m : Machine) (s : Script α) (w : World) (a : α)
    (requests : List Request) : Prop :=
  ∃ w', s.run service { m with world := w } = some (a, { m with world := w' }) ∧ w.Unmoved w' ∧
    w'.requested = w.requested ++ requests

namespace Script

variable {service : Service} {m : Machine} {α β : Type} {w : World}

theorem Asks.done {a : α} : (Script.done a).Asks service m w a [] :=
  ⟨w, rfl, .refl w, (List.append_nil _).symm⟩

theorem Asks.read {k : World → Script α} {a : α} {requests : List Request}
    (h : (k w).Asks service m w a requests) : (Script.read k).Asks service m w a requests :=
  h

theorem Asks.write {k : Script α} {w' : World} {a : α} {made requests : List Request}
    (hunmoved : w.Unmoved w') (hmade : w'.requested = w.requested ++ made)
    (h : k.Asks service m w' a requests) :
    (Script.write w' k).Asks service m w a (made ++ requests) := by
  obtain ⟨w₁, hrun, hunmoved₁, hrequested⟩ := h
  exact ⟨w₁, hrun, hunmoved.trans hunmoved₁, by rw [hrequested, hmade, List.append_assoc]⟩

theorem Asks.bind {s : Script α} {f : α → Script β} {a : α} {b : β}
    {requests requests' : List Request} (hs : s.Asks service m w a requests)
    (hf : ∀ w', w.Unmoved w' → (f a).Asks service m w' b requests') :
    (s.bind f).Asks service m w b (requests ++ requests') := by
  obtain ⟨w₁, hrun₁, hunmoved₁, hrequested₁⟩ := hs
  obtain ⟨w₂, hrun₂, hunmoved₂, hrequested₂⟩ := hf w₁ hunmoved₁
  refine ⟨w₂, ?_, hunmoved₁.trans hunmoved₂, ?_⟩
  · rw [run_bind, hrun₁]
    exact hrun₂
  · rw [hrequested₂, hrequested₁, List.append_assoc]

/-- A write that requests nothing. -/
theorem Asks.change {k : Script α} {w' : World} {a : α} {requests : List Request}
    (hunmoved : w.Unmoved w') (hsame : w'.requested = w.requested)
    (h : k.Asks service m w' a requests) : (Script.write w' k).Asks service m w a requests := by
  have hmade : w'.requested = w.requested ++ [] := by rw [hsame, List.append_nil]
  exact (Asks.write hunmoved hmade h :)

/-- What follows a script that requests nothing. -/
theorem Asks.then {s : Script α} {f : α → Script β} {a : α} {b : β} {requests : List Request}
    (hs : s.Asks service m w a [])
    (hf : ∀ w', w.Unmoved w' → (f a).Asks service m w' b requests) :
    (s.bind f).Asks service m w b requests :=
  hs.bind hf

theorem Asks.forEach {items : List α} {body : α → Script Unit} {requests : α → List Request}
    (h : ∀ a ∈ items, ∀ w', w.Unmoved w' → (body a).Asks service m w' () (requests a)) :
    (Script.forEach items body).Asks service m w () (items.flatMap requests) := by
  induction items generalizing w with
  | nil => exact .done
  | cons a rest ih =>
    refine .bind (h a List.mem_cons_self w (.refl w)) fun w' hw' => ?_
    exact ih fun b hb w'' hw'' => h b (List.mem_cons_of_mem _ hb) w'' (hw'.trans hw'')

/-- An entry that tells of no request. -/
theorem Asks.record {h : Happening} (hh : h.request? = none) :
    (Script.record h).Asks service m w () [] :=
  ⟨w.record h, rfl, w.unmoved_record h, by
    rw [World.requested, World.record, List.filterMap_cons_none hh, List.append_nil]
    rfl⟩

end Script

namespace World

theorem unmoved_noteAll (w : World) (notes : List Value) : w.Unmoved (w.noteAll notes) :=
  ⟨.refl _, rfl, rfl⟩

theorem requested_noteAll (w : World) (notes : List Value) :
    (w.noteAll notes).requested = w.requested := by
  have hnone : (notes.map Happening.noted).filterMap Happening.request? = [] := by
    rw [List.filterMap_eq_nil_iff]
    intro h hh
    obtain ⟨v, _, rfl⟩ := List.mem_map.mp hh
    rfl
  rw [requested, noteAll, List.filterMap_append, hnone, List.nil_append, requested]

theorem requested_judge (w : World) (r : Request) :
    (w.judge r).2.requested = w.requested ++ [r] := by
  have hrecord : ∀ (v : World) (granted : Bool), v.journal = w.journal →
      (v.record (.requested r granted)).requested = w.requested ++ [r] := by
    intro v granted hv
    rw [requested, record, hv, requested, ← List.reverse_cons]
    rfl
  unfold judge grant
  cases w.director with
  | none => exact hrecord _ _ rfl
  | some d => exact hrecord _ _ rfl

theorem requested_situationFor (w : World) (id : EntityId) (data : Params) :
    (w.situationFor id data).2.requested = w.requested := by
  unfold situationFor
  split
  · rfl
  · rfl

end World

/-! ## Rules -/

section Rules

variable {service : Service} {m : Machine} {w : World} {s : Situation}

/-- Conditions that are checked in a situation leave the world as it is, from some moment on. -/
def Service.Judges (service : Service) (m : Machine) (s : Situation) (w : World)
    (holds : ConditionCall → Bool) : Prop :=
  ∀ c w', w.Unmoved w' → service.check c.kind s c.params { m with world := w' } =
    some (holds c, { m with world := w' })

variable {holds : ConditionCall → Bool}

theorem Service.Judges.later {w' : World} (h : service.Judges m s w holds) (hw : w.Unmoved w') :
    service.Judges m s w' holds :=
  fun c v hv => h c v (hw.trans hv)

theorem allHold_asks (h : service.Judges m s w holds) (conditions : List ConditionCall) :
    (Script.allHold s conditions).Asks service m w (conditions.all holds) [] := by
  induction conditions with
  | nil => exact .done
  | cons c rest ih =>
    obtain ⟨w', hrun, hrest⟩ := ih
    refine ⟨if holds c then w' else w, ?_, ?_⟩
    · rw [Script.allHold, Script.run, h c w (.refl w), List.all_cons]
      cases holds c with
      | true => exact hrun
      | false => rfl
    · cases holds c with
      | true => exact hrest
      | false => exact ⟨.refl w, (List.append_nil _).symm⟩

theorem firstHolding_asks (h : service.Judges m s w holds) (conditions : List ConditionCall) :
    (Script.firstHolding s conditions).Asks service m w (conditions.find? holds) [] := by
  induction conditions with
  | nil => exact .done
  | cons c rest ih =>
    obtain ⟨w', hrun, hrest⟩ := ih
    refine ⟨if holds c then w else w', ?_, ?_⟩
    · rw [Script.firstHolding, Script.run, h c w (.refl w), List.find?_cons]
      cases holds c with
      | true => rfl
      | false => exact hrun
    · cases holds c with
      | true => exact ⟨.refl w, (List.append_nil _).symm⟩
      | false => exact hrest

theorem select_asks (h : service.Judges m s w holds) (r : Rule) :
    (r.select s).Asks service m w (r.chosen holds) [] := by
  unfold Rule.select Rule.chosen
  cases r.logic with
  | all => exact (allHold_asks h _).then fun _ _ => .done
  | any =>
    cases hconditions : r.conditions with
    | nil => exact .done
    | cons c rest =>
      have hany : ((c :: rest).find? holds).isSome = (c :: rest).any holds := by
        rw [Bool.eq_iff_iff, List.find?_isSome, List.any_eq_true]
      refine (firstHolding_asks h _).then fun _ _ => ?_
      simp only [reduceCtorEq, false_or, hany]
      exact .done
  | branch => exact (firstHolding_asks h _).then fun _ _ => .done

end Rules

namespace Director

variable {service : Service} {m : Machine} {data : Params} {verdict : Verdict} {w : World}

/-- A request is taken down. If it is granted its action makes notes. -/
theorem request_asks (hobs : service.Observes m data verdict) (hw : m.world.Unmoved w)
    (s : Situation) (call : ActionCall) :
    (request s call).Asks service m w () [call.by s.entity] := by
  have hjudge := w.unmoved_judge (call.by s.entity)
  rw [request_eq]
  refine Script.Asks.write hjudge (w.requested_judge _) ?_
  split
  · obtain ⟨notes, hperform⟩ := hobs.perform call.kind s call.params _ (hw.trans hjudge)
    refine ⟨_, ?_, World.unmoved_noteAll _ notes, ?_⟩
    · rw [Script.act, Script.run, hperform]
      rfl
    · rw [World.requested_noteAll, List.append_nil]
  · exact .done

theorem evaluateAll_asks (hobs : service.Observes m data verdict) (hw : m.world.Unmoved w)
    {s : Situation} (hjudges : service.Judges m s w fun c => verdict s.entity c.kind c.params)
    (rules : List Rule) :
    (evaluateAll s rules).Asks service m w () (rules.flatMap fun r =>
      (r.chosen fun c => verdict s.entity c.kind c.params).map (·.by s.entity)) := by
  refine .forEach fun r _ w₁ hw₁ => ?_
  unfold Rule.evaluate
  rw [Script.bind_assoc]
  refine (Script.Asks.record rfl).then fun w₂ hw₂ => ?_
  rw [Script.bind_assoc]
  refine (select_asks (hjudges.later (hw₁.trans hw₂)) r).then fun w₃ hw₃ => ?_
  rw [Script.bind_assoc, List.map_eq_flatMap, ← List.append_nil (List.flatMap _ _)]
  refine (Script.Asks.forEach fun call _ w₄ hw₄ => ?_).bind fun _ _ => .done
  exact request_asks hobs (hw.trans (hw₁.trans (hw₂.trans (hw₃.trans hw₄)))) s call

/-! ## Events -/

variable {e : Event}

theorem react_asks (hobs : service.Observes m data verdict) (hw : m.world.Unmoved w)
    {s : Situation} (hjudges : service.Judges m s w fun c => verdict s.entity c.kind c.params)
    (htarget : e.concerns s.entity = true) (rules : List Rule) :
    (react e s rules (request s)).Asks service m w ()
      (if w.isAlive s.entity then requestsFor verdict e s.entity rules else []) := by
  rw [react_eq]
  have hall := evaluateAll_asks hobs hw hjudges
  cases halive : w.isAlive s.entity with
  | false =>
    obtain ⟨w', hrun, hrest⟩ := hall []
    exact ⟨w', by simpa only [Script.run, halive, Bool.false_eq_true, false_and, if_false], hrest⟩
  | true =>
    obtain ⟨w', hrun, hrest⟩ := hall (rules.filter (·.reactsTo e.type e.data))
    exact ⟨w', by simpa only [Script.run, halive, htarget, and_self, if_true], hrest⟩

/-- Those components that answer to the type stand for all of the entity. -/
theorem requestsFor_componentsOf (w : World) (id : EntityId) :
    requestsFor verdict e id
      ((w.componentsOf id fun t => EventType.answers t e.type).map (·.rule)) =
      requestsFor verdict e id (w.rulesOf id) := by
  unfold requestsFor
  rw [w.filter_componentsOf, World.reacting]

/-- Rules that were picked from an entity react, and then, if so asked, the rules of the scene. -/
theorem offered_asks (hobs : service.Observes m data verdict) (hw : m.world.Unmoved w)
    {s : Situation} (hjudges : service.Judges m s w fun c => verdict s.entity c.kind c.params)
    (htarget : e.concerns s.entity = true) {rules : List Rule}
    (halive : rules ≠ [] → w.isAlive s.entity = true) (scene : Bool) :
    ((if rules.isEmpty then .done () else react e s rules (request s)).bind fun _ =>
      if scene then .read fun w => react e s w.sceneRules (request s) else .done ()).Asks
        service m w () (requestsFor verdict e s.entity rules ++
          if scene ∧ w.isAlive s.entity then requestsFor verdict e s.entity w.sceneRules
          else []) := by
  refine .bind (a := ()) ?_ fun v hv => ?_
  · cases rules with
    | nil => exact .done
    | cons r rest =>
      have hreact := react_asks hobs hw hjudges htarget (r :: rest)
      rw [if_pos (halive (List.cons_ne_nil _ _))] at hreact
      exact hreact
  · cases scene with
    | false => exact .done
    | true =>
      -- The rules of the scene are read after the components have reacted, and are the same.
      have hreact := react_asks hobs (hw.trans hv) (hjudges.later hv) htarget v.sceneRules
      rw [hv.sceneRules, hv.isAlive] at hreact
      obtain ⟨w', hrun, hrest⟩ := hreact
      refine ⟨w', ?_, by simpa only [true_and] using hrest⟩
      rw [← hrun, ← hv.sceneRules]
      rfl

/-- An offer requests what the components select, and then what the rules of the scene select. -/
theorem offer_asks (hobs : service.Observes m e.data verdict) (hw : m.world.Unmoved w)
    (id : EntityId) (htarget : e.concerns id = true) (withSceneRules : Bool) :
    (offer e id e.data withSceneRules).Asks service m w ()
      (requestsFor verdict e id (w.rulesOf id) ++
        if withSceneRules ∧ w.isAlive id then requestsFor verdict e id w.sceneRules else []) := by
  have hattend := w.unmoved_situationFor id e.data
  have hentity := situationFor_entity w id e.data
  have hjudges : service.Judges m (w.situationFor id e.data).1 (w.situationFor id e.data).2
      fun c => verdict (w.situationFor id e.data).1.entity c.kind c.params := by
    rw [hentity]
    exact fun c w' hw' => hobs.check c.kind c.params id w w' hw hw'
  rw [← requestsFor_componentsOf]
  have hlive : ((w.componentsOf id fun t => EventType.answers t e.type).map (·.rule)) ≠ [] →
      w.isAlive id = true :=
    fun h => World.isAlive_of_components fun hnone => h (by rw [hnone]; rfl)
  generalize hrules :
    ((w.componentsOf id fun t => EventType.answers t e.type).map (·.rule)) = rules at hlive ⊢
  -- Without rules of the scene it makes no difference whether they are asked for.
  have hscene : (if withSceneRules ∧ w.isAlive id then requestsFor verdict e id w.sceneRules
      else []) = if (withSceneRules && !w.sceneRules.isEmpty) = true ∧ w.isAlive id then
        requestsFor verdict e id w.sceneRules else [] := by
    cases w.sceneRules with
    | nil => simp [requestsFor]
    | cons r rest => simp
  rw [hscene]
  have hoffered := offered_asks hobs (hw.trans hattend) hjudges (by rw [hentity]; exact htarget)
    (by rw [hentity, hattend.isAlive]; exact hlive) (withSceneRules && !w.sceneRules.isEmpty)
  rw [hentity, hattend.isAlive, hattend.sceneRules] at hoffered
  refine .read ?_
  dsimp only
  rw [hrules]
  split
  · next hnothing =>
    obtain ⟨hnone, hquiet⟩ := Bool.and_eq_true_iff.mp hnothing
    rw [Bool.not_eq_true'] at hquiet
    rw [List.isEmpty_iff.mp hnone, hquiet, if_neg (by simp)]
    exact .done
  · exact .change hattend (w.requested_situationFor id e.data) hoffered

theorem route_asks (hobs : service.Observes m e.data verdict) :
    (route e).Asks service m m.world () (m.world.routed verdict e) := by
  unfold route World.routed
  cases htarget : e.target with
  | some target =>
    have hoffer := offer_asks hobs (.refl m.world) target (by simp [Event.concerns, htarget]) true
    simpa only [true_and] using hoffer
  | none =>
    refine .read (.forEach fun id _ w hw => ?_)
    have hoffer := offer_asks hobs hw id (by simp [Event.concerns, htarget]) false
    rw [if_neg (by simp), List.append_nil, hw.rulesOf] at hoffer
    exact hoffer

end Director

/-- An event of a type that is no other's business requests just what is declared, in this order,
and the scene stays as it was, provided that conditions and actions leave it alone. The announcement
of an update requests nothing. -/
theorem events_route_as_declared {service : Service} {m : Machine} {e : Event} {verdict : Verdict}
    (hplaying : m.world.isPlaying = true) (hobs : service.Observes m e.data verdict) :
    (e.Ordinary → ∃ w, (Director.listener e).run service m = some (.ok (), { m with world := w }) ∧
      m.world.Unmoved w ∧ w.requested = m.world.requested ++ m.world.routed verdict e) ∧
    (e.type = EventType.tick ∨ e.type = EventType.onUpdate →
      (Director.listener e).run service m = some (.ok (), m)) := by
  constructor
  · intro hordinary
    simp only [Event.Ordinary, List.mem_cons, not_or, List.not_mem_nil, not_false_eq_true,
      and_true] at hordinary
    obtain ⟨henter, hstay, hexit, hstart, hclick, htick, hupdate, hsignal⟩ := hordinary
    obtain ⟨w, hrun, hrest⟩ := Director.route_asks hobs
    refine ⟨w, ?_, hrest⟩
    have hhandle : (Director.handle e).run service m = (Director.route e).run service m := by
      simp [Director.handle, Director.isCollision, Script.run, hplaying, henter, hstay, hexit,
        hstart, hclick, htick, hupdate, hsignal]
    rw [Director.listener, Script.run_bind, hhandle, hrun]
    rfl
  · intro htype
    have hother : Director.isCollision e.type = false ∧ e.type ≠ EventType.onStart ∧
        e.type ≠ EventType.onClick := by
      rcases htype with h | h
      · rw [h]
        decide
      · rw [h]
        decide
    obtain ⟨hcollision, hstart, hclick⟩ := hother
    have hhandle : (Director.handle e).run service m = some ((), m) := by
      simp [Director.handle, hcollision, Script.run, hstart, hclick, htype]
    rw [Director.listener, Script.run_bind, hhandle]
    rfl

/-! ## A door that answers a key -/

namespace Door

/-- An action that makes a note of who performs it, and of its first parameter. -/
def log : Action := fun s params =>
  (Script.note (.list [.text s.entity.name, .map params])).bind fun _ => .done (.ok ())

/-- A request to make a note. -/
def say (text : String) : ActionCall :=
  ⟨"Log", [("text", .text text)]⟩

/-- A condition that holds, or does not, and the actions that it brings if it decides. -/
def given (b : Bool) (consequence : List ActionCall) : ConditionCall :=
  ⟨if b then "Yes" else "No", [], consequence⟩

/-- What the event of a pressed key must contain. -/
def key (name : String) : Option Params :=
  some [("key", .text name)]

/-- Only the first two of the door's components react to the key `e`: the third is switched off,
and the last asks for another key. -/
def components : List Component :=
  [⟨"opens", true,
      { event := "OnKeyDown"
        eventParams := key "e"
        conditions := [given false [], given true []]
        logic := .any
        actions := [say "open", say "open"] }⟩,
    ⟨"creaks", true,
      { event := "KEY_DOWN"
        conditions :=
          [given false [say "still"], given true [say "creak"], given true [say "again"]]
        logic := .branch }⟩,
    ⟨"jams", false, { event := "KEY_DOWN", actions := [say "jam"] }⟩,
    ⟨"locks", true,
      { event := "KEY_DOWN"
        eventParams := key "l"
        actions := [say "lock"] }⟩]

/-- A rule of the scene for every key. -/
def rule : Rule :=
  { event := "KEY_DOWN"
    conditions := [given true [], given false []]
    actions := [say "heard"]
    otherwise := [say "missed"] }

/-- The door and the rule of the scene. -/
def machine : Machine where
  world :=
    { director := some { rules := [rule] }
      store := .insert {} { id := ⟨"door"⟩, components } }
  actions := [("Log", log)]
  conditions := [("Yes", fun _ _ => .done (.ok true)), ("No", fun _ _ => .done (.ok false))]

/-- Somebody presses a key at the door. -/
def pressed : Event :=
  ⟨"KEY_DOWN", some ⟨"door"⟩, [("key", .text "e")], 0⟩

/-- A condition holds unless it is the one that does not. -/
def verdict : Verdict := fun _ name _ => name != "No"

theorem observes : (Service.atDepth 1).Observes machine pressed.data verdict where
  perform := by
    intro name s params w _
    by_cases hname : "Log" = name
    · subst hname
      exact ⟨[.list [.text s.entity.name, .map params]], rfl⟩
    · refine ⟨[], ?_⟩
      have hnone : Dict.get? machine.actions name = none := if_neg hname
      simp only [Service.atDepth, Service.above, hnone]
      rfl
  check := by
    intro name params id u w _ _
    by_cases hyes : "Yes" = name
    · subst hyes
      rfl
    · by_cases hno : "No" = name
      · subst hno
        rfl
      · have hnone : Dict.get? machine.conditions name = none :=
          (if_neg hyes).trans (if_neg hno)
        have hverdict : verdict id name params = true := bne_iff_ne.mpr (Ne.symm hno)
        simp only [Service.atDepth, Service.above, hnone, hverdict]

end Door

/-- The key at the door: its first two components select actions, and the rule of the scene does
for the door. -/
theorem key_routes_as_declared : Door.machine.world.isPlaying = true ∧
    (Service.atDepth 1).Observes Door.machine Door.pressed.data Door.verdict ∧
    Door.pressed.Ordinary ∧
    ∃ w, (Director.listener Door.pressed).run (Service.atDepth 1) Door.machine =
        some (.ok (), { Door.machine with world := w }) ∧
      w.requested = ["open", "open", "creak", "missed"].map fun text =>
        (Door.say text).by ⟨"door"⟩ := by
  have hordinary : Door.pressed.Ordinary := by
    unfold Event.Ordinary
    decide
  obtain ⟨w, hrun, _, hrequested⟩ :=
    (events_route_as_declared (m := Door.machine) rfl Door.observes).1 hordinary
  refine ⟨rfl, Door.observes, hordinary, w, hrun, ?_⟩
  rw [hrequested]
  decide +kernel

end SceneLogic
