import SceneLogic.Proofs.Director.Ledger
import SceneLogic.Proofs.Module.Tame

/-!
# What the director does by itself

The director makes tame changes, leaves the modules alone, checks conditions, and requests actions.
It touches what entities sense when it hears of a collision, and not otherwise.
All that it requests for an event is offered: by a component of an entity in the store, or by a rule
of the scene for the entity that the event is aimed at. `World.offers` lists what is offered.

`Conduct.routing` is the conduct of a director that requests nothing but what a set has, as long
as the world can be relied on to offer no more, and changes the world only as a relation says.
The lemmas follow the way from an event or an update down to the single request.
-/

namespace SceneLogic

/-! ## Offers -/

/-- The actions that a rule may select. -/
def Rule.calls (r : Rule) : List ActionCall :=
  r.actions ++ r.otherwise ++ r.conditions.flatMap (·.consequence)

/-- The request that a call makes for an entity. -/
def ActionCall.by (call : ActionCall) (entity : EntityId) : Request :=
  ⟨entity, call.kind, call.params⟩

/-- What a rule may request for an entity. -/
def Rule.offers (r : Rule) (entity : EntityId) : List Request :=
  r.calls.map (·.by entity)

namespace World

/-- What the components of the entities in the store may request. -/
def componentOffers (w : World) : List Request :=
  w.store.entries.flatMap fun x => x.2.components.flatMap fun c => c.rule.offers x.1

/-- What the rules of the scene may request for the target of an event. -/
def sceneOffers (w : World) : Option EntityId → List Request
  | none => []
  | some target => w.sceneRules.flatMap (·.offers target)

/-- What may be requested because of an event with such a target. -/
def offers (w : World) (target : Option EntityId) : List Request :=
  w.componentOffers ++ w.sceneOffers target

variable {w w' : World}

/-- Nothing more is offered when the rules stay and no component has come in. -/
theorem offers_subset (hrules : w'.sceneRules = w.sceneRules) (hstore : w.store.Narrows w'.store)
    (target : Option EntityId) : w'.offers target ⊆ w.offers target := by
  have hscene : w'.sceneOffers target = w.sceneOffers target := by
    cases target with
    | none => rfl
    | some id => rw [sceneOffers, hrules, sceneOffers]
  intro r hr
  rcases List.mem_append.mp hr with hr | hr
  · refine List.mem_append_left _ ?_
    obtain ⟨x, hx, hr⟩ := List.mem_flatMap.mp hr
    rcases hstore x hx with hnone | ⟨e, he, heq⟩
    · rw [hnone] at hr
      exact absurd hr List.not_mem_nil
    · exact List.mem_flatMap.mpr ⟨(x.1, e), he, by rw [heq]; exact hr⟩
  · exact List.mem_append_right _ (hscene ▸ hr)

theorem acted_evaluated (w : World) (entity : EntityId) (r : Rule) :
    w.Acted (w.record (.evaluated entity r)) :=
  ⟨w.tame_record rfl rfl, .single (.aside ⟨rfl, rfl, .refl w⟩ ⟨rfl, rfl, fun _ => rfl⟩), rfl, rfl⟩

/-- The answers of a frame are not about what entities sense. -/
@[simp] theorem senses_grant (w : World) (f : Frame → Bool × Frame) :
    (w.grant f).2.senses = w.senses := by
  unfold grant
  split
  · rfl
  · rfl

@[simp] theorem journal_grant (w : World) (f : Frame → Bool × Frame) :
    (w.grant f).2.journal = w.journal := by
  unfold grant
  split
  · rfl
  · rfl

@[simp] theorem library_grant (w : World) (f : Frame → Bool × Frame) :
    (w.grant f).2.library = w.library := by
  unfold grant
  split
  · rfl
  · rfl

@[simp] theorem senses_meet (w : World) (e : Event) (a b : EntityId) :
    (w.meet e a b).2.senses = w.senses :=
  w.senses_grant (·.grantCollision a b e.type)

/-- Components that answer to something are in the store. -/
theorem offers_of_component {id : EntityId} {accept : String → Bool} {c : Component}
    (h : c ∈ w.componentsOf id accept) : c.rule.offers id ⊆ w.componentOffers := by
  intro r hr
  unfold componentsOf at h
  split at h
  · next e he =>
    split at h
    · exact List.mem_flatMap.mpr ⟨(id, e), Dict.mem_of_get? he,
        List.mem_flatMap.mpr ⟨c, (List.mem_filter.mp h).1, hr⟩⟩
    · exact absurd h List.not_mem_nil
  · exact absurd h List.not_mem_nil

/-- Whoever has components that answer to something is live. -/
theorem isLive_of_component {id : EntityId} {accept : String → Bool} {c : Component}
    (h : c ∈ w.componentsOf id accept) : w.isLive id = true := by
  unfold componentsOf at h
  unfold isLive
  cases hfound : w.store.get? id with
  | none =>
    rw [hfound] at h
    exact absurd h List.not_mem_nil
  | some e =>
    rw [hfound] at h
    dsimp only at h ⊢
    cases hlive : e.isLive with
    | false =>
      rw [hlive] at h
      exact absurd h List.not_mem_nil
    | true => rfl

end World

/-! ## Rules -/

/-- The script is a request of an action that a set has. -/
inductive IsRequest (O : Request → Prop) : {β : Type} → Script β → Prop
  | mk (s : Situation) (call : ActionCall) : O (call.by s.entity) →
      IsRequest O (Director.request s call)

/-- What a director may do that requests only what a set has, and changes the world only as a
relation says. -/
def Conduct.routing (O : Request → Prop) (R S : World → World → Prop) : Conduct where
  step := S
  part := IsRequest O
  announces _ := False
  performs := False
  registers := False
  rely := R

section Rules

variable {c : Conduct} {w : World} {s : Situation} {β : Type}

/-- Goes on with the condition that was found to hold, if any. -/
theorem firstHolding_obeys (hc : c.Relies) (hcheck : c.checks) {conditions : List ConditionCall}
    {f : Option ConditionCall → Script β}
    (hf : ∀ found w', (∀ x, found = some x → x ∈ conditions) → c.rely w w' →
      (f found).Obeys c w') :
    ((Script.firstHolding s conditions).bind f).Obeys c w := by
  induction conditions generalizing w with
  | nil => exact hf none w nofun (hc.refl w)
  | cons x rest ih =>
    refine .check hcheck fun b v hv => ?_
    cases b with
    | true =>
      refine hf (some x) v (fun y hy => ?_) hv
      rw [← Option.some.inj hy]
      exact List.mem_cons_self
    | false =>
      refine ih fun found w' hfound hw' => ?_
      exact hf found w' (fun y hy => List.mem_cons_of_mem _ (hfound y hy)) (hc.trans hv hw')

theorem allHold_obeys (hcheck : c.checks) (conditions : List ConditionCall) :
    (Script.allHold s conditions).Obeys c w := by
  induction conditions generalizing w with
  | nil => exact .done
  | cons x rest ih =>
    refine .check hcheck fun b v _ => ?_
    split
    · exact ih
    · exact .done

/-- Goes on with the selected actions, which are some of the rule's. -/
theorem select_obeys (hc : c.Relies) (hcheck : c.checks) {r : Rule}
    {f : List ActionCall → Script β}
    (hf : ∀ calls w', calls ⊆ r.calls → c.rely w w' → (f calls).Obeys c w') :
    ((r.select s).bind f).Obeys c w := by
  have hactions : r.actions ⊆ r.calls :=
    fun _ h => List.mem_append_left _ (List.mem_append_left _ h)
  have hotherwise : r.otherwise ⊆ r.calls :=
    fun _ h => List.mem_append_left _ (List.mem_append_right _ h)
  unfold Rule.select
  split
  · rw [Script.bind_assoc]
    refine .bind hc (allHold_obeys hcheck _) fun b v hv => hf _ v ?_ hv
    split
    · exact hactions
    · exact hotherwise
  · split
    · exact hf _ w hactions (hc.refl w)
    · rw [Script.bind_assoc]
      refine firstHolding_obeys hc hcheck fun found v _ hv => hf _ v ?_ hv
      split
      · exact hactions
      · exact hotherwise
  · rw [Script.bind_assoc]
    refine firstHolding_obeys hc hcheck fun found v hfound hv => hf _ v ?_ hv
    split
    · next x =>
      exact fun _ h => List.mem_append_right _ (List.mem_flatMap.mpr ⟨x, hfound x rfl, h⟩)
    · exact hotherwise

end Rules

namespace Director

variable {O : Request → Prop} {R S : World → World → Prop} {w : World} {s : Situation}

/-- A request is judged before its action is performed. -/
theorem request_eq (s : Situation) (call : ActionCall) :
    request s call = .read fun w => .write (w.judge (call.by s.entity)).2
      (if (w.judge (call.by s.entity)).1 then Script.act call.kind s call.params
        else .done ()) := rfl

theorem request_obeys {call : ActionCall} (h : O (call.by s.entity)) :
    (request s call).Obeys (.routing O R S) w := by
  rw [← Script.bind_done (request s call)]
  exact .part (.mk s call h) fun _ _ _ => .done

variable (hc : (Conduct.routing O R S).Relies)
  (hS : ∀ {u v : World}, u.Acted v → u.senses.SameContacts v.senses → S u v)

include hc hS

theorem evaluate_obeys {r : Rule} (h : ∀ q ∈ r.offers s.entity, O q) :
    (r.evaluate s (request s)).Obeys (.routing O R S) w := by
  refine .bind hc (.read (.write (hS (w.acted_evaluated _ _) (.refl _)) .done)) fun _ u _ => ?_
  refine select_obeys hc trivial fun calls v hcalls _ => ?_
  refine .bind hc (.forEach hc fun call hcall _ _ => ?_) fun _ _ _ => .done
  exact request_obeys (h _ (List.mem_map_of_mem (hcalls hcall)))

theorem react_obeys {e : Event} {rules : List Rule}
    (h : ∀ r ∈ rules, ∀ q ∈ r.offers s.entity, O q) :
    (react e s rules (request s)).Obeys (.routing O R S) w := by
  refine .read (.ite (fun _ => .done) fun _ => ?_)
  refine .forEach hc fun r hr v _ => .bind hc ?_ fun _ _ _ => .done
  exact evaluate_obeys hc hS (h r (List.mem_filter.mp hr).1)

/-! ## Events -/

variable (hR : ∀ {target u v}, R u v → (∀ q ∈ u.offers target, O q) → ∀ q ∈ v.offers target, O q)

include hR

omit hc hS hR in
theorem situationFor_entity (w : World) (id : EntityId) (data : Params) :
    (w.situationFor id data).1.entity = id := by
  unfold World.situationFor
  split
  · rfl
  · rfl

theorem offer_obeys {e : Event} {id : EntityId} {data : Params} {withSceneRules : Bool}
    {target : Option EntityId} (h : ∀ q ∈ w.offers target, O q)
    (htarget : withSceneRules = true → target = some id) :
    (offer e id data withSceneRules).Obeys (.routing O R S) w := by
  refine .read ?_
  dsimp only
  split
  · exact .done
  · have hstep : (Conduct.routing O R S).step w (w.situationFor id data).2 :=
      hS (w.acted_situationFor id data) (w.contacts_situationFor id data)
    have hentity := situationFor_entity w id data
    refine .write hstep (.bind hc ?_ fun _ v hv => ?_)
    · split
      · exact .done
      · refine react_obeys hc hS fun r hr q hq => ?_
        obtain ⟨comp, hcomp, rfl⟩ := List.mem_map.mp hr
        rw [hentity] at hq
        exact h q (List.mem_append_left _ (World.offers_of_component hcomp hq))
    · split
      · next hscene =>
        -- The rules of the scene are read after the components have reacted.
        have hv : ∀ q ∈ v.offers target, O q := hR (hc.trans (hc.step hstep) hv) h
        rw [htarget (Bool.and_eq_true_iff.mp hscene).1] at hv
        refine .read (react_obeys hc hS fun r hr q hq => hv q (List.mem_append_right _ ?_))
        rw [hentity] at hq
        exact List.mem_flatMap.mpr ⟨r, hr, hq⟩
      · exact .done

theorem route_obeys {e : Event} (h : ∀ q ∈ w.offers e.target, O q) :
    (route e).Obeys (.routing O R S) w := by
  unfold route
  split
  · next target htarget => exact offer_obeys hc hS hR h fun _ => htarget
  · exact .read (.forEach hc fun id _ v hv => offer_obeys hc hS hR (hR hv h) nofun)

theorem collide_obeys {e : Event} (h : ∀ q ∈ w.offers e.target, O q)
    (htouch : ∀ {u v : World} (a b c c'), u.Acted v →
      v.senses = trackContact (trackContact u.senses e.type a c) e.type b c' → S u v) :
    (collide e).Obeys (.routing O R S) w := by
  unfold collide
  split
  · next a b _ _ =>
    refine .read ?_
    dsimp only
    have hsensed : ∀ senses, w.Acted { w with senses } := fun senses =>
      World.acted_of_same rfl rfl rfl rfl rfl rfl (.refl w.store) (World.pictured_of_store rfl rfl rfl)
    split
    · exact .write (htouch _ _ _ _ (hsensed _) rfl) .done
    · have hacted := (hsensed (trackContact (trackContact w.senses e.type a
        ⟨b, e.text? "tagB", e.text? "tagA"⟩) e.type b ⟨a, e.text? "tagA", e.text? "tagB"⟩)).trans
        (World.acted_meet _ e a b)
      have hstep : (Conduct.routing O R S).step w _ :=
        htouch _ _ _ _ hacted (World.senses_meet _ e a b)
      refine .write hstep ?_
      split
      · have h := hR (hc.step hstep) h
        refine .bind hc (offer_obeys hc hS hR h nofun) fun _ v hv => ?_
        exact offer_obeys hc hS hR (hR hv h) nofun
      · exact .done
  · exact .done

omit hc hS hR in
/-- A claim of start logic is about nothing else. -/
theorem acted_claimStart (w : World) (e : Event) (id : EntityId) (c : Component) :
    w.Acted (claimStart w e id c).2 := by
  have hclaim : Relation.ReflTransGen World.ClaimCall w (claimStart w e id c).2 :=
    .single (.claim w e id c)
  revert hclaim
  unfold claimStart
  cases hd : w.director with
  | none => exact fun _ => .refl w
  | some d =>
    have hturns : w.SameTurns (World.record
        { w with director := some { d with started := (Frame.grant d.started (id, c.id)).2 } }
        (.ofStart (.heard e id c (Frame.grant d.started (id, c.id)).1))) :=
      ⟨by simp only [World.ticked?, World.record, hd, Option.map_some], rfl⟩
    refine fun hclaim => ⟨⟨⟨?_, rfl⟩, ?_, ?_, .refl w.store, .single (.other ⟨?_, rfl⟩), rfl,
      .single (.other (World.sameWrites_of_library rfl rfl)), .single (.other ⟨rfl, rfl⟩), hclaim,
      .single (.other hturns), World.pictured_of_store rfl rfl rfl, .single (.other ⟨rfl, rfl⟩)⟩,
      .single (.aside ⟨rfl, rfl, .refl w⟩ ⟨rfl, rfl, fun _ => rfl⟩), hturns⟩
    · simp only [World.claims?, World.record, hd, Option.map_some]
    · simp only [World.sceneRules, World.record, hd, Option.map_some]
    · simp only [World.subscription?, World.record, hd, Option.bind_some]
    · simp only [World.pairs?, World.record, hd, Option.map_some]

omit hc hS hR in
theorem claimStarts_acted (e : Event) (id : EntityId) (components : List Component) (w : World) :
    w.Acted (claimStarts e id components w).2 := by
  induction components generalizing w with
  | nil => exact .refl w
  | cons c rest ih => exact (acted_claimStart w e id c).trans (ih _)

omit hc hS hR in
/-- The components whose start logic is run are in the store. -/
theorem freshStarts_spec (w : World) (e : Event) (id : EntityId) :
    w.Acted (freshStarts w e id).2 ∧ (freshStarts w e id).2.senses = w.senses ∧
      ∀ r ∈ (freshStarts w e id).1, r.offers id ⊆ w.componentOffers := by
  refine ⟨claimStarts_acted e id _ w, (claimStarts_claims e id _ w).senses, fun r hr => ?_⟩
  obtain ⟨c, hc, rfl⟩ := List.mem_map.mp ((claimStarts_sublist e id _ w).subset hr)
  exact World.offers_of_component hc

omit hR in
theorem startEntity_obeys {e : Event} {id : EntityId} {target : Option EntityId}
    (h : ∀ q ∈ w.offers target, O q) : (startEntity e id).Obeys (.routing O R S) w := by
  obtain ⟨hacted, hsenses, hrules⟩ := freshStarts_spec w e id
  refine .read ?_
  dsimp only
  split
  · exact .write (hS hacted (by rw [hsenses]; exact .refl _)) .done
  · have hentity := situationFor_entity (freshStarts w e id).2 id e.data
    have hcontacts := (freshStarts w e id).2.contacts_situationFor id e.data
    rw [hsenses] at hcontacts
    refine .write (hS (hacted.trans (World.acted_situationFor _ id e.data)) hcontacts) ?_
    refine react_obeys hc hS fun r hr q hq => h q (List.mem_append_left _ ?_)
    rw [hentity] at hq
    exact hrules r hr hq

theorem start_obeys {e : Event} (h : ∀ q ∈ w.offers e.target, O q) :
    (start e).Obeys (.routing O R S) w := by
  unfold start
  split
  · exact startEntity_obeys hc hS h
  · exact .read (.forEach hc fun id _ v hv => startEntity_obeys hc hS (hR hv h))

omit hc hS hR in
theorem takeSignal_acted {w : World} {e : Event} (htype : e.type = EventType.eventSignal)
    (hplaying : w.isPlaying = true) :
    w.Acted (takeSignal w e) ∧ w.senses.SameContacts (takeSignal w e).senses := by
  have hsignals : Relation.ReflTransGen World.SignalCall w (takeSignal w e) :=
    .single (.hear w e htype hplaying)
  revert hsignals
  unfold takeSignal
  split
  · exact fun hsignals => ⟨World.acted_of_item rfl rfl rfl rfl rfl rfl rfl
      (.single (.other ⟨rfl, rfl⟩)) hsignals, .refl _⟩
  · dsimp only
    split
    · exact fun hsignals => ⟨World.acted_of_item rfl rfl rfl rfl rfl rfl rfl
        (.single (.other ⟨rfl, rfl⟩)) hsignals, w.senses.sameContacts_setSignal _ _ _⟩
    · exact fun hsignals => ⟨World.acted_of_item rfl rfl rfl rfl rfl rfl rfl
        (.single (.other ⟨rfl, rfl⟩)) hsignals, .refl _⟩

/-- What the director does about an event. -/
theorem handle_obeys {e : Event} (h : ∀ q ∈ w.offers e.target, O q)
    (htouch : isCollision e.type = true → ∀ {u v : World} (a b c c'), u.Acted v →
      v.senses = trackContact (trackContact u.senses e.type a c) e.type b c' → S u v) :
    (handle e).Obeys (.routing O R S) w := by
  unfold handle
  split
  · next hcollision => exact collide_obeys hc hS hR h (htouch hcollision)
  · refine .read ?_
    split
    · exact .done
    · next hplaying =>
      split
      · exact start_obeys hc hS hR h
      · split
        · split
          · exact offer_obeys hc hS hR h nofun
          · exact .done
        · split
          · exact .done
          · split
            · next htype =>
              obtain ⟨hacted, hcontacts⟩ := takeSignal_acted htype (by simpa using hplaying)
              have hstep : (Conduct.routing O R S).step w (takeSignal w e) :=
                hS hacted hcontacts
              exact .write hstep (route_obeys hc hS hR (hR (hc.step hstep) h))
            · exact route_obeys hc hS hR h

theorem listener_obeys {e : Event} (h : ∀ q ∈ w.offers e.target, O q)
    (htouch : isCollision e.type = true → ∀ {u v : World} (a b c c'), u.Acted v →
      v.senses = trackContact (trackContact u.senses e.type a c) e.type b c' → S u v) :
    (listener e).Obeys (.routing O R S) w :=
  .bind hc (handle_obeys hc hS hR h htouch) fun _ _ _ => .done

/-! ## Updates -/

omit hc hS hR in
theorem senses_takeTurn (w : World) (id : EntityId) (component : String) :
    (takeTurn w id component).2.senses = w.senses := by
  rw [← w.senses_grant (·.grantComponent id component)]
  unfold takeTurn
  dsimp only
  split
  · rfl
  · rfl

variable (hturn : ∀ (u : World) (id : EntityId) (component : String),
  S u (takeTurn u id component).2)

include hturn

omit hR in
theorem updateComponents_obeys {id : EntityId} {dt : Float} {comps : List Component}
    (h : ∀ c ∈ comps, ∀ q ∈ c.rule.offers id, O q) :
    (updateComponents id dt comps).Obeys (.routing O R S) w := by
  induction comps generalizing w with
  | nil => exact .done
  | cons c rest ih =>
    have hrest := fun c' h' => h c' (List.mem_cons_of_mem _ h')
    refine .read (.write (hturn w id c.id) ?_)
    refine .ite (fun _ => ih hrest) fun _ => .ite (fun _ => .done) fun _ => ?_
    refine .write (hS (World.acted_situationFor _ id _) (World.contacts_situationFor _ id _)) ?_
    refine .bind hc (evaluate_obeys hc hS fun q hq => ?_) fun _ v _ => ih hrest
    change q ∈ c.rule.offers (World.situationFor _ id [("dt", .float dt)]).1.entity at hq
    rw [situationFor_entity] at hq
    exact h c List.mem_cons_self q hq

omit hR in
theorem updateEntity_obeys {id : EntityId} {dt : Float} (h : ∀ q ∈ w.offers none, O q) :
    (updateEntity dt id).Obeys (.routing O R S) w :=
  .read (updateComponents_obeys hc hS hturn fun _ hcomp q hq =>
    h q (List.mem_append_left _ (World.offers_of_component hcomp hq)))

theorem updateEntities_obeys {dt : Float} (ids : List EntityId) (h : ∀ q ∈ w.offers none, O q) :
    (Script.forEach ids (updateEntity dt)).Obeys (.routing O R S) w :=
  .forEach hc fun _ _ _ hv => updateEntity_obeys hc hS hturn (hR hv h)

end Director

end SceneLogic
