import Mathlib.Data.List.Dedup
import Mathlib.Data.List.Perm.Subperm
import SceneLogic.Proofs.Director.Cascade

/-!
# Every event and every update comes to an end

With the default actions and conditions, and nobody listening but the director, each announcement
of the host and each update has a result, however rules set each other off. In one frame no more
actions are performed than there are different offers: by the components of the entities in the
store, and by the rules of the scene for the targets of the events that the host announced.
-/

namespace SceneLogic

/-! ## Calls of the host -/

section Calls

variable {m : Machine} {offers : List Request} {target : Option EntityId} {w : World}
  {depth : Nat}

theorem announce_returns (hm : m.Standard) (hdeep : ∀ r ∈ offers, r.tooDeep = false)
    (hw : w.Bounded offers target offers.length) (hdepth : 2 * offers.length + 2 ≤ depth)
    (type : String) (data : Params) : (Script.announce type data target).Returns
      (Service.atDepth depth) m (World.Routed offers) w := by
  have hrecord : w.Routed offers _ :=
    World.routed_emitted w (Machine.event { m with world := w } type data target)
  obtain ⟨w', hdeliver, hrel⟩ := delivers hm hdeep offers.length depth hdepth
    (Machine.event { m with world := w } type data target) _ (Or.inr rfl) (hw.routed hrecord)
  exact ⟨(), w', Option.bind_eq_some_iff.mpr ⟨_, hdeliver, rfl⟩, hrecord.trans hrel⟩

/-- The world in which an update begins its work. -/
abbrev World.updated (w : World) : World :=
  (w.openFrame w.clock w.settings.threshold).2

/-- The entities that are updated one after the other have their results. -/
theorem updateEntities_return (hm : m.Standard) (hdeep : ∀ r ∈ offers, r.tooDeep = false)
    (hw : w.Bounded offers none offers.length) (hdepth : 2 * offers.length + 2 ≤ depth)
    (dt : Float) (ids : List EntityId) : (Script.forEach ids (Director.updateEntity dt)).Returns
      (Service.atDepth (depth + 1)) m (World.Routed offers) w := by
  have hperforms : ∀ k < offers.length, (Service.atDepth (depth + 1)).Performs m offers none k :=
    fun k hk => performs hm hdeep k _ (by omega)
  have hobeys : (Script.forEach ids (Director.updateEntity dt)).Obeys
      (.routing (· ∈ offers) (World.Routed offers) World.Tame) w :=
    Director.updateEntities_obeys routing_relies (fun hacted _ => hacted.toTame)
      (fun hrel hu q hq => hu q (hrel.offers_subset _ hq)) World.tame_takeTurn ids hw.within
  exact hobeys.returns routing_relies id World.routed_emitted (fun hv hrel => hv.routed hrel)
    (routing_answers hm hdeep hperforms) hw

/-- Modules have results where the actions that they perform have. -/
theorem updateModules_returns (h : (Service.atDepth depth).Performs m offers target offers.length)
    (hw : w.Bounded offers target offers.length) (time dt : Float) :
    (updateModules time dt).Returns (Service.atDepth depth) m (World.Routed offers) w := by
  have hservice : (Service.atDepth depth).Answers m (Conduct.stepping.under (World.Routed offers))
      (World.Bounded offers target offers.length) :=
    ⟨fun _ _ h => h.elim, fun name s params v _ hv => h name s params v hv,
      fun _ _ _ _ h => h.elim, fun _ h => h.elim⟩
  have hobeys : (updateModules time dt).Obeys (Conduct.stepping.under (World.Routed offers)) w :=
    (updateModules_steps time dt w).under stepping_relies (fun _ _ => trivial) id
  exact hobeys.returns stepping_relies id World.routed_emitted (fun hv hrel => hv.routed hrel)
    hservice hw

theorem update_returns (hm : m.Standard) (hdeep : ∀ r ∈ offers, r.tooDeep = false)
    (hw : w.updated.Bounded offers none offers.length) (hdepth : 2 * offers.length + 3 ≤ depth)
    (dt : Float) : ∃ reports w',
      (Director.update dt).run (Service.atDepth depth) { m with world := w } =
        some (reports, { m with world := w' }) ∧ w.updated.Routed offers w' := by
  obtain ⟨depth, rfl⟩ : ∃ d, depth = d + 1 := ⟨depth - 1, by omega⟩
  have hsteady := World.routed_steady offers
  have hperforms : (Service.atDepth (depth + 1)).Performs m offers none offers.length :=
    performs hm hdeep offers.length (depth + 1) hdepth
  have hend : ∀ (newFrame : Bool) (results : List ModuleReport) v,
      (Script.read fun v => .write (if newFrame then { v with senses := v.senses.beginFrame } else v)
        (.done results)).Returns (Service.atDepth (depth + 1)) m (World.Routed offers) v := by
    intro newFrame results v
    refine ⟨results, _, rfl, World.routed_of_tame ?_⟩
    cases newFrame with
    | false => exact .refl v
    | true =>
      exact World.tame_of_director rfl (World.quiet_of_journal rfl) rfl rfl rfl (.refl v.store)
        (World.pictured_of_store rfl rfl rfl)
  -- First each entity gets its event, then the modules go on, and last the senses are cleared.
  obtain ⟨reports, w', hrun, hrel⟩ := Script.Returns.bind hsteady
    (updateEntities_return hm hdeep hw (by omega) dt
      (w.grant (·.begin w.clock w.settings.threshold)).2.store.ids) fun _ u hu =>
      Script.Returns.bind hsteady (updateModules_returns hperforms (hw.routed hu) 0 dt)
        fun results v _ => hend (w.openFrame w.clock w.settings.threshold).1 results v
  exact ⟨reports, w', hrun, hrel⟩

end Calls

/-! ## Runs -/

/-- A run, with all that was offered since the present frame began: the host announces events, runs
updates, and changes what it likes apart from the frames. No offer nests too deep. -/
inductive Machine.Played (m : Machine) : List Request → Machine → Prop
  | refl : Played m [] m
  | announce {m₁ m₂ : Machine} {offers : List Request} {depth : Nat} {type : String}
      {data : Params} {target : Option EntityId} : Played m offers m₁ →
      (∀ r ∈ m₁.world.offers target, r.tooDeep = false) →
      (Script.announce type data target).run (Service.atDepth depth) m₁ = some ((), m₂) →
      Played m (m₁.world.offers target ++ offers) m₂
  | update {m₁ m₂ : Machine} {offers : List Request} {depth : Nat} {dt : Float}
      {reports : List ModuleReport} : Played m offers m₁ →
      (∀ r ∈ m₁.world.offers none, r.tooDeep = false) →
      (Director.update dt).run (Service.atDepth depth) m₁ = some (reports, m₂) →
      Played m (m₁.world.offers none ++
        if (m₁.world.openFrame m₁.world.clock m₁.world.settings.threshold).1 then [] else offers) m₂
  | host {m₁ : Machine} {offers : List Request} {w : World} : Played m offers m₁ →
      m₁.world.SameFrames w → Played m offers { m₁ with world := w }

/-- The machine is the same apart from the world, the director is there, and the requests of the
present frame were offered. -/
structure Machine.Booked (m : Machine) (offers : List Request) : Prop where
  standard : m.Standard
  claims : ∃ claims, m.world.claims? = some claims
  log : ∀ a ∈ m.world.frameLog.present, a.request ∈ offers
  deep : ∀ r ∈ offers, r.tooDeep = false

namespace Machine

variable {m m₁ : Machine} {offers : List Request}

theorem Standard.withWorld (h : m.Standard) (w : World) : Standard { m with world := w } :=
  ⟨h.listeners, h.actions, h.conditions⟩

theorem Booked.bounded (h : m.Booked offers) (target : Option EntityId) :
    m.world.Bounded (m.world.offers target) target (m.world.offers target).length := by
  obtain ⟨claims, hclaims⟩ := h.claims
  exact ⟨List.Subset.refl _, claims, hclaims, unclaimed_le_length⟩

/-- What a call leads to when the director routes no more than was offered at its start. -/
theorem Booked.routed (h : m.Booked offers) {new : List Request} {w : World}
    (hdeep : ∀ r ∈ new, r.tooDeep = false) (hw : m.world.Routed new w) :
    Booked { m with world := w } (new ++ offers) where
  standard := h.standard.withWorld w
  claims := by
    obtain ⟨claims, hclaims⟩ := h.claims
    obtain ⟨claims', hclaims', _⟩ := hw.claims claims hclaims
    exact ⟨claims', hclaims'⟩
  log := by
    obtain ⟨asks, hlog, hasks⟩ := hw.log
    intro a ha
    rw [hlog] at ha
    rcases List.mem_append.mp ha with ha | ha
    · exact List.mem_append_left _ (hasks a ha)
    · exact List.mem_append_right _ (h.log a ha)
  deep := by
    intro r hr
    rcases List.mem_append.mp hr with hr | hr
    · exact hdeep r hr
    · exact h.deep r hr

/-- A frame that opens has no requests yet. -/
theorem Booked.updated (h : m.Booked offers) :
    Booked { m with world := m.world.updated }
        (if (m.world.openFrame m.world.clock m.world.settings.threshold).1 then [] else offers) ∧
      m.world.updated.offers none ⊆ m.world.offers none := by
  obtain ⟨claims, hclaims⟩ := h.claims
  obtain ⟨newFrame, w', heq, hrules, hstore, hcases⟩ :=
    World.openFrame_cases hclaims m.world.clock m.world.settings.threshold
  unfold World.updated
  rw [heq]
  refine ⟨?_, World.offers_subset hrules (by rw [hstore]; exact .refl _) none⟩
  rcases hcases with ⟨rfl, hsame⟩ | ⟨rfl, hclaims', hlog⟩
  · refine ⟨h.standard.withWorld w', ⟨claims, hsame.claims.trans hclaims⟩, ?_, h.deep⟩
    show ∀ a ∈ w'.frameLog.present, a.request ∈ offers
    rw [hsame.log]
    exact h.log
  · refine ⟨h.standard.withWorld w', ⟨[], hclaims'⟩, ?_, nofun⟩
    show ∀ a ∈ w'.frameLog.present, a.request ∈ []
    rw [hlog]
    exact nofun

theorem Booked.announce_ends (h : m.Booked offers) {target : Option EntityId}
    (hdeep : ∀ r ∈ m.world.offers target, r.tooDeep = false) (type : String) (data : Params) :
    ∃ depth w, (Script.announce type data target).run (Service.atDepth depth) m =
        some ((), { m with world := w }) ∧ m.world.Routed (m.world.offers target) w := by
  obtain ⟨_, w, hrun, hrel⟩ := announce_returns h.standard hdeep (h.bounded target)
    (Nat.le_refl _) type data
  exact ⟨_, w, hrun, hrel⟩

theorem Booked.update_ends (h : m.Booked offers)
    (hdeep : ∀ r ∈ m.world.offers none, r.tooDeep = false) (dt : Float) :
    ∃ depth reports w, (Director.update dt).run (Service.atDepth depth) m =
        some (reports, { m with world := w }) ∧
      m.world.updated.Routed (m.world.offers none) w := by
  obtain ⟨hupdated, hsub⟩ := h.updated
  obtain ⟨claims, hclaims⟩ := hupdated.claims
  obtain ⟨reports, w, hrun, hrel⟩ := update_returns h.standard hdeep
    ⟨hsub, claims, hclaims, unclaimed_le_length⟩ (Nat.le_refl _) dt
  exact ⟨_, reports, w, hrun, hrel⟩

namespace Played

variable {m' : Machine}

theorem booked (hm : m.Standard) (hnew : m.world.NoFramesYet) (h : m.Played offers m') :
    m'.Booked offers := by
  induction h with
  | refl =>
    refine ⟨hm, ⟨[], hnew.claims⟩, ?_, nofun⟩
    rw [hnew.log]
    exact nofun
  | announce _ hdeep hrun ih =>
    -- The run had some depth of its own, but there is one result only.
    obtain ⟨depth, w, hends, hrel⟩ := ih.announce_ends hdeep _ _
    cases Script.run_unique hrun hends
    exact ih.routed hdeep hrel
  | update _ hdeep hrun ih =>
    obtain ⟨depth, reports, w, hends, hrel⟩ := ih.update_ends hdeep _
    cases Script.run_unique hrun hends
    exact ih.updated.1.routed hdeep hrel
  | @host m₁ offers w _ hsame ih =>
    obtain ⟨claims, hclaims⟩ := ih.claims
    refine ⟨ih.standard.withWorld w, ⟨claims, hsame.claims.trans hclaims⟩, ?_, ih.deep⟩
    show ∀ a ∈ w.frameLog.present, a.request ∈ offers
    rw [hsame.log]
    exact ih.log

theorem directed (h : m.Played offers m') : m.Directed m' := by
  induction h with
  | refl => exact .refl
  | announce _ _ hrun ih => exact .announce ih hrun
  | update _ _ hrun ih => exact .update ih hrun
  | @host m₁ offers w _ hsame ih =>
    have hrun : (Script.setWorld w).run (Service.atDepth 0) m₁ =
      some ((), { m₁ with world := w }) := rfl
    exact .script ih (.write (.other hsame) .done) hrun

/-- What was granted in the present frame was offered, and was granted once. -/
theorem granted (hm : m.Standard) (hnew : m.world.NoFramesYet) (h : m.Played offers m') :
    grantedOf m'.world.frameLog.present ⊆ offers ∧
      (grantedOf m'.world.frameLog.present).Nodup := by
  have hbooked := h.booked hm hnew
  have hobeys := hm.obeys_roomy Conduct.frames_roomy
  obtain ⟨_, hbooks⟩ := h.directed.runs.leads Conduct.frames_keeps hobeys
  have hjudged := (hbooks hnew.accounted).judged m'.world.frameLog.present List.mem_cons_self
  have hoffered : ∀ r ∈ requestsOf m'.world.frameLog.present, r ∈ offers := by
    intro r hr
    obtain ⟨a, ha, rfl⟩ := List.mem_map.mp hr
    exact hbooked.log a ha
  rw [hjudged.grantedOf_eq]
  refine ⟨fun r hr => hoffered r (withoutRepeats_subset _ hr), ?_⟩
  exact withoutRepeats_nodup fun r hr => hbooked.deep r (hoffered r hr)

end Played

end Machine

/-- At every moment of a run each announcement and each update comes to an end, and in the present
frame no more actions were performed than there are different offers. -/
theorem cascades_end {m m' : Machine} {offers : List Request} (hm : m.Standard)
    (hnew : m.world.NoFramesYet) (h : m.Played offers m') :
    (∀ type data target, (∀ r ∈ m'.world.offers target, r.tooDeep = false) →
      (Script.announce type data target).Ends m') ∧
    (∀ dt, (∀ r ∈ m'.world.offers none, r.tooDeep = false) → (Director.update dt).Ends m') ∧
    grantedOf m'.world.frameLog.present ⊆ offers ∧
    (grantedOf m'.world.frameLog.present).length ≤ offers.dedup.length := by
  have hbooked := h.booked hm hnew
  obtain ⟨hoffered, hnodup⟩ := h.granted hm hnew
  refine ⟨fun type data target hdeep => ?_, fun dt hdeep => ?_, hoffered, ?_⟩
  · obtain ⟨depth, w, hrun, _⟩ := hbooked.announce_ends hdeep type data
    exact Script.ends_of_run hrun
  · obtain ⟨depth, reports, w, hrun, _⟩ := hbooked.update_ends hdeep dt
    exact Script.ends_of_run hrun
  · refine (List.subperm_of_subset hnodup fun r hr => ?_).length_le
    exact List.mem_dedup.mpr (hoffered hr)

/-! ## A wound that bleeds -/

namespace Bleeding

/-- The hero. -/
def hero : EntityId :=
  ⟨"hero"⟩

/-- Takes one more hit point. -/
def bleed : ActionCall :=
  ⟨"TakeDamage", [("amount", .int 1)]⟩

/-- Plays a sound. -/
def groan : ActionCall :=
  ⟨"PlaySound", [("soundKey", .text "groan")]⟩

/-- A scene in which a hero who loses hit points loses more, and groans. -/
def machine : Machine :=
  let m : Machine :=
    { world :=
        { director := some { rules := [{ event := "HP_CHANGED", actions := [groan] }] }
          store := .insert {}
            { id := hero, vars := [⟨"hp", .int 3, .int⟩]
              components := [⟨"wound", true, { event := "HP_CHANGED", actions := [bleed] }⟩] } }
      listeners := [(1, Director.listener)] }
  m.withDefaultActions.withDefaultConditions

theorem machine_standard : machine.Standard :=
  Machine.standard_withDefaults rfl rfl rfl

/-- What an event for the hero may lead to. -/
theorem offers_hero : machine.world.offers (some hero) = [bleed.by hero, groan.by hero] := rfl

end Bleeding

/-- When the hero is hit, the loss of hit points is announced, which takes more of them. This ends,
and so does whatever the host announces next; two actions were performed at most. -/
theorem bleeding_ends : ∃ m, Bleeding.machine.Standard ∧ Bleeding.machine.world.NoFramesYet ∧
    Bleeding.machine.Played [Bleeding.bleed.by Bleeding.hero, Bleeding.groan.by Bleeding.hero] m ∧
    (∀ type data target, (∀ r ∈ m.world.offers target, r.tooDeep = false) →
      (Script.announce type data target).Ends m) ∧
    (grantedOf m.world.frameLog.present).length ≤ 2 := by
  have hstandard := Bleeding.machine_standard
  have hnew : Bleeding.machine.world.NoFramesYet := ⟨rfl, rfl⟩
  have hdeep : ∀ r ∈ Bleeding.machine.world.offers (some Bleeding.hero), r.tooDeep = false := by
    rw [Bleeding.offers_hero]
    decide
  obtain ⟨depth, ⟨_, m⟩, hrun⟩ := (cascades_end hstandard hnew .refl).1 EventType.hpChanged []
    (some Bleeding.hero) hdeep
  have hplayed := Machine.Played.announce .refl hdeep (hrun 0)
  rw [Bleeding.offers_hero] at hplayed
  obtain ⟨hends, _, _, hcount⟩ := cascades_end hstandard hnew hplayed
  exact ⟨m, hstandard, hnew, hplayed, hends, hcount⟩

end SceneLogic
