import SceneLogic.Proofs.Director.Granting
import SceneLogic.Proofs.Returning

/-!
# Cascades come to an end

Rules may set each other off for ever: an action announces an event, the director routes it to
rules, and these request the same action again. What bounds such a cascade is the frame. While an
event is handled nothing is offered that was not offered at its start, so each action that is
performed takes one of finitely many offers, and no offer is taken twice.

* `World.Routed` — what becomes of the world while the director is at work
* `World.Bounded` — the offers are among those of a list, of which so many are not taken yet
* `Service.Delivers`, `Service.Performs` — events and actions have results; two more levels of
  depth are needed for each offer that is not taken yet
-/

namespace SceneLogic

/-! ## What is left to request -/

/-- The number of offers that have not been claimed. -/
def unclaimed (offers claims : List Request) : Nat :=
  offers.countP fun r => decide (r ∉ claims)

section Unclaimed

variable {offers claims claims' : List Request} {r : Request}

theorem unclaimed_le_length : unclaimed offers claims ≤ offers.length :=
  List.countP_le_length

theorem unclaimed_mono (h : claims ⊆ claims') :
    unclaimed offers claims' ≤ unclaimed offers claims := by
  refine List.countP_mono_left fun r _ hr => ?_
  exact decide_eq_true fun hmem => of_decide_eq_true hr (h hmem)

/-- A claim of an offer leaves fewer. -/
theorem unclaimed_cons_lt (hr : r ∈ offers) (hnew : r ∉ claims) :
    unclaimed offers (r :: claims) < unclaimed offers claims := by
  have hmono : ∀ offers, unclaimed offers (r :: claims) ≤ unclaimed offers claims :=
    fun _ => unclaimed_mono (List.subset_cons_self r claims)
  unfold unclaimed at *
  induction offers with
  | nil => exact absurd hr List.not_mem_nil
  | cons q rest ih =>
    have hrest := hmono rest
    rw [List.countP_cons, List.countP_cons]
    -- The offer that is claimed may occur again in the rest, which then has no fewer.
    by_cases hq : q = r
    · subst hq
      have hclaimed : decide (q ∉ q :: claims) = false := by simp
      have hfree : decide (q ∉ claims) = true := decide_eq_true hnew
      rw [hclaimed, hfree, if_neg Bool.false_ne_true, if_pos rfl]
      omega
    · have hrest := ih ((List.mem_cons.mp hr).resolve_left (Ne.symm hq))
      have hsame : decide (q ∉ r :: claims) = decide (q ∉ claims) := by
        simp [hq]
      rw [hsame]
      omega

end Unclaimed

/-! ## What a cascade changes -/

namespace World

/-- What becomes of the world while the director is at work: the rules stay, no component comes
in, what was granted stays so, and the requests are among those of a list. -/
structure Routed (offers : List Request) (w w' : World) : Prop where
  rules : w'.sceneRules = w.sceneRules
  store : w.store.Narrows w'.store
  claims : ∀ claims, w.claims? = some claims → ∃ claims', w'.claims? = some claims' ∧
    claims ⊆ claims'
  log : ∃ asks, w'.frameLog = { w.frameLog with present := asks ++ w.frameLog.present } ∧
    ∀ a ∈ asks, a.request ∈ offers

/-- The director can work: only requests of a list are offered, of which so many at most are not
claimed yet. -/
structure Bounded (offers : List Request) (target : Option EntityId) (n : Nat) (w : World) :
    Prop where
  within : w.offers target ⊆ offers
  claims : ∃ claims, w.claims? = some claims ∧ unclaimed offers claims ≤ n

variable {offers : List Request} {target : Option EntityId} {n : Nat} {w w' : World}

theorem routed_of_tame (h : w.Tame w') : w.Routed offers w' where
  rules := h.rules
  store := h.store
  claims := fun claims hclaims => ⟨claims, h.claims.trans hclaims, List.Subset.refl claims⟩
  log := ⟨[], h.log, nofun⟩

theorem Routed.refl (w : World) : w.Routed offers w :=
  routed_of_tame (.refl w)

theorem Routed.trans {u v w : World} (h : u.Routed offers v) (h' : v.Routed offers w) :
    u.Routed offers w where
  rules := h'.rules.trans h.rules
  store := h.store.trans h'.store
  claims := by
    intro claims hclaims
    obtain ⟨claims₁, h₁, hsub₁⟩ := h.claims claims hclaims
    obtain ⟨claims₂, h₂, hsub₂⟩ := h'.claims claims₁ h₁
    exact ⟨claims₂, h₂, List.Subset.trans hsub₁ hsub₂⟩
  log := by
    obtain ⟨asks₁, h₁, hasks₁⟩ := h.log
    obtain ⟨asks₂, h₂, hasks₂⟩ := h'.log
    refine ⟨asks₂ ++ asks₁, ?_, fun a ha => ?_⟩
    · rw [h₂, h₁, List.append_assoc]
    · rcases List.mem_append.mp ha with ha | ha
      · exact hasks₂ a ha
      · exact hasks₁ a ha

theorem routed_steady (offers : List Request) : Steady (Routed offers) :=
  ⟨fun w => .refl w, fun h h' => h.trans h'⟩

theorem routed_emitted (w : World) (e : Event) : w.Routed offers (w.record (.emitted e)) where
  rules := rfl
  store := .refl w.store
  claims := fun claims hclaims => ⟨claims, hclaims, List.Subset.refl claims⟩
  log := ⟨[], rfl, nofun⟩

theorem Routed.offers_subset (h : w.Routed offers w') (target : Option EntityId) :
    w'.offers target ⊆ w.offers target :=
  World.offers_subset h.rules h.store target

theorem Bounded.routed (hw : w.Bounded offers target n) (h : w.Routed offers w') :
    w'.Bounded offers target n where
  within := List.Subset.trans (h.offers_subset target) hw.within
  claims := by
    obtain ⟨claims, hclaims, hn⟩ := hw.claims
    obtain ⟨claims', hclaims', hsub⟩ := h.claims claims hclaims
    exact ⟨claims', hclaims', Nat.le_trans (unclaimed_mono hsub) hn⟩

/-- A request of the list is refused, or it is granted and leaves fewer offers. -/
theorem Bounded.judge (hw : w.Bounded offers target n) {r : Request} (hr : r ∈ offers)
    (hdeep : r.tooDeep = false) : ∃ granted w', w.judge r = (granted, w') ∧
      w.Routed offers w' ∧ (granted = true → ∃ k < n, w'.Bounded offers target k) := by
  obtain ⟨claims, hclaims, hn⟩ := hw.claims
  obtain ⟨granted, w', heq, hrules, hstore, hlog, hcases⟩ := judge_cases hclaims r
  have hrouted : (∃ claims', w'.claims? = some claims' ∧ claims ⊆ claims') →
      w.Routed offers w' := by
    intro hgrown
    refine ⟨hrules, by rw [hstore]; exact .refl w.store, fun claims₁ h₁ => ?_, ?_⟩
    · rw [hclaims] at h₁
      exact Option.some.inj h₁ ▸ hgrown
    · refine ⟨[⟨r, granted⟩], hlog, fun a ha => ?_⟩
      rw [List.mem_singleton.mp ha]
      exact hr
  refine ⟨granted, w', heq, ?_⟩
  rcases hcases with ⟨hdeep', _⟩ | ⟨_, _, rfl, hsame⟩ | ⟨_, hnew, rfl, hgrown⟩
  · rw [hdeep] at hdeep'
    cases hdeep'
  · exact ⟨hrouted ⟨claims, hsame, List.Subset.refl claims⟩, nofun⟩
  · have hrouted := hrouted ⟨_, hgrown, List.subset_cons_self r claims⟩
    refine ⟨hrouted, fun _ => ⟨unclaimed offers (r :: claims), ?_, ?_⟩⟩
    · exact Nat.lt_of_lt_of_le (unclaimed_cons_lt hr hnew) hn
    · exact ⟨(hw.routed hrouted).within, _, hgrown, Nat.le_refl _⟩

end World

/-! ## Events and actions have results -/

namespace Service

/-- Every event that is aimed at nobody or at the target is delivered, in worlds with so many
offers that are not claimed. -/
def Delivers (service : Service) (m : Machine) (offers : List Request) (target : Option EntityId)
    (n : Nat) : Prop :=
  ∀ e w, e.target = none ∨ e.target = target → w.Bounded offers target n → ∃ w',
    service.deliver e { m with world := w } = some { m with world := w' } ∧ w.Routed offers w'

/-- Every action is performed, in worlds with so many offers that are not claimed. -/
def Performs (service : Service) (m : Machine) (offers : List Request) (target : Option EntityId)
    (n : Nat) : Prop :=
  ∀ name s params w, w.Bounded offers target n → ∃ w',
    service.perform name s params { m with world := w } = some { m with world := w' } ∧
      w.Routed offers w'

end Service

section Results

variable {m : Machine} {offers : List Request} {target : Option EntityId} {n depth : Nat}

theorem acting_relies : (Conduct.acting.under (World.Routed offers)).Relies where
  toSteady := World.routed_steady offers
  step h := World.routed_of_tame h.toTame

theorem looking_relies : (Conduct.looking.under (World.Routed offers)).Relies where
  toSteady := World.routed_steady offers
  step h := World.routed_of_tame h.toTame

theorem stepping_relies : (Conduct.stepping.under (World.Routed offers)).Relies where
  toSteady := World.routed_steady offers
  step h := World.routed_of_tame h.toTame

theorem routing_relies :
    (Conduct.routing (· ∈ offers) (World.Routed offers) World.Tame).Relies where
  toSteady := World.routed_steady offers
  step := World.routed_of_tame

/-- The default conditions have results, and need no depth of their own. -/
theorem check_returns (hm : m.Standard) (name : String) (s : Situation) (params : Params)
    (w : World) : ∃ b w',
      (Service.atDepth (depth + 1)).check name s params { m with world := w } =
        some (b, { m with world := w' }) ∧ w.Routed offers w' := by
  cases hget : Dict.get? m.conditions name with
  | none =>
    refine ⟨true, w, ?_, .refl w⟩
    simp only [Service.atDepth, Service.above, hget]
  | some condition =>
    have hlooks : Condition.Looks condition :=
      Conditions.conditions_look _ (hm.conditions _ (Dict.mem_of_get? hget))
    have hservice : (Service.atDepth depth).Answers m
        (Conduct.looking.under (World.Routed offers)) fun _ => True :=
      ⟨fun _ _ h => h.elim, fun _ _ _ _ h => h.elim, fun _ _ _ _ h => h.elim, fun _ h => h.elim⟩
    obtain ⟨found, w', hrun, hrel⟩ := ((hlooks s params w).under looking_relies
      (fun _ _ => trivial) id).returns looking_relies id World.routed_emitted
      (fun _ _ => trivial) hservice trivial
    cases found with
    | ok b =>
      refine ⟨b, w', ?_, hrel⟩
      simp only [Service.atDepth, Service.above, hget, hrun, Option.map_some]
    | error failure =>
      refine ⟨false, w', ?_, hrel⟩
      simp only [Service.atDepth, Service.above, hget, hrun, Option.map_some]

/-- The default actions have results where the events that they announce are delivered. -/
theorem performs_succ (hm : m.Standard)
    (h : (Service.atDepth depth).Delivers m offers target n) :
    (Service.atDepth (depth + 1)).Performs m offers target n := by
  intro name s params w hw
  cases hget : Dict.get? m.actions name with
  | none =>
    refine ⟨w, ?_, .refl w⟩
    simp only [Service.atDepth, Service.above, hget]
  | some action =>
    have hacts : Action.Acts action :=
      defaultActions_act _ (hm.actions _ (Dict.mem_of_get? hget))
    have hservice : (Service.atDepth depth).Answers m
        (Conduct.acting.under (World.Routed offers)) (World.Bounded offers target n) :=
      ⟨fun e v he hv => h e v (Or.inl he) hv, fun _ _ _ _ h => h.elim, fun _ _ _ _ h => h.elim,
        fun _ h => h.elim⟩
    obtain ⟨found, w', hrun, hrel⟩ := ((hacts s params w).under acting_relies
      (fun _ _ => trivial) id).returns acting_relies id World.routed_emitted
      (fun hv hrel => hv.routed hrel) hservice hw
    refine ⟨w', ?_, hrel⟩
    simp only [Service.atDepth, Service.above, hget, hrun, Option.map_some]

/-- The director's requests have results where actions have that leave fewer offers. -/
theorem routing_answers (hm : m.Standard) (hdeep : ∀ r ∈ offers, r.tooDeep = false)
    (h : ∀ k < n, (Service.atDepth (depth + 1)).Performs m offers target k) :
    (Service.atDepth (depth + 1)).Answers m
      (Conduct.routing (· ∈ offers) (World.Routed offers) World.Tame)
      (World.Bounded offers target n) where
  deliver _ _ h := h.elim
  perform _ _ _ _ h := h.elim
  check name s params w _ _ := check_returns hm name s params w
  part := by
    intro β p w hp hw
    cases hp with
    | mk s call hcall =>
      obtain ⟨granted, w', heq, hrouted, hfewer⟩ := hw.judge hcall (hdeep _ hcall)
      have hrun : ∀ a v, (if granted then Script.act call.kind s call.params else .done ()).run
          (Service.atDepth (depth + 1)) { m with world := w' } = some (a, { m with world := v }) →
          (Director.request s call).run (Service.atDepth (depth + 1)) { m with world := w } =
            some (a, { m with world := v }) := by
        intro a v hrun
        rw [Director.request_eq, Script.run, Script.run, heq]
        exact hrun
      -- A request that is refused is all there is to it; one that is granted took an offer.
      cases granted with
      | false => exact ⟨(), w', hrun () w' rfl, hrouted⟩
      | true =>
        obtain ⟨k, hk, hfewer⟩ := hfewer rfl
        obtain ⟨v, hperform, hv⟩ := h k hk call.kind s call.params w' hfewer
        refine ⟨(), v, hrun () v ?_, hrouted.trans hv⟩
        exact Option.bind_eq_some_iff.mpr ⟨_, hperform, rfl⟩

/-- Two levels of depth for each offer that is not claimed, and two more, are enough. -/
theorem delivers (hm : m.Standard) (hdeep : ∀ r ∈ offers, r.tooDeep = false) (n depth : Nat)
    (h : 2 * n + 2 ≤ depth) : (Service.atDepth depth).Delivers m offers target n := by
  -- By induction on the offers that are left. The listener needs one level, the actions that it
  -- grants one more, and the events that these announce find fewer offers left.
  induction n using Nat.strongRecOn generalizing depth with
  | ind n ih =>
    intro e w htarget hw
    obtain ⟨depth, rfl⟩ : ∃ d, depth = d + 2 := ⟨depth - 2, by omega⟩
    have hperforms : ∀ k < n, (Service.atDepth (depth + 1)).Performs m offers target k :=
      fun k hk => performs_succ hm (ih k hk depth (by omega))
    -- An event for nobody is routed by the components alone.
    have hoffers : ∀ q ∈ w.offers e.target, q ∈ offers := by
      intro q hq
      rcases htarget with hnone | htarget
      · rw [hnone] at hq
        rcases List.mem_append.mp hq with hq | hq
        · exact hw.within (List.mem_append_left _ hq)
        · exact absurd hq List.not_mem_nil
      · exact hw.within (htarget ▸ hq)
    have hR : ∀ {target : Option EntityId} {u v : World}, u.Routed offers v →
        (∀ q ∈ u.offers target, q ∈ offers) → ∀ q ∈ v.offers target, q ∈ offers :=
      fun hrel hu q hq => hu q (hrel.offers_subset _ hq)
    have hobeys : (Director.listener e).Obeys
        (.routing (· ∈ offers) (World.Routed offers) World.Tame) w :=
      Director.listener_obeys routing_relies (fun hacted _ => hacted.toTame) hR hoffers
        fun _ _ _ _ _ _ _ hacted _ => hacted.toTame
    obtain ⟨a, w', hrun, hrel⟩ := hobeys.returns routing_relies id World.routed_emitted
      (fun hv hrel => hv.routed hrel) (routing_answers hm hdeep hperforms) hw
    refine ⟨w', ?_, hrel⟩
    show Service.deliverTo (Service.atDepth (depth + 1)) e (m.listeners.map (·.2)) _ = _
    rw [hm.listeners, Service.deliverTo, hrun]
    rfl

theorem performs (hm : m.Standard) (hdeep : ∀ r ∈ offers, r.tooDeep = false) (n depth : Nat)
    (h : 2 * n + 3 ≤ depth) : (Service.atDepth depth).Performs m offers target n := by
  obtain ⟨depth, rfl⟩ : ∃ d, depth = d + 1 := ⟨depth - 1, by omega⟩
  exact performs_succ hm (delivers hm hdeep n depth (by omega))

end Results

end SceneLogic
