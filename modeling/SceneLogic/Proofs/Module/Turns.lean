import SceneLogic.Proofs.Module.Enrolment

/-!
# The turns of an update

An update gives each instance that it took out its turn, in the order of their numbers. What
actions do meanwhile happens while some instance is acting, so an entity that is cancelled before
the turn of its instance is passed over, and one that is cancelled later was acting, or had had its
turn.

* `Went` — what an update has done so far, from the turn of some instance on
* `Instance.step_goes`, `stepAll_turns` — the turn of one instance, and of all that were taken out
* `Machine.Plays.enrolled` — course and pool agree all along a run
-/

namespace SceneLogic

/-- What became of the modules while instances from some number on had their turns. -/
structure World.Went (first : InstanceId) (u v : World) : Prop where
  enrolled : v.Enrolled
  out : v.roster.out = u.roster.out
  updating : v.roster.updating = u.roster.updating
  acted : ∃ new, v.roster.acted = new ++ u.roster.acted ∧ ∀ j ∈ new, first ≤ j
  cancelled : ∃ new, v.roster.cancelled = new ++ u.roster.cancelled ∧
    ∀ c ∈ new, ∃ j, c.2 = some j ∧ first ≤ j

namespace World.Went

variable {u v w : World} {first second id : InstanceId}

theorem of_roster (h : v.Enrolled) (hroster : v.roster = u.roster) : Went first u v where
  enrolled := h
  out := by rw [hroster]
  updating := by rw [hroster]
  acted := ⟨[], by rw [hroster]; rfl, fun _ hj => absurd hj List.not_mem_nil⟩
  cancelled := ⟨[], by rw [hroster]; rfl, fun _ hc => absurd hc List.not_mem_nil⟩

theorem refl (h : u.Enrolled) : Went first u u :=
  .of_roster h rfl

theorem mono (h : Went second u v) (hle : first ≤ second) : Went first u v where
  enrolled := h.enrolled
  out := h.out
  updating := h.updating
  acted := by
    obtain ⟨new, hnew, hlater⟩ := h.acted
    exact ⟨new, hnew, fun j hj => Nat.le_trans hle (hlater j hj)⟩
  cancelled := by
    obtain ⟨new, hnew, hlater⟩ := h.cancelled
    refine ⟨new, hnew, fun c hc => ?_⟩
    obtain ⟨j, hj, hfirst⟩ := hlater c hc
    exact ⟨j, hj, Nat.le_trans hle hfirst⟩

theorem trans (h : Went first u v) (h' : Went first v w) : Went first u w where
  enrolled := h'.enrolled
  out := h'.out.trans h.out
  updating := h'.updating.trans h.updating
  acted := by
    obtain ⟨new, hnew, hlater⟩ := h.acted
    obtain ⟨new', hnew', hlater'⟩ := h'.acted
    refine ⟨new' ++ new, by rw [hnew', hnew, List.append_assoc], fun j hj => ?_⟩
    exact (List.mem_append.mp hj).elim (hlater' j) (hlater j)
  cancelled := by
    obtain ⟨new, hnew, hlater⟩ := h.cancelled
    obtain ⟨new', hnew', hlater'⟩ := h'.cancelled
    refine ⟨new' ++ new, by rw [hnew', hnew, List.append_assoc], fun c hc => ?_⟩
    exact (List.mem_append.mp hc).elim (hlater' c) (hlater c)

theorem acted_subset (h : Went first u v) : u.roster.acted ⊆ v.roster.acted := by
  obtain ⟨new, hnew, -⟩ := h.acted
  rw [hnew]
  exact List.subset_append_right new _

theorem removed_subset (h : Went first u v) : u.roster.removed ⊆ v.roster.removed := by
  obtain ⟨new, hnew, -⟩ := h.cancelled
  rw [Roster.removed, Roster.removed, hnew, List.map_append]
  exact List.subset_append_right _ _

/-- What had not been cancelled before the first turn was cancelled in a later one, if at all. -/
theorem early (h : Went first u v) {entity : EntityId} (hspared : entity ∉ u.roster.removed) :
    ∀ c ∈ v.roster.cancelled, c.1 = entity → ∃ j, c.2 = some j ∧ first ≤ j := by
  obtain ⟨new, hnew, hlater⟩ := h.cancelled
  rw [hnew]
  intro c hc hentity
  rcases List.mem_append.mp hc with hc | hc
  · exact hlater c hc
  · exact absurd (List.mem_map.mpr ⟨c, hc, hentity⟩) hspared

/-- What happens while an instance is acting is part of its turn. -/
theorem of_meanwhile (hu : u.Enrolled) (hacting : u.roster.acting? = some id)
    (h : Meanwhile u v) : Went id u v where
  enrolled := h.enrolled hu
  out := h.out
  updating := h.updating
  acted := ⟨[], h.acted, fun _ hj => absurd hj List.not_mem_nil⟩
  cancelled := by
    obtain ⟨new, hnew, hactors⟩ := h.cancelled
    exact ⟨new, hnew, fun c hc => ⟨id, (hactors c hc).trans hacting, Nat.le_refl _⟩⟩

/-- An instance that may act does something at a node. -/
theorem of_note (hu : u.Enrolled) (hmay : u.roster.MayAct id) (e : NodeEvent) :
    Went id u (u.record (.atNode id e)) where
  enrolled := ⟨(Beside.of_note u id e).listed hu.toListed, .cons hu.orderly hmay⟩
  out := rfl
  updating := rfl
  acted := ⟨[id], rfl, fun _ hj => Nat.le_of_eq (List.mem_singleton.mp hj).symm⟩
  cancelled := ⟨[], rfl, fun _ hc => absurd hc List.not_mem_nil⟩

/-- An instance that is acting may go on to. -/
theorem mayAct (h : Went first u v) (hmay : u.roster.MayAct id)
    (hacting : v.roster.acting? = some id) : v.roster.MayAct id where
  updating := h.updating.trans hmay.updating
  turn := by
    obtain ⟨entity, hout, -⟩ := hmay.turn
    exact ⟨entity, h.out ▸ hout, Or.inl hacting⟩

end World.Went

/-- Before and during its turn an instance is the last to act. -/
theorem Roster.MayAct.acting_le {r : Roster} {id : InstanceId} (h : r.MayAct id) :
    ∀ j, r.acting? = some j → j ≤ id := by
  obtain ⟨entity, -, hacting | ⟨hlater, -⟩⟩ := h.turn
  · rw [hacting]
    exact fun j hj => Nat.le_of_eq (Option.some.inj hj).symm
  · exact fun j hj => Nat.le_of_lt (hlater j hj)

/-- What a relation that always holds lacks, results have to carry. -/
theorem steady_true : Steady fun _ _ : World => True :=
  ⟨fun _ => trivial, fun _ _ => trivial⟩

namespace Instance

open World

variable {service : Service} {i : Instance} {s : Situation} {dt : Float} {g : Graph}
  {node : Node} {w : World}

theorem atWork_meanwhile (hservice : service.Keeps .pooling Meanwhile) (i : Instance) :
    i.AtWork service .pooling Meanwhile Meanwhile where
  steady := Meanwhile.steady
  service := hservice
  within := fun h => h
  own := by
    intro u v h
    cases h with
    | publish name v => exact .of_beside (.of_same rfl rfl rfl rfl) rfl
    | assign name v => exact .of_beside (.of_same rfl rfl rfl rfl) rfl

/-- Running a node is part of the turn, and leaves the instance acting. -/
theorem visit_goes (hservice : service.Keeps .pooling Meanwhile) (hw : w.Enrolled)
    (hmay : w.roster.MayAct i.id) :
    (i.visit s dt g node).Yields service .pooling (fun _ _ => True) w fun r w' =>
      i.Same r.2 ∧ Went i.id w w' ∧ w'.roster.acting? = some i.id := by
  refine (visit_yields (atWork_meanwhile hservice i) steady_true (fun _ => trivial)
    fun _ _ => trivial).mono fun r w' _ hr => ?_
  obtain ⟨hran, u, v, hu, htimer, hw'⟩ := hr
  have hsame := hran.stands.1
  -- Once the node is entered, the instance is the one that acts.
  have hentered : Went i.id w u := hu ▸ .of_note hw hmay _
  have hacting : u.roster.acting? = some i.id := by rw [hu]; rfl
  have hstays : Went i.id u v ∧ v.roster.acting? = some i.id := by
    cases htimer with
    | kept hmeanwhile _ =>
      exact ⟨.of_meanwhile hentered.enrolled hacting hmeanwhile, hmeanwhile.acting.trans hacting⟩
    | armed _ _ _ _ hv =>
      rw [hv]
      exact ⟨.of_note hentered.enrolled (hentered.mayAct hmay hacting) _, rfl⟩
  have hgone := hentered.trans hstays.1
  have hstayed : w' = v → i.Same r.2 ∧ Went i.id w w' ∧ w'.roster.acting? = some i.id := by
    rintro rfl
    exact ⟨hsame, hgone, hstays.2⟩
  split at hw'
  · rw [hw', hsame.id]
    exact ⟨hsame, hgone.trans (.of_note hgone.enrolled (hgone.mayAct hmay hstays.2) _), rfl⟩
  · exact hstayed hw'

/-- What the turn of an instance comes to. -/
structure HadTurn (i : Instance) (u : World) (r : Option ModuleReport × Instance) (v : World) :
    Prop where
  same : i.Same r.2
  about : ∀ x, r.1 = some x → x.key = i.key
  went : Went i.id u v
  last : ∀ j, v.roster.acting? = some j → j ≤ i.id
  acted : r.1 = none → i.id ∈ v.roster.acted

/-- An instance that may act has its turn. -/
theorem step_goes (hservice : service.Keeps .pooling Meanwhile) (i : Instance) (dt : Float)
    (hw : w.Enrolled) (hmay : w.roster.MayAct i.id) :
    (i.step dt).Yields service .pooling (fun _ _ => True) w fun r w' => i.HadTurn w r w' := by
  refine .read (.write steady_true trivial ?_)
  have haside := w.aside_situationFor i.entity [("dt", .float dt)]
  have hroster : (w.situationFor i.entity [("dt", .float dt)]).2.roster = w.roster :=
    congrArg rosterOf haside.course
  have hw₁ : Went i.id w (w.situationFor i.entity [("dt", .float dt)]).2 :=
    .of_roster ((Meanwhile.of_aside haside).enrolled hw) hroster
  have hmay₁ : (w.situationFor i.entity [("dt", .float dt)]).2.roster.MayAct i.id :=
    hroster ▸ hmay
  -- As long as steps are left the instance may act, and after the first one it has acted.
  refine runSteps_yields steady_true (P := fun n i' v => i.Same i' ∧ Went i.id w v ∧
    v.roster.MayAct i.id ∧ (i.id ∈ v.roster.acted ∨ 0 < n)) ?_ ?_ ?_ _ _ _
    ⟨.refl i, hw₁, hmay₁, Or.inr hw₁.enrolled.bound⟩
  · rintro i' v ⟨hsame, hwent, hmayv, hacted⟩
    exact ⟨hsame, (fun x hx => by cases hx), hwent, hmayv.acting_le,
      fun _ => hacted.resolve_right (Nat.lt_irrefl 0)⟩
  · rintro n i' v ⟨hsame, hwent, hmayv, -⟩ -
    refine ⟨hsame, fun x hx => ?_, hwent, hmayv.acting_le, fun hnone => by cases hnone⟩
    rw [← Option.some.inj hx]
    exact hsame.key
  · rintro n i' v node ⟨hsame, hwent, hmayv, -⟩ -
    rw [← hsame.id] at hmayv
    refine (visit_goes hservice hwent.enrolled hmayv).mono fun r v' _ hr => ?_
    rw [hsame.id] at hr hmayv
    obtain ⟨hsame', hvisit, hacting⟩ := hr
    have hgone := hwent.trans hvisit
    have hmay' := hvisit.mayAct hmayv hacting
    have hkey : ∀ error x, some (r.2.report error) = some x → x.key = i.key := by
      intro error x hx
      rw [← Option.some.inj hx]
      exact (hsame.trans hsame').key
    have hacted : i.id ∈ v'.roster.acted := List.mem_of_mem_head? hacting
    unfold After
    split
    · exact ⟨hsame.trans hsame', (fun x hx => by cases hx), hgone, hmay'.acting_le,
        fun _ => hacted⟩
    · exact ⟨hsame.trans hsame', hkey _, hgone, hmay'.acting_le, fun _ => hacted⟩
    · split
      · exact ⟨hsame.trans hsame', hkey _, hgone, hmay'.acting_le, fun _ => hacted⟩
      · exact ⟨(hsame.trans hsame').trans ⟨rfl, rfl, rfl, rfl⟩, hgone, hmay', Or.inl hacted⟩

end Instance

/-! ## All that were taken out -/

open World

/-- The instances are out, and all of their turns are still to come. -/
structure Upcoming (instances : List Instance) (w : World) : Prop where
  enrolled : w.Enrolled
  updating : w.roster.updating = true
  ascending : instances.Pairwise fun i i' => i.id < i'.id
  out : ∀ i ∈ instances, i.key ∈ w.roster.out
  later : ∀ j, w.roster.acting? = some j → ∀ i ∈ instances, j < i.id

/-- All of the instances have had their turns. -/
structure HadTurns (instances : List Instance) (u : World) (r : List ModuleReport × List Instance)
    (v : World) : Prop where
  went : ∀ first, (∀ i ∈ instances, first ≤ i.id) → Went first u v
  about : ∀ x ∈ r.1, x.key ∈ keysOf instances
  early : ∀ x ∈ r.1, ∀ c ∈ v.roster.cancelled, c.1 = x.entity →
    ∃ j, c.2 = some j ∧ x.instanceId ≤ j
  turns : ∀ k ∈ keysOf instances, k.2 ∈ v.roster.removed ∨ k ∈ r.1.map ModuleReport.key ∨
    k.1 ∈ v.roster.acted

namespace HadTurns

variable {i : Instance} {rest : List Instance} {u v w : World} {reports : List ModuleReport}
  {kept kept' : List Instance}

/-- The first instance was passed over: its entity had been cancelled. -/
theorem skip (h : HadTurns rest u (reports, kept) v) (hgone : i.entity ∈ u.roster.removed) :
    HadTurns (i :: rest) u (reports, kept) v where
  went first hfirst := h.went first fun i' hi' => hfirst i' (List.mem_cons_of_mem _ hi')
  about x hx := List.mem_cons_of_mem _ (h.about x hx)
  early := h.early
  turns := by
    intro k hk
    rcases List.mem_cons.mp hk with rfl | hk
    · exact Or.inl ((h.went 0 fun _ _ => Nat.zero_le _).removed_subset hgone)
    · exact h.turns k hk

/-- The first instance had its turn and stays. -/
theorem stay (h : HadTurns rest v (reports, kept) w) (hlater : ∀ i' ∈ rest, i.id ≤ i'.id)
    (hturn : Went i.id u v) (hacted : i.id ∈ v.roster.acted) :
    HadTurns (i :: rest) u (reports, kept') w where
  went first hfirst := by
    refine (hturn.mono (hfirst i List.mem_cons_self)).trans (h.went first fun i' hi' => ?_)
    exact hfirst i' (List.mem_cons_of_mem _ hi')
  about x hx := List.mem_cons_of_mem _ (h.about x hx)
  early := h.early
  turns := by
    intro k hk
    rcases List.mem_cons.mp hk with rfl | hk
    · exact Or.inr (Or.inr ((h.went i.id hlater).acted_subset hacted))
    · exact h.turns k hk

/-- The first instance had its turn, if it needed one, and is reported. -/
theorem report (h : HadTurns rest v (reports, kept) w) (hlater : ∀ i' ∈ rest, i.id ≤ i'.id)
    (hturn : Went i.id u v) (hspared : i.entity ∉ u.roster.removed) {x : ModuleReport}
    (hx : x.key = i.key) : HadTurns (i :: rest) u (x :: reports, kept') w where
  went first hfirst := by
    refine (hturn.mono (hfirst i List.mem_cons_self)).trans (h.went first fun i' hi' => ?_)
    exact hfirst i' (List.mem_cons_of_mem _ hi')
  about := by
    intro y hy
    rcases List.mem_cons.mp hy with rfl | hy
    · rw [hx]
      exact List.mem_cons_self
    · exact List.mem_cons_of_mem _ (h.about y hy)
  early := by
    intro y hy
    rcases List.mem_cons.mp hy with rfl | hy
    · have hid : y.instanceId = i.id := congrArg Prod.fst hx
      have hentity : y.entity = i.entity := congrArg Prod.snd hx
      rw [hid, hentity]
      exact (hturn.trans (h.went i.id hlater)).early hspared
    · exact h.early y hy
  turns := by
    intro k hk
    rcases List.mem_cons.mp hk with rfl | hk
    · exact Or.inr (Or.inl (List.mem_map.mpr ⟨x, List.mem_cons_self, hx⟩))
    · rcases h.turns k hk with hgone | hreported | hacted
      · exact Or.inl hgone
      · exact Or.inr (Or.inl (List.mem_cons_of_mem _ hreported))
      · exact Or.inr (Or.inr hacted)

end HadTurns

/-- What comes after the first instance is still to come when that has had its turn. -/
theorem Upcoming.tail {i : Instance} {rest : List Instance} {u v : World}
    (h : Upcoming (i :: rest) u) (hturn : Went i.id u v)
    (hlast : ∀ j, v.roster.acting? = some j → j ≤ i.id) : Upcoming rest v where
  enrolled := hturn.enrolled
  updating := hturn.updating.trans h.updating
  ascending := (List.pairwise_cons.mp h.ascending).2
  out i' hi' := hturn.out ▸ h.out i' (List.mem_cons_of_mem _ hi')
  later j hj i' hi' :=
    Nat.lt_of_le_of_lt (hlast j hj) ((List.pairwise_cons.mp h.ascending).1 i' hi')

/-- An update gives each instance that it took out its turn. -/
theorem stepAll_turns {service : Service} (hservice : service.Keeps .pooling Meanwhile) (dt : Float)
    (instances : List Instance) {w : World} (hw : Upcoming instances w) :
    (stepAll dt instances).Yields service .pooling (fun _ _ => True) w fun r w' =>
      HadTurns instances w r w' := by
  induction instances generalizing w with
  | nil =>
    exact .done steady_true ⟨fun _ _ => .refl hw.enrolled, fun _ hx => absurd hx List.not_mem_nil,
      fun _ hx => absurd hx List.not_mem_nil, fun _ hk => absurd hk List.not_mem_nil⟩
  | cons i rest ih =>
    have hbelow : ∀ i' ∈ rest, i.id ≤ i'.id :=
      fun i' hi' => Nat.le_of_lt ((List.pairwise_cons.mp hw.ascending).1 i' hi')
    have hbefore : ∀ j, w.roster.acting? = some j → j ≤ i.id :=
      fun j hj => Nat.le_of_lt (hw.later j hj i List.mem_cons_self)
    have hnow : Upcoming rest w := hw.tail (.refl hw.enrolled) hbefore
    refine .read ?_
    split
    · next hgone =>
      have hgone : i.entity ∈ w.roster.removed :=
        hw.enrolled.removed ▸ List.contains_iff_mem.mp hgone
      exact (ih hnow).mono fun r w' _ hr => hr.skip hgone
    · next hspared =>
      have hspared : i.entity ∉ w.roster.removed := by
        rw [← hw.enrolled.removed]
        exact fun hmem => hspared (List.contains_iff_mem.mpr hmem)
      split
      · next result hresult =>
        refine .bind steady_true (ih hnow) fun r w' _ hr => .done steady_true ?_
        exact hr.report hbelow (.refl hw.enrolled) hspared (i.toldBy_terminalResult hresult).key
      · next hrunning =>
        have hmay : w.roster.MayAct i.id :=
          ⟨hw.updating, i.entity, hw.out i List.mem_cons_self,
            Or.inr ⟨fun j hj => hw.later j hj i List.mem_cons_self, hspared⟩⟩
        refine .bind steady_true (i.step_goes hservice dt hw.enrolled hmay) fun r w₁ _ hr => ?_
        refine .bind steady_true (ih (hw.tail hr.went hr.last)) fun r' w' _ hr' => ?_
        dsimp only
        split
        · next result hended =>
          exact .done steady_true (hr'.report hbelow hr.went hspared (hr.about result hended))
        · next hgoesOn =>
          exact .done steady_true (hr'.stay hbelow hr.went (hr.acted hgoesOn))

/-! ## Updates -/

/-- What stays when an update has closed can be read off its reports. -/
theorem Sorted.stays {gone : EntityId → Prop} {instances kept : List Instance}
    {results : List ModuleReport} (h : Sorted gone instances results kept)
    (hids : (keysOf instances).Pairwise fun k k' => k.1 < k'.1)
    {p : InstanceId × EntityId → Bool} (hp : ∀ k, p k = true → ¬ gone k.2) :
    (keysOf kept).filter p =
      ((keysOf instances).filter (· ∉ results.map ModuleReport.key)).filter p := by
  induction h with
  | nil => rfl
  | @gone i rest results kept hgone _ ih =>
    obtain ⟨-, hids⟩ := List.pairwise_cons.mp hids
    have hout : p i.key = false := Bool.eq_false_iff.mpr fun hs => hp _ hs hgone
    rw [ih hids, keysOf_cons, List.filter_filter, List.filter_filter, List.filter_cons_of_neg]
    simp [hout]
  | @reported i rest result results kept htold hrest ih =>
    obtain ⟨hfirst, hids⟩ := List.pairwise_cons.mp hids
    rw [ih hids, keysOf_cons, List.map_cons, htold.key, List.filter_cons_of_neg (by simp)]
    -- The report is about the first instance and no other.
    refine congrArg (List.filter p) (List.filter_congr fun k hk => ?_)
    have hne : k ≠ i.key := fun heq => Nat.lt_irrefl k.1 (heq ▸ hfirst k hk)
    simp [hne]
  | @kept i i' rest results kept hsame _ hrest ih =>
    obtain ⟨hfirst, hids⟩ := List.pairwise_cons.mp hids
    have hnew : i.key ∉ results.map ModuleReport.key := fun hmem =>
      Nat.lt_irrefl i.id (hfirst i.key (hrest.results_sublist.subset hmem))
    rw [keysOf_cons, keysOf_cons, hsame.key, List.filter_cons_of_pos (l := keysOf rest)
      (by simpa using hnew), List.filter_cons, List.filter_cons, ih hids]

namespace World

variable {w v : World} {time dt : Float}

/-- When an update opens, all turns are still to come. -/
theorem Enrolled.opened (hw : w.Enrolled) (hidle : w.roster.updating = false) :
    Upcoming w.pool.instances (w.opened time dt) := by
  obtain ⟨hout, hfresh, hcancelled, hacted⟩ := hw.sound.idle hidle
  have hkeys : keysOf w.pool.instances = w.roster.present := by
    rw [hw.waiting, Roster.present, hout, hfresh, List.nil_append, List.append_nil]
  refine ⟨⟨hw.enter rfl rfl hw.fresh hw.removed rfl hw.next rfl, .cons hw.orderly hidle⟩, rfl, ?_,
    ?_, ?_⟩
  · have hascending : (keysOf w.pool.instances).Pairwise fun k k' => k.1 < k'.1 :=
      hkeys ▸ hw.sound.ascending
    rw [keysOf, List.pairwise_map] at hascending
    exact hascending
  · intro i hi
    show i.key ∈ w.roster.waiting
    rw [← hw.waiting]
    exact List.mem_map_of_mem hi
  · intro j hj
    have hnone : (w.opened time dt).roster.acting? = none := by
      show w.roster.acted.head? = none
      rw [hacted]
      rfl
    rw [hnone] at hj
    cases hj

/-- When all had their turns, the update may close. -/
theorem Enrolled.closed {instances kept : List Instance} {reports : List ModuleReport}
    {u : World} (hu : Upcoming instances u) (hout : u.roster.out = keysOf instances)
    (h : HadTurns instances u (reports, kept) v)
    (hsort : Sorted (· ∈ v.pool.removed) instances reports kept) :
    (v.closed (reports, kept)).Enrolled ∧ (v.closed (reports, kept)).roster.updating = false := by
  have hwent := h.went 0 fun _ _ => Nat.zero_le _
  have hv := hwent.enrolled
  have hout' : v.roster.out = keysOf instances := hwent.out.trans hout
  have hallow : v.roster.MayClose reports :=
    ⟨hwent.updating.trans hu.updating, fun x hx => hout' ▸ h.about x hx, h.early,
      fun k hk => h.turns k (hout' ▸ hk)⟩
  refine ⟨⟨hv.enter rfl ?_ rfl rfl rfl hv.next rfl, .cons hv.orderly hallow⟩, rfl⟩
  show keysOf (v.pool.settle kept).instances = v.roster.stays reports
  have hids : (keysOf instances).Pairwise fun k k' => k.1 < k'.1 := by
    rw [keysOf, List.pairwise_map]
    exact hu.ascending
  have hstays := hsort.stays hids (p := fun k => k.2 ∉ v.roster.removed) fun k hk => by
    rw [hv.removed]
    exact of_decide_eq_true hk
  rw [Pool.keys_settle, Roster.stays, List.filter_append, List.filter_append, hv.removed, hv.fresh,
    hout']
  simp only [List.contains_eq_mem, ← decide_not]
  rw [hstays]

end World

/-- An update keeps course and pool in agreement. -/
theorem updateModules_enrolled {service : Service} (hservice : service.Keeps .pooling Meanwhile)
    (hremoved : service.Keeps .pooling fun u v => u.pool.removed ⊆ v.pool.removed) {m m' : Machine}
    (hm : m.Obeys .pooling) (hw : m.world.Enrolled) (hidle : m.world.roster.updating = false)
    {time dt : Float} {reports : List ModuleReport}
    (hrun : (updateModules time dt).run service m = some (reports, m')) :
    m'.Obeys .pooling ∧ m'.world.Enrolled ∧ m'.world.roster.updating = false := by
  obtain ⟨kept, m₁, hall, rfl⟩ := updateModules_run hrun
  have hup : Upcoming m.world.pool.instances (m.world.opened time dt) := hw.opened hidle
  have hm₀ := hm.withWorld (m.world.opened time dt)
  obtain ⟨⟨hm₁, -⟩, hturns⟩ := stepAll_turns hservice dt _ hup _ rfl hm₀ hall
  obtain ⟨-, hsort⟩ :=
    Conduct.stepAll_sorts poolSteady_removed hremoved dt _ _ _ rfl hm₀ hall
  exact ⟨hm₁.withWorld _, World.Enrolled.closed hup hw.waiting.symm hturns hsort⟩

/-! ## Runs -/

/-- All along a run the course is orderly, and the pool agrees with it. -/
theorem Machine.Plays.enrolled {m m' : Machine} {updates : List (List ModuleReport)}
    (hnew : m.world.NoModulesYet) (hbound : 0 < m.world.pool.stepBound) (hm : m.Obeys .pooling)
    (h : m.Plays .pooling updates m') :
    m'.Obeys .pooling ∧ m'.world.Enrolled ∧ m'.world.roster.updating = false := by
  induction h with
  | refl => exact ⟨hm, hnew.enrolled hbound⟩
  | @script m₁ m₂ _ depth _ _ _ _ hobeys hrun ih =>
    obtain ⟨hm₁, hw, hidle⟩ := ih
    obtain ⟨hm₂, hmeanwhile⟩ := Script.run_obeys Conduct.pooling_keeps_meanwhile
      (Service.keeps_atDepth Conduct.pooling_keeps_meanwhile depth) hobeys m₁ rfl hm₁ hrun
    exact ⟨hm₂, hmeanwhile.enrolled hw, hmeanwhile.updating.trans hidle⟩
  | @update m₁ m₂ _ depth _ _ _ _ hrun ih =>
    obtain ⟨hm₁, hw, hidle⟩ := ih
    exact updateModules_enrolled (Service.keeps_atDepth Conduct.pooling_keeps_meanwhile depth)
      (Service.keeps_atDepth Conduct.pooling_keeps_removed depth) hm₁ hw hidle hrun

end SceneLogic
