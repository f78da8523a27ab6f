import SceneLogic.Proofs.Module.Turns

/-!
# What the removal of an entity's modules comes to

When the modules of an entity are cancelled, none of its instances does anything more, with one
exception: the instance whose own turn it is, because an action of it does the cancelling, goes on
to the end of its turn. Nor is any of them reported later on, but the update that is under way still
reports those that ended before.

What is started for the entity afterwards is kept, with one exception as well: the update that is
under way lists the entity as cancelled, and drops what it was given since.

* `Removal` — all of this as a property of the course around the call
* `cancelled_modules_fall_silent` — each cancellation in a run comes to this
* `not_always_silenced` — both exceptions happen
-/

namespace SceneLogic

/-- An instance that was started is in the pool until it is reported or dropped, and has its turn in
each update that comes meanwhile. -/
structure KeptOn (id : InstanceId) (entity : EntityId) (after : List Happening) (p : Pool) :
    Prop where
  held : (id, entity) ∈ keysOf p.instances ∨ ReportedIn after id ∨
    .ofPool (.cancelled entity) ∈ after ∨ .ofPool .cleared ∈ after
  turns : ∀ rest reports during meantime, after =
      rest ++ .ofPool (.closed reports) :: (during ++ .ofPool .opened :: meantime) →
    ¬ ClosesIn during →
    ActsIn during id ∨ (∃ x ∈ reports, x.instanceId = id) ∨
      .ofPool (.cancelled entity) ∈ during ∨ ReportedIn meantime id ∨
      .ofPool (.cancelled entity) ∈ meantime ∨ .ofPool .cleared ∈ meantime

/-- What the cancellation of an entity's modules comes to. Before it there was `earlier`, and
`later` came after; the pool is the one at the end. -/
structure Removal (entity : EntityId) (later earlier : List Happening) (p : Pool) : Prop where
  /-- Whoever was not acting does nothing any more. -/
  silent : ∀ id, StartedIn earlier id entity → (rosterOf earlier).acting? ≠ some id →
    ¬ ActsIn later id
  /-- Whoever was acting goes on, but not after another instance acted or the update closed. -/
  lingers : ∀ id, StartedIn earlier id entity → ∀ after e before,
    later = after ++ .atNode id e :: before →
    (∀ j e, .atNode j e ∈ before → j = id) ∧ ¬ ClosesIn before
  /-- Only the update that was under way reports any of them, and only those whose turn had come. -/
  told : ∀ id, StartedIn earlier id entity → ∀ after reports before,
    later = after ++ .ofPool (.closed reports) :: before → (∃ x ∈ reports, x.instanceId = id) →
    (rosterOf earlier).updating = true ∧ ¬ ClosesIn before ∧
      ∃ j, (rosterOf earlier).acting? = some j ∧ id ≤ j
  /-- None of them is left. -/
  gone : ∀ id, StartedIn earlier id entity → (id, entity) ∉ keysOf p.instances
  /-- The instances of other entities stay. -/
  spares : ∀ k, k.2 ≠ entity → (rosterOf earlier).Held k →
    ((rosterOf earlier).enter (.ofPool (.cancelled entity))).Held k
  /-- What is started for the entity before the update closes is lost. -/
  lost : (rosterOf earlier).updating = true → ∀ after id cell before,
    later = after ++ .ofPool (.started id entity cell) :: before → ¬ ClosesIn before →
    ¬ ActsIn after id ∧ ¬ ReportedIn after id ∧ (id, entity) ∉ keysOf p.instances
  /-- What is started for it otherwise is kept. -/
  kept : ∀ after id cell before,
    later = after ++ .ofPool (.started id entity cell) :: before →
    ((rosterOf earlier).updating = true → ClosesIn before) →
    .ofPool (.cancelled entity) ∉ before → KeptOn id entity after p

/-! ## Right after the call -/

namespace Roster

variable {r : Roster} {x : Happening} {id : InstanceId} {entity : EntityId}

/-- An instance that was started in an update after its entity had been cancelled: nobody took it
out, and the update will not keep it. -/
structure Stillborn (r : Roster) (id : InstanceId) : Prop extends r.Dropped id where
  out : ∀ k ∈ r.out, k.1 ≠ id

theorem Stillborn.enter (h : r.Stillborn id) (hr : r.Sound) (hallow : r.Allows x) :
    (r.enter x).Stillborn id := by
  refine ⟨h.toDropped.enter hr hallow, ?_⟩
  cases x with
  | ofPool e =>
    cases e with
    | started id' entity cell =>
      rw [(r.enter_started id' entity cell).1]
      exact h.out
    | opened => exact h.waiting
    | closed reports => exact fun k hk => absurd hk List.not_mem_nil
    | _ => exact h.out
  | _ => exact h.out

/-- When another instance acts, or the update closes, who was dropped is still. -/
theorem Dropped.still_enter (h : r.Dropped id) (hr : r.Sound) (hallow : r.Allows x)
    (hx : (∃ j e, x = .atNode j e ∧ j ≠ id) ∨ ∃ reports, x = .ofPool (.closed reports)) :
    (r.enter x).Still id := by
  refine ⟨h.enter hr hallow, ?_⟩
  rcases hx with ⟨j, e, rfl, hne⟩ | ⟨reports, rfl⟩
  · exact fun heq => hne (Option.some.inj heq)
  · exact fun heq => by cases heq

end Roster

namespace Orderly

variable {earlier later before after : List Happening} {id : InstanceId} {entity : EntityId}
  {cell : GraphRef}

/-- The instances that there were are dropped. -/
theorem dropped_cancelled (h : Orderly earlier) (hstart : StartedIn earlier id entity) :
    (rosterOf (.ofPool (.cancelled entity) :: earlier)).Dropped id := by
  have hfiltered : ∀ l : List (InstanceId × EntityId), l ⊆ (rosterOf earlier).present →
      ∀ k ∈ l.filter (·.2 ≠ entity), k.1 ≠ id := by
    intro l hl k hk hid
    obtain ⟨hk, hne⟩ := List.mem_filter.mp hk
    exact of_decide_eq_true hne (h.entity_of_present hstart (hl hk) hid)
  refine ⟨h.started_lt hstart, ?_, fun k hk hid => ?_⟩
  · exact hfiltered _ fun k hk => Roster.mem_present.mpr (Or.inr (Or.inl hk))
  rcases List.mem_append.mp hk with hk | hk
  · have hentity := h.entity_of_present hstart (Roster.mem_present.mpr (Or.inl hk)) hid
    rw [rosterOf_cons, Roster.removed, Roster.enter_cancel]
    cases hupdating : (rosterOf earlier).updating with
    | true =>
      rw [if_pos rfl, hentity]
      exact List.mem_cons_self
    | false =>
      have hout : (rosterOf earlier).out = [] := (h.sound.idle hupdating).1
      rw [rosterOf_cons, Roster.enter_cancel, hout] at hk
      exact absurd hk List.not_mem_nil
  · exact absurd hid
      (hfiltered _ (fun k hk => Roster.mem_present.mpr (Or.inr (Or.inr hk))) k hk)

/-- Until the update closes it lists the entity, with the instance that was acting. -/
theorem listed (h : Orderly (before ++ .ofPool (.cancelled entity) :: earlier))
    (hupdating : (rosterOf earlier).updating = true) (hcloses : ¬ ClosesIn before) :
    (rosterOf (before ++ .ofPool (.cancelled entity) :: earlier)).updating = true ∧
    (entity, (rosterOf earlier).acting?) ∈
      (rosterOf (before ++ .ofPool (.cancelled entity) :: earlier)).cancelled := by
  refine h.carries (P := fun r => r.updating = true ∧
    (entity, (rosterOf earlier).acting?) ∈ r.cancelled) ?_ ?_
  · rintro r x hx - hallow ⟨hup, hlisted⟩
    cases x with
    | ofPool e =>
      cases e with
      | started id' entity' cell' =>
        obtain ⟨-, -, hup', hcancelled⟩ := r.enter_started id' entity' cell'
        exact ⟨hup'.trans hup, hcancelled ▸ hlisted⟩
      | cancelled entity' =>
        refine ⟨hup, ?_⟩
        rw [Roster.enter_cancel, hup]
        exact List.mem_cons_of_mem _ hlisted
      | closed reports => exact absurd ⟨reports, hx⟩ hcloses
      | opened => exact ⟨rfl, hlisted⟩
      | cleared => exact ⟨hup, hlisted⟩
    | _ => exact ⟨hup, hlisted⟩
  · rw [rosterOf_cons, Roster.enter_cancel, hupdating]
    exact ⟨rfl, List.mem_cons_self⟩

/-- Nobody is listed unless cancelled since, if the last update has closed. -/
theorem unlisted (h : Orderly (before ++ .ofPool (.cancelled entity) :: earlier))
    (hcloses : (rosterOf earlier).updating = true → ClosesIn before)
    (hcancel : .ofPool (.cancelled entity) ∉ before) :
    entity ∉ (rosterOf (before ++ .ofPool (.cancelled entity) :: earlier)).removed := by
  -- From a moment on at which the entity is not listed, it stays so.
  have hstays : ∀ {l l' : List Happening}, Orderly (l ++ l') → l ⊆ before →
      entity ∉ (rosterOf l').removed → entity ∉ (rosterOf (l ++ l')).removed := by
    intro l l' hl hsub hunlisted
    refine hl.carries (P := fun r => entity ∉ r.removed) (fun r x hx _ _ hr => ?_) hunlisted
    cases x with
    | ofPool e =>
      cases e with
      | started id' entity' cell' =>
        rw [Roster.removed, (r.enter_started id' entity' cell').2.2.2]
        exact hr
      | cancelled entity' =>
        have hne : entity ≠ entity' := fun heq => hcancel (heq ▸ hsub hx)
        rw [Roster.removed, Roster.enter_cancel]
        dsimp only
        split
        · exact fun hmem => (List.mem_cons.mp hmem).elim hne hr
        · exact hr
      | closed reports => exact List.not_mem_nil
      | _ => exact hr
    | _ => exact hr
  cases hupdating : (rosterOf earlier).updating with
  | true =>
    obtain ⟨reports, hmem⟩ := hcloses hupdating
    obtain ⟨l, l', rfl⟩ := List.append_of_mem hmem
    rw [List.append_assoc] at h ⊢
    refine hstays h (fun x hx => List.mem_append_left _ hx) ?_
    exact List.not_mem_nil
  | false =>
    refine hstays h (fun _ hx => hx) ?_
    obtain ⟨-, -, hcancelled, -⟩ := h.of_append.tail.sound.idle hupdating
    rw [rosterOf_cons, Roster.removed, Roster.enter_cancel, hupdating, hcancelled]
    exact List.not_mem_nil

/-! ## From the call on -/

section Call

variable (h : Orderly (later ++ .ofPool (.cancelled entity) :: earlier))

include h

theorem cancelled_silent (hstart : StartedIn earlier id entity)
    (hacting : (rosterOf earlier).acting? ≠ some id) : ¬ ActsIn later id :=
  h.still_silent ⟨h.of_append.tail.dropped_cancelled hstart, hacting⟩

theorem cancelled_lingers (hstart : StartedIn earlier id entity) {e : NodeEvent}
    (hlater : later = after ++ .atNode id e :: before) :
    (∀ j e, .atNode j e ∈ before → j = id) ∧ ¬ ClosesIn before := by
  rw [hlater, List.append_assoc] at h
  have hact : (rosterOf (before ++ .ofPool (.cancelled entity) :: earlier)).MayAct id := h.allows
  have hbefore : Orderly (before ++ .ofPool (.cancelled entity) :: earlier) := h.of_append.tail
  have hdropped := hbefore.of_append.tail.dropped_cancelled hstart
  -- Whatever ends the turn makes the instance still, and then it would not act.
  have hnothing : ∀ x ∈ before,
      ¬ ((∃ j e, x = .atNode j e ∧ j ≠ id) ∨ ∃ reports, x = .ofPool (.closed reports)) := by
    intro x hmem hx
    obtain ⟨l, l', rfl⟩ := List.append_of_mem hmem
    rw [List.append_assoc] at hbefore hact
    have hl' : Orderly (l' ++ .ofPool (.cancelled entity) :: earlier) := hbefore.of_append.tail
    have hstill := (hl'.dropped hdropped).still_enter hl'.sound hbefore.allows hx
    exact (hbefore.still hstill).not_mayAct hact
  refine ⟨fun j e hmem => ?_, fun ⟨reports, hmem⟩ => ?_⟩
  · by_cases hj : j = id
    · exact hj
    · exact absurd (Or.inl ⟨j, e, rfl, hj⟩) (hnothing _ hmem)
  · exact hnothing _ hmem (Or.inr ⟨reports, rfl⟩)

theorem cancelled_told (hstart : StartedIn earlier id entity) {reports : List ModuleReport}
    (hlater : later = after ++ .ofPool (.closed reports) :: before)
    (hreported : ∃ x ∈ reports, x.instanceId = id) :
    (rosterOf earlier).updating = true ∧ ¬ ClosesIn before ∧
      ∃ j, (rosterOf earlier).acting? = some j ∧ id ≤ j := by
  obtain ⟨x, hx, hid⟩ := hreported
  rw [hlater, List.append_assoc] at h
  have hclose : (rosterOf _).MayClose reports := h.allows
  have hbefore : Orderly (before ++ .ofPool (.cancelled entity) :: earlier) := h.of_append.tail
  have hdropped := hbefore.of_append.tail.dropped_cancelled hstart
  have hnever : ¬ (rosterOf (before ++ .ofPool (.cancelled entity) :: earlier)).Vanished id :=
    fun hvanished => hvanished.not_reported hclose x hx hid
  have hupdating : (rosterOf earlier).updating = true := by
    cases hup : (rosterOf earlier).updating with
    | true => rfl
    | false =>
      have hidle : (rosterOf (.ofPool (.cancelled entity) :: earlier)).updating = false := hup
      exact absurd (hbefore.vanished (hdropped.vanished hbefore.of_append.sound hidle)) hnever
  have hcloses : ¬ ClosesIn before := by
    rintro ⟨closed, hmem⟩
    obtain ⟨l, l', rfl⟩ := List.append_of_mem hmem
    rw [List.append_assoc] at hbefore hnever
    have hl' : Orderly
        ((.ofPool (.closed closed) :: l') ++ .ofPool (.cancelled entity) :: earlier) :=
      hbefore.of_append
    have hvanished := (hl'.dropped hdropped).vanished hl'.sound rfl
    exact hnever (hbefore.vanished hvanished)
  refine ⟨hupdating, hcloses, ?_⟩
  obtain ⟨-, hlisted⟩ := hbefore.listed hupdating hcloses
  have hentity : entity = x.entity := by
    obtain ⟨cell, hmem⟩ := hstart
    have hstarted : StartedIn (before ++ .ofPool (.cancelled entity) :: earlier) id entity :=
      ⟨cell, List.mem_append_right _ (List.mem_cons_of_mem _ hmem)⟩
    have hpresent := Roster.mem_present.mpr (Or.inl (hclose.out x hx))
    exact (hbefore.entity_of_present hstarted hpresent hid).symm
  rw [← hid]
  exact hclose.early x hx _ hlisted hentity

theorem cancelled_gone (hstart : StartedIn earlier id entity)
    (hidle : (rosterOf (later ++ .ofPool (.cancelled entity) :: earlier)).updating = false) :
    (rosterOf (later ++ .ofPool (.cancelled entity) :: earlier)).Vanished id :=
  (h.dropped (h.of_append.tail.dropped_cancelled hstart)).vanished h.sound hidle

/-- What is started for the entity before the update closes is never taken out. -/
theorem cancelled_stillborn (hupdating : (rosterOf earlier).updating = true)
    (hlater : later = after ++ .ofPool (.started id entity cell) :: before)
    (hcloses : ¬ ClosesIn before) :
    (rosterOf (.ofPool (.started id entity cell) ::
      (before ++ .ofPool (.cancelled entity) :: earlier))).Stillborn id := by
  rw [hlater, List.append_assoc] at h
  have hid : (rosterOf (before ++ .ofPool (.cancelled entity) :: earlier)).next ≤ id := h.allows
  have hbefore : Orderly (before ++ .ofPool (.cancelled entity) :: earlier) := h.of_append.tail
  obtain ⟨hup, hlisted⟩ := hbefore.listed hupdating hcloses
  have hsound := hbefore.sound
  rw [rosterOf_cons]
  generalize rosterOf (before ++ .ofPool (.cancelled entity) :: earlier) = r
    at hid hup hlisted hsound
  have hold : ∀ k ∈ r.present, k.1 ≠ id :=
    fun k hk => Nat.ne_of_lt (Nat.lt_of_lt_of_le (hsound.below k hk) hid)
  rw [Roster.enter_start, hup, if_pos rfl]
  refine ⟨⟨Nat.lt_succ_self id, ?_, fun k hk hkid => ?_⟩, ?_⟩
  · exact fun k hk => hold k (Roster.mem_present.mpr (Or.inr (Or.inl hk)))
  · rw [← List.append_assoc] at hk
    rcases List.mem_append.mp hk with hk | hk
    · refine absurd hkid (hold k (Roster.mem_present.mpr ?_))
      exact (List.mem_append.mp hk).imp_right Or.inr
    · rw [List.mem_singleton.mp hk]
      exact List.mem_map.mpr ⟨_, hlisted, rfl⟩
  · exact fun k hk => hold k (Roster.mem_present.mpr (Or.inl hk))

theorem cancelled_lost (hupdating : (rosterOf earlier).updating = true)
    (hlater : later = after ++ .ofPool (.started id entity cell) :: before)
    (hcloses : ¬ ClosesIn before)
    (hidle : (rosterOf (later ++ .ofPool (.cancelled entity) :: earlier)).updating = false) :
    ¬ ActsIn after id ∧ ¬ ReportedIn after id ∧
      (rosterOf (later ++ .ofPool (.cancelled entity) :: earlier)).Vanished id := by
  have hborn := h.cancelled_stillborn hupdating hlater hcloses
  rw [hlater, List.append_assoc] at h hidle ⊢
  obtain ⟨hacts, hreported⟩ := h.out_silent (P := fun r => r.Stillborn id)
    (fun hr hallow hs => hs.enter hr hallow) hborn fun hs => hs.out
  exact ⟨hacts, hreported, (h.dropped hborn.toDropped).vanished h.sound hidle⟩

end Call

/-- What is started when its entity is not listed is kept. -/
theorem keptOn {p : Pool} (h : Orderly (after ++ .ofPool (.started id entity cell) :: before))
    (hspared : entity ∉ (rosterOf before).removed)
    (hidle : (rosterOf (after ++ .ofPool (.started id entity cell) :: before)).updating = false)
    (hpool : keysOf p.instances =
      (rosterOf (after ++ .ofPool (.started id entity cell) :: before)).waiting) :
    KeptOn id entity after p where
  held := by
    refine (h.fate hspared).imp_left fun hheld => ?_
    rw [hpool]
    exact hheld.waiting h.sound hidle
  turns := by
    rintro rest reports during meantime rfl hcloses
    rw [List.append_assoc] at h
    have hupdate := h.of_append
    rw [List.cons_append, List.append_assoc, List.cons_append] at hupdate
    have hopen := hupdate.tail.of_append
    rcases hopen.tail.fate hspared with hheld | hgone
    · refine (hupdate.turn hcloses (hheld.waiting hopen.tail.sound ?_)).imp_right fun hturn => ?_
      · exact hopen.head
      · exact hturn.imp_right Or.inl
    · exact Or.inr (Or.inr (Or.inr hgone))

end Orderly

/-! ## Runs -/

/-- Each cancellation in a run silences the instances that there were, but for the one that is
acting, and touches what is started later only as long as the update goes on. -/
theorem cancelled_modules_fall_silent {m m' : Machine} {updates : List (List ModuleReport)}
    (hnew : m.world.NoModulesYet) (hbound : 0 < m.world.pool.stepBound) (hm : m.Obeys .pooling)
    (hplays : m.Plays .pooling updates m') {later earlier : List Happening} {entity : EntityId}
    (hcall : m'.world.course = later ++ .ofPool (.cancelled entity) :: earlier) :
    Removal entity later earlier m'.world.pool := by
  obtain ⟨-, hw, hidle⟩ := hplays.enrolled hnew hbound hm
  have h : Orderly (later ++ .ofPool (.cancelled entity) :: earlier) := hcall ▸ hw.orderly
  have hpool := hw.waiting
  rw [World.roster, hcall] at hpool hidle
  have hgone : ∀ id, (rosterOf (later ++ .ofPool (.cancelled entity) :: earlier)).Vanished id →
      (id, entity) ∉ keysOf m'.world.pool.instances := by
    intro id hvanished hmem
    rw [hpool] at hmem
    exact hvanished.absent _ (Roster.mem_present.mpr (Or.inr (Or.inl hmem))) rfl
  exact
    { silent := fun id => h.cancelled_silent
      lingers := fun id hstart after e before => h.cancelled_lingers hstart
      told := fun id hstart after reports before => h.cancelled_told hstart
      gone := fun id hstart => hgone id (h.cancelled_gone hstart hidle)
      spares := by
        intro k hne hheld
        have hcancel : Happening.ofPool (.cancelled entity) ≠ .ofPool (.cancelled k.2) := by
          intro heq
          injection heq with heq
          injection heq with heq
          exact hne heq.symm
        exact hheld.enter h.of_append.tail.sound trivial hcancel (Or.inl (fun heq => by cases heq))
          fun reports heq => by cases heq
      lost := by
        intro hupdating after id cell before hlater hcloses
        obtain ⟨hacts, hreported, hvanished⟩ := h.cancelled_lost hupdating hlater hcloses hidle
        exact ⟨hacts, hreported, hgone id hvanished⟩
      kept := by
        rintro after id cell before rfl hcloses hcancel
        rw [List.append_assoc] at h hidle hpool
        exact h.keptOn (h.of_append.tail.unlisted hcloses hcancel) hidle hpool }

/-! ## A module that renews itself -/

namespace Renewing

/-- Cancels the modules of the entity and starts the graph for it again. -/
def renew : Action := fun s _ =>
  .read fun w => .write ((w.cancelModules s.entity).startGraph s.entity 0 []).2 (.done (.ok ()))

/-- Three nodes in a row, the second of which performs the action. -/
def graph : Graph where
  id := "renews"
  entry := "a"
  nodes := [⟨"a", .entry⟩, ⟨"b", .flow .instant "Renew" []⟩, ⟨"c", .merge⟩]
  edges := [.flow "a" "out" "b" "in", .flow "b" "out" "c" "in"]

def machine : Machine where
  world := { library := .ofList [graph] }
  actions := [("Renew", renew)]

/-- Starts the graph. -/
def start : Script Unit :=
  .read fun w => .write (w.startGraph ⟨"one"⟩ 0 []).2 (.done ())

/-- What happens up to the call. -/
def earlier : List Happening :=
  [.atNode 1 (.entered "b"), .atNode 1 (.left "a" "out"), .atNode 1 (.entered "a"),
    .ofPool .opened, .ofPool (.started 1 ⟨"one"⟩ 0)]

/-- What happens after it: the first instance runs another node and is reported. -/
def later : List Happening :=
  [.ofPool (.closed [⟨1, ⟨"one"⟩, "renews", none⟩]), .atNode 1 (.left "c" "out"),
    .atNode 1 (.entered "c"), .atNode 1 (.left "b" "out"), .ofPool (.started 2 ⟨"one"⟩ 0)]

theorem machine_new : machine.world.NoModulesYet :=
  ⟨rfl, rfl, rfl, rfl, rfl, fun _ => rfl⟩

theorem machine_obeys : machine.Obeys .pooling where
  listeners l hl := absurd hl List.not_mem_nil
  actions := by
    intro a ha s params w
    rw [List.mem_singleton.mp ha]
    refine .read (.write ?_ .done)
    exact .tail (.single (.cancel w s.entity)) (.start _ s.entity 0 [])
  conditions a ha := absurd ha List.not_mem_nil

/-- One update, after which the pool is empty. -/
theorem plays : ∃ m, machine.Plays .pooling [[⟨1, ⟨"one"⟩, "renews", none⟩]] m ∧
    m.world.course = later ++ .ofPool (.cancelled ⟨"one"⟩) :: earlier ∧
    m.world.pool.instances = [] := by
  have hrun : ∃ m₁, start.run (Service.atDepth 0) machine = some ((), m₁) ∧
      ∃ m₂, (updateModules 0 0).run (Service.atDepth 1) m₁ =
        some ([⟨1, ⟨"one"⟩, "renews", none⟩], m₂) ∧
        m₂.world.course = later ++ .ofPool (.cancelled ⟨"one"⟩) :: earlier ∧
        m₂.world.pool.instances = [] :=
    ⟨_, rfl, _, rfl, rfl, rfl⟩
  obtain ⟨m₁, hstart, m₂, hupdate, hcourse, hpool⟩ := hrun
  have hobeys : start.Obeys .pooling machine.world :=
    .read (.write (.single (.start _ ⟨"one"⟩ 0 [])) .done)
  exact ⟨m₂, .update (.script .refl hobeys hstart) hupdate, hcourse, hpool⟩

theorem started_earlier : StartedIn earlier 1 ⟨"one"⟩ :=
  ⟨0, by simp [earlier]⟩

end Renewing

/-- The instance that renews itself is the one that goes on. -/
theorem renewing_module_lingers : ∃ m, Renewing.machine.world.NoModulesYet ∧
    0 < Renewing.machine.world.pool.stepBound ∧ Renewing.machine.Obeys .pooling ∧
    Renewing.machine.Plays .pooling [[⟨1, ⟨"one"⟩, "renews", none⟩]] m ∧
    m.world.course =
      Renewing.later ++ .ofPool (.cancelled ⟨"one"⟩) :: Renewing.earlier ∧
    Removal ⟨"one"⟩ Renewing.later Renewing.earlier m.world.pool := by
  obtain ⟨m, hplays, hcourse, -⟩ := Renewing.plays
  have hbound : 0 < Renewing.machine.world.pool.stepBound := by decide
  exact ⟨m, Renewing.machine_new, hbound, Renewing.machine_obeys, hplays, hcourse,
    cancelled_modules_fall_silent Renewing.machine_new hbound Renewing.machine_obeys hplays hcourse⟩

/-- Neither does every instance of the entity fall silent at once, nor is all that is started for it
later kept. -/
theorem not_always_silenced :
    (¬ ∀ (m m' : Machine) (updates : List (List ModuleReport)) (later earlier : List Happening)
      (entity : EntityId), m.world.NoModulesYet → 0 < m.world.pool.stepBound → m.Obeys .pooling →
      m.Plays .pooling updates m' →
      m'.world.course = later ++ .ofPool (.cancelled entity) :: earlier →
      ∀ id, StartedIn earlier id entity →
        (∀ node, .atNode id (.entered node) ∉ later) ∧ ¬ ReportedIn later id) ∧
    ¬ ∀ (m m' : Machine) (updates : List (List ModuleReport)) (later earlier : List Happening)
      (entity : EntityId), m.world.NoModulesYet → 0 < m.world.pool.stepBound → m.Obeys .pooling →
      m.Plays .pooling updates m' →
      m'.world.course = later ++ .ofPool (.cancelled entity) :: earlier →
      ∀ after id cell before, later = after ++ .ofPool (.started id entity cell) :: before →
        .ofPool (.cancelled entity) ∉ before → KeptOn id entity after m'.world.pool := by
  obtain ⟨m, hplays, hcourse, hpool⟩ := Renewing.plays
  constructor
  · intro h
    obtain ⟨hsilent, -⟩ := h _ m _ _ _ _ Renewing.machine_new (by decide) Renewing.machine_obeys
      hplays hcourse 1 Renewing.started_earlier
    exact hsilent "c" (by simp [Renewing.later])
  · intro h
    have hkept := h _ m _ _ _ _ Renewing.machine_new (by decide) Renewing.machine_obeys hplays
      hcourse (Renewing.later.take 4) 2 0 [] rfl List.not_mem_nil
    rcases hkept.held with hheld | ⟨reports, hmem, x, hx, hid⟩ | hcancel | hclear
    · rw [hpool] at hheld
      exact List.not_mem_nil hheld
    · simp only [Renewing.later, List.take_succ_cons, List.take_zero, List.mem_cons,
        Happening.ofPool.injEq, PoolEvent.closed.injEq, reduceCtorEq, List.not_mem_nil, or_false]
        at hmem
      rw [hmem, List.mem_singleton] at hx
      rw [hx] at hid
      cases hid
    · simp [Renewing.later] at hcancel
    · simp [Renewing.later] at hclear

end SceneLogic
