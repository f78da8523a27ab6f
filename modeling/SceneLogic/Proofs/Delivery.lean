import SceneLogic.Proofs.Chronicle

/-!
# Each event has the listeners of its own moment

Listeners come and go while events are on their way to others, and they announce events themselves.
Who hears of an event is settled when it is announced. What there is to know about that is a `Bus`:
the clock, the subscriptions in their order, and the number of the next one. It can be read off the
log of a run, deed by deed, and each deed has to agree with it.

* `Script.trace_leads` — a run to any depth agrees with the bus that its log tells of
* `events_reach_listeners_of_their_moment` — so each event reaches those, and only those, who are
  subscribed when it is announced
-/

namespace SceneLogic

/-- What there is to know about subscriptions and the clock at a moment. -/
structure Bus where
  clock : Float
  /-- The numbers of the subscriptions, in order. -/
  subscribers : List SubscriptionId
  next : SubscriptionId

def Machine.bus (m : Machine) : Bus where
  clock := m.world.clock
  subscribers := m.listeners.map (·.1)
  next := m.nextSubscription

/-- The number that a subscription was given. -/
def Deed.given? : Deed → Option SubscriptionId
  | .subscribed id => some id
  | _ => none

/-- The number of a subscription that was ended. -/
def Deed.ended? : Deed → Option SubscriptionId
  | .unsubscribed id true => some id
  | _ => none

namespace Bus

/-- The bus when a deed has begun. -/
def after (b : Bus) : Deed → Bus
  | .timed clock => { b with clock }
  | .subscribed id => { b with subscribers := b.subscribers ++ [id], next := id + 1 }
  | .unsubscribed id _ => { b with subscribers := b.subscribers.filter (· ≠ id) }
  | .announced _ _ => b

/-- The deed agrees with the bus. The next number is given to a subscription, ending a subscription
tells whether there was one, and an event that is announced has the time of that moment and is what
all who are subscribed at that moment react to, one after the other. -/
def Allows (b : Bus) : Deed → Prop
  | .timed _ => True
  | .subscribed id => id = b.next
  | .unsubscribed id found => found = true ↔ id ∈ b.subscribers
  | .announced event reactions =>
    event.timestamp = b.clock ∧
      reactions.map (fun r => (r.id, r.event)) = b.subscribers.map fun id => (id, event)

/-- Deeds that agree with the bus, each at its moment, lead from one bus to another. -/
inductive Leads : Bus → List Deed → Bus → Prop
  | nil {b : Bus} : Leads b [] b
  | cons {b b' : Bus} {d : Deed} {rest : List Deed} : b.Allows d → Leads (b.after d) rest b' →
      Leads b (d :: rest) b'

/-- All subscriptions have different numbers, which were given. -/
structure Sound (b : Bus) : Prop where
  nodup : b.subscribers.Nodup
  given : ∀ id ∈ b.subscribers, id < b.next

variable {b b' b'' : Bus} {d : Deed} {deeds earlier later : List Deed}

theorem Leads.trans (h : b.Leads earlier b') (h' : b'.Leads later b'') :
    b.Leads (earlier ++ later) b'' := by
  induction h with
  | nil => exact h'
  | cons hd _ ih => exact .cons hd (ih h')

/-- The bus is what the deeds have made of it. -/
theorem Leads.eq (h : b.Leads deeds b') : b' = deeds.foldl after b := by
  induction h with
  | nil => rfl
  | cons _ _ ih => exact ih

/-- Up to each moment the deeds lead to the bus of that moment, and from there to the last one. -/
theorem Leads.split (h : b.Leads (earlier ++ later) b') :
    b.Leads earlier (earlier.foldl after b) ∧ (earlier.foldl after b).Leads later b' := by
  induction earlier generalizing b with
  | nil => exact ⟨.nil, h⟩
  | cons d rest ih =>
    cases h with
    | cons hd hrest => exact ⟨.cons hd (ih hrest).1, (ih hrest).2⟩

/-! ## Subscriptions are counted -/

theorem Sound.after (h : b.Sound) (hd : b.Allows d) : (b.after d).Sound := by
  cases d with
  | timed clock => exact ⟨h.nodup, h.given⟩
  | subscribed id =>
    have hid : id = b.next := hd
    subst hid
    constructor
    · refine List.nodup_append.mpr ⟨h.nodup, by simp, fun id hmem => ?_⟩
      rintro _ hnew rfl
      rw [List.mem_singleton.mp hnew] at hmem
      exact Nat.lt_irrefl _ (h.given _ hmem)
    · intro id hmem
      rcases List.mem_append.mp hmem with hmem | hmem
      · exact Nat.lt_succ_of_lt (h.given id hmem)
      · rw [List.mem_singleton.mp hmem]
        exact Nat.lt_succ_self _
  | unsubscribed id found =>
    exact ⟨h.nodup.filter _, fun id hmem => h.given id (List.mem_filter.mp hmem).1⟩
  | announced event reactions => exact ⟨h.nodup, h.given⟩

theorem Leads.sound (h : b.Leads deeds b') (hb : b.Sound) : b'.Sound := by
  induction h with
  | nil => exact hb
  | cons hd _ ih => exact ih (hb.after hd)

/-- The numbers that are given follow on one another. -/
theorem Leads.given (h : b.Leads deeds b') :
    ∃ n, b'.next = b.next + n ∧ deeds.filterMap Deed.given? = List.range' b.next n := by
  induction h with
  | nil => exact ⟨0, rfl, rfl⟩
  | @cons b b' d rest hd _ ih =>
    obtain ⟨n, hnext, hgiven⟩ := ih
    cases d with
    | subscribed id =>
      have hid : id = b.next := hd
      subst hid
      refine ⟨n + 1, ?_, ?_⟩
      · rw [hnext]
        exact Nat.add_right_comm b.next 1 n
      · rw [List.filterMap_cons_some (f := Deed.given?) rfl, hgiven, List.range'_succ]
        rfl
    | timed clock => exact ⟨n, hnext, hgiven⟩
    | unsubscribed id found => exact ⟨n, hnext, hgiven⟩
    | announced event reactions => exact ⟨n, hnext, hgiven⟩

theorem length_filter_ne {ids : List SubscriptionId} (h : ids.Nodup) {id : SubscriptionId}
    (hmem : id ∈ ids) : (ids.filter (· ≠ id)).length + 1 = ids.length := by
  have herase : ids.erase id = ids.filter (· ≠ id) := by
    rw [h.erase_eq_filter]
    refine List.filter_congr fun x _ => ?_
    by_cases hx : x = id
    · simp [hx]
    · simp [hx]
  have hpos : 0 < ids.length := List.length_pos_of_mem hmem
  rw [← herase, List.length_erase_of_mem hmem]
  omega

/-- Subscriptions that were not ended are there still. -/
theorem Leads.count (h : b.Leads deeds b') (hb : b.Sound) :
    b'.subscribers.length + (deeds.filterMap Deed.ended?).length =
      b.subscribers.length + (deeds.filterMap Deed.given?).length := by
  induction h with
  | nil => rfl
  | @cons b b' d rest hd _ ih =>
    have hrest := ih (hb.after hd)
    cases d with
    | timed clock => exact hrest
    | announced event reactions => exact hrest
    | subscribed id =>
      have hlength : (b.after (.subscribed id)).subscribers.length = b.subscribers.length + 1 :=
        List.length_append
      rw [List.filterMap_cons_none (f := Deed.ended?) rfl,
        List.filterMap_cons_some (f := Deed.given?) rfl, List.length_cons]
      omega
    | unsubscribed id found =>
      cases found with
      | true =>
        have hlength : (b.after (.unsubscribed id true)).subscribers.length + 1 =
            b.subscribers.length := length_filter_ne hb.nodup (hd.mp rfl)
        rw [List.filterMap_cons_some (f := Deed.ended?) rfl,
          List.filterMap_cons_none (f := Deed.given?) rfl, List.length_cons]
        omega
      | false =>
        have hnone : id ∉ b.subscribers := fun hmem => Bool.false_ne_true (hd.mpr hmem)
        have hsame : (b.after (.unsubscribed id false)).subscribers = b.subscribers :=
          List.filter_eq_self.mpr fun id' hmem => decide_eq_true fun heq => hnone (heq ▸ hmem)
        rw [hsame] at hrest
        exact hrest

end Bus

/-! ## Runs agree with the bus -/

/-- What the scribe takes down agrees with the bus. -/
structure Scribe.Agrees (scribe : Scribe) : Prop where
  deliver : ∀ {e m reactions m'}, scribe.deliver e m = some (reactions, m') →
    reactions.map (fun r => (r.id, r.event)) = m.listeners.map (fun l => (l.1, e)) ∧
      m.bus.Leads (chronicleOfReactions reactions) m'.bus
  perform : ∀ {name s params m deeds m'}, scribe.perform name s params m = some (deeds, m') →
    m.bus.Leads (chronicle deeds) m'.bus
  check : ∀ {name s params m b deeds m'}, scribe.check name s params m = some (b, deeds, m') →
    m.bus.Leads (chronicle deeds) m'.bus

/-- The log of a script that announces an event goes on after the reactions. -/
theorem chronicle_announced (event : Event) (reactions : List (Reaction Deed))
    (later : List Deed) : chronicle ([.announced event reactions] ++ later) =
      .announced event reactions :: (chronicleOfReactions reactions ++ chronicle later) :=
  rfl

namespace Script

variable {scribe : Scribe} {α : Type}

theorem bus_subscribe (m : Machine) (listener : Listener) :
    (m.subscribe listener).2.bus = m.bus.after (.subscribed (m.subscribe listener).1) := by
  simp [Machine.bus, Machine.subscribe, Bus.after]

theorem bus_unsubscribe (m : Machine) (id : SubscriptionId) :
    (m.unsubscribe id).2.bus = m.bus.after (.unsubscribed id (m.unsubscribe id).1) := by
  simp [Machine.bus, Machine.unsubscribe, Bus.after, List.filter_map, Function.comp_def]

theorem unsubscribe_agrees (m : Machine) (id : SubscriptionId) :
    m.bus.Allows (.unsubscribed id (m.unsubscribe id).1) := by
  show m.listeners.any _ = true ↔ id ∈ m.listeners.map (·.1)
  simp only [List.any_eq_true, List.mem_map, decide_eq_true_eq]

/-- The deeds of a script agree with the bus. -/
theorem trace_leads (h : scribe.Agrees) {s : Script α} {m m' : Machine} {a : α}
    {log : List Deed} (htrace : s.trace scribe m = some (a, log, m')) :
    m.bus.Leads (chronicle log) m'.bus := by
  induction s generalizing m log with
  | done b =>
    cases htrace
    exact .nil
  | read k ih => exact ih _ htrace
  | write w k ih =>
    rw [trace] at htrace
    obtain ⟨⟨_, later, _⟩, hrest, hresult⟩ := Option.map_eq_some_iff.mp htrace
    cases hresult
    exact .cons trivial (ih hrest)
  | emit type data target k ih =>
    rw [trace] at htrace
    obtain ⟨⟨reactions, m₁⟩, hdeliver, htrace⟩ := Option.bind_eq_some_iff.mp htrace
    obtain ⟨⟨_, later, _⟩, hrest, hresult⟩ := Option.map_eq_some_iff.mp htrace
    cases hresult
    obtain ⟨hreactions, hlead⟩ := h.deliver hdeliver
    have hallows : m.bus.Allows (.announced (m.event type data target) reactions) := by
      refine ⟨rfl, hreactions.trans ?_⟩
      show m.listeners.map _ = (m.listeners.map _).map _
      rw [List.map_map]
      rfl
    rw [chronicle_announced]
    exact .cons hallows (hlead.trans (ih hrest))
  | perform name s params k ih =>
    rw [trace] at htrace
    obtain ⟨⟨deeds, m₁⟩, hperform, htrace⟩ := Option.bind_eq_some_iff.mp htrace
    obtain ⟨⟨_, later, _⟩, hrest, hresult⟩ := Option.map_eq_some_iff.mp htrace
    cases hresult
    rw [chronicle_append]
    exact (h.perform hperform).trans (ih hrest)
  | check name s params k ih =>
    rw [trace] at htrace
    obtain ⟨⟨b, deeds, m₁⟩, hcheck, htrace⟩ := Option.bind_eq_some_iff.mp htrace
    obtain ⟨⟨_, later, _⟩, hrest, hresult⟩ := Option.map_eq_some_iff.mp htrace
    cases hresult
    rw [chronicle_append]
    exact (h.check hcheck).trans (ih _ hrest)
  | subscribe listener k _ ih =>
    rw [trace] at htrace
    obtain ⟨⟨_, later, _⟩, hrest, hresult⟩ := Option.map_eq_some_iff.mp htrace
    cases hresult
    have hlead : (m.subscribe listener).2.bus.Leads (chronicle later) _ := ih _ hrest
    rw [bus_subscribe] at hlead
    exact .cons rfl hlead
  | unsubscribe id k ih =>
    rw [trace] at htrace
    obtain ⟨⟨_, later, _⟩, hrest, hresult⟩ := Option.map_eq_some_iff.mp htrace
    cases hresult
    have hlead : (m.unsubscribe id).2.bus.Leads (chronicle later) _ := ih _ hrest
    rw [bus_unsubscribe] at hlead
    exact .cons (unsubscribe_agrees m id) hlead
  | registerAction name action k _ ih => exact ih (m := m.registerAction name action) htrace
  | registerCondition name condition k _ ih =>
    exact ih (m := m.registerCondition name condition) htrace

end Script

namespace Scribe

variable {scribe : Scribe}

theorem deliverTo_agrees (h : scribe.Agrees) {e : Event}
    {listeners : List (SubscriptionId × Listener)} {m m' : Machine}
    {reactions : List (Reaction Deed)} (hdeliver : deliverTo scribe e listeners m =
      some (reactions, m')) :
    reactions.map (fun r => (r.id, r.event)) = listeners.map (fun l => (l.1, e)) ∧
      m.bus.Leads (chronicleOfReactions reactions) m'.bus := by
  induction listeners generalizing m reactions with
  | nil =>
    cases hdeliver
    exact ⟨rfl, .nil⟩
  | cons l rest ih =>
    rw [deliverTo] at hdeliver
    obtain ⟨⟨result, deeds, m₁⟩, htrace, hdeliver⟩ := Option.bind_eq_some_iff.mp hdeliver
    obtain ⟨⟨later, _⟩, hrest, hresult⟩ := Option.map_eq_some_iff.mp hdeliver
    cases hresult
    obtain ⟨hreactions, hlead⟩ := ih hrest
    refine ⟨?_, (Script.trace_leads h htrace).trans hlead⟩
    rw [List.map_cons, List.map_cons, hreactions]

theorem Agrees.above (h : scribe.Agrees) : (above scribe).Agrees where
  deliver := deliverTo_agrees h
  perform {name s params m deeds m'} hperform := by
    simp only [Scribe.above] at hperform
    cases hget : Dict.get? m.actions name with
    | none =>
      rw [hget] at hperform
      cases hperform
      exact .nil
    | some action =>
      rw [hget] at hperform
      obtain ⟨⟨_, _, _⟩, htrace, hresult⟩ := Option.map_eq_some_iff.mp hperform
      cases hresult
      exact Script.trace_leads h htrace
  check {name s params m b deeds m'} hcheck := by
    simp only [Scribe.above] at hcheck
    cases hget : Dict.get? m.conditions name with
    | none =>
      rw [hget] at hcheck
      cases hcheck
      exact .nil
    | some condition =>
      rw [hget] at hcheck
      obtain ⟨⟨_, _, _⟩, htrace, hresult⟩ := Option.map_eq_some_iff.mp hcheck
      cases hresult
      exact Script.trace_leads h htrace

theorem atDepth_agrees : ∀ depth, (atDepth depth).Agrees
  | 0 => ⟨nofun, nofun, nofun⟩
  | depth + 1 =>
    let below := (atDepth_agrees depth).above
    ⟨below.deliver, below.perform, below.check⟩

end Scribe

/-- **Each event reaches the listeners of its own moment.** Take a run to any depth, and a log of
it, in the order in which its deeds began. What the deeds up to a moment have made of the bus is the
bus of that moment, and the next deed agrees with it: an event is what all listeners that are
subscribed when it is announced react to, each once, in the order of their subscriptions and with
the time of that moment, however they react and whoever comes or goes meanwhile. At each moment there
are as many listeners as subscribed and have not left, and no number is given twice. -/
theorem events_reach_listeners_of_their_moment {α : Type} {s : Script α} {depth : Nat}
    {m m' : Machine} {a : α} (hm : m.bus.Sound)
    (hrun : s.run (Service.atDepth depth) m = some (a, m')) :
    ∃ log, s.trace (Scribe.atDepth depth) m = some (a, log, m') ∧
      (∀ {earlier later}, chronicle log = earlier ++ later →
        let bus := earlier.foldl Bus.after m.bus
        bus.Sound ∧ (∀ {d rest}, later = d :: rest → bus.Allows d) ∧
          bus.subscribers.length + (earlier.filterMap Deed.ended?).length =
            m.listenerCount + (earlier.filterMap Deed.given?).length) ∧
      m'.bus = (chronicle log).foldl Bus.after m.bus ∧ m'.bus.Sound ∧
      m'.listenerCount + ((chronicle log).filterMap Deed.ended?).length =
        m.listenerCount + ((chronicle log).filterMap Deed.given?).length ∧
      ∃ n, m'.nextSubscription = m.nextSubscription + n ∧
        (chronicle log).filterMap Deed.given? = List.range' m.nextSubscription n := by
  obtain ⟨log, htrace⟩ := Script.exists_trace hrun
  have hlead : m.bus.Leads (chronicle log) m'.bus :=
    Script.trace_leads (Scribe.atDepth_agrees depth) htrace
  have hcount (m : Machine) : m.bus.subscribers.length = m.listenerCount := List.length_map _
  refine ⟨log, htrace, fun {earlier later} hlog => ?_, hlead.eq, hlead.sound hm, ?_, hlead.given⟩
  · rw [hlog] at hlead
    obtain ⟨hbefore, hafter⟩ := hlead.split
    refine ⟨hbefore.sound hm, fun {d rest} hlater => ?_, ?_⟩
    · rw [hlater] at hafter
      cases hafter with
      | cons hd _ => exact hd
    · rw [← hcount]
      exact hbefore.count hm
  · rw [← hcount, ← hcount]
    exact hlead.count hm

/-! ## A listener that sends another one away -/

namespace Changing

/-- When the guard changes it sends the second listener away, and a third one comes and hears of
that. Then it fails. -/
def guard : Listener := fun e =>
  if e.type = "changed" then .done (.ok ())
  else
    .unsubscribe 2 fun _ => .subscribe (fun _ => .done (.ok ())) fun _ => .read fun w =>
      .write { w with clock := 7 }
        (.emit "changed" [] none (.done (.error (.handler "off duty"))))

def machine : Machine where
  world := { clock := 5 }
  listeners := [(1, guard), (2, fun _ => .done (.ok ()))]
  nextSubscription := 3

theorem machine_sound : machine.bus.Sound :=
  ⟨by decide, by decide⟩

def changing : Event := ⟨"changing", none, [], 5⟩

def changed : Event := ⟨"changed", none, [], 7⟩

/-- The second listener hears of the first event, but not of the one that is announced meanwhile. -/
def log : List Deed :=
  [.announced changing
    [⟨1, changing,
      [.unsubscribed 2 true, .subscribed 3, .timed 7,
        .announced changed [⟨1, changed, [], .ok ()⟩, ⟨3, changed, [], .ok ()⟩]],
      .error (.handler "off duty")⟩,
    ⟨2, changing, [], .ok ()⟩]]

theorem run : ∃ m', (Script.announce "changing" [] none).run (Service.atDepth 3) machine =
    some ((), m') ∧
    (Script.announce "changing" [] none).trace (Scribe.atDepth 3) machine = some ((), log, m') :=
  ⟨_, rfl, rfl⟩

end Changing

/-- After the guard has changed there are as many listeners as before, and the third number has been
given. -/
theorem guard_has_changed : ∃ m', Changing.machine.bus.Sound ∧
    (Script.announce "changing" [] none).run (Service.atDepth 3) Changing.machine =
      some ((), m') ∧
    (Script.announce "changing" [] none).trace (Scribe.atDepth 3) Changing.machine =
      some ((), Changing.log, m') ∧
    m'.listenerCount = 2 ∧ m'.nextSubscription = 4 ∧
    (Bus.mk 7 [1, 3] 4).Allows
      (.announced Changing.changed [⟨1, Changing.changed, [], .ok ()⟩,
        ⟨3, Changing.changed, [], .ok ()⟩]) := by
  obtain ⟨m', hrun, htrace⟩ := Changing.run
  obtain ⟨log, htrace', hmoment, hbus, -, hcount, -⟩ :=
    events_reach_listeners_of_their_moment Changing.machine_sound hrun
  rw [htrace] at htrace'
  cases htrace'
  refine ⟨m', Changing.machine_sound, hrun, htrace, ?_, congrArg Bus.next hbus, ?_⟩
  · exact Nat.succ.inj hcount
  · -- The second event is the fifth deed.
    obtain ⟨-, hallows, -⟩ := hmoment (List.take_append_drop 4 (chronicle Changing.log)).symm
    exact hallows rfl

end SceneLogic
