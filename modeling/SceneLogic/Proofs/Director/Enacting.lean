import SceneLogic.Proofs.Director.Hearing
import SceneLogic.Proofs.Director.Liveness

/-!
# Who does what in a run

The host carries out scripts and updates. What these ask for is done by other scripts: listeners
react to an event, an action is performed, a condition is checked, and all of them may ask in turn.
So every moment of a run is one of a script that does something by itself at some depth, and what is
known of each script by itself is known of the run.

* `Script.makes_own_or_setsOff` — a script does something by itself, or it has set it off
* `Machine.Enacts` — the scripts that are carried out in a run
* `Machine.ComesTo.enacted` — each moment of the run is one that such a script makes by itself
* `Machine.ComesTo.evaluates` — at the moment of an evaluation the director handles an event or
  updates
-/

namespace SceneLogic

/-! ## What is asked for -/

/-- The script asks for something, and this is done in answer to it. -/
inductive Script.SetsOff {α : Type} (service : Service) (watch : Watch) (n : Machine) (v : World)
    (s : Script α) (m : Machine) : Prop
  | announce {type : String} {data : Params} {target : Option EntityId} {n₀ : Machine} :
      (Script.announce type data target).Begins service n₀ s m →
      watch.deliver (n₀.event type data target)
        (n₀.record (.emitted (n₀.event type data target))) n v → SetsOff service watch n v s m
  | act {name : String} {situation : Situation} {params : Params} {n₀ : Machine} :
      (Script.act name situation params).Begins service n₀ s m →
      watch.perform name situation params n₀ n v → SetsOff service watch n v s m
  | holds {name : String} {situation : Situation} {params : Params} {n₀ : Machine} :
      (Script.holds name situation params).Begins service n₀ s m →
      watch.check name situation params n₀ n v → SetsOff service watch n v s m

section SetsOff

variable {service : Service} {watch : Watch} {n : Machine} {v : World} {α β : Type}

/-- Where one script comes to all that another one comes to, it sets off the same. -/
theorem Script.SetsOff.mono {s : Script α} {s' : Script β} {m m' : Machine}
    (h : s.SetsOff service watch n v m)
    (hbegins : ∀ {γ : Type} {p : Script γ} {n₀ : Machine}, p.Begins service n₀ s m →
      p.Begins service n₀ s' m') : s'.SetsOff service watch n v m' := by
  cases h with
  | announce hbegin hmake => exact .announce (hbegins hbegin) hmake
  | act hbegin hmake => exact .act (hbegins hbegin) hmake
  | holds hbegin hmake => exact .holds (hbegins hbegin) hmake

/-- What is done while a script is carried out, it does by itself or has set off. -/
theorem Script.makes_own_or_setsOff {s : Script α} {m : Machine}
    (h : s.Makes service watch n v m) :
    s.Makes service .blind n v m ∨ s.SetsOff service watch n v m := by
  induction s generalizing m with
  | done a => exact Or.inl h
  | read k ih =>
    rcases h with h | h
    · exact Or.inl (Or.inl h)
    · exact (ih _ h).imp Or.inr fun h => h.mono .read
  | write w k ih =>
    rcases h with h | h
    · exact Or.inl (Or.inl h)
    · exact (ih h).imp Or.inr fun h => h.mono .write
  | emit type data target k ih =>
    rcases h with h | h | ⟨m₁, hdeliver, h⟩
    · exact Or.inl (Or.inl h)
    · exact Or.inr (.announce (.here fun _ => k) h)
    · exact (ih h).imp (fun h => Or.inr (Or.inr ⟨m₁, hdeliver, h⟩)) fun h => h.mono (.emit hdeliver)
  | perform name situation params k ih =>
    rcases h with h | h | ⟨m₁, hperform, h⟩
    · exact Or.inl (Or.inl h)
    · exact Or.inr (.act (.here fun _ => k) h)
    · exact (ih h).imp (fun h => Or.inr (Or.inr ⟨m₁, hperform, h⟩))
        fun h => h.mono (.perform hperform)
  | check name situation params k ih =>
    rcases h with h | h | ⟨b, m₁, hcheck, h⟩
    · exact Or.inl (Or.inl h)
    · exact Or.inr (.holds (.here k) h)
    · exact (ih b h).imp (fun h => Or.inr (Or.inr ⟨b, m₁, hcheck, h⟩))
        fun h => h.mono (.check hcheck)
  | subscribe listener k _ ih =>
    rcases h with h | h
    · exact Or.inl (Or.inl h)
    · exact (ih _ h).imp Or.inr fun h => h.mono .subscribe
  | unsubscribe id k ih =>
    rcases h with h | h
    · exact Or.inl (Or.inl h)
    · exact (ih _ h).imp Or.inr fun h => h.mono .unsubscribe
  | registerAction name action k _ ih =>
    rcases h with h | h
    · exact Or.inl (Or.inl h)
    · exact (ih h).imp Or.inr fun h => h.mono .registerAction
  | registerCondition name condition k _ ih =>
    rcases h with h | h
    · exact Or.inl (Or.inl h)
    · exact (ih h).imp Or.inr fun h => h.mono .registerCondition

/-- What a script does that does not end before it is done by each script that comes to it. -/
theorem Script.Begins.makes {p : Script β} {m₀ m : Machine} {s : Script α}
    (h : p.Begins service m₀ s m)
    (hp : ∀ {γ : Type} (k : β → Script γ), (p.bind k).Makes service watch n v m₀) :
    s.Makes service watch n v m := by
  induction h with
  | here k => exact hp k
  | read _ ih => exact Or.inr ih
  | write _ ih => exact Or.inr ih
  | emit hdeliver _ ih => exact Or.inr (Or.inr ⟨_, hdeliver, ih⟩)
  | perform hperform _ ih => exact Or.inr (Or.inr ⟨_, hperform, ih⟩)
  | check hcheck _ ih => exact Or.inr (Or.inr ⟨_, _, hcheck, ih⟩)
  | subscribe _ ih => exact Or.inr ih
  | unsubscribe _ ih => exact Or.inr ih
  | registerAction _ ih => exact Or.inr ih
  | registerCondition _ ih => exact Or.inr ih

/-- What listeners do about an event, one of them does after the earlier ones. -/
theorem Watch.makes_deliverTo {e : Event} {listeners : List Listener} {m : Machine}
    (h : Watch.deliverTo service watch e n v listeners m) :
    ∃ earlier l later m', listeners = earlier ++ l :: later ∧
      service.deliverTo e earlier m = some m' ∧ (l e).Makes service watch n v m' := by
  induction listeners generalizing m with
  | nil => exact absurd h id
  | cons l rest ih =>
    rcases h with h | ⟨a, m₁, hrun, h⟩
    · exact ⟨[], l, rest, m, rfl, rfl, h⟩
    · obtain ⟨earlier, l', later, m', rfl, hearlier, h⟩ := ih h
      refine ⟨l :: earlier, l', later, m', rfl, ?_, h⟩
      rw [Service.deliverTo, hrun]
      exact hearlier

end SetsOff

/-! ## The scripts of a run -/

/-- In a run the script is carried out from this machine, with a depth that is left for what it asks
for: a script of the host, an update, what a listener does about an event that such a script has
announced, or an action or a condition that it has asked for. -/
inductive Machine.Enacts (m : Machine) : {α : Type} → Nat → Script α → Machine → Prop
  | script {α : Type} {s : Script α} {m₁ : Machine} {depth : Nat} : m.Directs m₁ →
      s.Obeys .hosting m₁.world → Enacts m depth s m₁
  | update {m₁ : Machine} {depth : Nat} {dt : Float} : m.Directs m₁ →
      Enacts m depth (Director.update dt) m₁
  | react {α : Type} {s : Script α} {m₁ n₀ m₂ : Machine} {depth : Nat} {type : String}
      {data : Params} {target : Option EntityId} {earlier later : List Listener} {l : Listener} :
      Enacts m (depth + 1) s m₁ →
      (Script.announce type data target).Begins (Service.atDepth (depth + 1)) n₀ s m₁ →
      n₀.listeners.map (·.2) = earlier ++ l :: later →
      (Service.atDepth depth).deliverTo (n₀.event type data target) earlier
        (n₀.record (.emitted (n₀.event type data target))) = some m₂ →
      Enacts m depth (l (n₀.event type data target)) m₂
  | act {α : Type} {s : Script α} {m₁ n₀ : Machine} {depth : Nat} {name : String}
      {situation : Situation} {params : Params} {action : Action} :
      Enacts m (depth + 1) s m₁ →
      (Script.act name situation params).Begins (Service.atDepth (depth + 1)) n₀ s m₁ →
      Dict.get? n₀.actions name = some action → Enacts m depth (action situation params) n₀
  | check {α : Type} {s : Script α} {m₁ n₀ : Machine} {depth : Nat} {name : String}
      {situation : Situation} {params : Params} {condition : Condition} :
      Enacts m (depth + 1) s m₁ →
      (Script.holds name situation params).Begins (Service.atDepth (depth + 1)) n₀ s m₁ →
      Dict.get? n₀.conditions name = some condition →
      Enacts m depth (condition situation params) n₀

/-- In a run a script announces the event, and after those who subscribed earlier the director
handles it, from this machine. -/
inductive Machine.Handles (m : Machine) (e : Event) (depth : Nat) (m₂ : Machine) : Prop
  | mk {α : Type} {s : Script α} {m₁ n₀ : Machine} {earlier later : List Listener} :
      m.Enacts (depth + 1) s m₁ → e = n₀.event e.type e.data e.target →
      (Script.announce e.type e.data e.target).Begins (Service.atDepth (depth + 1)) n₀ s m₁ →
      n₀.listeners.map (·.2) = earlier ++ Director.listener :: later →
      (Service.atDepth depth).deliverTo e earlier (n₀.record (.emitted e)) = some m₂ →
      Handles m e depth m₂

section Enacts

variable {m m₁ n : Machine} {v : World} {α : Type} {depth : Nat}

/-- What is done at a moment of a script of the run, a script of the run does by itself. -/
theorem Machine.Enacts.own {s : Script α} (h : m.Enacts depth s m₁)
    (hmake : s.Makes (Service.atDepth depth) (Watch.atDepth depth) n v m₁) :
    ∃ (depth' : Nat) (β : Type) (p : Script β) (m₂ : Machine), m.Enacts depth' p m₂ ∧
      p.Makes (Service.atDepth depth') .blind n v m₂ := by
  induction depth generalizing α s m₁ with
  | zero => exact ⟨0, α, s, m₁, h, hmake⟩
  | succ depth ih =>
    rcases Script.makes_own_or_setsOff hmake with hown | hsets
    · exact ⟨depth + 1, α, s, m₁, h, hown⟩
    cases hsets with
    | announce hbegin hanswer =>
      obtain ⟨earlier, l, later, m₂, hlisteners, hearlier, hl⟩ := Watch.makes_deliverTo hanswer
      exact ih (.react h hbegin hlisteners hearlier) hl
    | act hbegin hanswer =>
      obtain ⟨action, hget, haction⟩ := hanswer
      exact ih (.act h hbegin hget) haction
    | holds hbegin hanswer =>
      obtain ⟨condition, hget, hcondition⟩ := hanswer
      exact ih (.check h hbegin hget) hcondition

/-- Each moment of a run is one that a script of the run makes by itself. -/
theorem Machine.ComesTo.enacted (h : m.ComesTo n v) :
    ∃ (depth : Nat) (β : Type) (p : Script β) (m₂ : Machine), m.Enacts depth p m₂ ∧
      p.Makes (Service.atDepth depth) .blind n v m₂ := by
  cases h with
  | script hrun hobeys hmake => exact (Machine.Enacts.script hrun hobeys).own hmake
  | update hrun hmake => exact (Machine.Enacts.update hrun).own hmake

end Enacts

/-! ## The director and its host -/

/-- All behaviours are the host's, but for the director's as a listener. -/
structure Machine.Staffed (m : Machine) : Prop where
  listeners : ∀ l ∈ m.listeners, l.2 = Director.listener ∨ ∀ e w, (l.2 e).Obeys .hosting w
  others : Machine.Obeys .hosting { m with listeners := [] }

namespace Machine.Staffed

variable {m : Machine}

theorem withWorld (h : m.Staffed) (w : World) : Staffed { m with world := w } :=
  ⟨h.listeners, h.others.withWorld w⟩

theorem subscribe (h : m.Staffed) {l : Listener} (hl : ∀ e w, (l e).Obeys .hosting w) :
    (m.subscribe l).2.Staffed := by
  refine ⟨fun l' hl' => ?_, nofun, h.others.actions, h.others.conditions⟩
  rcases List.mem_append.mp hl' with hl' | hl'
  · exact h.listeners l' hl'
  · rw [List.mem_singleton.mp hl']
    exact Or.inr hl

theorem unsubscribe (h : m.Staffed) (id : SubscriptionId) : (m.unsubscribe id).2.Staffed :=
  ⟨fun l hl => h.listeners l (List.mem_filter.mp hl).1, h.others.withWorld _⟩

theorem registerAction (h : m.Staffed) (name : String) {a : Action}
    (ha : ∀ s params w, (a s params).Obeys .hosting w) : (m.registerAction name a).Staffed :=
  ⟨h.listeners, h.others.registerAction name ha⟩

theorem registerCondition (h : m.Staffed) (name : String) {a : Condition}
    (ha : ∀ s params w, (a s params).Obeys .hosting w) :
    (m.registerCondition name a).Staffed :=
  ⟨h.listeners, h.others.registerCondition name ha⟩

end Machine.Staffed

/-- With the default behaviours only, all are the host's. -/
theorem Machine.Standard.staffed {m : Machine} (h : m.Standard) : m.Staffed where
  listeners := fun _ hl => Or.inl (h.listener hl)
  others := h.others

section Staff

variable {J : Machine → World → Prop}

/-- A shutdown changes no behaviours, and no evaluation begins. -/
theorem Director.shutdown_bears_staff (hJ : ∀ {n v}, n.Staffed → Unevaluated n v → J n v) :
    shutdown.Bears Machine.Staffed J := by
  intro service watch _ m hm
  have hidle : ∀ {n : Machine}, n.Staffed → J n n.world := fun hn => hJ hn rfl
  refine .bind ⟨fun _ m' hrun => ?_, fun n v hmake => ?_⟩ fun _ m₁ hm₁ =>
    ⟨fun _ m' hrun => ?_, fun n v hmake => ?_⟩
  · unfold resign at hrun
    simp only [Script.run] at hrun
    split at hrun
    · cases hrun
      exact hm
    · cases hrun
      exact (hm.withWorld _).unsubscribe _
  · rcases hmake with ⟨rfl, rfl⟩ | hmake
    · exact hidle hm
    dsimp only at hmake
    split at hmake
    · obtain ⟨rfl, rfl⟩ := hmake
      exact hidle hm
    · rcases hmake with ⟨rfl, rfl⟩ | ⟨rfl, rfl⟩ | ⟨rfl, rfl⟩
      · exact hJ hm rfl
      · exact hidle (hm.withWorld _)
      · exact hidle ((hm.withWorld _).unsubscribe _)
  · cases hrun
    exact hm₁.withWorld _
  · rcases hmake with ⟨rfl, rfl⟩ | ⟨rfl, rfl⟩ | ⟨rfl, rfl⟩
    · exact hidle hm₁
    · exact hJ hm₁ rfl
    · exact hidle (hm₁.withWorld _)

/-- The host leaves the director's behaviours to it, and evaluates nothing. -/
theorem Conduct.hosting_upholds_staff (hJ : ∀ {n v}, n.Staffed → Unevaluated n v → J n v) :
    Conduct.hosting.Upholds Machine.Staffed J where
  idle := fun hm => hJ hm rfl
  write := fun hstep hm => ⟨hJ hm hstep.evaluations, hm.withWorld _⟩
  emitted := fun _ hm => ⟨hJ hm rfl, hm.withWorld _⟩
  subscribe := fun _ hl hm => hm.subscribe hl
  unsubscribe := fun id _ hm => hm.unsubscribe id
  registerAction := fun _ ha hm => hm.registerAction _ ha
  registerCondition := fun _ ha hm => hm.registerCondition _ ha
  part := by
    intro β p hp
    cases hp
    exact Director.shutdown_bears_staff hJ

/-- The director leaves everybody's behaviours to them. -/
theorem Conduct.presiding_upholds_staff :
    Conduct.presiding.Upholds Machine.Staffed fun n _ => n.Staffed where
  idle := fun hm => hm
  write := fun _ hm => ⟨hm, hm.withWorld _⟩
  emitted := fun _ hm => ⟨hm, hm.withWorld _⟩
  subscribe := fun hr => absurd hr id
  unsubscribe := fun _ hr => absurd hr id
  registerAction := fun hr => absurd hr id
  registerCondition := fun hr => absurd hr id
  part := fun hp => absurd hp id

end Staff

/-- What is done in answer to requests need not be looked at. -/
theorem Service.Upholds.blind {service : Service} {watch : Watch} {I : Machine → Prop}
    {J : Machine → World → Prop} (h : service.Upholds watch I J) (J' : Machine → World → Prop) :
    service.Upholds .blind I J' where
  deliver := fun hm => ⟨(h.deliver hm).1, fun _ _ hmake => absurd hmake id⟩
  perform := fun hm => ⟨(h.perform hm).1, fun _ _ hmake => absurd hmake id⟩
  check := fun hm => ⟨(h.check hm).1, fun _ _ hmake => absurd hmake id⟩

namespace Machine

variable {m m₁ m₂ n : Machine} {depth : Nat} {id : EntityId} {r : Rule}

theorem Staffed.bears (h : m.Staffed) : m.Bears Staffed fun n _ => n.Staffed where
  listeners := by
    intro l hl e
    rcases h.listeners l hl with hlistener | hhost
    · rw [hlistener]
      exact Script.Obeys.bears Conduct.presiding_upholds_staff (fun _ _ => trivial)
        (Director.listener_presides e)
    · exact Script.Obeys.bears (Conduct.hosting_upholds_staff fun hn _ => hn)
        (fun _ _ => trivial) (hhost e)
  actions :=
    (h.others.bears (Conduct.hosting_upholds_staff fun hn _ => hn) fun _ _ => trivial).actions
  conditions :=
    (h.others.bears (Conduct.hosting_upholds_staff fun hn _ => hn) fun _ _ => trivial).conditions

/-- However deep scripts set each other off, all behaviours stay the host's. -/
theorem staffed_atDepth (depth : Nat) :
    (Service.atDepth depth).Upholds (Watch.atDepth depth) Staffed fun n _ => n.Staffed :=
  Service.upholds_atDepth (fun _ h => h.bears) depth

theorem Directs.staffed (hm : m.Staffed) (h : m.Directs m₁) : m₁.Staffed := by
  induction h with
  | refl => exact hm
  | @script m₁ m₂ depth _ s a _ hobeys hrun ih =>
    exact (hobeys.upholds (Conduct.hosting_upholds_staff fun hn _ => hn) (fun _ _ => trivial)
      (staffed_atDepth depth) m₁ rfl ih).1 a m₂ hrun
  | @update m₁ m₂ depth dt reports _ hrun ih =>
    exact ((Director.update_presides dt _).upholds Conduct.presiding_upholds_staff
      (fun _ _ => trivial) (staffed_atDepth depth) m₁ rfl ih).1 reports m₂ hrun

/-- What is known of a script of a run: its own moments, and why it evaluates rules. -/
structure Known {α : Type} (m : Machine) (depth : Nat) (s : Script α) (m₁ : Machine) :
    Prop where
  staffed : ∀ {n v}, s.Makes (Service.atDepth depth) .blind n v m₁ → n.Staffed
  evaluates : ∀ {id r n}, s.Evaluates (Service.atDepth depth) m₁ id r n →
    (∃ e, m.Handles e depth m₁ ∧
      (Director.listener e).Evaluates (Service.atDepth depth) m₁ id r n) ∨
    ∃ dt, (Director.update dt).Evaluates (Service.atDepth depth) m₁ id r n

/-- A script of the host evaluates nothing by itself. -/
theorem known_of_host {α : Type} {s : Script α} (hs : s.Obeys .hosting m₁.world)
    (hm₁ : m₁.Staffed) : m.Known depth s m₁ := by
  have hupholds : s.Upholds (Service.atDepth depth) .blind Staffed
      (fun n v => n.Staffed ∧ Unevaluated n v) m₁ :=
    hs.upholds (Conduct.hosting_upholds_staff fun hn hv => ⟨hn, hv⟩) (fun _ _ => trivial)
      ((staffed_atDepth depth).blind _) m₁ rfl hm₁
  refine ⟨fun hmake => (hupholds.2 _ _ hmake).1, fun {id r n} heval => ?_⟩
  have hsame := (hupholds.2 _ _ heval).2
  exact absurd hsame (List.cons_ne_self (id, r) n.world.evaluations)

/-- A script of the director leaves everybody's behaviours to them. -/
theorem staffed_of_presiding {α : Type} {s : Script α} {v : World}
    (hs : s.Obeys .presiding m₁.world) (hm₁ : m₁.Staffed)
    (hmake : s.Makes (Service.atDepth depth) .blind n v m₁) : n.Staffed :=
  (hs.upholds Conduct.presiding_upholds_staff (fun _ _ => trivial)
    ((staffed_atDepth depth).blind _) m₁ rfl hm₁).2 n v hmake

/-- By induction on how the run has come to the script. -/
theorem Enacts.known {α : Type} {s : Script α} (hm : m.Staffed) (h : m.Enacts depth s m₁) :
    m.Known depth s m₁ := by
  induction h with
  | script hrun hs => exact known_of_host hs (hrun.staffed hm)
  | @update m₁ depth dt hrun =>
    exact ⟨staffed_of_presiding (Director.update_presides dt _) (hrun.staffed hm),
      fun heval => Or.inr ⟨dt, heval⟩⟩
  | @react _ s m₁ n₀ m₂ depth type data target earlier later l henacts hbegin hlisteners hearlier
      ih =>
    have hn₀ : n₀.Staffed := ih.staffed (hbegin.makes fun _ => Or.inl ⟨rfl, rfl⟩)
    have hsubscribed : ∀ l' ∈ earlier ++ l :: later, ∃ entry ∈ n₀.listeners, entry.2 = l' :=
      fun l' hl' => List.mem_map.mp (hlisteners ▸ hl')
    have hbears : ∀ l' ∈ earlier, (l' (n₀.event type data target)).Bears Staffed
        fun n _ => n.Staffed := by
      intro l' hl'
      obtain ⟨entry, hentry, rfl⟩ := hsubscribed l' (List.mem_append_left _ hl')
      exact hn₀.bears.listeners entry hentry (n₀.event type data target)
    have hm₂ : m₂.Staffed :=
      (Service.deliverTo_upholds (staffed_atDepth depth) hbears (hn₀.withWorld _)).1 m₂ hearlier
    obtain ⟨entry, hentry, rfl⟩ := hsubscribed l (List.mem_append_right _ List.mem_cons_self)
    rcases hn₀.listeners entry hentry with hdirector | hhost
    · rw [hdirector] at hlisteners ⊢
      exact ⟨staffed_of_presiding (Director.listener_presides _ _) hm₂,
        fun heval => Or.inl ⟨_, .mk henacts rfl hbegin hlisteners hearlier, heval⟩⟩
    · exact known_of_host (hhost _ _) hm₂
  | act _ hbegin hget ih =>
    have hn₀ := ih.staffed (hbegin.makes fun _ => Or.inl ⟨rfl, rfl⟩)
    exact known_of_host (hn₀.others.actions _ (Dict.mem_of_get? hget) _ _ _) hn₀
  | check _ hbegin hget ih =>
    have hn₀ := ih.staffed (hbegin.makes fun _ => Or.inl ⟨rfl, rfl⟩)
    exact known_of_host (hn₀.others.conditions _ (Dict.mem_of_get? hget) _ _ _) hn₀

/-- Each evaluation of a run is one of the director, which handles an event that was announced, or
of an update. -/
theorem ComesTo.evaluates (hm : m.Staffed)
    (h : m.ComesTo n (n.world.record (.evaluated id r))) :
    ∃ depth m₂,
      (∃ e, m.Handles e depth m₂ ∧
        (Director.listener e).Evaluates (Service.atDepth depth) m₂ id r n) ∨
      ∃ dt, (Director.update dt).Evaluates (Service.atDepth depth) m₂ id r n := by
  obtain ⟨depth, β, p, m₂, henacts, hmake⟩ := h.enacted
  exact ⟨depth, m₂, (henacts.known hm).evaluates hmake⟩

end Machine

end SceneLogic
