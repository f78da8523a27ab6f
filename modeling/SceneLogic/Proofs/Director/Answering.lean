import SceneLogic.Proofs.Director.Liveness

/-!
# Which rules an event or an update reaches

Whichever way an event takes, the rules that are evaluated because of it answer to its type, and the
event is aimed at their entity or at nobody. Likewise the rules that an update evaluates answer to
ticks. As in `Liveness`, this is about what the director does by itself.

* `Script.EvaluatesOnly` — a script begins no evaluations but such ones
* `Director.listener_answers`, `Director.update_ticks` — events and updates
-/

namespace SceneLogic

/-- While the script is carried out, it begins by itself no evaluations but such ones. -/
def Script.EvaluatesOnly {α : Type} (service : Service) (P : EntityId → Rule → Prop)
    (s : Script α) (m : Machine) : Prop :=
  ∀ id r n, s.Evaluates service m id r n → P id r

namespace Script.EvaluatesOnly

variable {service : Service} {P : EntityId → Rule → Prop} {m : Machine} {w : World} {α β : Type}

theorem done {a : α} : (Script.done a).EvaluatesOnly service P m :=
  fun _ _ _ h => absurd h Script.not_evaluates_done

theorem read {k : World → Script α} (h : (k m.world).EvaluatesOnly service P m) :
    (Script.read k).EvaluatesOnly service P m :=
  fun id r n heval => h id r n heval.read

theorem write {k : Script α} (hplain : ∀ id r, w ≠ m.world.record (.evaluated id r))
    (h : k.EvaluatesOnly service P { m with world := w }) :
    (Script.write w k).EvaluatesOnly service P m :=
  fun id r n heval => h id r n (heval.write (hplain id r))

theorem bind {s : Script α} {f : α → Script β} (hs : s.EvaluatesOnly service P m)
    (hf : ∀ a m', (f a).EvaluatesOnly service P m') : (s.bind f).EvaluatesOnly service P m := by
  intro id r n heval
  rcases Script.makes_bind heval with heval | ⟨a, m', -, heval⟩
  · exact hs id r n heval
  · exact hf a m' id r n heval

theorem forEach {items : List α} {body : α → Script Unit}
    (hbody : ∀ a ∈ items, ∀ m, (body a).EvaluatesOnly service P m) (m : Machine) :
    (Script.forEach items body).EvaluatesOnly service P m := by
  induction items generalizing m with
  | nil => exact done
  | cons a rest ih =>
    refine bind (hbody a List.mem_cons_self m) fun _ m' => ?_
    exact ih (fun b hb => hbody b (List.mem_cons_of_mem _ hb)) m'

theorem plain {s : Script α} (h : ∀ w, s.Obeys .plain w) : s.EvaluatesOnly service P m :=
  fun _ _ _ heval => absurd heval (h m.world).not_evaluates

end Script.EvaluatesOnly

open Script

/-- The rule answers to the type of the event, which is aimed at the entity or at nobody. -/
def Event.Reaches (e : Event) (id : EntityId) (r : Rule) : Prop :=
  EventType.answers r.event e.type = true ∧ e.concerns id = true

namespace Director

variable {service : Service} {m : Machine} {e : Event}

/-! ## Events -/

theorem react_only {P : EntityId → Rule → Prop} {e : Event} {s : Situation} {rules : List Rule}
    (h : ∀ r ∈ rules, r.reactsTo e.type e.data = true → e.concerns s.entity = true →
      P s.entity r) : (react e s rules (request s)).EvaluatesOnly service P m := by
  rw [react_eq]
  refine .read fun id r n heval => ?_
  obtain ⟨rfl, earlier, later, hrules, -⟩ := evaluateAll_evaluates.mp heval
  have hmem : r ∈ earlier ++ r :: later := List.mem_append_right _ List.mem_cons_self
  rw [← hrules] at hmem
  split at hmem
  · next hreacts =>
    obtain ⟨hr, hreact⟩ := List.mem_filter.mp hmem
    exact h r hr hreact hreacts.2
  · exact absurd hmem List.not_mem_nil

/-- Whoever reacts to the event as it is has rules that it reaches. -/
theorem react_reaches {s : Situation} (rules : List Rule) :
    (react e s rules (request s)).EvaluatesOnly service e.Reaches m :=
  react_only fun _ _ hreact hconcerns => ⟨(Bool.and_eq_true_iff.mp hreact).1, hconcerns⟩

theorem offer_reaches (id : EntityId) (data : Params) (withSceneRules : Bool) (m : Machine) :
    (offer e id data withSceneRules).EvaluatesOnly service e.Reaches m := by
  refine .read ?_
  dsimp only
  split
  · exact .done
  refine .write (plain_of_journal (m.world.journal_situationFor id data)) (.bind ?_ ?_)
  · split
    · exact .done
    · exact react_reaches _
  · intro _ m'
    split
    · exact .read (react_reaches _)
    · exact .done

theorem route_reaches (m : Machine) : (route e).EvaluatesOnly service e.Reaches m := by
  unfold route
  split
  · exact offer_reaches _ _ _ m
  · exact .read (.forEach (fun _ _ => offer_reaches _ _ _) m)

theorem collide_reaches (m : Machine) : (collide e).EvaluatesOnly service e.Reaches m := by
  unfold collide
  split
  · refine .read ?_
    dsimp only
    split
    · refine .write (plain_of_journal ?_) .done
      rfl
    · refine .write (plain_of_record fun _ _ heq => by cases heq) ?_
      split
      · exact .bind (offer_reaches _ _ _ _) fun _ _ => offer_reaches _ _ _ _
      · exact .done
  · exact .done

/-- Start logic reacts as if the event were aimed at the entity, which it has to come to. -/
theorem startEntity_reaches {id : EntityId} (hconcerns : e.concerns id = true) (m : Machine) :
    (startEntity e id).EvaluatesOnly service e.Reaches m := by
  have hclaims : m.world.Claims (freshStarts m.world e id).2 := claimStarts_claims e id _ _
  have hentity := situationFor_entity (freshStarts m.world e id).2 id e.data
  refine .read ?_
  dsimp only
  split
  · exact .write (plain_of_claims hclaims rfl) .done
  · refine .write (plain_of_claims hclaims (World.journal_situationFor _ id e.data)) ?_
    refine react_only fun r _ hreact _ => ?_
    rw [hentity]
    exact ⟨(Bool.and_eq_true_iff.mp hreact).1, hconcerns⟩

theorem start_reaches (m : Machine) : (start e).EvaluatesOnly service e.Reaches m := by
  unfold start
  split
  · next target htarget => exact startEntity_reaches (by simp [Event.concerns, htarget]) m
  · next htarget =>
    exact .read (.forEach (fun id _ => startEntity_reaches (by simp [Event.concerns, htarget])) m)

/-- The director evaluates no rules because of an event but those that it reaches. -/
theorem listener_answers (m : Machine) : (listener e).EvaluatesOnly service e.Reaches m := by
  refine .bind ?_ fun _ _ => .done
  unfold handle
  split
  · exact collide_reaches m
  · refine .read ?_
    split
    · exact .done
    · split
      · exact start_reaches m
      · split
        · split
          · exact offer_reaches _ _ _ m
          · exact .done
        · split
          · exact .done
          · split
            · exact .write (plain_takeSignal m.world) (route_reaches _)
            · exact route_reaches m

/-! ## Updates -/

theorem componentsOf_accepted {w : World} {id : EntityId} {accept : String → Bool} {c : Component}
    (h : c ∈ w.componentsOf id accept) : accept c.trigger = true := by
  unfold World.componentsOf at h
  split at h
  · split at h
    · exact (Bool.and_eq_true_iff.mp (List.mem_filter.mp h).2).2
    · exact absurd h List.not_mem_nil
  · exact absurd h List.not_mem_nil

/-- The rule answers to ticks. -/
def Ticks (_ : EntityId) (r : Rule) : Prop :=
  EventType.answers r.event EventType.tick = true

theorem updateComponents_ticks {id : EntityId} {dt : Float} {components : List Component}
    (h : ∀ c ∈ components, Ticks id c.rule) (m : Machine) :
    (updateComponents id dt components).EvaluatesOnly service Ticks m := by
  induction components generalizing m with
  | nil => exact .done
  | cons c rest ih =>
    have hrest := ih fun c' hc' => h c' (List.mem_cons_of_mem _ hc')
    refine .read ?_
    dsimp only
    refine .write (plain_takeTurn _ _ _) ?_
    split
    · exact hrest _
    split
    · exact .done
    refine .write (plain_of_journal (World.journal_situationFor _ _ _)) (.bind ?_ fun _ => hrest)
    intro id' r n heval
    obtain ⟨-, rfl, -⟩ := evaluate_evaluates heval
    exact h c List.mem_cons_self

theorem updateEntity_ticks (dt : Float) (id : EntityId) (m : Machine) :
    (updateEntity dt id).EvaluatesOnly service Ticks m := by
  refine .read (updateComponents_ticks (fun c hc => ?_) m)
  have haccepted := componentsOf_accepted hc
  exact haccepted

/-- An update evaluates no rules but those that answer to ticks. -/
theorem update_ticks (dt : Float) (m : Machine) :
    (update dt).EvaluatesOnly service Ticks m := by
  refine .read (.write (plain_openFrame _ _ _) (.bind ?_ fun _ m₁ => .bind ?_ fun _ m₂ => ?_))
  · exact .forEach (fun id _ => updateEntity_ticks dt id) _
  · exact .plain fun w => updateModules_plain 0 dt w
  · exact .read (.write (plain_of_journal (journal_endFrame _ m₂.world)) .done)

end Director

end SceneLogic
