import SceneLogic.Proofs.Senses.Contacts

/-!
# How fresh the ground flag is

The ground flag is computed from the contacts of an entity and the tags that count as ground, and
kept. `SenseCall` lists the calls that change what is sensed. Whenever a contact of an entity is
reported its flag is computed anew, by the tags of that moment, and no other call touches its
contacts but the one that forgets both. So nothing that is sensed makes a flag stale.

Replacing the tags does: it computes no flag. `grounded_as_last_reported` says what each flag is
after any calls, and that a flag is right by the present tags unless they were replaced since the
entity's last contact was reported.
-/

namespace SceneLogic

/-- A call that changes what entities sense, or what counts as ground. -/
inductive SenseCall where
  | enter (id : EntityId) (c : Contact)
  | stay (id : EntityId) (c : Contact)
  | exit (id other : EntityId)
  | beginFrame
  | setSignal (id : EntityId) (key : String) (v : Value)
  | clearSignal (id : EntityId) (key : String)
  | forget (id : EntityId)
  | setGroundTags (tags : List String)

namespace SenseCall

/-- The entity of which the call reports a contact. -/
def reports? : SenseCall → Option EntityId
  | enter id _ => some id
  | stay id _ => some id
  | exit id _ => some id
  | _ => none

/-- The tags with which the call replaces the others. -/
def groundTags? : SenseCall → Option (List String)
  | setGroundTags tags => some tags
  | _ => none

/-- What counts as ground after the calls, the latest of which comes first. -/
def tagsAfter (tags : List String) : List SenseCall → List String
  | [] => tags
  | call :: earlier => call.groundTags?.getD (tagsAfter tags earlier)

/-- What counted as ground when a contact of the entity was last reported. -/
def tagsFor (tags : List String) (id : EntityId) : List SenseCall → List String
  | [] => tags
  | call :: earlier =>
    if call.reports? = some id then tagsAfter tags earlier else tagsFor tags id earlier

/-- Unless they were replaced since, the tags of the entity's last report are the present ones. -/
theorem tagsFor_append {tags : List String} {id : EntityId} {later earlier : List SenseCall}
    (hlater : ∀ call ∈ later, call.groundTags? = none)
    (hearlier : tagsFor tags id earlier = tagsAfter tags earlier) :
    tagsFor tags id (later ++ earlier) = tagsAfter tags (later ++ earlier) := by
  induction later with
  | nil => exact hearlier
  | cons call rest ih =>
    have hrest : ∀ x ∈ rest, x.groundTags? = none :=
      fun x hx => hlater x (List.mem_cons_of_mem _ hx)
    rw [List.cons_append, tagsFor, tagsAfter, hlater call List.mem_cons_self, Option.getD_none,
      ih hrest, ite_self]

theorem tagsFor_report {tags : List String} {id : EntityId} {call : SenseCall}
    (earlier : List SenseCall) (h : call.reports? = some id) :
    tagsFor tags id (call :: earlier) = tagsAfter tags (call :: earlier) := by
  have hkept : call.groundTags? = none := by
    cases call with
    | setGroundTags tags => cases h
    | _ => rfl
  rw [tagsFor, if_pos h, tagsAfter, hkept, Option.getD_none]

end SenseCall

namespace Senses

/-- Carries out a call. -/
def carryOut (s : Senses) : SenseCall → Senses
  | .enter id c => s.enter id c
  | .stay id c => s.stay id c
  | .exit id other => s.exit id other
  | .beginFrame => s.beginFrame
  | .setSignal id key v => s.setSignal id key v
  | .clearSignal id key => s.clearSignal id key
  | .forget id => s.forget id
  | .setGroundTags tags => s.setGroundTags tags

/-- What is sensed after the calls, the latest of which comes first. Before them nothing is sensed,
and some tags count as ground. -/
def after (tags : List String) (calls : List SenseCall) : Senses :=
  calls.foldr (fun call s => s.carryOut call) { groundTags := tags }

variable {s : Senses}

/-! ## One call -/

/-- A change after which a flag is right by the present tags, for the entity that it is about. -/
theorem awareness_report (h : s.Sound) {id : EntityId} {f : Awareness → Awareness}
    (hf : ∀ a, (f a).Judged s.groundTags) : ((s.modify id f).awareness id).Judged s.groundTags := by
  rw [awareness_modify h, if_pos rfl]
  exact hf _

theorem awareness_unreported (h : s.Sound) {id a : EntityId} (f : Awareness → Awareness)
    (ha : some id ≠ some a) : (s.awareness a).SameContacts ((s.modify id f).awareness a) := by
  rw [awareness_modify h, if_neg fun heq => ha (congrArg some heq.symm)]
  exact .refl _

theorem Sound.carryOut (h : s.Sound) (call : SenseCall) : (s.carryOut call).Sound := by
  cases call with
  | enter id c => exact h.modify id _
  | stay id c => exact h.modify id _
  | exit id other => exact h.modify id _
  | beginFrame => exact s.sameContacts_beginFrame.sound h
  | setSignal id key v => exact h.modify id _
  | clearSignal id key => exact h.modify id _
  | forget id => exact h.forget id
  | setGroundTags tags => exact h.setGroundTags tags

theorem groundTags_carryOut (s : Senses) (call : SenseCall) :
    (s.carryOut call).groundTags = call.groundTags?.getD s.groundTags := by
  cases call with
  | enter id c => exact s.groundTags_modify id _
  | stay id c => exact s.groundTags_modify id _
  | exit id other => exact s.groundTags_modify id _
  | beginFrame => exact s.sameContacts_beginFrame.groundTags
  | setSignal id key v => exact s.groundTags_modify id _
  | clearSignal id key => exact s.groundTags_modify id _
  | forget id => rfl
  | setGroundTags tags => rfl

/-- The flag of the entity whose contact is reported is computed by the present tags. -/
theorem judged_of_report (h : s.Sound) {call : SenseCall} {id : EntityId}
    (hreport : call.reports? = some id) :
    ((s.carryOut call).awareness id).Judged s.groundTags := by
  cases call with
  | enter a c =>
    cases hreport
    exact awareness_report h fun x => x.judged_enter _ c
  | stay a c =>
    cases hreport
    exact awareness_report h fun x => x.judged_stay _ c
  | exit a other =>
    cases hreport
    exact awareness_report h fun x => x.judged_exit _ other
  | _ => cases hreport

/-- All other calls leave the contacts and the flag of an entity alone, or forget both. -/
theorem awareness_of_no_report (h : s.Sound) {call : SenseCall} {id : EntityId}
    (hreport : call.reports? ≠ some id) :
    (s.awareness id).SameContacts ((s.carryOut call).awareness id) ∨
      (s.carryOut call).awareness id = {} := by
  cases call with
  | enter a c => exact Or.inl (awareness_unreported h _ hreport)
  | stay a c => exact Or.inl (awareness_unreported h _ hreport)
  | exit a other => exact Or.inl (awareness_unreported h _ hreport)
  | beginFrame => exact Or.inl (s.sameContacts_beginFrame.awareness h id)
  | setSignal a key v => exact Or.inl ((s.sameContacts_setSignal a key v).awareness h id)
  | clearSignal a key => exact Or.inl ((s.sameContacts_clearSignal a key).awareness h id)
  | forget a =>
    have hforget := awareness_forget h a id
    by_cases ha : id = a
    · exact Or.inr (by rw [carryOut, hforget, if_pos ha])
    · rw [if_neg ha] at hforget
      refine Or.inl ?_
      rw [carryOut, hforget]
      exact .refl _
  | setGroundTags tags => exact Or.inl (.refl _)

theorem judged_carryOut (h : s.Sound) {tags : List String} (call : SenseCall) {id : EntityId}
    (hjudged : (s.awareness id).Judged tags) :
    ((s.carryOut call).awareness id).Judged
      (if call.reports? = some id then s.groundTags else tags) := by
  by_cases hreport : call.reports? = some id
  · rw [if_pos hreport]
    exact judged_of_report h hreport
  · rw [if_neg hreport]
    rcases awareness_of_no_report h hreport with hsame | hgone
    · exact hsame.judged hjudged
    · rw [hgone]
      exact Awareness.judged_new tags

/-! ## Any number of calls -/

theorem sound_after (tags : List String) (calls : List SenseCall) : (after tags calls).Sound := by
  induction calls with
  | nil => exact sound_new tags
  | cons call earlier ih => exact ih.carryOut call

theorem groundTags_after (tags : List String) (calls : List SenseCall) :
    (after tags calls).groundTags = SenseCall.tagsAfter tags calls := by
  induction calls with
  | nil => rfl
  | cons call earlier ih =>
    rw [SenseCall.tagsAfter, ← ih]
    exact groundTags_carryOut _ call

theorem judged_after (tags : List String) (calls : List SenseCall) (id : EntityId) :
    ((after tags calls).awareness id).Judged (SenseCall.tagsFor tags id calls) := by
  induction calls with
  | nil => exact Awareness.judged_new tags
  | cons call earlier ih =>
    rw [SenseCall.tagsFor, ← groundTags_after]
    exact judged_carryOut (sound_after tags earlier) call ih

end Senses

/-- After any calls the ground flag of each entity equals whether one of its contacts has a tag
that counted as ground when a contact of the entity was last reported. So the flag is right by the
present tags if the tags were never replaced, and also if they were not since that report. -/
theorem grounded_as_last_reported (tags : List String) (calls : List SenseCall) (id : EntityId) :
    let s := Senses.after tags calls
    let a := s.awareness id
    s.groundTags = SenseCall.tagsAfter tags calls ∧
    (a.grounded = true ↔ a.OnGround (SenseCall.tagsFor tags id calls)) ∧
    ((∀ call ∈ calls, call.groundTags? = none) → (a.grounded = true ↔ a.OnGround s.groundTags)) ∧
    (∀ later call earlier, calls = later ++ call :: earlier → call.reports? = some id →
      (∀ x ∈ later, x.groundTags? = none) → (a.grounded = true ↔ a.OnGround s.groundTags)) := by
  intro s a
  have hflag : a.grounded = true ↔ a.OnGround (SenseCall.tagsFor tags id calls) :=
    (Senses.judged_after tags calls id).iff
  have hpresent : s.groundTags = SenseCall.tagsAfter tags calls :=
    Senses.groundTags_after tags calls
  refine ⟨hpresent, hflag, fun hkept => ?_, ?_⟩
  · have heq : SenseCall.tagsFor tags id (calls ++ []) = SenseCall.tagsAfter tags (calls ++ []) :=
      SenseCall.tagsFor_append hkept rfl
    rw [List.append_nil] at heq
    rw [hpresent, ← heq]
    exact hflag
  · rintro later call earlier rfl hreport hkept
    have hnow : SenseCall.tagsFor tags id (call :: earlier) =
        SenseCall.tagsAfter tags (call :: earlier) := SenseCall.tagsFor_report earlier hreport
    rw [hpresent, ← SenseCall.tagsFor_append hkept hnow]
    exact hflag

/-! ## A wall that ceases to be ground -/

namespace Ledge

/-- The hero touches a wall. -/
def landing : SenseCall :=
  .enter ⟨"hero"⟩ ⟨⟨"wall"⟩, some "Wall", none⟩

/-- Nothing but ice counts as ground any more. -/
def freeze : SenseCall :=
  .setGroundTags ["Ice"]

end Ledge

/-- The hero stands on the wall that was there when it landed, until the next report. -/
theorem hero_stands_until_reported :
    let stale := Senses.after ["Wall"] [Ledge.freeze, Ledge.landing]
    let fresh := Senses.after ["Wall"] [Ledge.landing, Ledge.freeze]
    (stale.awareness ⟨"hero"⟩).grounded = true ∧ stale.groundTags = ["Ice"] ∧
      ((fresh.awareness ⟨"hero"⟩).grounded = true ↔
        (fresh.awareness ⟨"hero"⟩).OnGround fresh.groundTags) ∧
      (fresh.awareness ⟨"hero"⟩).grounded = false := by
  obtain ⟨htags, -, -, -⟩ :=
    grounded_as_last_reported ["Wall"] [Ledge.freeze, Ledge.landing] ⟨"hero"⟩
  obtain ⟨-, -, -, hright⟩ :=
    grounded_as_last_reported ["Wall"] [Ledge.landing, Ledge.freeze] ⟨"hero"⟩
  exact ⟨rfl, htags, hright [] Ledge.landing [Ledge.freeze] rfl rfl nofun, rfl⟩

/-- The flag is not always right by the present tags. -/
theorem not_always_fresh : ¬ ∀ (tags : List String) (calls : List SenseCall) (id : EntityId),
    let s := Senses.after tags calls
    (s.awareness id).grounded = true ↔ (s.awareness id).OnGround s.groundTags := by
  intro h
  obtain ⟨c, hc, tag, htag, hother⟩ := (h ["Wall"] [Ledge.freeze, Ledge.landing] ⟨"hero"⟩).mp rfl
  have hcontact : c = ⟨⟨"wall"⟩, some "Wall", none⟩ := List.mem_singleton.mp hc
  have hice : tag = "Ice" := List.mem_singleton.mp htag
  subst hcontact hice
  exact absurd hother (by decide)

end SceneLogic
