import SceneLogic.Proofs.Director.Offering
import SceneLogic.Proofs.Standard

/-!
# Collisions are reacted to once in a frame

In each frame the first collision of a kind that two entities have claims it for the pair, whatever
the order in which the event names them. `World.Introduced` ties the pairs that the director keeps
to the journal, and survives whatever leaves both alone, the opening of a frame, and a meeting.

A collision that claims its pair is offered to both sides, one after the other, and no other is:
`Director.listener_met`. What becomes of an offer is said by `Director.offer_run`.
-/

namespace SceneLogic

/-! ## Pairs -/

namespace Frame

/-- What the frame keeps of a collision. -/
def pairKey (a b : EntityId) (kind : String) : EntityId × EntityId × String :=
  ((orderedPair a b).1, (orderedPair a b).2, kind)

theorem grantCollision_eq (f : Frame) (a b : EntityId) (kind : String) :
    f.grantCollision a b kind =
      if pairKey a b kind ∈ f.collisions then (false, f)
      else (true, { f with collisions := pairKey a b kind :: f.collisions }) := by
  have hgrant : f.grantCollision a b kind = ((grant f.collisions (pairKey a b kind)).1,
      { f with collisions := (grant f.collisions (pairKey a b kind)).2 }) := rfl
  rw [hgrant, grant]
  split
  · rfl
  · rfl

theorem orderedPair_comm (a b : EntityId) : orderedPair a b = orderedPair b a := by
  unfold orderedPair
  by_cases hba : b.name < a.name
  · rw [if_pos hba, if_neg (String.lt_asymm hba)]
  · rw [if_neg hba]
    by_cases hab : a.name < b.name
    · rw [if_pos hab]
    · rw [if_neg hab]
      obtain ⟨a⟩ := a
      obtain ⟨b⟩ := b
      obtain rfl : a = b := String.le_antisymm hba hab
      rfl

theorem orderedPair_cases (a b : EntityId) :
    orderedPair a b = (a, b) ∨ orderedPair a b = (b, a) := by
  unfold orderedPair
  split
  · exact Or.inr rfl
  · exact Or.inl rfl

/-- The same is kept of two collisions if they are of one kind, and of one pair in either order. -/
theorem pairKey_eq_iff {a b c d : EntityId} {kind kind' : String} :
    pairKey a b kind = pairKey c d kind' ↔
      kind = kind' ∧ (a = c ∧ b = d ∨ a = d ∧ b = c) := by
  have hpair : pairKey a b kind = pairKey c d kind' ↔
      kind = kind' ∧ orderedPair a b = orderedPair c d := by
    simp only [pairKey, Prod.ext_iff]
    exact ⟨fun ⟨h₁, h₂, hkind⟩ => ⟨hkind, h₁, h₂⟩, fun ⟨hkind, h₁, h₂⟩ => ⟨h₁, h₂, hkind⟩⟩
  rw [hpair]
  refine and_congr_right fun _ => ⟨fun h => ?_, ?_⟩
  · rcases orderedPair_cases a b with hab | hab <;> rcases orderedPair_cases c d with hcd | hcd <;>
      rw [hab, hcd, Prod.mk.injEq] at h
    · exact Or.inl h
    · exact Or.inr h
    · exact Or.inr h.symm
    · exact Or.inl h.symm
  · rintro (⟨rfl, rfl⟩ | ⟨rfl, rfl⟩)
    · rfl
    · exact orderedPair_comm a b

end Frame

/-! ## The books of the director -/

/-- The collision is of a kind, and of two entities in either order. -/
def Meeting.involves (x : Meeting) (a b : EntityId) (kind : String) : Prop :=
  x.event.type = kind ∧ (x.first = a ∧ x.second = b ∨ x.first = b ∧ x.second = a)

/-- What the frame keeps of the collision. -/
def Meeting.key (x : Meeting) : EntityId × EntityId × String :=
  Frame.pairKey x.first x.second x.event.type

theorem Meeting.key_eq_iff (x y : Meeting) :
    y.key = x.key ↔ y.involves x.first x.second x.event.type :=
  Frame.pairKey_eq_iff

/-- Each collision was granted if no earlier one was of its kind and its pair, and only then. -/
def FirstClaims : List Meeting → Prop
  | [] => True
  | x :: earlier =>
    (x.granted = true ↔ ∀ y ∈ earlier, ¬ y.involves x.first x.second x.event.type) ∧
      FirstClaims earlier

/-- The judgement of a collision looks at the earlier ones only. -/
theorem FirstClaims.at_meeting {meetings later earlier : List Meeting} {x : Meeting}
    (h : FirstClaims meetings) (heq : meetings = later ++ x :: earlier) :
    x.granted = true ↔ ∀ y ∈ earlier, ¬ y.involves x.first x.second x.event.type := by
  induction later generalizing meetings with
  | nil =>
    subst heq
    exact h.1
  | cons y later ih =>
    subst heq
    exact ih h.2 rfl

namespace World

/-- The frame has what it keeps of just those collisions that the journal has of the frame, and the
first of each pair and kind was granted in every frame. -/
structure Introduced (w : World) : Prop where
  pairs : ∃ collisions, w.pairs? = some collisions ∧
    ∀ key, key ∈ collisions ↔ ∃ x ∈ w.meetingLog.present, x.key = key
  claims : ∀ frame ∈ w.meetingLog.frames, FirstClaims frame

/-- Nobody has met yet. -/
structure NoMeetingsYet (w : World) : Prop where
  pairs : w.pairs? = some []
  log : w.meetingLog = {}

variable {w w' : World}

theorem NoMeetingsYet.introduced (h : w.NoMeetingsYet) : w.Introduced where
  pairs := ⟨[], h.pairs, fun key => by simp [h.log]⟩
  claims := by
    rw [h.log]
    intro frame hframe
    rw [List.mem_singleton.mp hframe]
    trivial

theorem Introduced.same (h : w.Introduced) (hs : w.SameMeetings w') : w'.Introduced where
  pairs := by
    rw [hs.pairs, hs.log]
    exact h.pairs
  claims := by
    rw [hs.log]
    exact h.claims

/-- A report of an update leaves the collisions as they are, or begins with none. -/
theorem openFrame_meetings {collisions : List (EntityId × EntityId × String)}
    (h : w.pairs? = some collisions) (now threshold : Float) :
    w.SameMeetings (w.openFrame now threshold).2 ∨
      (w.openFrame now threshold).2.pairs? = some [] ∧
        (w.openFrame now threshold).2.meetingLog = w.meetingLog.enter .frameBegan := by
  obtain ⟨d, hd, -⟩ := Option.map_eq_some_iff.mp h
  unfold openFrame grant
  rw [hd]
  dsimp only
  rcases d.frame.begin_cases now threshold with hbegin | hbegin
  · rw [hbegin]
    exact Or.inl ⟨by simp [pairs?, hd], rfl⟩
  · rw [hbegin]
    exact Or.inr ⟨rfl, rfl⟩

theorem Introduced.openFrame (h : w.Introduced) (now threshold : Float) :
    (w.openFrame now threshold).2.Introduced := by
  obtain ⟨collisions, hpairs, -⟩ := h.pairs
  rcases openFrame_meetings hpairs now threshold with hsame | ⟨hnone, hlog⟩
  · exact h.same hsame
  · refine ⟨⟨[], hnone, fun key => by simp [hlog, MeetingLog.enter]⟩, ?_⟩
    rw [hlog]
    intro frame hframe
    rcases List.mem_cons.mp hframe with rfl | hframe
    · trivial
    · exact h.claims frame hframe

/-- A collision is refused if its pair has claimed it before, and is claimed otherwise. -/
theorem meet_cases {collisions : List (EntityId × EntityId × String)}
    (h : w.pairs? = some collisions) (e : Event) (a b : EntityId) :
    ∃ granted, (w.meet e a b).1 = granted ∧
      (w.meet e a b).2.meetingLog = w.meetingLog.enter (.met e a b granted) ∧
      (Frame.pairKey a b e.type ∈ collisions ∧ granted = false ∧
          (w.meet e a b).2.pairs? = some collisions ∨
        Frame.pairKey a b e.type ∉ collisions ∧ granted = true ∧
          (w.meet e a b).2.pairs? = some (Frame.pairKey a b e.type :: collisions)) := by
  obtain ⟨d, hd, rfl⟩ := Option.map_eq_some_iff.mp h
  unfold meet grant
  rw [hd]
  dsimp only
  rw [Frame.grantCollision_eq]
  by_cases hmem : Frame.pairKey a b e.type ∈ d.frame.collisions
  · rw [if_pos hmem]
    exact ⟨false, rfl, rfl, Or.inl ⟨hmem, rfl, rfl⟩⟩
  · rw [if_neg hmem]
    exact ⟨true, rfl, rfl, Or.inr ⟨hmem, rfl, rfl⟩⟩

theorem Introduced.meet (h : w.Introduced) (e : Event) (a b : EntityId) :
    (w.meet e a b).2.Introduced := by
  obtain ⟨collisions, hpairs, hkeys⟩ := h.pairs
  obtain ⟨granted, -, hlog, hcases⟩ := meet_cases hpairs e a b
  have hpresent : FirstClaims w.meetingLog.present := h.claims _ List.mem_cons_self
  have hnew : Frame.pairKey a b e.type ∉ collisions ↔
      ∀ y ∈ w.meetingLog.present, ¬ y.involves a b e.type := by
    rw [hkeys]
    simp only [not_exists, not_and]
    exact forall₂_congr fun y _ => not_congr (Meeting.key_eq_iff ⟨e, a, b, granted⟩ y)
  have hclaims : (granted = true ↔ Frame.pairKey a b e.type ∉ collisions) →
      ∀ frame ∈ (w.meet e a b).2.meetingLog.frames, FirstClaims frame := by
    intro hgranted frame hframe
    rw [hlog] at hframe
    rcases List.mem_cons.mp hframe with rfl | hframe
    · exact ⟨hgranted.trans hnew, hpresent⟩
    · exact h.claims frame (List.mem_cons_of_mem _ hframe)
  -- The pair has claimed the collision before, or claims it now.
  rcases hcases with ⟨hknown, rfl, hsame⟩ | ⟨hfresh, rfl, hgrown⟩
  · refine ⟨⟨collisions, hsame, fun key => ?_⟩, hclaims (by simp [hknown])⟩
    rw [hlog, hkeys]
    simp only [MeetingLog.enter, List.mem_cons, exists_eq_or_imp, Meeting.key]
    refine ⟨Or.inr, Or.rec (fun heq => ?_) id⟩
    exact (hkeys key).mp (heq ▸ hknown)
  · refine ⟨⟨_, hgrown, fun key => ?_⟩, hclaims (by simp [hfresh])⟩
    rw [hlog, List.mem_cons, hkeys]
    simp only [MeetingLog.enter, List.mem_cons, exists_eq_or_imp, Meeting.key, eq_comm (a := key)]

theorem Introduced.meets (h : w.Introduced) (hm : Relation.ReflTransGen MeetCall w w') :
    w'.Introduced := by
  induction hm with
  | refl => exact h
  | tail _ hcall ih =>
    cases hcall with
    | meet e a b => exact ih.meet e a b
    | other hsame => exact ih.same hsame

end World

/-! ## Behaviours -/

/-- The changes of the collisions that a write may make: it reports an update, or has entities
meet. -/
inductive MeetingStep : World → World → Prop
  | update (w : World) (now threshold : Float) : MeetingStep w (w.openFrame now threshold).2
  | meets {w w' : World} : Relation.ReflTransGen World.MeetCall w w' → MeetingStep w w'

/-- Behaviours that reach the collisions by reports of updates and by meetings only. -/
def Conduct.meetings : Conduct where
  step := MeetingStep

namespace Conduct

theorem meetings_keeps : Conduct.meetings.Keeps fun w w' => w.Introduced → w'.Introduced where
  refl _ h := h
  trans h h' hw := h' (h hw)
  step := by
    intro v w hstep hv
    cases hstep with
    | update now threshold => exact hv.openFrame now threshold
    | meets hmeets => exact hv.meets hmeets
  rely _ := trivial
  emitted w e h := h.same ⟨rfl, rfl⟩
  part := nofun

/-- The director, the default behaviours and updates reach the collisions by meetings only. -/
theorem meetings_roomy : Conduct.meetings.Roomy where
  tame htame _ := .meets htame.meets
  opens := .update
  requests := by
    refine part_directing (fun w r => ?_) trivial
    exact .meets (.single (.other (w.sameMeetings_judge r)))
  announces _ := trivial
  performs := trivial
  checks := trivial
  rely _ _ := trivial

end Conduct

namespace Director

/-! ## What follows a claim -/

/-- The collision as its first entity sees it. -/
def firstContact (e : Event) (b : EntityId) : Contact :=
  ⟨b, e.text? "tagB", e.text? "tagA"⟩

/-- The collision as its second entity sees it. -/
def secondContact (e : Event) (a : EntityId) : Contact :=
  ⟨a, e.text? "tagA", e.text? "tagB"⟩

/-- Both entities keep track of the contact. -/
def touched (w : World) (e : Event) (a b : EntityId) : World :=
  { w with
    senses :=
      trackContact (trackContact w.senses e.type a (firstContact e b)) e.type b (secondContact e a) }

/-- One side of a collision is offered the event. -/
def offerSide (e : Event) (id : EntityId) (c : Contact) : Script Unit :=
  offer e id (sideData e.data c) false

theorem touched_isPlaying (w : World) (e : Event) (a b : EntityId) :
    (touched w e a b).isPlaying = w.isPlaying := rfl

/-- Both entities keep track of the contact. While the scene is played, the pair claims the
collision if it can, and then both sides are offered it. -/
theorem handle_collision {e : Event} {a b : EntityId} (hcollision : isCollision e.type = true)
    (ha : e.entity? "entityA" = some a) (hb : e.entity? "entityB" = some b) :
    handle e = .read fun w =>
      if !(touched w e a b).isPlaying then .write (touched w e a b) (.done ())
      else .write ((touched w e a b).meet e a b).2
        (if ((touched w e a b).meet e a b).1 then
          (offerSide e a (firstContact e b)).bind fun _ => offerSide e b (secondContact e a)
        else .done ()) := by
  unfold handle
  rw [if_pos hcollision]
  unfold collide
  rw [ha, hb]
  rfl

/-- When the director hears of a collision while the scene is played, the pair claims it if it can.
Then both sides are offered the event, and otherwise neither is. -/
theorem listener_met {e : Event} {a b : EntityId} (hcollision : isCollision e.type = true)
    (ha : e.entity? "entityA" = some a) (hb : e.entity? "entityB" = some b) (service : Service)
    (m : Machine) (hplaying : m.world.isPlaying = true) :
    (listener e).run service m =
      let (granted, w) := (touched m.world e a b).meet e a b
      if granted then
        ((offerSide e a (firstContact e b)).bind fun _ =>
          (offerSide e b (secondContact e a)).bind fun _ => .done (.ok ())).run service
            { m with world := w }
      else some (.ok (), { m with world := w }) := by
  rw [listener, Script.run_bind, handle_collision hcollision ha hb, Script.run,
    touched_isPlaying, hplaying]
  simp only [Bool.not_true, Bool.false_eq_true, if_false]
  rw [Script.run]
  cases (touched m.world e a b).meet e a b with
  | mk granted w =>
    cases granted with
    | false => rfl
    | true =>
      simp only [if_true, Script.run_bind]
      cases (offerSide e a (firstContact e b)).run service { m with world := w } with
      | none => rfl
      | some r => rfl

/-- What a side of a collision is told of the contact under a key. -/
def sideValue? (c : Contact) (key : String) : Option Value :=
  if key = "selfTag" then c.selfTag.map .text
  else if key = "otherTag" then c.otherTag.map .text
  else if key = "otherId" then some (.text c.other.name)
  else none

/-- What a side is told of the contact stands before what was announced. -/
theorem get?_sideData (data : Params) (c : Contact) (key : String) :
    Dict.get? (sideData data c) key = (sideValue? c key).or (Dict.get? data key) := by
  unfold sideData sideValue?
  cases c.otherTag with
  | none =>
    cases c.selfTag with
    | none => grind [Dict.get?_insert]
    | some self => grind [Dict.get?_insert]
  | some other =>
    cases c.selfTag with
    | none => grind [Dict.get?_insert]
    | some self => grind [Dict.get?_insert]

/-- Each side is told of the other. -/
theorem otherId_sideData (data : Params) (c : Contact) :
    Dict.get? (sideData data c) "otherId" = some (.text c.other.name) := by
  rw [get?_sideData]
  rfl

theorem situationFor_eventData (w : World) (id : EntityId) (data : Params) :
    (w.situationFor id data).1.eventData = data := by
  unfold World.situationFor
  split
  · rfl
  · rfl

end Director

/-! ## Runs -/

/-- In every frame of every run exactly the first of the collisions of one kind and one pair, in
whatever order they name it, claims it, and an update that follows the last one closer than the
threshold begins no frame. A collision that claims its pair is offered to its first entity and then
to its second, and one that does not to neither. Each side is told of the other, and when its turn
comes it evaluates the rules of its enabled components that match, if it is active and alive and the
event is aimed at nobody else. Nothing else becomes of the offer. -/
theorem first_collision_claims_the_pair {m m' : Machine} (hm : m.Obeys .meetings)
    (hnew : m.world.NoMeetingsYet) (h : m.Runs .meetings m') :
    (∀ meetings ∈ m'.world.meetingLog.frames, ∀ later x earlier,
      meetings = later ++ x :: earlier →
        (x.granted = true ↔ ∀ y ∈ earlier, ¬ y.involves x.first x.second x.event.type)) ∧
    (∀ (w : World) (d : Director) (last now threshold : Float), w.director = some d →
      d.frame.lastUpdate = some last → now - last < threshold →
        (w.openFrame now threshold).1 = false ∧ w.SameMeetings (w.openFrame now threshold).2) ∧
    (∀ (service : Service) (n : Machine) (e : Event) (a b : EntityId),
      Director.isCollision e.type = true → e.entity? "entityA" = some a →
      e.entity? "entityB" = some b → n.world.isPlaying = true →
        (Director.listener e).run service n =
          let (granted, w) := (Director.touched n.world e a b).meet e a b
          if granted then
            ((Director.offerSide e a (Director.firstContact e b)).bind fun _ =>
              (Director.offerSide e b (Director.secondContact e a)).bind fun _ =>
                .done (.ok ())).run service { n with world := w }
          else some (.ok (), { n with world := w })) ∧
    (∀ (service : Service) (n : Machine) (e : Event) (id : EntityId) (c : Contact),
      let data := Director.sideData e.data c
      let s := (n.world.situationFor id data).1
      (Director.offerSide e id c).run service n =
        (Director.evaluateAll s (if e.concerns id then n.world.reacting e id else [])).run service
          { n with world := Director.noticing n.world e id data } ∧
      n.world.Unmoved (Director.noticing n.world e id data) ∧
      s.entity = id ∧ Dict.get? s.eventData "otherId" = some (.text c.other.name)) := by
  obtain ⟨_, hbooks⟩ := h.leads Conduct.meetings_keeps hm
  have hintroduced := hbooks hnew.introduced
  refine ⟨fun meetings hmeetings later x earlier heq => ?_, ?_, ?_, ?_⟩
  · exact (hintroduced.claims meetings hmeetings).at_meeting heq
  · intro w d last now threshold hd hlast hnear
    rw [World.openFrame_repeated hd hlast hnear]
    exact ⟨rfl, by simp [World.pairs?, hd], rfl⟩
  · exact fun service n e a b hcollision ha hb hplaying =>
      Director.listener_met hcollision ha hb service n hplaying
  · intro service n e id c
    refine ⟨Director.offer_run e id _ service n, Director.unmoved_noticing _ _ _ _,
      Director.situationFor_entity _ _ _, ?_⟩
    rw [Director.situationFor_eventData]
    exact Director.otherId_sideData e.data c

/-! ## Two balls -/

namespace Balls

/-- A ball that answers each contact with a signal. -/
def ball (name : String) : Entity :=
  { id := ⟨name⟩
    components := [⟨"bounces", true,
      { event := "OnCollision"
        actions := [⟨"EmitEventSignal", [("signal", .text name)]⟩] }⟩] }

/-- The director and two balls. -/
def machine : Machine :=
  let m : Machine :=
    { world :=
        { director := some {}
          store := (Store.empty.insert (ball "red")).insert (ball "blue") }
      listeners := [(1, Director.listener)] }
  m.withDefaultActions.withDefaultConditions

theorem machine_standard : machine.Standard :=
  Machine.standard_withDefaults rfl rfl rfl

theorem machine_new : machine.world.NoMeetingsYet :=
  ⟨rfl, rfl⟩

/-- The data of a collision of two entities. -/
def pair (a b : String) : Params :=
  [("entityA", .text a), ("entityB", .text b)]

/-- A collision of two entities. -/
def hit (a b : String) (target : Option EntityId) : Event :=
  ⟨"COLLISION_ENTER", target, pair a b, 0⟩

/-- The collision as the journal has it. -/
def hits (a b : String) (target : Option EntityId) (granted : Bool) : Meeting :=
  ⟨hit a b target, ⟨a⟩, ⟨b⟩, granted⟩

/-- The host tells of a collision. -/
def tell (a b : String) (target : Option EntityId) : Script Unit :=
  Script.announce "COLLISION_ENTER" (pair a b) target

theorem tell_obeys (a b : String) (target : Option EntityId) (w : World) :
    (tell a b target).Obeys .meetings w :=
  .emit trivial fun _ _ => .done

/-- The balls meet twice before the first update, and once more after it. -/
theorem machine_runs : ∃ m, machine.Runs .meetings m ∧ m.world.meetingLog.frames =
    [[hits "blue" "red" none true], [hits "blue" "red" none false, hits "red" "blue" none true]] := by
  have hrun : ∃ m₁ m₂ m₃ m₄,
      (tell "red" "blue" none).run (Service.atDepth 4) machine = some ((), m₁) ∧
      (tell "blue" "red" none).run (Service.atDepth 4) m₁ = some ((), m₂) ∧
      (Director.update 0).run (Service.atDepth 4) m₂ = some ([], m₃) ∧
      (tell "blue" "red" none).run (Service.atDepth 4) m₃ = some ((), m₄) ∧
      m₄.world.meetingLog.frames = [[hits "blue" "red" none true],
        [hits "blue" "red" none false, hits "red" "blue" none true]] := by
    refine ⟨_, _, _, _, rfl, rfl, rfl, rfl, ?_⟩
    rfl
  obtain ⟨m₁, m₂, m₃, m₄, h₁, h₂, h₃, h₄, hlog⟩ := hrun
  refine ⟨m₄, ?_, hlog⟩
  exact .script (.script (.script (.script .refl (tell_obeys _ _ _ _) h₁) (tell_obeys _ _ _ _) h₂)
    (Director.update_obeys_roomy Conduct.meetings_roomy 0 _) h₃) (tell_obeys _ _ _ _) h₄

end Balls

/-- Of two collisions of the balls before the first update the first one claims them, and the one
after it claims them anew. -/
theorem balls_claim_once_a_frame : ∃ m, Balls.machine.Obeys .meetings ∧
    Balls.machine.world.NoMeetingsYet ∧ Balls.machine.Runs .meetings m ∧
    m.world.meetingLog.frames = [[Balls.hits "blue" "red" none true],
      [Balls.hits "blue" "red" none false, Balls.hits "red" "blue" none true]] ∧
    ¬ ∀ y ∈ [Balls.hits "red" "blue" none true],
      ¬ y.involves ⟨"blue"⟩ ⟨"red"⟩ "COLLISION_ENTER" := by
  obtain ⟨m, hruns, hlog⟩ := Balls.machine_runs
  have hobeys := (Balls.machine_standard.obeys_roomy Conduct.meetings_roomy)
  obtain ⟨hclaims, -⟩ := first_collision_claims_the_pair hobeys Balls.machine_new hruns
  refine ⟨m, hobeys, Balls.machine_new, hruns, hlog, fun hfree => ?_⟩
  have hrefused := hclaims _ (by rw [hlog]; exact List.mem_cons_of_mem _ List.mem_cons_self) []
    (Balls.hits "blue" "red" none false) [Balls.hits "red" "blue" none true] rfl
  exact nomatch hrefused.mpr hfree

/-- A collision that is aimed at nobody may find its pair claimed by one that was aimed at somebody,
and then it is not reacted to, though it is the first of its own kind. -/
theorem not_always_claimed_by_broadcast : ¬ ∀ m m' : Machine, m.Obeys .meetings →
    m.world.NoMeetingsYet → m.Runs .meetings m' →
    ∀ meetings ∈ m'.world.meetingLog.frames, ∀ later x earlier, meetings = later ++ x :: earlier →
      x.event.target = none →
      (∀ y ∈ earlier, y.event.target = none → ¬ y.involves x.first x.second x.event.type) →
      x.granted = true := by
  intro hclaim
  have hrun : ∃ m₁ m₂,
      (Balls.tell "red" "blue" (some ⟨"red"⟩)).run (Service.atDepth 4) Balls.machine =
        some ((), m₁) ∧
      (Balls.tell "red" "blue" none).run (Service.atDepth 4) m₁ = some ((), m₂) ∧
      m₂.world.meetingLog.frames =
        [[Balls.hits "red" "blue" none false, Balls.hits "red" "blue" (some ⟨"red"⟩) true]] := by
    refine ⟨_, _, rfl, rfl, ?_⟩
    rfl
  obtain ⟨m₁, m₂, h₁, h₂, hlog⟩ := hrun
  have hruns : Balls.machine.Runs .meetings m₂ :=
    .script (.script .refl (Balls.tell_obeys _ _ _ _) h₁) (Balls.tell_obeys _ _ _ _) h₂
  have hobeys := Balls.machine_standard.obeys_roomy Conduct.meetings_roomy
  have hgranted := hclaim _ _ hobeys Balls.machine_new hruns _
    (by rw [hlog]; exact List.mem_cons_self) [] (Balls.hits "red" "blue" none false)
    [Balls.hits "red" "blue" (some ⟨"red"⟩) true] rfl rfl ?_
  · exact nomatch hgranted
  · intro y hy htarget
    rw [List.mem_singleton.mp hy] at htarget
    cases htarget

end SceneLogic
