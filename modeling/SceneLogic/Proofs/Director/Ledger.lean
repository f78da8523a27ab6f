import SceneLogic.Director
import SceneLogic.Proofs.Blows
import SceneLogic.Proofs.Director.Claiming
import SceneLogic.Proofs.Director.Turns
import SceneLogic.Proofs.Module.Course
import SceneLogic.Proofs.Module.Writing
import SceneLogic.Proofs.Pictures
import SceneLogic.Proofs.Signalling

/-!
# What the director granted, and who may touch it

The director keeps the requests that the present frame granted, and the pairs that claimed a
collision. The journal tells which requests were made in which frame, and whether they were
granted: `World.frameLog`. `World.meetingLog` has the collisions in the same way.

Most of what happens in a scene leaves all of that alone. `World.SameFrames` says so of requests,
`World.SameMeetings` of collisions. A `Tame` change leaves the requests alone and reaches the
collisions by `World.meet` only, and the defaults of module variables by writes to those. It
announces nothing. It also leaves the scene's rules and the director's subscription as they are and
brings no component into the store, so that after it nothing can be requested that could not be
requested before. What is `Acted` is tame and starts modules, but does no more about them.
-/

namespace SceneLogic

/-! ## Reading the journal -/

/-- A request as the journal has it. -/
structure Ask where
  request : Request
  granted : Bool
deriving DecidableEq

/-- The requests of the present frame and of each past frame, the latest first. -/
structure FrameLog where
  present : List Ask := []
  past : List (List Ask) := []

namespace FrameLog

/-- Takes in an entry of the journal. -/
def enter (l : FrameLog) : Happening → FrameLog
  | .frameBegan => ⟨[], l.present :: l.past⟩
  | .requested request granted => { l with present := ⟨request, granted⟩ :: l.present }
  | _ => l

/-- The requests frame by frame, the present one first. -/
def frames (l : FrameLog) : List (List Ask) :=
  l.present :: l.past

end FrameLog

/-- A collision as the journal has it. -/
structure Meeting where
  event : Event
  first : EntityId
  second : EntityId
  granted : Bool

/-- The collisions of the present frame and of each past frame, the latest first. -/
structure MeetingLog where
  present : List Meeting := []
  past : List (List Meeting) := []

namespace MeetingLog

/-- Takes in an entry of the journal. -/
def enter (l : MeetingLog) : Happening → MeetingLog
  | .frameBegan => ⟨[], l.present :: l.past⟩
  | .met event first second granted =>
    { l with present := ⟨event, first, second, granted⟩ :: l.present }
  | _ => l

/-- The collisions frame by frame, the present one first. -/
def frames (l : MeetingLog) : List (List Meeting) :=
  l.present :: l.past

end MeetingLog

namespace Happening

/-- The entry as an event that was announced. -/
def event? : Happening → Option Event
  | .emitted e => some e
  | _ => none

/-- The entry tells of no event, no write, no frame, nothing that a frame grants, no blow, no start
logic and no signal. -/
def isQuiet : Happening → Bool
  | .emitted _ => false
  | .wrote .. => false
  | .frameBegan => false
  | .updated .. => false
  | .requested .. => false
  | .met .. => false
  | .ofBlow _ => false
  | .ofStart _ => false
  | .ofSignal _ => false
  | _ => true

/-- The entry is an item of an account that is kept of blows and of signals, and of nothing else. -/
def isItem : Happening → Bool
  | .ofBlow _ => true
  | .ofSignal _ => true
  | _ => false

end Happening

namespace Frame

/-- An update belongs to the present frame, or opens one that has granted nothing. -/
theorem begin_cases (f : Frame) (now threshold : Float) :
    f.begin now threshold = (false, { f with lastUpdate := some now }) ∨
    f.begin now threshold = (true, { lastUpdate := some now, count := f.count + 1 }) := by
  unfold begin
  dsimp only
  split
  · split
    · exact Or.inl rfl
    · exact Or.inr rfl
  · exact Or.inr rfl

theorem grantRequest_eq (f : Frame) (r : Request) :
    f.grantRequest r =
      if r.tooDeep then (true, f)
      else if r ∈ f.requests then (false, f)
      else (true, { f with requests := r :: f.requests }) := by
  unfold grantRequest grant
  by_cases hmem : r ∈ f.requests
  · rw [if_pos hmem, if_pos hmem]
  · rw [if_neg hmem, if_neg hmem]

/-- The judgement of a request changes nothing else in the frame. -/
theorem grantRequest_others (f : Frame) (r : Request) :
    (f.grantRequest r).2.collisions = f.collisions ∧
      (f.grantRequest r).2.components = f.components := by
  rw [grantRequest_eq]
  split
  · exact ⟨rfl, rfl⟩
  · split
    · exact ⟨rfl, rfl⟩
    · exact ⟨rfl, rfl⟩

end Frame

namespace World

/-- The requests that the journal tells of, sorted by frames. -/
def frameLog (w : World) : FrameLog :=
  w.journal.foldr (fun h l => l.enter h) {}

/-- The requests that the present frame granted, as the director has them. -/
def claims? (w : World) : Option (List Request) :=
  w.director.map (·.frame.requests)

@[simp] theorem frameLog_record (w : World) (h : Happening) :
    (w.record h).frameLog = w.frameLog.enter h := rfl

@[simp] theorem claims?_record (w : World) (h : Happening) :
    (w.record h).claims? = w.claims? := rfl

@[simp] theorem sceneRules_record (w : World) (h : Happening) :
    (w.record h).sceneRules = w.sceneRules := rfl

/-- What was granted in the present frame, and what the journal tells of it, stays. -/
structure SameFrames (w w' : World) : Prop where
  claims : w'.claims? = w.claims?
  log : w'.frameLog = w.frameLog

theorem SameFrames.refl (w : World) : w.SameFrames w :=
  ⟨rfl, rfl⟩

theorem SameFrames.trans {u v w : World} (h : u.SameFrames v) (h' : v.SameFrames w) :
    u.SameFrames w :=
  ⟨h'.claims.trans h.claims, h'.log.trans h.log⟩

/-- The collisions that the journal tells of, sorted by frames. -/
def meetingLog (w : World) : MeetingLog :=
  w.journal.foldr (fun h l => l.enter h) {}

/-- The pairs that claimed a kind of collision in the present frame, as the director has them. -/
def pairs? (w : World) : Option (List (EntityId × EntityId × String)) :=
  w.director.map (·.frame.collisions)

@[simp] theorem meetingLog_record (w : World) (h : Happening) :
    (w.record h).meetingLog = w.meetingLog.enter h := rfl

@[simp] theorem pairs?_record (w : World) (h : Happening) :
    (w.record h).pairs? = w.pairs? := rfl

/-- The pairs of the present frame, and what the journal tells of collisions, stay. -/
structure SameMeetings (w w' : World) : Prop where
  pairs : w'.pairs? = w.pairs?
  log : w'.meetingLog = w.meetingLog

theorem SameMeetings.refl (w : World) : w.SameMeetings w :=
  ⟨rfl, rfl⟩

/-- Has the pair of a collision claim it in the present frame, and takes that down. -/
def meet (w : World) (e : Event) (a b : EntityId) : Bool × World :=
  let (granted, w) := w.grant (·.grantCollision a b e.type)
  (granted, w.record (.met e a b granted))

/-- The rules that were evaluated for entities, the latest first. -/
def evaluations (w : World) : List (EntityId × Rule) :=
  w.journal.filterMap fun
    | .evaluated id r => some (id, r)
    | _ => none

/-- The number under which the director listens, as the director has it. -/
def subscription? (w : World) : Option SubscriptionId :=
  w.director.bind (·.subscription)

/-- The events that were announced, the latest first. -/
def announced (w : World) : List Event :=
  w.journal.filterMap Happening.event?

/-- The journal took in quiet entries at most. -/
def Quiet (w w' : World) : Prop :=
  ∃ new, w'.journal = new ++ w.journal ∧ ∀ h ∈ new, h.isQuiet = true

theorem quiet_of_journal {w w' : World} (h : w'.journal = w.journal) : w.Quiet w' :=
  ⟨[], h, fun _ hmem => absurd hmem List.not_mem_nil⟩

theorem quiet_of_entry {w w' : World} {h : Happening} (hjournal : w'.journal = h :: w.journal)
    (hquiet : h.isQuiet = true) : w.Quiet w' :=
  ⟨[h], hjournal, fun _ hmem => List.mem_singleton.mp hmem ▸ hquiet⟩

/-- Whatever passes over all quiet entries is the same after them. -/
theorem Quiet.foldr {w w' : World} {α : Type} (h : w.Quiet w') {enter : Happening → α → α}
    (hpass : ∀ x, x.isQuiet = true → ∀ a, enter x a = a) (init : α) :
    w'.journal.foldr enter init = w.journal.foldr enter init := by
  obtain ⟨new, hjournal, hquiet⟩ := h
  rw [hjournal, List.foldr_append]
  clear hjournal
  induction new with
  | nil => rfl
  | cons x rest ih =>
    rw [List.foldr_cons, hpass x (hquiet x List.mem_cons_self)]
    exact ih fun y hy => hquiet y (List.mem_cons_of_mem _ hy)

theorem Quiet.filterMap {w w' : World} {α : Type} (h : w.Quiet w') {f : Happening → Option α}
    (hpass : ∀ x, x.isQuiet = true → f x = none) :
    w'.journal.filterMap f = w.journal.filterMap f := by
  obtain ⟨new, hjournal, hquiet⟩ := h
  rw [hjournal, List.filterMap_append,
    List.filterMap_eq_nil_iff.mpr fun x hx => hpass x (hquiet x hx), List.nil_append]

theorem Quiet.frameLog {w w' : World} (h : w.Quiet w') : w'.frameLog = w.frameLog := by
  unfold World.frameLog
  refine h.foldr (fun x hx l => ?_) _
  cases x <;> first | rfl | cases hx

theorem Quiet.meetingLog {w w' : World} (h : w.Quiet w') : w'.meetingLog = w.meetingLog := by
  unfold World.meetingLog
  refine h.foldr (fun x hx l => ?_) _
  cases x <;> first | rfl | cases hx

theorem Quiet.turnLog {w w' : World} (h : w.Quiet w') : w'.turnLog = w.turnLog := by
  unfold World.turnLog
  refine h.foldr (fun x hx l => ?_) _
  cases x <;> first | rfl | cases hx

theorem Quiet.announced {w w' : World} (h : w.Quiet w') : w'.announced = w.announced := by
  refine h.filterMap fun x hx => ?_
  cases x <;> first | rfl | cases hx

theorem Quiet.writes {w w' : World} (h : w.Quiet w') : w'.writes = w.writes := by
  refine h.filterMap fun x hx => ?_
  cases x <;> first | rfl | cases hx

theorem Quiet.blowLog {w w' : World} (h : w.Quiet w') : w'.blowLog = w.blowLog := by
  refine h.filterMap fun x hx => ?_
  cases x <;> first | rfl | cases hx

theorem Quiet.startLog {w w' : World} (h : w.Quiet w') : w'.startLog = w.startLog := by
  refine h.filterMap fun x hx => ?_
  cases x <;> first | rfl | cases hx

theorem Quiet.signalLog {w w' : World} (h : w.Quiet w') : w'.signalLog = w.signalLog := by
  refine h.filterMap fun x hx => ?_
  cases x <;> first | rfl | cases hx

/-- What may become of the collisions: two entities meet, or they stay as they are. -/
inductive MeetCall : World → World → Prop
  | meet (w : World) (e : Event) (a b : EntityId) : MeetCall w (w.meet e a b).2
  | other {w w' : World} : w.SameMeetings w' → MeetCall w w'

end World

/-! ## Components -/

namespace Store

/-- No entity has components that none had under its name before. -/
def Narrows (s s' : Store) : Prop :=
  ∀ x ∈ s'.entries, x.2.components = [] ∨
    ∃ e, (x.1, e) ∈ s.entries ∧ e.components = x.2.components

theorem Narrows.refl (s : Store) : s.Narrows s :=
  fun x hx => Or.inr ⟨x.2, hx, rfl⟩

theorem Narrows.trans {s t u : Store} (h : s.Narrows t) (h' : t.Narrows u) : s.Narrows u := by
  intro x hx
  rcases h' x hx with hnone | ⟨e, he, heq⟩
  · exact Or.inl hnone
  · rcases h _ he with hnone | ⟨e', he', heq'⟩
    · exact Or.inl (heq ▸ hnone)
    · exact Or.inr ⟨e', he', heq'.trans heq⟩

theorem narrows_modify (s : Store) (id : EntityId) {f : Entity → Entity}
    (hf : ∀ e, (f e).components = e.components) : s.Narrows (s.modify id f) := by
  intro x hx
  rcases Dict.mem_modify hx with hx | ⟨e, he, rfl⟩
  · exact Or.inr ⟨x.2, hx, rfl⟩
  · exact Or.inr ⟨e, he, (hf e).symm⟩

theorem narrows_insert (s : Store) {e : Entity} (he : e.components = []) :
    s.Narrows (s.insert e) := by
  intro x hx
  rcases Dict.mem_insert hx with hx | rfl
  · exact Or.inr ⟨x.2, hx, rfl⟩
  · exact Or.inl he

theorem narrows_erase (s : Store) (id : EntityId) : s.Narrows (s.erase id) :=
  fun x hx => Or.inr ⟨x.2, Dict.mem_of_mem_erase hx, rfl⟩

end Store

/-! ## Tame changes -/

namespace World

/-- What was granted stays, the rules of the scene stay, no component comes in, the director listens
as before, entities meet by `meet` only, nothing is announced, defaults change by writes to module
variables only, attackers cool down by calls of attacks only, start logic is claimed because of
start events only, components have the turns that they ask for only, looks change in the store
and on the canvas alike, and signals come in and are consumed as `SignalCall` says. -/
structure Tame (w w' : World) : Prop extends w.SameFrames w' where
  rules : w'.sceneRules = w.sceneRules
  subscription : w'.subscription? = w.subscription?
  store : w.store.Narrows w'.store
  meets : Relation.ReflTransGen MeetCall w w'
  announced : w'.announced = w.announced
  writes : Relation.ReflTransGen WriteCall w w'
  blows : Relation.ReflTransGen BlowCall w w'
  claimed : Relation.ReflTransGen ClaimCall w w'
  turns : Relation.ReflTransGen TurnCall w w'
  pictures : Relation.ReflTransGen PictureCall w w'
  signals : Relation.ReflTransGen SignalCall w w'

variable {w w' : World}

theorem Tame.refl (w : World) : w.Tame w :=
  ⟨.refl w, rfl, rfl, .refl w.store, .refl, rfl, .refl, .refl, .refl, .refl, .refl, .refl⟩

theorem Tame.trans {u v w : World} (h : u.Tame v) (h' : v.Tame w) : u.Tame w :=
  ⟨h.toSameFrames.trans h'.toSameFrames, h'.rules.trans h.rules,
    h'.subscription.trans h.subscription, h.store.trans h'.store, h.meets.trans h'.meets,
    h'.announced.trans h.announced, h.writes.trans h'.writes, h.blows.trans h'.blows,
    h.claimed.trans h'.claimed, h.turns.trans h'.turns, h.pictures.trans h'.pictures,
    h.signals.trans h'.signals⟩

theorem tame_of_director (hdirector : w'.director = w.director) (hquiet : w.Quiet w')
    (hlibrary : w'.library = w.library) (hhits : w'.lastHits = w.lastHits)
    (hsignals : w'.signals = w.signals) (hstore : w.store.Narrows w'.store)
    (hpictures : Relation.ReflTransGen PictureCall w w') : w.Tame w' where
  claims := by rw [claims?, hdirector, claims?]
  log := hquiet.frameLog
  rules := by rw [sceneRules, hdirector, sceneRules]
  subscription := by rw [subscription?, hdirector, subscription?]
  store := hstore
  meets := .single (.other ⟨by rw [pairs?, hdirector, pairs?], hquiet.meetingLog⟩)
  announced := hquiet.announced
  writes := .single (.other (sameWrites_of_library hquiet.writes hlibrary))
  blows := .single (.other ⟨hhits, hquiet.blowLog⟩)
  claimed := .single (.other ⟨by rw [started?, hdirector, started?], hquiet.startLog⟩)
  turns := .single (.other (sameTurns_of_director hdirector hquiet.turnLog))
  pictures := hpictures
  signals := .single (.other ⟨hsignals, hquiet.signalLog⟩)

/-- A change of an entity that is not seen and is not about its components. -/
theorem tame_modifyEntity (w : World) (id : EntityId) {f : Entity → Entity}
    (hf : ∀ e, (f e).components = e.components) (hlook : ∀ e, (f e).look = e.look) :
    w.Tame (w.modifyEntity id f) :=
  tame_of_director rfl (quiet_of_journal rfl) rfl rfl rfl (w.store.narrows_modify id hf)
    (.single (.other (w.samePictures_modifyEntity id hlook)))

theorem tame_record (w : World) {h : Happening} (hquiet : h.isQuiet = true)
    (hspawned : h.spawned? = none) : w.Tame (w.record h) :=
  tame_of_director rfl (quiet_of_entry rfl hquiet) rfl rfl rfl (.refl w.store)
    (pictured_of_store rfl rfl (List.filterMap_cons_none hspawned))

theorem evaluations_startGraph (w : World) (entity : EntityId) (cell : GraphRef)
    (overrides : Params) :
    (w.startGraph entity cell overrides).2.evaluations = w.evaluations := by
  unfold startGraph
  dsimp only
  split
  · rfl
  · rfl

theorem tame_publishWrite (w : World) (id : InstanceId) (entity : EntityId) (graph : GraphRef)
    (name : String) (v : Value) : w.Tame (w.publishWrite id entity graph name v) :=
  ⟨⟨rfl, rfl⟩, rfl, rfl, .refl w.store, .single (.other ⟨rfl, rfl⟩), rfl,
    .single (.publish w id entity graph name v), .single (.other ⟨rfl, rfl⟩),
    .single (.other ⟨rfl, rfl⟩), .single (.other ⟨rfl, rfl⟩), pictured_of_store rfl rfl rfl,
    .single (.other ⟨rfl, rfl⟩)⟩

/-- A tame change that starts modules and does no more about them. No component has a turn. -/
structure Acted (w w' : World) : Prop extends w.Tame w' where
  starts : Relation.ReflTransGen StartCall w w'
  sameTurns : w.SameTurns w'

theorem Acted.refl (w : World) : w.Acted w :=
  ⟨.refl w, .refl, .refl w⟩

theorem Acted.trans {u v w : World} (h : u.Acted v) (h' : v.Acted w) : u.Acted w :=
  ⟨h.toTame.trans h'.toTame, h.starts.trans h'.starts, h.sameTurns.trans h'.sameTurns⟩

/-- What is acted reaches the modules by calls only. -/
theorem Acted.calls (h : w.Acted w') : Relation.ReflTransGen ModuleCall w w' :=
  Relation.ReflTransGen.mono (fun _ _ => StartCall.moduleCall) _ _ h.starts

theorem Acted.poolCalls (h : w.Acted w') : Relation.ReflTransGen PoolCall w w' :=
  Relation.ReflTransGen.mono (fun _ _ => StartCall.poolCall) _ _ h.starts

theorem acted_of_same (hdirector : w'.director = w.director) (hjournal : w'.journal = w.journal)
    (hpool : w'.pool = w.pool) (hlibrary : w'.library = w.library)
    (hhits : w'.lastHits = w.lastHits) (hsignals : w'.signals = w.signals)
    (hstore : w.store.Narrows w'.store) (hpictures : Relation.ReflTransGen PictureCall w w') :
    w.Acted w' where
  toTame :=
    tame_of_director hdirector (quiet_of_journal hjournal) hlibrary hhits hsignals hstore hpictures
  starts := .single (.aside ⟨hpool, by rw [course, hjournal, course],
    keepsGraphs_of_library hlibrary⟩ (sameVariables_of_journal hpool hjournal))
  sameTurns := sameTurns_of_director hdirector (by rw [turnLog, hjournal, turnLog])

/-- What is taken down in an account is about nothing else. -/
theorem acted_of_item (hdirector : w'.director = w.director) (hpool : w'.pool = w.pool)
    (hlibrary : w'.library = w.library) (hcanvas : w'.canvas = w.canvas)
    (hstore : w'.store = w.store) {x : Happening} (hjournal : w'.journal = x :: w.journal)
    (hitem : x.isItem = true) (hblows : Relation.ReflTransGen BlowCall w w')
    (hsignals : Relation.ReflTransGen SignalCall w w') : w.Acted w' := by
  have hitems : (∃ e, x = .ofBlow e) ∨ ∃ e, x = .ofSignal e := by
    cases x <;> first | exact .inl ⟨_, rfl⟩ | exact .inr ⟨_, rfl⟩ | cases hitem
  rcases hitems with ⟨e, rfl⟩ | ⟨e, rfl⟩
  all_goals
    have hturns : w.SameTurns w' :=
      sameTurns_of_director hdirector (by rw [turnLog, hjournal]; rfl)
    have hwrites : w'.writes = w.writes := by rw [World.writes, hjournal]; rfl
    exact
      { claims := by rw [claims?, hdirector, claims?]
        log := by rw [frameLog, hjournal]; rfl
        rules := by rw [sceneRules, hdirector, sceneRules]
        subscription := by rw [subscription?, hdirector, subscription?]
        store := hstore ▸ .refl w.store
        meets := .single (.other ⟨by rw [pairs?, hdirector, pairs?],
          by rw [meetingLog, hjournal]; rfl⟩)
        announced := by rw [announced, hjournal]; rfl
        writes := .single (.other (sameWrites_of_library hwrites hlibrary))
        blows := hblows
        claimed := .single (.other ⟨by rw [started?, hdirector, started?],
          by rw [startLog, hjournal]; rfl⟩)
        turns := .single (.other hturns)
        pictures := pictured_of_store hcanvas hstore (by rw [spawned, hjournal]; rfl)
        signals := hsignals
        starts := .single (.aside
          ⟨hpool, by rw [course, hjournal]; rfl, keepsGraphs_of_library hlibrary⟩
          ⟨hpool, hwrites, fun _ => by rw [seed?, hjournal]; rfl⟩)
        sameTurns := hturns }

theorem acted_startGraph (w : World) (entity : EntityId) (cell : GraphRef) (overrides : Params) :
    w.Acted (w.startGraph entity cell overrides).2 := by
  have hstart : StartCall w (w.startGraph entity cell overrides).2 := .start w entity cell overrides
  revert hstart
  unfold startGraph
  dsimp only
  split
  · exact fun _ => .refl w
  · refine fun hstart => ⟨tame_of_director rfl ⟨[_, _], rfl, fun x hx => ?_⟩ rfl rfl rfl
      (.refl w.store)
      (pictured_of_store rfl rfl rfl), .single hstart, rfl, rfl⟩
    simp only [List.mem_cons, List.not_mem_nil, or_false] at hx
    rcases hx with rfl | rfl
    · rfl
    · rfl

theorem acted_situationFor (w : World) (entity : EntityId) (data : Params) :
    w.Acted (w.situationFor entity data).2 := by
  unfold situationFor
  split
  · exact .refl w
  · exact acted_of_same rfl rfl rfl rfl rfl rfl (.refl w.store) (pictured_of_store rfl rfl rfl)

/-- The answers of a frame are not about the director's subscription. -/
theorem subscription?_grant (w : World) (f : Frame → Bool × Frame) :
    (w.grant f).2.subscription? = w.subscription? := by
  unfold grant
  cases hd : w.director with
  | none => rfl
  | some d => simp only [subscription?, hd, Option.bind_some]

theorem aside_grant (w : World) (f : Frame → Bool × Frame) : w.Aside (w.grant f).2 := by
  unfold grant
  split
  · exact .refl w
  · exact ⟨rfl, rfl, .refl w⟩

/-- A turn leaves everything alone but the turns. -/
theorem tame_takeTurn (w : World) (id : EntityId) (component : String) :
    w.Tame (Director.takeTurn w id component).2 := by
  have hturns : Relation.ReflTransGen TurnCall w (Director.takeTurn w id component).2 :=
    .single (.take w id component)
  revert hturns
  unfold Director.takeTurn grant
  cases hd : w.director with
  | none => exact fun _ => .refl w
  | some d =>
    dsimp only
    split
    all_goals
      refine fun hturns => ⟨⟨?_, rfl⟩, ?_, ?_, .refl w.store, .single (.other ⟨?_, rfl⟩), rfl,
        .single (.other (sameWrites_of_library rfl rfl)), .single (.other ⟨rfl, rfl⟩),
        .single (.other ⟨?_, rfl⟩), hturns, pictured_of_store rfl rfl rfl,
        .single (.other ⟨rfl, rfl⟩)⟩
      · simp only [claims?, hd, record, Option.map_some, Frame.grantComponent]
      · simp only [sceneRules, hd, record, Option.map_some]
      · simp only [subscription?, hd, record, Option.bind_some]
      · simp only [pairs?, hd, record, Option.map_some, Frame.grantComponent]
      · simp only [started?, hd, record, Option.map_some]

theorem aside_takeTurn (w : World) (id : EntityId) (component : String) :
    w.Aside (Director.takeTurn w id component).2 := by
  have hgrant := w.aside_grant (·.grantComponent id component)
  unfold Director.takeTurn
  dsimp only
  split
  · exact hgrant.trans (aside_record _ rfl)
  · exact hgrant

/-- An answer of the frame that is not about components leaves the turns alone. -/
theorem sameTurns_grant (w : World) {f : Frame → Bool × Frame}
    (hf : ∀ frame, (f frame).2.components = frame.components) : w.SameTurns (w.grant f).2 := by
  unfold grant
  cases hd : w.director with
  | none => exact .refl w
  | some d => exact ⟨by simp only [ticked?, hd, Option.map_some, hf], rfl⟩

/-- A meeting leaves everything alone but the collisions. -/
theorem acted_meet (w : World) (e : Event) (a b : EntityId) : w.Acted (w.meet e a b).2 := by
  have hmeets : Relation.ReflTransGen MeetCall w (w.meet e a b).2 := .single (.meet w e a b)
  have hturns : w.SameTurns (w.meet e a b).2 :=
    (w.sameTurns_grant (f := (·.grantCollision a b e.type)) fun _ => rfl).trans ⟨rfl, rfl⟩
  revert hmeets hturns
  unfold meet grant
  cases hd : w.director with
  | none =>
    refine fun hmeets hturns => ⟨⟨⟨rfl, rfl⟩, rfl, rfl, .refl w.store, hmeets, rfl,
      .single (.other (sameWrites_of_library rfl rfl)), .single (.other ⟨rfl, rfl⟩),
      .single (.other ⟨?_, rfl⟩), .single (.other hturns), pictured_of_store rfl rfl rfl,
      .single (.other ⟨rfl, rfl⟩)⟩,
      .single (.aside ⟨rfl, rfl, .refl w⟩ ⟨rfl, rfl, fun _ => rfl⟩), hturns⟩
    simp only [started?, hd, record]
  | some d =>
    refine fun hmeets hturns => ⟨⟨⟨?_, rfl⟩, ?_, ?_, .refl w.store, hmeets, rfl,
      .single (.other (sameWrites_of_library rfl rfl)), .single (.other ⟨rfl, rfl⟩),
      .single (.other ⟨?_, rfl⟩), .single (.other hturns), pictured_of_store rfl rfl rfl,
      .single (.other ⟨rfl, rfl⟩)⟩,
      .single (.aside ⟨rfl, rfl, .refl w⟩ ⟨rfl, rfl, fun _ => rfl⟩), hturns⟩
    · simp only [claims?, hd, record, Option.map_some, Frame.grantCollision]
    · simp only [sceneRules, hd, record, Option.map_some]
    · simp only [subscription?, hd, record, Option.bind_some]
    · simp only [started?, hd, record, Option.map_some]

/-- Reports an update to the present frame. If that opens a new frame, the journal has it. -/
def openFrame (w : World) (now threshold : Float) : Bool × World :=
  let (newFrame, w) := w.grant (·.begin now threshold)
  (newFrame, if newFrame then w.record .frameBegan else w)

/-- Has the present frame judge a request, and takes that down. -/
def judge (w : World) (r : Request) : Bool × World :=
  let (granted, w) := w.grant (·.grantRequest r)
  (granted, w.record (.requested r granted))

theorem aside_openFrame (w : World) (now threshold : Float) :
    w.Aside (w.openFrame now threshold).2 := by
  have hgrant := w.aside_grant (·.begin now threshold)
  unfold openFrame
  dsimp only
  split
  · exact hgrant.trans (aside_record _ rfl)
  · exact hgrant

theorem aside_judge (w : World) (r : Request) : w.Aside (w.judge r).2 :=
  (w.aside_grant (·.grantRequest r)).trans (aside_record _ rfl)

/-- A report leaves the frame as it is, or opens one that has granted nothing. -/
theorem openFrame_cases {claims : List Request} (h : w.claims? = some claims)
    (now threshold : Float) : ∃ newFrame w', w.openFrame now threshold = (newFrame, w') ∧
      w'.sceneRules = w.sceneRules ∧ w'.store = w.store ∧
      (newFrame = false ∧ w.SameFrames w' ∨
        newFrame = true ∧ w'.claims? = some [] ∧ w'.frameLog = w.frameLog.enter .frameBegan) := by
  obtain ⟨d, hd, hclaims⟩ := Option.map_eq_some_iff.mp h
  have hrules : w.sceneRules = d.rules := by rw [sceneRules, hd]; rfl
  unfold openFrame grant
  rw [hd]
  dsimp only
  rcases d.frame.begin_cases now threshold with hbegin | hbegin
  · rw [hbegin]
    refine ⟨false, _, rfl, hrules.symm, rfl, Or.inl ⟨rfl, ?_, rfl⟩⟩
    rw [h, ← hclaims]
    rfl
  · rw [hbegin]
    exact ⟨true, _, rfl, hrules.symm, rfl, Or.inr ⟨rfl, rfl, rfl⟩⟩

/-- A report of an update leaves the turns as they are, or begins with none. -/
theorem openFrame_turns (w : World) (now threshold : Float) :
    (w.openFrame now threshold).2.store = w.store ∧
      ((w.openFrame now threshold).1 = false ∧ w.SameTurns (w.openFrame now threshold).2 ∨
        (w.openFrame now threshold).1 = true ∧ w.director.isSome = true ∧
          (w.openFrame now threshold).2.ticked? = some [] ∧
          (w.openFrame now threshold).2.turnLog = w.turnLog.enter .frameBegan) := by
  unfold openFrame grant
  cases hd : w.director with
  | none => exact ⟨rfl, Or.inl ⟨rfl, .refl w⟩⟩
  | some d =>
    dsimp only
    rcases d.frame.begin_cases now threshold with hbegin | hbegin
    · rw [hbegin]
      exact ⟨rfl, Or.inl ⟨rfl, by simp [ticked?, hd], rfl⟩⟩
    · rw [hbegin]
      exact ⟨rfl, Or.inr ⟨rfl, rfl, rfl, rfl⟩⟩

/-- An update that follows the last one closer than the threshold begins no frame. -/
theorem openFrame_repeated {d : SceneLogic.Director} {last now threshold : Float}
    (hd : w.director = some d) (hlast : d.frame.lastUpdate = some last)
    (hnear : now - last < threshold) :
    w.openFrame now threshold =
      (false, { w with director := some { d with frame := { d.frame with lastUpdate := now } } }) := by
  have hbegin : d.frame.begin now threshold =
      (false, { d.frame with lastUpdate := some now }) := by
    simp [Frame.begin, hlast, hnear]
  unfold openFrame grant
  rw [hd]
  dsimp only
  rw [hbegin]
  rfl

/-- A request is granted and forgotten if it nests too deep, granted and kept if it is new, and
refused otherwise. -/
theorem judge_cases {claims : List Request} (h : w.claims? = some claims) (r : Request) :
    ∃ granted w', w.judge r = (granted, w') ∧ w'.sceneRules = w.sceneRules ∧
      w'.store = w.store ∧ w'.frameLog = w.frameLog.enter (.requested r granted) ∧
      (r.tooDeep = true ∧ granted = true ∧ w'.claims? = some claims ∨
        r.tooDeep = false ∧ r ∈ claims ∧ granted = false ∧ w'.claims? = some claims ∨
        r.tooDeep = false ∧ r ∉ claims ∧ granted = true ∧ w'.claims? = some (r :: claims)) := by
  obtain ⟨d, hd, rfl⟩ := Option.map_eq_some_iff.mp h
  have hrules : w.sceneRules = d.rules := by rw [sceneRules, hd]; rfl
  unfold judge grant
  rw [hd]
  dsimp only
  rw [Frame.grantRequest_eq]
  cases hdeep : r.tooDeep with
  | true => exact ⟨true, _, rfl, hrules.symm, rfl, rfl, Or.inl ⟨rfl, rfl, rfl⟩⟩
  | false =>
    rw [if_neg Bool.false_ne_true]
    by_cases hr : r ∈ d.frame.requests
    · rw [if_pos hr]
      exact ⟨false, _, rfl, hrules.symm, rfl, rfl, Or.inr (Or.inl ⟨rfl, hr, rfl, rfl⟩)⟩
    · rw [if_neg hr]
      exact ⟨true, _, rfl, hrules.symm, rfl, rfl, Or.inr (Or.inr ⟨rfl, hr, rfl, rfl⟩)⟩

/-- The judgement of a request leaves the collisions alone. -/
theorem sameMeetings_judge (w : World) (r : Request) : w.SameMeetings (w.judge r).2 := by
  unfold judge grant
  cases hd : w.director with
  | none => exact ⟨by simp [pairs?, hd, record], rfl⟩
  | some d => exact ⟨by simp [pairs?, hd, record, (Frame.grantRequest_others _ _).1], rfl⟩

theorem sameTurns_judge (w : World) (r : Request) : w.SameTurns (w.judge r).2 :=
  (w.sameTurns_grant (f := (·.grantRequest r)) fun frame => (frame.grantRequest_others r).2).trans
    ⟨rfl, rfl⟩

/-- Nothing has been requested yet, and the director has granted nothing. -/
structure NoFramesYet (w : World) : Prop where
  claims : w.claims? = some []
  log : w.frameLog = {}

end World

end SceneLogic
