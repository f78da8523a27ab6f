import SceneLogic.Module.Run
import SceneLogic.Reaction

/-!
# The director

The director listens to all events and routes them to the rules of entities and of the scene; it
runs the update logic and the modules. Within a frame it grants each request of an action, each
collision of a pair, and each component's update only once.

While the scene is edited it only keeps track of contacts.
-/

namespace SceneLogic

namespace World

/-- The settings of the director. -/
def settings (w : World) : Settings :=
  ((w.director).map (·.settings)).getD {}

/-- The rules of the scene. -/
def sceneRules (w : World) : List Rule :=
  ((w.director).map (·.rules)).getD []

/-- The scene is played, and not edited. -/
def isPlaying (w : World) : Bool :=
  ((w.director).map (·.mode)) == some .playing

/-- Has the present frame grant something. -/
def grant (w : World) (f : Frame → Bool × Frame) : Bool × World :=
  match w.director with
  | none => (false, w)
  | some d =>
    let (granted, frame) := f d.frame
    (granted, { w with director := some { d with frame } })

/-- Replaces the rules of the scene. -/
def replaceRules (w : World) (rules : List Rule) : World :=
  w.modifyDirector ({ · with rules })

/-- Adds a rule of the scene. -/
def addRule (w : World) (r : Rule) : World :=
  w.modifyDirector fun d => { d with rules := d.rules ++ [r] }

/-- Switches between playing and editing. -/
def setMode (w : World) (mode : Mode) : World :=
  w.modifyDirector ({ · with mode })

/-- Takes over a snapshot of the input devices. -/
def setInput (w : World) (input : Option Input) : World :=
  w.modifyDirector ({ · with input })

/-- Forgets what the director knows about an entity, and cancels its modules. -/
def forgetEntity (w : World) (id : EntityId) : World :=
  ({ w.cancelModules id with senses := w.senses.forget id }.modifyDirector fun d =>
    { d with started := d.started.filter fun c => c.1 ≠ id }).record (.ofStart (.forgotten id))

/-- Takes an entity out of play. Without a director only its modules are cancelled. -/
def removeEntity (w : World) (id : EntityId) : World :=
  match w.director with
  | none => w.cancelModules id
  | some _ => w.forgetEntity id

/-- The enabled components of an entity whose triggers are accepted; none if it is not live. -/
def componentsOf (w : World) (id : EntityId) (accept : String → Bool) : List Component :=
  match w.store.get? id with
  | some e => if e.isLive then e.components.filter fun c => c.enabled && accept c.trigger else []
  | none => []

/-- The enabled start components of an entity; none if it is not live. -/
def startComponents (w : World) (id : EntityId) : List Component :=
  w.componentsOf id fun t => t == EventType.onStart

end World

namespace Director

/-- Requests an action for the entity of a situation: it is performed if it is granted. -/
def request (s : Situation) (call : ActionCall) : Script Unit :=
  .read fun w =>
    let r : Request := ⟨s.entity, call.kind, call.params⟩
    let (granted, w) := w.grant (·.grantRequest r)
    .write (w.record (.requested r granted))
      (if granted then Script.act call.kind s call.params else .done ())

/-- Gives an event to an entity: to its components, and if so asked to the rules of the scene. -/
def offer (e : Event) (id : EntityId) (data : Params) (withSceneRules : Bool) : Script Unit :=
  .read fun w =>
    let rules := (w.componentsOf id fun t => EventType.answers t e.type).map (·.rule)
    let scene := withSceneRules && !w.sceneRules.isEmpty
    if rules.isEmpty && !scene then .done ()
    else
      let (s, w) := w.situationFor id data
      .write w
        ((if rules.isEmpty then .done () else react e s rules (request s)).bind fun _ =>
          if scene then .read fun w => react e s w.sceneRules (request s) else .done ())

/-- Gives an event to its target, and to the rules of the scene, or without a target to all
entities. -/
def route (e : Event) : Script Unit :=
  match e.target with
  | some target => offer e target e.data true
  | none =>
    .read fun w => Script.forEach w.store.ids fun id => offer e id e.data false

/-! ## Collisions -/

/-- The data of a collision as one side sees it. -/
def sideData (data : Params) (c : Contact) : Params :=
  let data := Dict.insert data "otherId" (.text c.other.name)
  let data :=
    match c.otherTag with
    | some tag => Dict.insert data "otherTag" (.text tag)
    | none => data
  match c.selfTag with
  | some tag => Dict.insert data "selfTag" (.text tag)
  | none => data

/-- Keeps track of a contact on one side. -/
def trackContact (senses : Senses) (type : String) (id : EntityId) (c : Contact) : Senses :=
  if type = EventType.collisionEnter then senses.enter id c
  else if type = EventType.collisionStay then senses.stay id c
  else senses.exit id c.other

/-- Handles a collision: both sides keep track of it, and react to it once in a frame. -/
def collide (e : Event) : Script Unit :=
  match e.entity? "entityA", e.entity? "entityB" with
  | some a, some b =>
    let contactA : Contact := ⟨b, e.text? "tagB", e.text? "tagA"⟩
    let contactB : Contact := ⟨a, e.text? "tagA", e.text? "tagB"⟩
    .read fun w =>
      let w := { w with
        senses := trackContact (trackContact w.senses e.type a contactA) e.type b contactB }
      if !w.isPlaying then .write w (.done ())
      else
        let (granted, w) := w.grant (·.grantCollision a b e.type)
        .write (w.record (.met e a b granted))
          (if granted then
            (offer e a (sideData e.data contactA) false).bind fun _ =>
              offer e b (sideData e.data contactB) false
          else .done ())
  | _, _ => .done ()

/-! ## Start logic -/

/-- A start event comes to a component, which claims its start logic unless it did so before. -/
def claimStart (w : World) (e : Event) (id : EntityId) (c : Component) : Bool × World :=
  match w.director with
  | none => (false, w)
  | some d =>
    let (granted, started) := Frame.grant d.started (id, c.id)
    (granted,
      { w with director := some { d with started } }.record (.ofStart (.heard e id c granted)))

/-- A start event comes to components of an entity, one after the other. These are the rules of
those that claim their start logic. -/
def claimStarts (e : Event) (id : EntityId) : List Component → World → List Rule × World
  | [], w => ([], w)
  | c :: rest, w =>
    let (granted, w) := claimStart w e id c
    let (rules, w) := claimStarts e id rest w
    (if granted then c.rule :: rules else rules, w)

/-- A start event comes to the start components of an entity. -/
def freshStarts (w : World) (e : Event) (id : EntityId) : List Rule × World :=
  claimStarts e id (w.startComponents id) w

/-- Runs the start logic of an entity, as if the event were aimed at it. -/
def startEntity (e : Event) (id : EntityId) : Script Unit :=
  .read fun w =>
    let (rules, w) := freshStarts w e id
    if rules.isEmpty then .write w (.done ())
    else
      let (s, w) := w.situationFor id e.data
      .write w (react { e with target := some id } s rules (request s))

/-- Runs start logic: of the target, or else of all entities. -/
def start (e : Event) : Script Unit :=
  match e.target with
  | some target => startEntity e target
  | none => .read fun w => Script.forEach w.store.ids (startEntity e)

/-! ## Events -/

/-- The event tells of a collision. -/
def isCollision (type : String) : Bool :=
  type = EventType.collisionEnter || type = EventType.collisionStay ||
    type = EventType.collisionExit

/-- Takes down the signal that an event sends: it waits for a listener, and the target senses
it. -/
def takeSignal (w : World) (e : Event) : World :=
  let w := w.record (.ofSignal (.heard e))
  match e.text? "signal" with
  | none => w
  | some signal =>
    let w := { w with signals := w.signals.push signal }
    match e.target with
    | some target => { w with senses := w.senses.setSignal target signal (.bool true) }
    | none => w

/-- Handles an event. -/
def handle (e : Event) : Script Unit :=
  if isCollision e.type then collide e
  else
    .read fun w =>
      if !w.isPlaying then .done ()
      else if e.type = EventType.onStart then start e
      else if e.type = EventType.onClick then
        match e.target with
        | some target => offer e target e.data false
        | none => .done ()
      else if e.type = EventType.tick ∨ e.type = EventType.onUpdate then .done ()
      else if e.type = EventType.eventSignal then .write (takeSignal w e) (route e)
      else route e

/-- The director as a listener. -/
def listener : Listener := fun e =>
  (handle e).bind fun _ => .done (.ok ())

/-! ## Updates -/

/-- Asks the frame for an update of a component. It is granted once; if the entity is live, that
is taken down. -/
def takeTurn (w : World) (id : EntityId) (component : String) : Bool × World :=
  let (granted, w) := w.grant (·.grantComponent id component)
  (granted, if granted && w.isLive id then w.record (.updated id component) else w)

/-- Runs the update logic of an entity: each component that the frame has not granted an update
yet, as long as the entity is live. -/
def updateComponents (id : EntityId) (dt : Float) : List Component → Script Unit
  | [] => .done ()
  | c :: rest =>
    .read fun w =>
      let (granted, w) := takeTurn w id c.id
      .write w
        (if !granted then updateComponents id dt rest
        else if !w.isLive id then .done ()
        else
          let (s, w) := w.situationFor id [("dt", .float dt)]
          .write w
            ((c.rule.evaluate s (request s)).bind fun _ => updateComponents id dt rest))

/-- Runs the update logic of an entity. -/
def updateEntity (dt : Float) (id : EntityId) : Script Unit :=
  .read fun w =>
    updateComponents id dt (w.componentsOf id fun t => EventType.answers t EventType.tick)

/-- Runs an update: the logic of all entities and then the modules. The contacts that began or
ended are told of until the first update of the next frame is over. -/
def update (dt : Float) : Script (List ModuleReport) :=
  .read fun w =>
    let (newFrame, w) := w.grant (·.begin w.clock w.settings.threshold)
    .write (if newFrame then w.record .frameBegan else w)
      ((Script.forEach w.store.ids (updateEntity dt)).bind fun _ =>
        (updateModules 0 dt).bind fun results =>
          .read fun w =>
            .write (if newFrame then { w with senses := w.senses.beginFrame } else w)
              (.done results))

/-! ## Installing and shutting down -/

/-- A world with a director of these settings. -/
def appoint (w : World) (settings : Settings) : World :=
  { w with
    director := some { settings }
    senses := { groundTags := settings.groundTags }
    pool := { stepBound := settings.stepBound }
    debugEvents := w.debugEvents || settings.debugEvents }

/-- Installs a director, which listens from now on. -/
def install (settings : Settings) : Script Unit :=
  .read fun w =>
    .write (appoint w settings)
      (.subscribe listener fun id =>
        Script.modifyWorld (·.modifyDirector ({ · with subscription := some id })))

/-- Ends the director's subscription. -/
def resign : Script Unit :=
  .read fun w =>
    match (w.director).bind (·.subscription) with
    | none => .done ()
    | some id =>
      .write (w.modifyDirector ({ · with subscription := none }))
        (.unsubscribe id fun _ => .done ())

/-- Shuts the director down: it listens no more, and all modules are dropped. -/
def shutdown : Script Unit :=
  resign.bind fun _ => Script.modifyWorld (·.clearModules)

end Director

end SceneLogic
