import SceneLogic.Error
import SceneLogic.World

/-!
# Scripts

All behaviour of a scene is written as scripts: actions, conditions, reactions to events, the
work of the director and of running modules. A script reads and changes the world and, in
between, asks for things that other scripts do: it announces an event, has a registered action
performed, has a registered condition checked. It is interrupted there, and goes on when
everything that follows from the request is done.

A script is a tree of such steps. `Machine` says how it is carried out. Keeping the two apart
makes every single script a finite thing, however long the cascade that it sets off.
-/

namespace SceneLogic

/-- A behaviour that ends with a result. -/
inductive Script : Type → Type 1 where
  /-- The result. -/
  | done {α : Type} (result : α) : Script α
  /-- Looks at the world. -/
  | read {α : Type} (next : World → Script α) : Script α
  /-- Replaces the world. -/
  | write {α : Type} (world : World) (next : Script α) : Script α
  /-- Announces an event, and goes on when all listeners have reacted. -/
  | emit {α : Type} (type : String) (data : Params) (target : Option EntityId)
      (next : Script α) : Script α
  /-- Has a registered action performed. -/
  | perform {α : Type} (name : String) (situation : Situation) (params : Params)
      (next : Script α) : Script α
  /-- Has a registered condition checked. -/
  | check {α : Type} (name : String) (situation : Situation) (params : Params)
      (next : Bool → Script α) : Script α
  /-- Subscribes a listener to all events. -/
  | subscribe {α : Type} (listener : Event → Script (Except Failure Unit))
      (next : SubscriptionId → Script α) : Script α
  /-- Ends a subscription, and learns whether there was one. -/
  | unsubscribe {α : Type} (id : SubscriptionId) (next : Bool → Script α) : Script α
  /-- Registers an action under a name. -/
  | registerAction {α : Type} (name : String)
      (action : Situation → Params → Script (Except Failure Unit)) (next : Script α) : Script α
  /-- Registers a condition under a name. -/
  | registerCondition {α : Type} (name : String)
      (condition : Situation → Params → Script (Except Failure Bool)) (next : Script α) :
      Script α

/-- What a listener does about an event. -/
abbrev Listener := Event → Script (Except Failure Unit)

/-- What an action does in a situation. -/
abbrev Action := Situation → Params → Script (Except Failure Unit)

/-- What a condition finds in a situation. -/
abbrev Condition := Situation → Params → Script (Except Failure Bool)

namespace Script

/-- Goes on with a script that depends on the result. -/
def bind {α β : Type} : Script α → (α → Script β) → Script β
  | .done a, f => f a
  | .read k, f => .read fun w => (k w).bind f
  | .write w k, f => .write w (k.bind f)
  | .emit type data target k, f => .emit type data target (k.bind f)
  | .perform name s params k, f => .perform name s params (k.bind f)
  | .check name s params k, f => .check name s params fun b => (k b).bind f
  | .subscribe listener k, f => .subscribe listener fun id => (k id).bind f
  | .unsubscribe id k, f => .unsubscribe id fun b => (k b).bind f
  | .registerAction name action k, f => .registerAction name action (k.bind f)
  | .registerCondition name condition k, f => .registerCondition name condition (k.bind f)

instance : Monad Script where
  pure := .done
  bind := bind

@[simp] theorem pure_eq {α : Type} (a : α) : (pure a : Script α) = .done a := rfl

@[simp] theorem bind_eq {α β : Type} (s : Script α) (f : α → Script β) :
    (s >>= f) = s.bind f := rfl

theorem bind_done {α : Type} (s : Script α) : s.bind .done = s := by
  induction s with
  | done a => rfl
  | read k ih => simp only [bind, ih]
  | write w k ih => simp only [bind, ih]
  | emit type data target k ih => simp only [bind, ih]
  | perform name s params k ih => simp only [bind, ih]
  | check name s params k ih => simp only [bind, ih]
  | subscribe listener k _ ih => simp only [bind, ih]
  | unsubscribe id k ih => simp only [bind, ih]
  | registerAction name action k _ ih => simp only [bind, ih]
  | registerCondition name condition k _ ih => simp only [bind, ih]

theorem bind_assoc {α β γ : Type} (s : Script α) (f : α → Script β) (g : β → Script γ) :
    (s.bind f).bind g = s.bind fun a => (f a).bind g := by
  induction s with
  | done a => rfl
  | read k ih => simp only [bind, ih]
  | write w k ih => simp only [bind, ih]
  | emit type data target k ih => simp only [bind, ih]
  | perform name s params k ih => simp only [bind, ih]
  | check name s params k ih => simp only [bind, ih]
  | subscribe listener k _ ih => simp only [bind, ih]
  | unsubscribe id k ih => simp only [bind, ih]
  | registerAction name action k _ ih => simp only [bind, ih]
  | registerCondition name condition k _ ih => simp only [bind, ih]

instance : LawfulMonad Script :=
  LawfulMonad.mk' Script bind_done (fun _ _ => rfl) bind_assoc

/-- The world as it is. -/
def world : Script World :=
  .read .done

/-- Replaces the world. -/
def setWorld (w : World) : Script Unit :=
  .write w (.done ())

/-- Changes the world. -/
def modifyWorld (f : World → World) : Script Unit :=
  .read fun w => .write (f w) (.done ())

/-- Adds an entry to the journal. -/
def record (h : Happening) : Script Unit :=
  modifyWorld (·.record h)

/-- Adds a note of the host to the journal. -/
def note (v : Value) : Script Unit :=
  record (.noted v)

/-- Announces an event. -/
def announce (type : String) (data : Params) (target : Option EntityId) : Script Unit :=
  .emit type data target (.done ())

/-- Has a registered action performed. -/
def act (name : String) (s : Situation) (params : Params) : Script Unit :=
  .perform name s params (.done ())

/-- Has a registered condition checked. -/
def holds (name : String) (s : Situation) (params : Params) : Script Bool :=
  .check name s params .done

/-- Subscribes a listener to all events. -/
def listen (listener : Listener) : Script SubscriptionId :=
  .subscribe listener .done

/-- Ends a subscription, and learns whether there was one. -/
def unlisten (id : SubscriptionId) : Script Bool :=
  .unsubscribe id .done

/-- Runs a script for each item in turn. -/
def forEach {α : Type} (items : List α) (body : α → Script Unit) : Script Unit :=
  match items with
  | [] => .done ()
  | a :: rest => (body a).bind fun _ => forEach rest body

end Script

end SceneLogic
