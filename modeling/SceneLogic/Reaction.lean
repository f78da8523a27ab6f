import SceneLogic.Machine

/-!
# Evaluating rules

A rule's conditions are checked one after the other, and no further than its logic needs. The
actions that are selected are handed on in order; who evaluates the rule says what becomes of
them.
-/

namespace SceneLogic

namespace Script

/-- Checks conditions until one does not hold. -/
def allHold (s : Situation) : List ConditionCall → Script Bool
  | [] => .done true
  | c :: rest => .check c.kind s c.params fun b => if b then allHold s rest else .done false

/-- Checks conditions until one holds, and gives that one. -/
def firstHolding (s : Situation) : List ConditionCall → Script (Option ConditionCall)
  | [] => .done none
  | c :: rest => .check c.kind s c.params fun b =>
      if b then .done (some c) else firstHolding s rest

end Script

namespace Rule

/-- Checks the conditions and gives the actions that are selected. -/
def select (r : Rule) (s : Situation) : Script (List ActionCall) :=
  match r.logic with
  | .all =>
    (Script.allHold s r.conditions).bind fun b => .done (if b then r.actions else r.otherwise)
  | .any =>
    if r.conditions.isEmpty then .done r.actions
    else
      (Script.firstHolding s r.conditions).bind fun c =>
        .done (if c.isSome then r.actions else r.otherwise)
  | .branch =>
    (Script.firstHolding s r.conditions).bind fun c =>
      .done (match c with
        | some c => c.consequence
        | none => r.otherwise)

/-- Evaluates a rule: hands the selected actions on, and learns whether there were any. -/
def evaluate (r : Rule) (s : Situation) (perform : ActionCall → Script Unit) : Script Bool :=
  (Script.record (.evaluated s.entity r)).bind fun _ =>
    (r.select s).bind fun actions =>
      (Script.forEach actions perform).bind fun _ => .done !actions.isEmpty

end Rule

/-- Lets an entity react to an event by rules: those that react to it are picked first and then
evaluated in order. The dead do not react, and nobody does to what is aimed at another. -/
def react (e : Event) (s : Situation) (rules : List Rule) (perform : ActionCall → Script Unit) :
    Script Unit :=
  .read fun w =>
    let aimedElsewhere : Bool :=
      match e.target with
      | some target => target ≠ s.entity
      | none => false
    if !w.isAlive s.entity || aimedElsewhere then .done ()
    else
      Script.forEach (rules.filter (·.reactsTo e.type e.data)) fun r =>
        (r.evaluate s perform).bind fun _ => .done ()

end SceneLogic
