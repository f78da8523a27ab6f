import SceneLogic.Defaults
import SceneLogic.Module.Run
import SceneLogic.Proofs.Dict

/-!
# Conditions of rules and tests of modules

A rule asks registered conditions, a module asks the tests of its condition nodes. Six of the
conditions are there a second time as tests. Each of the two looks variables up, reads null and
compares values by its own means.

* `Restates` – which condition with which parameters asks the same as which node
* `conditions_agree_with_tests` – the two find the same

The module's lookup gives `Mouse` and `Time` a meaning of their own, and the parameters of a
condition are trimmed and never empty. Other names are read alike; `Readable` and `IsVariable` say
which these are. What is fed into a node hides its operands, so the node has no value edges.
-/

namespace SceneLogic

/-! ## Registered conditions -/

theorem Conditions.conditions_unique : Dict.Unique Conditions.conditions := by
  simp [Dict.Unique, Dict.keys, Conditions.conditions]

/-- Whatever was registered before, a default condition is found under its name. -/
theorem Machine.get?_withDefaultConditions (m : Machine) {c : String × Condition}
    (hc : c ∈ Conditions.conditions) :
    Dict.get? m.withDefaultConditions.conditions c.1 = some c.2 := by
  have hregistered : ∀ (l : List (String × Condition)) (m : Machine),
      (l.foldl (fun m c => m.registerCondition c.1 c.2) m).conditions =
        l.foldl (fun d c => Dict.insert d c.1 c.2) m.conditions := by
    intro l
    induction l with
    | nil => exact fun _ => rfl
    | cons c rest ih => exact fun m => ih (m.registerCondition c.1 c.2)
  rw [withDefaultConditions, hregistered]
  exact Dict.get?_foldl_insert Conditions.conditions_unique hc _

/-! ## What asks the same -/

/-- A parameter is a name that is read as it stands. -/
structure Params.Readable (params : Params) (key name : String) : Prop where
  given : Dict.get? params key = some (.text name)
  trimmed : Text.trim name = name
  nonempty : name ≠ ""

/-- The name stands for a variable wherever it is looked up. -/
structure IsVariable (name : String) : Prop where
  notMouse : name ≠ "Mouse"
  notTime : name ≠ "Time"

/-- The test that an operator of `Compare` stands for. -/
inductive Test.Operator : String → Test → Prop
  | equal : Operator "==" .equals
  | same : Operator "=" .equals
  | unequal : Operator "!=" .notEquals
  | greater : Operator ">" .greaterThan
  | less : Operator "<" .lessThan
  | atLeast : Operator ">=" .greaterOrEqual
  | atMost : Operator "<=" .lessOrEqual

/-- A condition of a rule asks with its parameters what a condition node asks with its operands and
its test. -/
inductive Restates (params : Params) : String → Option Operand → Option Operand → Test → Prop
  | variableEquals {name : String} (hname : params.Readable "name" name)
      (hvariable : IsVariable name) :
      Restates params "VariableEquals" (some (.variable name))
        (some (.literal (params.valueOf "value"))) .equals
  | compare {name : String} {test : Test} (hname : params.Readable "name" name)
      (hvariable : IsVariable name)
      (hop : Test.Operator ((params.text? "op").getD "==") test) :
      Restates params "Compare" (some (.variable name))
        (some (.literal (params.valueOf "value"))) test
  | signalFlag {key : String} {left : Option Operand} (hkey : params.Readable "key" key) :
      Restates params "SignalFlag" left (some (.literal (params.valueOf "value"))) (.signalKey key)
  | keyPressed {key : String} {left right : Option Operand} (hkey : params.Readable "key" key) :
      Restates params "KeyPressed" left right (.inputKey key)
  | isGrounded {left right : Option Operand} : Restates params "IsGrounded" left right .isGrounded
  | isAlive {left right : Option Operand} : Restates params "IsAlive" left right .isAlive

/-! ## Reading alike -/

theorem Params.Readable.requiredText {params : Params} {key name : String}
    (h : params.Readable key name) : Conditions.requiredText params key = .ok name := by
  have htext : params.text? key = some name := by
    simp [Params.text?, h.given, Value.text?, h.trimmed, h.nonempty]
  rw [Conditions.requiredText, htext]

/-- A node that no value edge leads into is not fed. -/
theorem Graph.feed?_of_unfed {g : Graph} {node : NodeId} (h : g.fedPorts node = [])
    (port : String) : g.feed? node port = none := by
  have hnone : g.edges.findSome? (Edge.feeder? node port) = none := by
    refine List.findSome?_eq_none_iff.mpr fun e he => ?_
    have hunfed := List.filterMap_eq_nil_iff.mp h e he
    cases e with
    | flow source exit target entry => rfl
    | value source target p =>
      have htarget : ¬ target = node := by simpa [Edge.fedPort?] using hunfed
      simp [Edge.feeder?, htarget]
  rw [Graph.feed?, hnone]
  rfl

namespace Instance

variable {i : Instance} {g : Graph} {node : NodeId} {w : World} {s : Situation}

/-- Where the variables of the instance are the scope, rules and modules look a variable up
alike. -/
theorem operand_variable (hentity : s.entity = i.entity) (hfed : g.fedPorts node = [])
    {name : String} (hvariable : IsVariable name) (port : String) :
    (i.lookup w s).operand g node port (some (.variable name)) =
      Conditions.valueOf w { s with scope := some i.vars } name := by
  rw [Lookup.operand, Graph.feed?_of_unfed hfed]
  simp only [Lookup.valueOf, hvariable.notMouse, hvariable.notTime, if_false, Conditions.valueOf,
    World.entityValue?, hentity]
  rfl

theorem operand_literal (hfed : g.fedPorts node = []) (v : Value) (port : String) :
    (i.lookup w s).operand g node port (some (.literal v)) = v := by
  rw [Lookup.operand, Graph.feed?_of_unfed hfed]

/-- What is sensed is asked alike. -/
theorem senses_evidence (p : Awareness → Bool) :
    (i.evidence w s).senses p = Conditions.sensed w { s with scope := some i.vars } p := rfl

theorem evaluate_of_outcome {left right : Option Operand} {test : Test} {e : Evidence} {b : Bool}
    (h : e.outcome? test (e.lookup.operand g node "left" left)
      (e.lookup.operand g node "right" right) = some b) :
    i.evaluate g node left right test e = (b, i) := by
  unfold evaluate
  simp only [h]

end Instance

/-- An operator compares as its test does. -/
theorem Test.Operator.outcome {op : String} {test : Test} (h : Test.Operator op test) (e : Evidence)
    (left right : Value) : ∃ b, e.outcome? test left right = some b ∧
      Conditions.comparison? op left right = some b := by
  cases h <;> exact ⟨_, rfl, by simp [Conditions.comparison?]⟩

/-- A comparison of a variable with a value has the outcome of the operator's test. -/
theorem Conditions.compare_eq {w : World} {s : Situation} {params : Params} {name : String}
    {b : Bool} (hname : requiredText params "name" = .ok name)
    (h : comparison? ((params.text? "op").getD "==") (valueOf w s name) (params.valueOf "value") =
      some b) : compare w s params = .ok b := by
  simp only [compare, hname, bind, Except.bind, h]
  rfl

/-! ## Agreement -/

/-- A condition that only looks at the world, with what it finds where the node finds the same. -/
theorem Restates.found {params : Params} {name : String} {left right : Option Operand}
    {test : Test} (h : Restates params name left right test) {w : World} {s : Situation}
    {i : Instance} {g : Graph} {node : NodeId} (hentity : s.entity = i.entity)
    (hfed : g.fedPorts node = []) :
    ∃ found b, (name, Conditions.pureCondition found) ∈ Conditions.conditions ∧
      found w { s with scope := some i.vars } params = .ok b ∧
      i.evaluate g node left right test (i.evidence w s) = (b, i) := by
  cases h with
  | variableEquals hname hvariable =>
    refine ⟨Conditions.variableEquals, _, by simp [Conditions.conditions], ?_,
      Instance.evaluate_of_outcome rfl⟩
    simp only [Conditions.variableEquals, hname.requiredText, bind, Except.bind, Instance.evidence,
      Instance.operand_variable hentity hfed hvariable, Instance.operand_literal hfed]
    rfl
  | @compare x _ hname hvariable hop =>
    obtain ⟨b, houtcome, hcomparison⟩ := hop.outcome (i.evidence w s)
      (Conditions.valueOf w { s with scope := some i.vars } x) (params.valueOf "value")
    refine ⟨Conditions.compare, b, by simp [Conditions.conditions],
      Conditions.compare_eq hname.requiredText hcomparison, Instance.evaluate_of_outcome ?_⟩
    simp only [Instance.evidence, Instance.operand_variable hentity hfed hvariable,
      Instance.operand_literal hfed]
    exact houtcome
  | signalFlag hkey =>
    refine ⟨Conditions.signalFlag, _, by simp [Conditions.conditions], ?_,
      Instance.evaluate_of_outcome rfl⟩
    simp only [Conditions.signalFlag, hkey.requiredText, bind, Except.bind, Evidence.hasSignal,
      Instance.senses_evidence]
    simp only [Instance.evidence, Instance.operand_literal hfed]
    rfl
  | keyPressed hkey =>
    refine ⟨Conditions.keyPressed, _, by simp [Conditions.conditions], ?_,
      Instance.evaluate_of_outcome rfl⟩
    simp only [Conditions.keyPressed, hkey.requiredText, bind, Except.bind]
    rfl
  | isGrounded =>
    exact ⟨Conditions.isGrounded, _, by simp [Conditions.conditions], rfl,
      Instance.evaluate_of_outcome rfl⟩
  | isAlive =>
    refine ⟨Conditions.isAlive, _, by simp [Conditions.conditions], ?_,
      Instance.evaluate_of_outcome rfl⟩
    simp only [Conditions.isAlive, Instance.evidence, Instance.lookup, hentity]

/-- **A rule and a module that ask the same find the same.** With the variables of an instance as
its scope, the condition gives what the test of the node gives, in every scene; it does not fail,
and neither of the two changes anything. -/
theorem conditions_agree_with_tests {params : Params} {name : String}
    {left right : Option Operand} {test : Test} (h : Restates params name left right test)
    (registry : Machine) (service : Service) (m : Machine) {s : Situation} {i : Instance}
    {g : Graph} {node : NodeId} (hentity : s.entity = i.entity) (hfed : g.fedPorts node = []) :
    ∃ condition b, Dict.get? registry.withDefaultConditions.conditions name = some condition ∧
      (condition { s with scope := some i.vars } params).run service m = some (.ok b, m) ∧
      i.evaluate g node left right test (i.evidence m.world s) = (b, i) := by
  obtain ⟨found, b, hmem, hfound, hevaluate⟩ := h.found (w := m.world) hentity hfed
  refine ⟨_, b, registry.get?_withDefaultConditions hmem, ?_, hevaluate⟩
  simp only [Conditions.pureCondition, Script.run, hfound]

namespace Asking

/-- A hero who has ammunition. -/
def machine : Machine :=
  { world :=
      { store := Store.empty.insert { id := ⟨"hero"⟩, vars := [.ofValue "ammo" (.int 7)] } } }

def graph : Graph :=
  { id := "patrol", entry := "armed" }

def situation : Situation :=
  ⟨⟨"hero"⟩, [], none, none, none⟩

/-- A module that has less of it. -/
def module : Instance :=
  { id := 1, entity := ⟨"hero"⟩, moduleId := "patrol", graph := 0, cursor := "armed",
    vars := [("ammo", .int 1)] }

/-- Is there more of it than two? -/
def params : Params :=
  [("name", .text "ammo"), ("op", .text ">"), ("value", .int 2)]

theorem restates : Restates params "Compare" (some (.variable "ammo")) (some (.literal (.int 2)))
    .greaterThan :=
  .compare ⟨rfl, by decide, by decide⟩ ⟨by decide, by decide⟩ .greater

end Asking

/-- Both take the hero's ammunition, and find it to be more. -/
theorem conditions_agree_on_ammo : ∃ condition,
    Dict.get? Asking.machine.withDefaultConditions.conditions "Compare" = some condition ∧
      (condition { Asking.situation with scope := some Asking.module.vars } Asking.params).run
        Service.exhausted Asking.machine = some (.ok true, Asking.machine) ∧
      Asking.module.evaluate Asking.graph "armed" (some (.variable "ammo"))
        (some (.literal (.int 2))) .greaterThan
        (Asking.module.evidence Asking.machine.world Asking.situation) = (true, Asking.module) := by
  obtain ⟨condition, b, hget, hrun, hevaluate⟩ :=
    conditions_agree_with_tests Asking.restates Asking.machine Service.exhausted Asking.machine
      (s := Asking.situation) (i := Asking.module) rfl
      (rfl : Asking.graph.fedPorts "armed" = [])
  have hb : b = true := by
    refine (congrArg Prod.fst hevaluate).symm.trans ?_
    decide
  subst hb
  exact ⟨condition, hget, hrun, hevaluate⟩

end SceneLogic
