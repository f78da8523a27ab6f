import SceneLogic.Proofs.Agreeing
import SceneLogic.Proofs.Module.Replaying
import SceneLogic.Proofs.Pictures
import SceneLogic.Proofs.Returning
import SceneLogic.Proofs.Variables

/-!
# Setting variables by blocks and by rules

There are three ways to set a variable. The block `SetVariable` writes to the entity or to the
module itself. The block `SetVar` works out the value and writes to the module itself, but leaves
the writing to the entity to the registered action, which fails where there is no entity, and
nobody learns of that. A rule has the action do all of it.

* `Control.settled` — the world as the action leaves it
* `assignments_agree_where_a_home_is` — the two blocks, without an operation
* `modifications_agree_but_for_new_integers` — block and rule, with an operation
-/

namespace SceneLogic

/-! ## The action -/

namespace World

theorem get?_of_missing {w : World} {id : EntityId} (h : w.store.contains id = false) :
    w.store.get? id = none := by
  rw [Store.contains, Dict.contains, Option.isSome_eq_false_iff, Option.isNone_iff_eq_none] at h
  exact h

/-- A change of an entity that is not there is none. -/
theorem modifyEntity_of_missing {w : World} {id : EntityId} (h : w.store.get? id = none)
    (f : Entity → Entity) : w.modifyEntity id f = w := by
  have hstore : w.store.modify id f = w.store :=
    congrArg Store.mk (Dict.modify_of_get?_eq_none h f)
  rw [modifyEntity, hstore]

end World

namespace Control

variable {s : Situation} {params : Params} {name : String}

/-- The world as the action leaves it, which sets a variable of the acting entity or fails. -/
def settled (w : World) (s : Situation) (params : Params) : World :=
  match params.text? "name", w.store.get? s.entity with
  | some name, some e =>
    match modified e name params with
    | .ok v => w.modifyEntity s.entity (·.assign name v)
    | .error _ => w
  | _, _ => w

theorem setVar_run (service : Service) (m : Machine) (s : Situation) (params : Params) :
    ∃ r, (setVar s params).run service m =
      some (r, { m with world := settled m.world s params }) := by
  unfold setVar Script.withText settled
  cases params.text? "name" with
  | none => exact ⟨_, rfl⟩
  | some name =>
    dsimp only [Script.run]
    cases m.world.store.get? s.entity with
    | none => exact ⟨_, rfl⟩
    | some e =>
      dsimp only
      cases modified e name params with
      | error f => exact ⟨_, rfl⟩
      | ok v => exact ⟨_, rfl⟩

/-- The action is performed, whoever asks for it, and its failure is not told. -/
theorem act_setVar {m : Machine} (hset : Dict.get? m.actions "SetVar" = some setVar) (depth : Nat)
    (s : Situation) (params : Params) :
    (Script.act "SetVar" s params).run (Service.atDepth (depth + 1)) m =
      some ((), { m with world := settled m.world s params }) := by
  obtain ⟨r, hrun⟩ := setVar_run (Service.atDepth depth) m s params
  exact Script.act_run hset hrun

/-- A plain assignment names no operation any more. -/
theorem modified_plainAssignment (e : Entity) (name : String) (v : Value)
    (hop : Dict.get? (Dict.erase params "operation") "operation" = none) :
    modified e name (Instance.plainAssignment params v) = .ok v := by
  have hvalue : Params.valueOf (Instance.plainAssignment params v) "value" = v := by
    rw [Params.valueOf, Instance.plainAssignment, Dict.get?_insert_self]
    rfl
  have hnone : Params.text? (Instance.plainAssignment params v) "operation" = none := by
    rw [Params.text?, Instance.plainAssignment, Dict.get?_insert_of_ne _ _ (by decide),
      Dict.get?_erase_of_ne _ (by decide), Dict.get?_erase_of_ne _ (by decide), hop]
    rfl
  rw [modified, hnone, hvalue]

theorem text?_plainAssignment (v : Value) :
    Params.text? (Instance.plainAssignment params v) "name" = params.text? "name" := by
  rw [Params.text?, Instance.plainAssignment, Dict.get?_insert_of_ne _ _ (by decide),
    Dict.get?_erase_of_ne _ (by decide), Dict.get?_erase_of_ne _ (by decide),
    Dict.get?_erase_of_ne _ (by decide), Params.text?]

theorem settled_plainAssignment (w : World) (v : Value) (hname : params.text? "name" = some name)
    (hop : Dict.get? (Dict.erase params "operation") "operation" = none) :
    settled w s (Instance.plainAssignment params v) =
      w.modifyEntity s.entity (·.assign name v) := by
  rw [settled, text?_plainAssignment, hname]
  cases he : w.store.get? s.entity with
  | none => exact (World.modifyEntity_of_missing he _).symm
  | some e =>
    dsimp only
    rw [modified_plainAssignment e name v hop]

end Control

/-! ## The blocks -/

namespace Instance

variable {i : Instance} {m : Machine} {s : Situation} {g : Graph} {node : Node}
  {block name : String} {inputs : Params} {v : Value}

/-- The node is an instant block of this name, and its ports have these values when it is run. -/
def Calls (i : Instance) (w : World) (s : Situation) (g : Graph) (node : Node) (block : String)
    (inputs : Params) : Prop :=
  ∃ mode written params, node.kind = .flow mode written params ∧
    mode.effective written = .instant ∧ Text.trim written = block ∧
    (i.lookup w s).ports g node.id params = inputs

/-- Where nothing is fed in, the ports have the values that were written. -/
theorem ports_of_unfed (l : Lookup) {id : NodeId} (h : g.fedPorts id = []) (params : Params)
    (hunique : Dict.Unique params) : l.ports g id params = params := by
  have hport : ∀ e ∈ params, (e.1, l.port g id params e.1) = e := by
    intro e he
    rw [Lookup.port, Graph.feed?_of_unfed h, Params.valueOf, Dict.get?_of_mem hunique he]
    rfl
  rw [Lookup.ports, h]
  exact (List.map_congr_left hport).trans (List.map_id params)

theorem Calls.runNode (h : i.Calls m.world s g node block inputs) (dt : Float)
    (service : Service) : ∃ written, Text.trim written = block ∧
      (i.runNode s dt g node).run service m = (i.runInstant s written inputs).run service m := by
  obtain ⟨mode, written, params, hkind, hmode, htrim, rfl⟩ := h
  refine ⟨written, htrim, ?_⟩
  simp only [Instance.runNode, hkind, Script.run, hmode]

/-- What `SetVariable` does: the value is put where the variable is. -/
theorem runNode_setVariable (h : i.Calls m.world s g node "SetVariable" inputs)
    (hname : inputs.text? "target" = some name) (hvalue : inputs.valueOf "value" = v) (dt : Float)
    (service : Service) :
    (i.runNode s dt g node).run service m =
      some (if i.owns m.world name ∨ m.world.store.contains i.entity = false then
        ((.leave "out", i.withValue name v),
          { m with world := m.world.publishWrite i.id i.entity i.graph name v })
      else
        ((.leave "out", i),
          { m with world := m.world.modifyEntity i.entity (·.assign name v) })) := by
  obtain ⟨written, htrim, hrun⟩ := h.runNode dt service
  rw [hrun, runInstant_setVariable htrim, hname, hvalue]
  dsimp only
  rw [Script.run_bind]
  by_cases howns : i.owns m.world name ∨ m.world.store.contains i.entity = false
  · rw [ModuleWrite.assign_run howns, ModuleWrite.write_run, if_pos howns]
    rfl
  · rw [if_neg howns]
    rw [not_or, Bool.not_eq_false] at howns
    rw [assign, Script.run, if_neg howns.1, if_pos howns.2]
    rfl

/-- What `SetVar` does: a variable of the module has the new value, and for any other one the
action is asked. -/
theorem runNode_setVar (hset : Dict.get? m.actions "SetVar" = some Control.setVar)
    (h : i.Calls m.world s g node "SetVar" inputs) (hname : inputs.text? "name" = some name)
    (hvalue : modifiedValue (i.lookup m.world s) name inputs = v) (dt : Float) (depth : Nat) :
    (i.runNode s dt g node).run (Service.atDepth (depth + 1)) m =
      some (if i.owns m.world name then
        ((.leave "out", i.withValue name v),
          { m with world := m.world.publishWrite i.id i.entity i.graph name v })
      else
        ((.leave "out", i),
          { m with world := Control.settled m.world s (plainAssignment inputs v) })) := by
  obtain ⟨written, htrim, hrun⟩ := h.runNode dt (Service.atDepth (depth + 1))
  rw [hrun, runInstant_setVar htrim, Script.run_bind, setVar, hname]
  dsimp only [Script.run]
  rw [hvalue]
  by_cases howns : i.owns m.world name = true
  · rw [if_pos howns, if_pos howns, ModuleWrite.write_run]
    rfl
  · rw [if_neg howns, if_neg howns, Script.run_bind, perform, Control.act_setVar hset]
    rfl

/-! ## The two blocks -/

theorem owns_of_missing {w : World} (h : w.store.get? i.entity = none) (name : String) :
    i.owns w name = i.hasVariable name := by
  rw [owns, entityHas, h]
  rfl

end Instance

/-- The blocks `SetVariable` and `SetVar`, of which the latter names no operation, are both left by
`out`. They do the same if the entity is in the store or the module has the variable. Otherwise
`SetVariable` makes it a variable of the module and tells the observer, and `SetVar` does
nothing. -/
theorem assignments_agree_where_a_home_is {m : Machine} {i : Instance} {s : Situation} {g : Graph}
    {node node' : Node} {p q : Params} {name : String} {v : Value}
    (hset : Dict.get? m.actions "SetVar" = some Control.setVar) (hentity : s.entity = i.entity)
    (hcalls : i.Calls m.world s g node "SetVariable" p)
    (hcalls' : i.Calls m.world s g node' "SetVar" q)
    (htarget : p.text? "target" = some name) (hvalue : p.valueOf "value" = v)
    (hname : q.text? "name" = some name) (hvalue' : q.valueOf "value" = v)
    (hplain : Dict.get? q "operation" = none) (dt : Float) (depth : Nat) :
    ∃ i₁ m₁ i₂ m₂,
      (i.runNode s dt g node).run (Service.atDepth (depth + 1)) m =
        some ((.leave "out", i₁), m₁) ∧
      (i.runNode s dt g node').run (Service.atDepth (depth + 1)) m =
        some ((.leave "out", i₂), m₂) ∧
      (m.world.store.contains i.entity = true ∨ i.hasVariable name = true →
        i₁ = i₂ ∧ m₁ = m₂) ∧
      (m.world.store.contains i.entity = false → i.hasVariable name = false →
        (i₁ = i.withValue name v ∧
          m₁ = { m with world := m.world.publishWrite i.id i.entity i.graph name v }) ∧
        i₂ = i ∧ m₂ = m) := by
  have hmodified : Instance.modifiedValue (i.lookup m.world s) name q = v := by
    rw [Instance.modifiedValue, Params.text?, hplain, ← hvalue']
    rfl
  have hsettled : Control.settled m.world s (Instance.plainAssignment q v) =
      m.world.modifyEntity i.entity (·.assign name v) := by
    have hop : Dict.get? (Dict.erase q "operation") "operation" = none := by
      rw [Dict.erase_of_get?_eq_none hplain, hplain]
    rw [Control.settled_plainAssignment _ _ hname hop, hentity]
  have hrun := Instance.runNode_setVariable hcalls htarget hvalue dt (Service.atDepth (depth + 1))
  have hrun' := Instance.runNode_setVar hset hcalls' hname hmodified dt depth
  rw [hsettled] at hrun'
  by_cases howns : i.owns m.world name = true
  · rw [if_pos (Or.inl howns)] at hrun
    rw [if_pos howns] at hrun'
    refine ⟨_, _, _, _, hrun, hrun', fun _ => ⟨rfl, rfl⟩, fun hgone hnone => ?_⟩
    rw [Instance.owns_of_missing (World.get?_of_missing hgone), hnone] at howns
    cases howns
  · rw [if_neg howns] at hrun'
    cases hstore : m.world.store.contains i.entity with
    | true =>
      rw [hstore, if_neg fun h => h.elim howns Bool.false_ne_true.symm] at hrun
      exact ⟨_, _, _, _, hrun, hrun', fun _ => ⟨rfl, rfl⟩,
        fun hgone => absurd hgone Bool.false_ne_true.symm⟩
    | false =>
      rw [if_pos (Or.inr hstore)] at hrun
      have hmissing := World.get?_of_missing hstore
      rw [World.modifyEntity_of_missing hmissing] at hrun'
      refine ⟨_, _, _, _, hrun, hrun', fun h => ?_, fun _ _ => ⟨⟨rfl, rfl⟩, rfl, rfl⟩⟩
      have hmodule := h.resolve_left Bool.false_ne_true
      exact absurd (Instance.owns_of_missing hmissing name ▸ hmodule) howns

namespace Purse

/-- A hero with no variables. -/
def hero : Entity where
  id := ⟨"hero"⟩

/-- The two blocks, with the same name and value. -/
def assigns : Node :=
  ⟨"b", .flow .instant "SetVariable" [("target", .text "gold"), ("value", .int 1)]⟩

def sets : Node :=
  ⟨"c", .flow .instant "SetVar" [("name", .text "gold"), ("value", .int 1)]⟩

def graph : Graph where
  id := "purse"
  entry := "a"
  nodes := [⟨"a", .entry⟩, assigns, sets]
  edges := [.flow "a" "out" "b" "in", .flow "b" "out" "c" "in"]

/-- The hero, the director and the default behaviours. -/
def machine : Machine :=
  Machine.withDefaultConditions (Machine.withDefaultActions
    { world :=
        { store := Store.empty.insert hero
          library := .ofList [graph]
          director := some { subscription := some 1 } }
      listeners := [(1, Director.listener)]
      nextSubscription := 2 })

/-- Starts the graph for the hero. -/
def start : Script Unit :=
  .read fun w => .write (w.startGraph ⟨"hero"⟩ 0 []).2 (.done ())

/-- Takes the hero out of the store. -/
def vanish : Script Unit :=
  .read fun w => .write { w with store := w.store.erase ⟨"hero"⟩ } (.done ())

/-- The machine when the graph is started, and when the hero is gone. -/
def started : Machine :=
  { machine with world := (machine.world.startGraph ⟨"hero"⟩ 0 []).2 }

def bereft : Machine :=
  { started with world := { started.world with store := started.world.store.erase ⟨"hero"⟩ } }

/-- The instance that is started. -/
def module : Instance :=
  Instance.ofGraph 1 ⟨"hero"⟩ 0 graph []

def situation : Situation :=
  ⟨⟨"hero"⟩, [], none, none, none⟩

theorem calls_assigns (w : World) : module.Calls w situation graph assigns "SetVariable"
    [("target", .text "gold"), ("value", .int 1)] :=
  ⟨.instant, "SetVariable", _, rfl, rfl, by decide,
    Instance.ports_of_unfed _ rfl _ (by simp [Dict.Unique, Dict.keys])⟩

theorem calls_sets (w : World) : module.Calls w situation graph sets "SetVar"
    [("name", .text "gold"), ("value", .int 1)] :=
  ⟨.instant, "SetVar", _, rfl, rfl, by decide,
    Instance.ports_of_unfed _ rfl _ (by simp [Dict.Unique, Dict.keys])⟩

theorem plays : machine.Plays .modules [] bereft := by
  have hstart : start.run (Service.atDepth 0) machine = some ((), started) := rfl
  have hvanish : vanish.run (Service.atDepth 0) started = some ((), bereft) := rfl
  have hobeys : start.Obeys .modules machine.world :=
    .read (.write (.single (.start _ ⟨"hero"⟩ 0 [])) .done)
  have hobeys' : vanish.Obeys .modules started.world :=
    .read (.write (.single (.other ⟨rfl, rfl, fun _ => rfl, .refl _⟩)) .done)
  exact .script (.script .refl hobeys hstart) hobeys' hvanish

end Purse

/-- By either block the hero has the gold. -/
theorem hero_has_gold_either_way : ∃ m i,
    (Purse.module.runNode Purse.situation 0 Purse.graph Purse.assigns).run (Service.atDepth 1)
      Purse.started = some ((.leave "out", i), m) ∧
    (Purse.module.runNode Purse.situation 0 Purse.graph Purse.sets).run (Service.atDepth 1)
      Purse.started = some ((.leave "out", i), m) ∧
    Dict.get? Purse.started.actions "SetVar" = some Control.setVar ∧
    ((m.world.store.get? ⟨"hero"⟩).bind (·.value? "gold")).isSome = true := by
  have htarget : Params.text? [("target", .text "gold"), ("value", .int 1)] "target" =
      some "gold" := by
    decide
  obtain ⟨i₁, m₁, i₂, m₂, hrun, hrun', hsame, -⟩ :=
    assignments_agree_where_a_home_is (m := Purse.started) rfl rfl (Purse.calls_assigns _)
      (Purse.calls_sets _) htarget rfl (by decide) rfl rfl 0 0
  obtain ⟨rfl, rfl⟩ := hsame (Or.inl rfl)
  refine ⟨m₁, i₁, hrun, hrun', rfl, ?_⟩
  have hassigned := Instance.runNode_setVariable (m := Purse.started) (Purse.calls_assigns _)
    htarget rfl 0 (Service.atDepth 1)
  cases hassigned.symm.trans hrun
  rfl

/-- The two blocks do not do the same in every state of a module that runs. -/
theorem not_always_assigned_alike : ¬ ∀ (m₀ m m₁ m₂ : Machine) (updates : List (List ModuleReport))
    (i i₁ i₂ : Instance) (s : Situation) (g : Graph) (node node' : Node) (p q : Params)
    (name : String) (v : Value) (dt : Float) (depth : Nat),
    m₀.world.NoModulesYet → m₀.Obeys .modules → m₀.Plays .modules updates m →
    i ∈ m.world.pool.instances → i.status = .running → s.entity = i.entity →
    Dict.get? m.actions "SetVar" = some Control.setVar →
    i.Calls m.world s g node "SetVariable" p → i.Calls m.world s g node' "SetVar" q →
    p.text? "target" = some name → p.valueOf "value" = v →
    q.text? "name" = some name → q.valueOf "value" = v → Dict.get? q "operation" = none →
    (i.runNode s dt g node).run (Service.atDepth (depth + 1)) m =
      some ((.leave "out", i₁), m₁) →
    (i.runNode s dt g node').run (Service.atDepth (depth + 1)) m =
      some ((.leave "out", i₂), m₂) →
    m₁.world.store = m₂.world.store ∧ i₁.vars = i₂.vars ∧
      m₁.world.library = m₂.world.library ∧ m₁.world.writes = m₂.world.writes := by
  intro h
  have hobeys : Purse.machine.Obeys .modules :=
    Machine.Standard.obeys_modules (Machine.standard_withDefaults rfl rfl rfl)
  have hassigns := Purse.calls_assigns Purse.bereft.world
  have hsets := Purse.calls_sets Purse.bereft.world
  have hrun := Instance.runNode_setVariable (m := Purse.bereft) hassigns
    (by decide : Params.text? _ "target" = some "gold") rfl 0 (Service.atDepth 1)
  have hrun' := Instance.runNode_setVar (m := Purse.bereft) rfl hsets
    (by decide : Params.text? _ "name" = some "gold") rfl 0 0
  have hvars := (h Purse.machine Purse.bereft _ _ [] Purse.module _ _ Purse.situation Purse.graph
    Purse.assigns Purse.sets _ _ "gold" (.int 1) 0 0 ⟨rfl, rfl, rfl, rfl, rfl, fun _ => rfl⟩ hobeys
    Purse.plays List.mem_cons_self rfl rfl rfl hassigns hsets (by decide) rfl (by decide) rfl rfl
    hrun hrun').2.1
  cases hvars

/-! ## Block and rule -/

namespace Modifier

variable {op : Modifier} {n : Int64} {v : Value}

/-- Null and the integer zero combine alike with whatever is no integer. -/
theorem applyValue_missing (h : (∀ n, v ≠ .int n) ∨ op = .set ∨ op = .div) :
    op.applyValue .null v = op.applyValue (.int 0) v := by
  have hzero : (Value.int 0).numberOrZero = Value.null.numberOrZero := rfl
  rcases h with hv | rfl | rfl
  · cases op <;> cases v <;> simp only [applyValue, applyNumbers, hzero] <;>
      exact absurd rfl (hv _)
  · rfl
  · cases v <;> simp only [applyValue, applyNumbers, hzero]

theorem applyValue_null_int (h : op ≠ .set) :
    op.applyValue .null (.int n) = .float (op.apply 0 (Number.ofInt64 n)) := by
  cases op with
  | set => exact absurd rfl h
  | _ => rfl

theorem applyValue_zero_int (h : op ≠ .set) (h' : op ≠ .div) :
    op.applyValue (.int 0) (.int n) =
      .int (Number.saturate (op.apply 0 (Number.ofInt64 n))) := by
  cases op with
  | set => exact absurd rfl h
  | div => exact absurd rfl h'
  | _ => rfl

end Modifier

/-- The parameters ask for a modification: they have a name, an operation and a value that is no
text, and no other operands. -/
structure Params.Modifies (params : Params) (name : String) (op : Modifier) (v : Value) :
    Prop where
  unique : Dict.Unique params
  named : params.text? "name" = some name
  operation : (params.text? "operation").bind Modifier.ofName? = some op
  value : Dict.get? params "value" = some v
  notText : v.text? = none
  first : Dict.get? params "operand1" = none
  second : Dict.get? params "operand2" = none

namespace Params.Modifies

variable {params : Params} {name : String} {op : Modifier} {v : Value}

/-- The block combines the value with what its lookup finds. -/
theorem modifiedValue (h : params.Modifies name op v) (l : Lookup) :
    Instance.modifiedValue l name params = op.applyValue (l.valueOf name) v := by
  have hoperand : Instance.operandValue l v = v := by
    cases v with
    | text _ => cases h.notText
    | _ => rfl
  simp only [Instance.modifiedValue, h.operation, h.first, h.second, h.value]
  simp [hoperand]

/-- The action combines it with what the entity has. -/
theorem modified (h : params.Modifies name op v) (e : Entity) :
    Control.modified e name params = .ok (op.applyValue ((e.value? name).getD (.int 0)) v) := by
  obtain ⟨opName, htext, hnamed⟩ := Option.bind_eq_some_iff.mp h.operation
  simp only [Control.modified, htext, hnamed, Params.valueOf, h.value, Option.getD_some]

theorem settled (h : params.Modifies name op v) {w : World} {s : Situation} {e : Entity}
    (he : w.store.get? s.entity = some e) :
    Control.settled w s params = w.modifyEntity s.entity
      (·.assign name (op.applyValue ((e.value? name).getD (.int 0)) v)) := by
  simp only [Control.settled, h.named, he, h.modified]

end Params.Modifies

/-- What the module has no variable of, it looks up at its entity. -/
theorem Instance.valueOf_of_no_variable {i : Instance} {w : World} {s : Situation} {e : Entity}
    {name : String} (he : w.store.get? i.entity = some e) (hvariable : IsVariable name)
    (hmodule : i.hasVariable name = false) :
    (i.lookup w s).valueOf name = (e.value? name).getD .null := by
  have hmissing : Dict.get? i.vars name = none := by
    simpa [Instance.hasVariable, Dict.contains] using hmodule
  simp only [Lookup.valueOf, hvariable.notMouse, hvariable.notTime, if_false, Instance.lookup,
    he, Option.bind_some, hmissing]
  cases e.value? name <;> rfl

namespace Entity

/-- What is assigned to a variable that is not there gives it its kind. -/
theorem lookup?_assign_of_missing {e : Entity} {name : String} (h : e.hasVariable name = false)
    (v : Value) : (e.assign name v).lookup? name = some (.ofValue name v) := by
  have hmissing : e.lookup? name = none := by
    simpa [hasVariable] using h
  rw [lookup?_assign_self, assignedTo, hmissing]
  rfl

end Entity

/-- The block `SetVar`, which nothing is fed into, and a rule whose action has the same parameters
do the same to a variable of an entity, unless the variable is not there yet and the rule makes it
one of kind integer: the block makes it one of kind float. -/
theorem modifications_agree_but_for_new_integers {m : Machine} {i : Instance} {s s' : Situation}
    {g : Graph} {node : Node} {mode : FlowMode} {written : String} {params : Params}
    {name : String} {op : Modifier} {v : Value} {e : Entity}
    (hset : Dict.get? m.actions "SetVar" = some Control.setVar) (hentity : s.entity = i.entity)
    (hentity' : s'.entity = i.entity) (he : m.world.store.get? i.entity = some e)
    (hkind : node.kind = .flow mode written params) (hmode : mode.effective written = .instant)
    (hblock : Text.trim written = "SetVar") (hunfed : g.fedPorts node.id = [])
    (hparams : params.Modifies name op v) (hvariable : IsVariable name)
    (hmodule : i.hasVariable name = false) (dt : Float) (depth : Nat) :
    ∃ m₁ m₂,
      (i.runNode s dt g node).run (Service.atDepth (depth + 1)) m =
        some ((.leave "out", i), m₁) ∧
      (Script.act "SetVar" s' params).run (Service.atDepth (depth + 1)) m = some ((), m₂) ∧
      (e.hasVariable name = true ∨ (∀ n, v ≠ .int n) ∨ op = .set ∨ op = .div → m₁ = m₂) ∧
      ∀ n, v = .int n → op ≠ .set → op ≠ .div → e.hasVariable name = false →
        let x := op.apply 0 (Number.ofInt64 n)
        (m₁.world.store.get? i.entity).bind (·.lookup? name) = some ⟨name, .float x, .float⟩ ∧
        (m₂.world.store.get? i.entity).bind (·.lookup? name) =
          some ⟨name, .int (Number.saturate x), .int⟩ := by
  have hcalls : i.Calls m.world s g node "SetVar" params :=
    ⟨mode, written, params, hkind, hmode, hblock, Instance.ports_of_unfed _ hunfed _ hparams.unique⟩
  have howns : ¬ i.owns m.world name = true := by
    rw [Instance.owns, hmodule, Bool.and_false]
    exact Bool.false_ne_true
  -- The block gives the action the value that it has worked out, the rule leaves that to it.
  have hrun := Instance.runNode_setVar hset hcalls hparams.named (hparams.modifiedValue _) dt depth
  rw [if_neg howns, Control.settled_plainAssignment _ _ hparams.named
    (Dict.get?_erase_self hparams.unique _), hentity,
    Instance.valueOf_of_no_variable he hvariable hmodule] at hrun
  have hrun' := Control.act_setVar hset depth s' params
  rw [hparams.settled (hentity' ▸ he), hentity'] at hrun'
  refine ⟨_, _, hrun, hrun', fun h => ?_, ?_⟩
  · rcases h with hhas | hsame
    · obtain ⟨x, hx⟩ := Option.isSome_iff_exists.mp hhas
      simp only [Entity.value?, hx, Option.map_some, Option.getD_some]
    · cases e.value? name with
      | none => simp only [Option.getD_none, Modifier.applyValue_missing hsame]
      | some _ => rfl
  · rintro n rfl hset hdiv hmissing x
    have hnone : e.value? name = none := by
      simpa [Entity.value?, Entity.hasVariable] using hmissing
    simp only [World.store_get?_modifyEntity, if_true, he, hnone, Option.map_some,
      Option.bind_some, Option.getD_none, Entity.lookup?_assign_of_missing hmissing,
      Modifier.applyValue_null_int hset, Modifier.applyValue_zero_int hset hdiv]
    exact ⟨rfl, rfl⟩

namespace Purse

/-- Adds to a variable. -/
def earns (v : Value) : Node :=
  ⟨"b", .flow .instant "SetVar"
    [("name", .text "gold"), ("operation", .text "Add"), ("value", v)]⟩

def earning (v : Value) : Graph where
  id := "earning"
  entry := "a"
  nodes := [⟨"a", .entry⟩, earns v]
  edges := [.flow "a" "out" "b" "in"]

theorem modifies {v : Value} (hv : v.text? = none) :
    Params.Modifies [("name", .text "gold"), ("operation", .text "Add"), ("value", v)] "gold" .add
      v where
  unique := by simp [Dict.Unique, Dict.keys]
  named := (by decide : (some (Text.trim "gold")).filter (fun s => !s.isEmpty) = some "gold")
  operation := (by decide : ((some (Text.trim "Add")).filter fun s => !s.isEmpty).bind
    Modifier.ofName? = some .add)
  value := rfl
  notText := hv
  first := rfl
  second := rfl

theorem gold_isVariable : IsVariable "gold" :=
  ⟨by decide, by decide⟩

end Purse

/-- Half a piece is the same gold by the block and by the rule. -/
theorem hero_earns_either_way : ∃ m,
    (Purse.module.runNode Purse.situation 0 (Purse.earning (.float 0.5))
      (Purse.earns (.float 0.5))).run (Service.atDepth 1) Purse.started =
        some ((.leave "out", Purse.module), m) ∧
    (Script.act "SetVar" Purse.situation
      [("name", .text "gold"), ("operation", .text "Add"), ("value", .float 0.5)]).run
        (Service.atDepth 1) Purse.started = some ((), m) := by
  have hentity : Purse.situation.entity = Purse.module.entity := rfl
  have hkind : (Purse.earns (.float 0.5)).kind = .flow .instant "SetVar" _ := rfl
  obtain ⟨m₁, m₂, hrun, hrun', hsame, -⟩ :=
    modifications_agree_but_for_new_integers (m := Purse.started)
      (g := Purse.earning (.float 0.5)) rfl hentity hentity rfl hkind rfl (by decide) rfl
      (Purse.modifies rfl) Purse.gold_isVariable rfl 0 0
  cases hsame (Or.inr (Or.inl nofun))
  exact ⟨m₁, hrun, hrun'⟩

/-- A modification does not always leave the same by the block and by the rule. -/
theorem not_always_modified_alike : ¬ ∀ (m m₁ m₂ : Machine) (i i' : Instance) (s s' : Situation)
    (g : Graph) (node : Node) (mode : FlowMode) (written : String) (params : Params)
    (name : String) (op : Modifier) (v : Value) (dt : Float) (depth : Nat),
    Dict.get? m.actions "SetVar" = some Control.setVar → s.entity = i.entity →
    s'.entity = i.entity → m.world.store.contains i.entity = true →
    node.kind = .flow mode written params → mode.effective written = .instant →
    Text.trim written = "SetVar" → g.fedPorts node.id = [] → params.Modifies name op v →
    IsVariable name → i.hasVariable name = false →
    (i.runNode s dt g node).run (Service.atDepth (depth + 1)) m =
      some ((.leave "out", i'), m₁) →
    (Script.act "SetVar" s' params).run (Service.atDepth (depth + 1)) m = some ((), m₂) →
    m₁.world.store = m₂.world.store := by
  intro h
  let v : Value := .int 5
  have hparams : Params.Modifies _ "gold" .add v := Purse.modifies rfl
  have hcalls : Purse.module.Calls Purse.started.world Purse.situation (Purse.earning v)
      (Purse.earns v) "SetVar" _ :=
    ⟨.instant, "SetVar", _, rfl, rfl, by decide,
      Instance.ports_of_unfed _ rfl _ hparams.unique⟩
  have hrun := Instance.runNode_setVar (m := Purse.started) rfl hcalls hparams.named rfl 0 0
  have hrun' := Control.act_setVar (m := Purse.started) rfl 0 Purse.situation
    [("name", .text "gold"), ("operation", .text "Add"), ("value", v)]
  have hstore := h _ _ _ Purse.module _ Purse.situation Purse.situation (Purse.earning v)
    (Purse.earns v) _ _ _ "gold" .add v 0 0 rfl rfl rfl rfl rfl rfl (by decide) rfl hparams
    Purse.gold_isVariable rfl hrun hrun'
  -- The block makes the gold a number of kind float, the rule one of kind integer.
  have hkind := congrArg
    (fun store => ((store.get? ⟨"hero"⟩).bind (·.lookup? "gold")).map (·.kind)) hstore
  have hdiffer : some Kind.float = some Kind.int := hkind
  cases hdiffer

end SceneLogic
