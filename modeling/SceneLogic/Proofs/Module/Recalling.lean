import SceneLogic.Proofs.Module.Assigning
import SceneLogic.Proofs.Module.Seeding
import SceneLogic.Proofs.Variables

/-!
# Reading what was assigned

The block `SetVariable` and a lookup each work out for themselves which of two variables of a name
is meant, the one of the entity or the one of the module. They come to the same: what the block has
written is what the lookup finds.

* `World.Assigned` — a variable of an entity is written, and nothing else
* `Instance.Took` — a variable of the module is written, and nothing else
* `assignment_is_read_back` — the block does one of the two, and the lookup finds the value

The block drops the blanks around the name that it is given and a lookup does not, so the name that
is found is the one without them: `not_always_read_back`.
-/

namespace SceneLogic

/-! ## Variables of an entity -/

/-- A value was assigned to a variable of an entity of the store, and nothing else was done. -/
structure World.Assigned (id : EntityId) (name : String) (v : Value) (w w' : World) : Prop where
  ids : w'.store.ids = w.store.ids
  others : ∀ id' ≠ id, w'.store.get? id' = w.store.get? id'
  vars : ∃ e vars, w.store.get? id = some e ∧ w'.store.get? id = some { e with vars } ∧
    SceneLogic.Assigned name v e.vars vars
  rest : w' = { w with store := w'.store }

/-- An entity of the store has the value under the name. -/
theorem World.assigned_modifyEntity {w : World} {id : EntityId} {e : Entity}
    (he : w.store.get? id = some e) (name : String) (v : Value) :
    w.Assigned id name v (w.modifyEntity id (·.assign name v)) where
  ids := Dict.keys_modify w.store.entries id _
  others := fun id' hid => by rw [store_get?_modifyEntity, if_neg hid.symm]
  vars := by
    refine ⟨e, (e.assign name v).vars, he, ?_, e.assigned_assign name v⟩
    rw [store_get?_modifyEntity, if_pos rfl, he]
    rfl
  rest := rfl

/-! ## Variables of a module -/

/-- A value was assigned to a variable of the instance, which made it a default of the graph and
was told, and nothing else was done. -/
structure Instance.Took (name : String) (v : Value) (i i' : Instance) (w w' : World) : Prop where
  value : Dict.get? i'.vars name = some v
  others : ∀ name' ≠ name, Dict.get? i'.vars name' = Dict.get? i.vars name'
  rest : i' = { i with vars := i'.vars }
  outside : w.SameOutside i.id i.graph w'
  pool : w'.pool = w.pool
  defaults : ∀ name' ≠ name, (w'.library.read i.graph).declarations name' =
    (w.library.read i.graph).declarations name'
  writes : w'.writes = ⟨i.id, i.entity, i.graph, name, v⟩ :: w.writes

namespace Instance

theorem took_withValue (i : Instance) (w : World) (name : String) (v : Value) :
    i.Took name v (i.withValue name v) w (w.publishWrite i.id i.entity i.graph name v) where
  value := Dict.get?_insert_self _ _ _
  others := fun name' hname => Dict.get?_insert_of_ne _ _ hname.symm
  rest := rfl
  outside := w.sameOutside_publishWrite i.id i.entity i.graph name v (.refl i.id w.pool)
  pool := rfl
  defaults := fun name' hname => by
    rw [World.read_publishWrite, if_pos rfl]
    exact Dict.filter_modify_of_ne _ _ hname.symm
  writes := rfl

/-! ## Lookups -/

variable {i : Instance} {w : World} {name : String}

/-- A variable of the entity is what a lookup finds. -/
theorem valueOf_of_entity (s : Situation) (hname : IsVariable name) {x : Variable}
    (hx : (w.store.get? i.entity).bind (·.lookup? name) = some x) :
    (i.lookup w s).valueOf name = x.value := by
  obtain ⟨e, he, hlookup⟩ := Option.bind_eq_some_iff.mp hx
  simp only [Lookup.valueOf, hname.notMouse, hname.notTime, if_false, lookup, he,
    Option.bind_some, Entity.value?, hlookup, Option.map_some]

/-- A variable of the module is found where the entity has none. -/
theorem valueOf_of_module (s : Situation) (hname : IsVariable name) {v : Value}
    (hentity : (w.store.get? i.entity).bind (·.lookup? name) = none)
    (hv : Dict.get? i.vars name = some v) : (i.lookup w s).valueOf name = v := by
  have hvalue : (w.store.get? i.entity).bind (·.value? name) = none := by
    cases he : w.store.get? i.entity with
    | none => rfl
    | some e =>
      rw [he, Option.bind_some] at hentity
      rw [Option.bind_some, Entity.value?, hentity, Option.map_none]
  simp only [Lookup.valueOf, hname.notMouse, hname.notTime, if_false, lookup, hvalue,
    Option.bind_some, hv, Option.getD_some]

end Instance

/-! ## The block -/

theorem Params.text?_of_trimmed {params : Params} {key written : String}
    (h : Dict.get? params key = some (.text written)) (hne : Text.trim written ≠ "") :
    params.text? key = some (Text.trim written) := by
  simp [text?, h, Value.text?, hne]

namespace Instance

variable {i : Instance} {m : Machine} {s : Situation} {g : Graph} {node : Node} {name : String}
  {inputs : Params} {v : Value}

theorem owns_of_get? {w : World} {e : Entity} (he : w.store.get? i.entity = some e)
    (name : String) : i.owns w name = (!e.hasVariable name && i.hasVariable name) := by
  rw [owns, entityHas, he]
  rfl

/-- The entity has the variable, or the module has none of the name. -/
theorem runNode_setVariable_entity {e : Entity}
    (hcalls : i.Calls m.world s g node "SetVariable" inputs)
    (hname : inputs.text? "target" = some name) (hvalue : inputs.valueOf "value" = v)
    (he : m.world.store.get? i.entity = some e)
    (hentity : e.hasVariable name = true ∨ i.hasVariable name = false) (dt : Float)
    (service : Service) :
    (i.runNode s dt g node).run service m = some ((.leave "out", i),
      { m with world := m.world.modifyEntity i.entity (·.assign name v) }) := by
  have howns : i.owns m.world name = false := by
    rw [owns_of_get? he]
    rcases hentity with h | h <;> simp [h]
  have hstored : m.world.store.contains i.entity = true :=
    Option.isSome_iff_exists.mpr ⟨e, he⟩
  rw [runNode_setVariable hcalls hname hvalue, if_neg]
  simp [howns, hstored]

/-- The module has the variable and the entity has none of the name, or is not there. -/
theorem runNode_setVariable_module (hcalls : i.Calls m.world s g node "SetVariable" inputs)
    (hname : inputs.text? "target" = some name) (hvalue : inputs.valueOf "value" = v)
    (hmodule : ∀ e, m.world.store.get? i.entity = some e →
      e.hasVariable name = false ∧ i.hasVariable name = true) (dt : Float) (service : Service) :
    (i.runNode s dt g node).run service m = some ((.leave "out", i.withValue name v),
      { m with world := m.world.publishWrite i.id i.entity i.graph name v }) := by
  rw [runNode_setVariable hcalls hname hvalue, if_pos]
  cases he : m.world.store.get? i.entity with
  | none =>
    refine .inr ?_
    rw [Store.contains, Dict.contains, Option.isSome_eq_false_iff, Option.isNone_iff_eq_none]
    exact he
  | some e =>
    obtain ⟨hentity, hown⟩ := hmodule e he
    refine .inl ?_
    rw [owns_of_get? he, hentity, hown]
    rfl

end Instance

/-- What `SetVariable` assigns is read back, and only the one variable is written: the one of the
entity, which is in the store and has it or else the module has none of the name, or otherwise the
one of the module. The value that is read back is brought to the kind of the entity's variable, if
it is one of the entity. -/
theorem assignment_is_read_back {m : Machine} {i : Instance} {s : Situation} {g : Graph}
    {node : Node} {inputs : Params} {written name : String} {v : Value}
    (hcalls : i.Calls m.world s g node "SetVariable" inputs)
    (htarget : Dict.get? inputs "target" = some (.text written))
    (hvalue : inputs.valueOf "value" = v) (htrim : Text.trim written = name) (hname : name ≠ "")
    (hvariable : IsVariable name) (dt : Float) (service : Service) :
    ∃ i' m', (i.runNode s dt g node).run service m = some ((.leave "out", i'), m') ∧
      m' = { m with world := m'.world } ∧
      (∀ e, m.world.store.get? i.entity = some e →
        e.hasVariable name = true ∨ i.hasVariable name = false →
        i' = i ∧ m.world.Assigned i.entity name v m'.world ∧
          ∀ s', (i'.lookup m'.world s').valueOf name = (e.assignedTo name v).value) ∧
      ((∀ e, m.world.store.get? i.entity = some e →
          e.hasVariable name = false ∧ i.hasVariable name = true) →
        i.Took name v i' m.world m'.world ∧
          ∀ s', (i'.lookup m'.world s').valueOf name = v) := by
  have htext : inputs.text? "target" = some name := by
    subst htrim
    exact Params.text?_of_trimmed htarget hname
  by_cases h : ∃ e, m.world.store.get? i.entity = some e ∧
      (e.hasVariable name = true ∨ i.hasVariable name = false)
  · obtain ⟨e, he, hentity⟩ := h
    have hrun := Instance.runNode_setVariable_entity hcalls htext hvalue he hentity dt service
    refine ⟨_, _, hrun, rfl, fun e' he' _ => ?_, fun hmodule => ?_⟩
    · cases he.symm.trans he'
      refine ⟨rfl, World.assigned_modifyEntity he name v, fun s' => ?_⟩
      refine Instance.valueOf_of_entity s' hvariable ?_
      rw [World.store_get?_modifyEntity, if_pos rfl, he]
      exact e.lookup?_assign_self name v
    · obtain ⟨hnone, hown⟩ := hmodule e he
      simp [hnone, hown] at hentity
  · have hmodule : ∀ e, m.world.store.get? i.entity = some e →
        e.hasVariable name = false ∧ i.hasVariable name = true := fun e he => by
      simpa using fun hentity => h ⟨e, he, hentity⟩
    refine ⟨_, _, Instance.runNode_setVariable_module hcalls htext hvalue hmodule dt service, rfl,
      fun e he hentity => absurd ⟨e, he, hentity⟩ h, fun _ => ?_⟩
    refine ⟨i.took_withValue m.world name v, fun s' => ?_⟩
    refine Instance.valueOf_of_module s' hvariable ?_ (Dict.get?_insert_self _ _ _)
    rw [Option.bind_eq_none_iff]
    intro e he
    simpa [Entity.hasVariable] using (hmodule e he).1

namespace Purse

/-- Assigns to a name that is given with blanks around it. -/
def pads : Node :=
  ⟨"b", .flow .instant "SetVariable" [("target", .text " gold "), ("value", .int 1)]⟩

def padding : Graph where
  id := "padding"
  entry := "a"
  nodes := [⟨"a", .entry⟩, pads]
  edges := [.flow "a" "out" "b" "in"]

theorem calls_pads (w : World) : module.Calls w situation padding pads "SetVariable"
    [("target", .text " gold "), ("value", .int 1)] :=
  ⟨.instant, "SetVariable", _, rfl, rfl, by decide,
    Instance.ports_of_unfed _ rfl _ (by simp [Dict.Unique, Dict.keys])⟩

end Purse

/-- The gold is found where it was put: at the hero, and in the module when the hero is gone. -/
theorem hero_finds_the_gold :
    (∃ m, (Purse.module.runNode Purse.situation 0 Purse.graph Purse.assigns).run
        (Service.atDepth 0) Purse.started = some ((.leave "out", Purse.module), m) ∧
      (Purse.module.lookup m.world Purse.situation).valueOf "gold" = .int 1) ∧
    ∃ i m, (Purse.module.runNode Purse.situation 0 Purse.graph Purse.assigns).run
        (Service.atDepth 0) Purse.bereft = some ((.leave "out", i), m) ∧
      (i.lookup m.world Purse.situation).valueOf "gold" = .int 1 := by
  constructor
  · obtain ⟨i, m, hrun, -, hentity, -⟩ :=
      assignment_is_read_back (m := Purse.started) (Purse.calls_assigns _) rfl rfl
        (by decide : Text.trim "gold" = "gold") (by decide) Purse.gold_isVariable 0
        (Service.atDepth 0)
    obtain ⟨rfl, -, hvalue⟩ := hentity Purse.hero rfl (.inr rfl)
    exact ⟨m, hrun, hvalue Purse.situation⟩
  · obtain ⟨i, m, hrun, -, -, hmodule⟩ :=
      assignment_is_read_back (m := Purse.bereft) (Purse.calls_assigns _) rfl rfl
        (by decide : Text.trim "gold" = "gold") (by decide) Purse.gold_isVariable 0
        (Service.atDepth 0)
    obtain ⟨-, hvalue⟩ := hmodule fun _ he => nomatch he
    exact ⟨i, m, hrun, hvalue Purse.situation⟩

/-- The name that is given to the block need not be the one that finds the value. -/
theorem not_always_read_back : ¬ ∀ (m m' : Machine) (i i' : Instance) (s : Situation) (g : Graph)
    (node : Node) (inputs : Params) (name : String) (v : Value) (e : Entity) (dt : Float)
    (service : Service),
    i.status = .running → i.Calls m.world s g node "SetVariable" inputs →
    Dict.get? inputs "target" = some (.text name) → inputs.valueOf "value" = v →
    Text.trim name ≠ "" → IsVariable name →
    (i.runNode s dt g node).run service m = some ((.leave "out", i'), m') →
    m.world.store.get? i.entity = some e →
    e.hasVariable name = true ∨ i.hasVariable name = false →
    (i'.lookup m'.world s).valueOf name = (e.assignedTo name v).value := by
  intro h
  have hcalls := Purse.calls_pads Purse.started.world
  have hrun := Instance.runNode_setVariable_entity (m := Purse.started) hcalls
    (by decide : _ = some "gold") rfl (e := Purse.hero) rfl (.inr rfl) 0 (Service.atDepth 0)
  have hvalue := h _ _ _ _ _ _ _ _ " gold " (.int 1) Purse.hero 0 _ rfl hcalls rfl rfl (by decide)
    ⟨by decide, by decide⟩ hrun rfl (.inr rfl)
  cases hvalue

end SceneLogic
