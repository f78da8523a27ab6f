import SceneLogic.Proofs.Module.Outside
import SceneLogic.Proofs.Module.Writing

/-!
# The variables that an instance starts with

A graph may declare a name more than once. The last declaration gives the default of the name,
while a write to the variable changes the first one. So what was written becomes the default just
in case the name is declared once: `Graph.get?_defaults_setDefault`.

An instance starts with the default of a name unless there is an override or its entity has a
variable of the name: `get?_startingVars`.
-/

namespace SceneLogic

/-! ## Defaults -/

namespace Graph

/-- The default of a name is the one of its last declaration. -/
theorem get?_defaults (g : Graph) (name : String) :
    Dict.get? g.defaults name = (g.declarations name).getLast?.map (·.2) :=
  Dict.get?_ofList g.vars name

theorem get?_defaults_of_declarations {g g' : Graph} {name : String}
    (h : g'.declarations name = g.declarations name) :
    Dict.get? g'.defaults name = Dict.get? g.defaults name := by
  rw [get?_defaults, get?_defaults, h]

/-- A write becomes the default of its name if that is declared once; there is no other change. -/
theorem get?_defaults_setDefault (g : Graph) (written : String) (v : Value) (name : String) :
    Dict.get? (g.setDefault written v).defaults name =
      if name = written ∧ (g.declarations written).length = 1 then some v
      else Dict.get? g.defaults name := by
  by_cases hname : name = written
  · subst hname
    have hdeclarations : (g.setDefault name v).declarations name =
        (g.declarations name).modifyHead fun d => (d.1, v) := Dict.filter_modify_self _ _ _
    rw [get?_defaults, get?_defaults, hdeclarations]
    -- The first declaration is the last one only if there are no more.
    match g.declarations name with
    | [] => simp
    | [d] => simp
    | d :: d' :: rest => simp
  · rw [if_neg fun h => hname h.1]
    exact get?_defaults_of_declarations (Dict.filter_modify_of_ne _ _ (Ne.symm hname))

end Graph

/-! ## Starts -/

/-- A declared name has the override, else what the entity has, else the default; any other name has
the override. -/
theorem get?_startingVars (defaults overrides : Params) (entity : Option Entity) (name : String) :
    Dict.get? (startingVars defaults overrides entity) name =
      (((Dict.get? defaults name).map fun default =>
        (Dict.get? overrides name <|> entity.bind (·.value? name)).getD default) <|>
        Dict.get? overrides name) := by
  unfold startingVars
  dsimp only
  rw [Dict.get?_foldl_insertMissing]
  refine congrArg (· <|> _) ?_
  exact Dict.get?_mapValues defaults (fun name default =>
    (Dict.get? overrides name <|> entity.bind (·.value? name)).getD default) name

namespace World

/-- A graph with an entry starts. There is one instance more; no entity changes, and no graph. -/
theorem startGraph_of_entry {w : World} {cell : GraphRef}
    (hentry : (w.library.read cell).entryNode? ≠ none) (entity : EntityId) (overrides : Params) :
    ∃ (i : Instance) (w' : World), w.startGraph entity cell overrides = (.ok i.id, w') ∧
      w'.pool.known.Perm (i :: w.pool.known) ∧ i.entity = entity ∧ i.graph = cell ∧
      i.vars = startingVars (w.library.read cell).defaults overrides (w.store.get? entity) ∧
      w'.store = w.store ∧ w'.library = w.library := by
  obtain ⟨node, hnode⟩ := Option.ne_none_iff_exists'.mp hentry
  unfold startGraph
  dsimp only
  rw [hnode]
  exact ⟨_, _, rfl, w.pool.known_add _, rfl, rfl, rfl, rfl, rfl⟩

/-- A graph with an entry starts, and the new instance has the default of a name that nothing else
gives. -/
theorem startGraph_seeds {w : World} {cell : GraphRef} {entity : EntityId} {overrides : Params}
    {name : String} (hentry : (w.library.read cell).entryNode? ≠ none)
    (hoverride : Dict.get? overrides name = none)
    (hentity : (w.store.get? entity).bind (·.value? name) = none) :
    ∃ j : Instance, (w.startGraph entity cell overrides).1 = .ok j.id ∧
      j ∈ (w.startGraph entity cell overrides).2.pool.known ∧ j.entity = entity ∧ j.graph = cell ∧
      Dict.get? j.vars name = Dict.get? (w.library.read cell).defaults name := by
  obtain ⟨j, w', hstart, hknown, hjentity, hjgraph, hvars, -⟩ :=
    startGraph_of_entry hentry entity overrides
  rw [hstart]
  refine ⟨j, rfl, hknown.mem_iff.mpr List.mem_cons_self, hjentity, hjgraph, ?_⟩
  rw [hvars, get?_startingVars, hoverride, hentity]
  simp

end World

end SceneLogic
