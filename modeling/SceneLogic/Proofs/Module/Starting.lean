import SceneLogic.Proofs.Module.Seeding

/-!
# What an instance starts with

A new instance has a variable for each name that its graph declares and for each override. Where
the value of a name comes from is a matter of rank: an override comes first, then a variable of the
entity, then the default of the last declaration. The entity lends its variables to declared names
only.

* `Seeded` — the variables that a graph, overrides and an entity give
* `starts_are_seeded` — a start gives these, and touches neither entities nor graphs
-/

namespace SceneLogic

/-- The variables that an instance of a graph starts with. -/
structure Seeded (g : Graph) (overrides : Params) (entity : Option Entity) (vars : Params) :
    Prop where
  /-- The declared names come first, each in the place of its first declaration, and then the
  overrides of other names. -/
  names : Dict.keys vars = (Dict.keys g.vars).eraseDups ++
    (Dict.keys overrides).filter fun name => !g.declares name
  overridden : ∀ name v, Dict.get? overrides name = some v → Dict.get? vars name = some v
  lent : ∀ name v, g.declares name = true → Dict.get? overrides name = none →
    entity.bind (·.value? name) = some v → Dict.get? vars name = some v
  /-- The last declaration of a name gives its default. -/
  defaulted : ∀ before name v after, g.vars = before ++ (name, v) :: after →
    name ∉ Dict.keys after → Dict.get? overrides name = none →
    entity.bind (·.value? name) = none → Dict.get? vars name = some v
  absent : ∀ name, g.declares name = false → Dict.get? overrides name = none →
    Dict.get? vars name = none

namespace Graph

variable {g : Graph} {name : String}

theorem declares_eq_decide (g : Graph) (name : String) :
    g.declares name = decide (name ∈ Dict.keys g.vars) := by
  rw [Bool.eq_iff_iff, decide_eq_true_iff]
  simp [declares, Dict.keys]

theorem declares_eq_isSome (g : Graph) (name : String) :
    g.declares name = (Dict.get? g.defaults name).isSome := by
  rw [declares_eq_decide, Bool.eq_iff_iff, decide_eq_true_iff, Option.isSome_iff_ne_none, Ne,
    Dict.get?_eq_none_iff, not_not, defaults, Dict.keys_ofList, List.mem_eraseDups]

/-- The last declaration of a name gives its default. -/
theorem get?_defaults_of_last {before after : List (String × Value)} {v : Value}
    (h : g.vars = before ++ (name, v) :: after) (hafter : name ∉ Dict.keys after) :
    Dict.get? g.defaults name = some v := by
  have hnone : after.filter (fun d => d.1 = name) = [] := by
    refine List.filter_eq_nil_iff.mpr fun d hd hname => hafter ?_
    exact List.mem_map.mpr ⟨d, hd, of_decide_eq_true hname⟩
  rw [get?_defaults, declarations, h, List.filter_append, List.filter_cons_of_pos (by simp), hnone]
  simp

end Graph

theorem keys_startingVars (g : Graph) {overrides : Params} (hunique : Dict.Unique overrides)
    (entity : Option Entity) : Dict.keys (startingVars g.defaults overrides entity) =
      (Dict.keys g.vars).eraseDups ++
        (Dict.keys overrides).filter fun name => !g.declares name := by
  have hdeclared : Dict.keys g.defaults = (Dict.keys g.vars).eraseDups := Dict.keys_ofList g.vars
  have hothers : (Dict.keys overrides).filter (fun name => name ∉ (Dict.keys g.vars).eraseDups) =
      (Dict.keys overrides).filter fun name => !g.declares name :=
    List.filter_congr fun name _ => by simp [Graph.declares_eq_decide]
  unfold startingVars
  dsimp only
  rw [Dict.foldl_gains Dict.keys _ Prod.fst fun d e => Dict.keys_insertMissing d e.1 e.2,
    Dict.keys_map g.defaults, hdeclared, ← hothers]
  · exact congrArg _ (Dict.eraseDups_of_nodup (hunique.filter _))
  · exact fun _ => rfl

theorem seeded_startingVars (g : Graph) {overrides : Params} (hunique : Dict.Unique overrides)
    (entity : Option Entity) :
    Seeded g overrides entity (startingVars g.defaults overrides entity) where
  names := keys_startingVars g hunique entity
  overridden := fun name v hv => by
    rw [get?_startingVars, hv]
    cases Dict.get? g.defaults name <;> rfl
  lent := fun name v hdeclared hnone hv => by
    rw [Graph.declares_eq_isSome] at hdeclared
    obtain ⟨default, hdefault⟩ := Option.isSome_iff_exists.mp hdeclared
    rw [get?_startingVars, hnone, hv, hdefault]
    rfl
  defaulted := fun before name v after hvars hafter hnone hentity => by
    rw [get?_startingVars, hnone, hentity, Graph.get?_defaults_of_last hvars hafter]
    rfl
  absent := fun name hdeclared hnone => by
    rw [Graph.declares_eq_isSome, Option.isSome_eq_false_iff, Option.isNone_iff_eq_none]
      at hdeclared
    rw [get?_startingVars, hnone, hdeclared]
    rfl

/-- A graph with an entry starts. The new instance has the variables that the graph, the overrides
and the entity give, if there is one; no entity changes, and no graph. -/
theorem starts_are_seeded {w : World} {cell : GraphRef}
    (hentry : (w.library.read cell).entryNode? ≠ none) (entity : EntityId) {overrides : Params}
    (hunique : Dict.Unique overrides) :
    ∃ (i : Instance) (w' : World), w.startGraph entity cell overrides = (.ok i.id, w') ∧
      w'.pool.known.Perm (i :: w.pool.known) ∧ i.entity = entity ∧ i.graph = cell ∧
      Seeded (w.library.read cell) overrides (w.store.get? entity) i.vars ∧
      w'.store = w.store ∧ w'.library = w.library := by
  obtain ⟨i, w', hstart, hknown, hentity, hgraph, hvars, hstore, hlibrary⟩ :=
    World.startGraph_of_entry hentry entity overrides
  refine ⟨i, w', hstart, hknown, hentity, hgraph, ?_, hstore, hlibrary⟩
  rw [hvars]
  exact seeded_startingVars _ hunique _

namespace Outset

/-- A graph that declares its speed twice. -/
def quest : Graph where
  id := "quest"
  entry := "a"
  nodes := [⟨"a", .entry⟩]
  vars := [("speed", .int 1), ("gold", .int 2), ("name", .text "nobody"), ("speed", .int 3)]

/-- A hero with gold and silver of his own. -/
def world : World :=
  { store := Store.empty.insert
      { id := ⟨"hero"⟩, vars := [.ofValue "gold" (.int 7), .ofValue "silver" (.int 8)] }
    library := Library.ofList [quest] }

def overrides : Params :=
  [("torch", .bool true), ("name", .text "Ann")]

end Outset

/-- The hero sets out with his own gold, but without his silver. -/
theorem hero_sets_out : ∃ (i : Instance) (w : World),
    Outset.world.startGraph ⟨"hero"⟩ 0 Outset.overrides = (.ok i.id, w) ∧
      Dict.keys i.vars = ["speed", "gold", "name", "torch"] ∧
      Dict.get? i.vars "speed" = some (.int 3) ∧ Dict.get? i.vars "gold" = some (.int 7) ∧
      Dict.get? i.vars "name" = some (.text "Ann") ∧ Dict.get? i.vars "silver" = none := by
  have hentry : (Outset.world.library.read 0).entryNode? ≠ none := Option.some_ne_none _
  have hunique : Dict.Unique Outset.overrides := by
    simp [Dict.Unique, Dict.keys, Outset.overrides]
  obtain ⟨i, w, hstart, -, -, -, hseeded, -⟩ := starts_are_seeded hentry ⟨"hero"⟩ hunique
  refine ⟨i, w, hstart, hseeded.names.trans (by decide), ?_, ?_, ?_, ?_⟩
  · exact hseeded.defaulted (Outset.quest.vars.take 3) "speed" _ [] rfl (by decide) rfl rfl
  · exact hseeded.lent "gold" _ rfl rfl rfl
  · exact hseeded.overridden "name" _ rfl
  · exact hseeded.absent "silver" rfl rfl

end SceneLogic
