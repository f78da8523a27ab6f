import SceneLogic.Module.Lookup
import SceneLogic.Proofs.Dict

/-!
# What comes in at the ports of a node

A port of a node has its value from one of two sides, a value edge that leads into it or the
parameter of its name. Of several edges the first one decides, and if that does not start at a value
node it is as if there were none. Nothing gets lost on the way: each parameter has a port, and so
has each name that an edge leads to.

* `Graph.Feeds` — a source feeds a port
* `Lookup.Resolves` — the value that a port has
* `ports_are_complete` — which ports there are, and their values
-/

namespace SceneLogic

/-! ## Edges into a port -/

/-- The edge leads a value into the port of the node. -/
def Edge.LeadsInto (node : NodeId) (port : String) : Edge → Prop
  | .value _ target p => target = node ∧ p = port
  | .flow .. => False

namespace Edge

variable {node id : NodeId} {port : String} {e : Edge}

theorem feeder?_eq_some_iff : e.feeder? node port = some id ↔ e = .value id node port := by
  cases e with
  | flow source exit target entry => simp [feeder?]
  | value source target p => simp [feeder?, and_comm]

theorem feeder?_eq_none_iff : e.feeder? node port = none ↔ ¬ e.LeadsInto node port := by
  cases e with
  | flow source exit target entry => simp [feeder?, LeadsInto]
  | value source target p => simp [feeder?, LeadsInto]

end Edge

theorem Node.source?_eq_some_iff {n : Node} {s : Source} :
    n.source? = some s ↔ n.kind = .value s := by
  unfold source?
  cases n.kind <;> simp

namespace Graph

variable {g : Graph} {node id : NodeId} {port : String} {s : Source}

/-- The first value edge into the port starts at the node of the id. -/
def FirstInto (g : Graph) (node : NodeId) (port : String) (id : NodeId) : Prop :=
  ∃ before after, g.edges = before ++ .value id node port :: after ∧
    ∀ e ∈ before, ¬ e.LeadsInto node port

/-- The first node of the id is a value node with the source. -/
def Supplies (g : Graph) (id : NodeId) (s : Source) : Prop :=
  ∃ before after, g.nodes = before ++ ⟨id, .value s⟩ :: after ∧ ∀ n ∈ before, n.id ≠ id

/-- The source feeds the port. -/
def Feeds (g : Graph) (node : NodeId) (port : String) (s : Source) : Prop :=
  ∃ id, g.FirstInto node port id ∧ g.Supplies id s

theorem findSome?_feeder?_eq_some_iff :
    g.edges.findSome? (Edge.feeder? node port) = some id ↔ g.FirstInto node port id := by
  simp only [List.findSome?_eq_some_iff, Edge.feeder?_eq_some_iff, Edge.feeder?_eq_none_iff]
  constructor
  · rintro ⟨before, e, after, hedges, rfl, hbefore⟩
    exact ⟨before, after, hedges, hbefore⟩
  · rintro ⟨before, after, hedges, hbefore⟩
    exact ⟨before, _, after, hedges, rfl, hbefore⟩

theorem bind_source?_eq_some_iff :
    (g.find? id).bind Node.source? = some s ↔ g.Supplies id s := by
  simp only [Option.bind_eq_some_iff, find?, List.find?_eq_some_iff_append,
    Node.source?_eq_some_iff, decide_eq_true_eq, Bool.not_eq_true', decide_eq_false_iff_not]
  constructor
  · rintro ⟨⟨_, _⟩, ⟨rfl, before, after, hnodes, hbefore⟩, rfl⟩
    exact ⟨before, after, hnodes, hbefore⟩
  · rintro ⟨before, after, hnodes, hbefore⟩
    exact ⟨_, ⟨rfl, before, after, hnodes, hbefore⟩, rfl⟩

theorem feed?_eq_some_iff : g.feed? node port = some s ↔ g.Feeds node port s := by
  rw [feed?, Option.bind_assoc, Option.bind_eq_some_iff]
  simp only [findSome?_feeder?_eq_some_iff, bind_source?_eq_some_iff, Feeds]

theorem feed?_eq_none_iff : g.feed? node port = none ↔ ∀ s, ¬ g.Feeds node port s := by
  rw [Option.eq_none_iff_forall_ne_some]
  exact forall_congr' fun s => not_congr feed?_eq_some_iff

/-- An edge that does not start at a value node feeds nothing, even if others follow. -/
theorem FirstInto.not_feeds (h : g.FirstInto node port id)
    (hnode : ∀ n, g.find? id = some n → n.source? = none) (s : Source) :
    ¬ g.Feeds node port s := by
  rw [← feed?_eq_some_iff, feed?, findSome?_feeder?_eq_some_iff.mpr h, Option.bind_some,
    Option.bind_eq_some_iff]
  rintro ⟨n, hn, hs⟩
  rw [hnode n hn] at hs
  cases hs

end Graph

/-! ## Ports -/

namespace Lookup

variable {l : Lookup} {g : Graph} {node : NodeId} {params : Params} {name : String} {v : Value}

/-- The value that a port of a node has. -/
inductive Resolves (l : Lookup) (g : Graph) (node : NodeId) (params : Params) (name : String) :
    Value → Prop
  | fed {s : Source} (hfed : g.Feeds node name s) : Resolves l g node params name (l.source s)
  | given {v : Value} (hunfed : ∀ s, ¬ g.Feeds node name s)
      (hgiven : Dict.get? params name = some v) : Resolves l g node params name v
  | missing (hunfed : ∀ s, ¬ g.Feeds node name s) (hmissing : Dict.get? params name = none) :
      Resolves l g node params name .null

theorem resolves_port (l : Lookup) (g : Graph) (node : NodeId) (params : Params) (name : String) :
    l.Resolves g node params name (l.port g node params name) := by
  unfold port
  cases hfeed : g.feed? node name with
  | some s => exact .fed (Graph.feed?_eq_some_iff.mp hfeed)
  | none =>
    have hunfed := Graph.feed?_eq_none_iff.mp hfeed
    unfold Params.valueOf
    cases hget : Dict.get? params name with
    | some v => exact .given hunfed hget
    | none => exact .missing hunfed hget

theorem keys_ports (l : Lookup) (g : Graph) (node : NodeId) (params : Params) :
    Dict.keys (l.ports g node params) = Dict.keys params ++
      ((g.fedPorts node).filter fun name => name ∉ Dict.keys params).eraseDups := by
  unfold ports
  dsimp only
  rw [Dict.foldl_gains Dict.keys _ id fun d name => Dict.keys_insertMissing d name _, List.map_id,
    Dict.keys_map params]
  exact fun _ => rfl

theorem unique_ports (l : Lookup) (g : Graph) (node : NodeId) (hunique : Dict.Unique params) :
    Dict.Unique (l.ports g node params) := by
  refine List.foldlRecOn (motive := Dict.Unique) _ _ ?_ fun d hd name _ => ?_
  · rw [Dict.Unique, Dict.keys_map params]
    exacts [hunique, fun _ => rfl]
  · split
    · exact hd
    · exact hd.insert _ _

/-- Every entry is that of a port. -/
theorem eq_port_of_mem {e : String × Value} (h : e ∈ l.ports g node params) :
    e.2 = l.port g node params e.1 := by
  have hall : ∀ e ∈ l.ports g node params, e.2 = l.port g node params e.1 := by
    refine List.foldlRecOn (motive := fun d : Params => ∀ e ∈ d, e.2 = l.port g node params e.1)
      _ _ ?_ fun d hd name _ => ?_
    · rw [List.forall_mem_map]
      exact fun e _ => rfl
    · split
      · exact hd
      · intro e he
        rcases Dict.mem_insert he with he | rfl
        · exact hd e he
        · rfl
  exact hall e h

end Lookup

/-- A node has one port for each parameter, in order, and then one for each further name that a
value edge leads to, in the order of the first edges. Each has the value that an edge feeds into it
or else the one of its parameter; and no parameter is lost to an edge that feeds nothing, whichever
edges follow. -/
theorem ports_are_complete (l : Lookup) (g : Graph) (node : NodeId) {params : Params}
    (hunique : Dict.Unique params) :
    Dict.keys (l.ports g node params) = Dict.keys params ++
        ((g.fedPorts node).filter fun name => name ∉ Dict.keys params).eraseDups ∧
      Dict.Unique (l.ports g node params) ∧
      (∀ name v, (name, v) ∈ l.ports g node params → l.Resolves g node params name v) ∧
      ∀ name v id, Dict.get? params name = some v → g.FirstInto node name id →
        (∀ n, g.find? id = some n → n.source? = none) →
        Dict.get? (l.ports g node params) name = some v := by
  have hresolves : ∀ name v, (name, v) ∈ l.ports g node params →
      l.Resolves g node params name v := by
    intro name v h
    obtain rfl : v = l.port g node params name := Lookup.eq_port_of_mem h
    exact l.resolves_port g node params name
  refine ⟨l.keys_ports g node params, l.unique_ports g node hunique, hresolves,
    fun name v id hv hinto hnode => ?_⟩
  have hkey : name ∈ Dict.keys (l.ports g node params) := by
    rw [l.keys_ports]
    exact List.mem_append_left _ (Dict.contains_eq_true_iff.mp (Option.isSome_of_eq_some hv))
  obtain ⟨u, hu⟩ := Option.isSome_iff_exists.mp (Dict.contains_eq_true_iff.mpr hkey)
  cases hresolves name u (Dict.mem_of_get? hu) with
  | fed hfed => exact absurd hfed (hinto.not_feeds hnode _)
  | given _ hgiven => rw [hu, ← hgiven, hv]
  | missing _ hmissing => rw [hmissing] at hv; cases hv

namespace Crossroads

/-- A node with two parameters and edges into four ports: the first edge into `speed` starts at a
merge node, the first edges into `target` and `aim` at value nodes. -/
def graph : Graph where
  id := "crossroads"
  entry := "a"
  nodes := [⟨"a", .entry⟩, ⟨"m", .merge⟩, ⟨"one", .value (.literal (.int 1))⟩,
    ⟨"two", .value (.literal (.int 2))⟩, ⟨"one", .value (.literal (.int 3))⟩]
  edges := [.flow "a" "out" "b" "in", .value "m" "b" "speed", .value "one" "b" "aim",
    .value "one" "b" "speed", .value "one" "b" "target", .value "two" "b" "aim",
    .value "nowhere" "b" "path", .value "two" "c" "height"]

def params : Params :=
  [("target", .text "hero"), ("speed", .int 5)]

def lookup : Lookup :=
  { entity := ⟨"hero"⟩, store := .empty }

end Crossroads

/-- The speed keeps its parameter. -/
theorem speed_is_not_lost :
    Dict.keys (Crossroads.lookup.ports Crossroads.graph "b" Crossroads.params) =
        ["target", "speed", "aim", "path"] ∧
      Dict.get? (Crossroads.lookup.ports Crossroads.graph "b" Crossroads.params) "speed" =
        some (.int 5) := by
  have hunique : Dict.Unique Crossroads.params := by
    simp [Dict.Unique, Dict.keys, Crossroads.params]
  obtain ⟨hkeys, -, -, hkept⟩ :=
    ports_are_complete Crossroads.lookup Crossroads.graph "b" hunique
  refine ⟨hkeys.trans (by decide), hkept "speed" (.int 5) "m" rfl ?_ ?_⟩
  · exact ⟨[.flow "a" "out" "b" "in"], _, rfl, by simp [Edge.LeadsInto]⟩
  · rintro n ⟨⟩
    rfl

end SceneLogic
