import Mathlib.Data.List.Nodup
import Mathlib.Data.List.Perm.Subperm
import Mathlib.Logic.Relation
import SceneLogic.Module.Cycle

/-!
# Circles of a module, and walks without them

The flow edges between known nodes are a relation, `Graph.Follows`. `Graph.Circular` says in its
terms that a circle can be reached from the entry, and `Graph.hasCycle` decides just that:

* `search_some` — from the nodes that the search is done with no circle can be reached
* `search_none` — where the search gives up, a circle can be reached
* `hasCycle_iff` — both put together

A walk follows flow edges from the entry, in the order of time or, as here, the latest node first.
If no circle can be reached, a walk comes by no node twice.
-/

namespace SceneLogic.Graph

variable {g : Graph} {id u v : NodeId} {depth : Nat} {way visited done : List NodeId}

/-! ## Circles -/

/-- A flow edge leads from the one node to the other, which is known. -/
def Follows (g : Graph) (u v : NodeId) : Prop :=
  v ∈ g.targets u ∧ v ∈ g.nodeIds

/-- Flow edges through known nodes lead from the one node to the other, if it is not the same. -/
def Reaches (g : Graph) : NodeId → NodeId → Prop :=
  Relation.ReflTransGen g.Follows

/-- Flow edges through known nodes lead from the node to itself. -/
def OnCircle (g : Graph) (v : NodeId) : Prop :=
  Relation.TransGen g.Follows v v

/-- The entry is known, and a circle can be reached from it. -/
def Circular (g : Graph) : Prop :=
  g.entry ∈ g.nodeIds ∧ ∃ v, g.Reaches g.entry v ∧ g.OnCircle v

/-- No circle can be reached from the node. -/
def Safe (g : Graph) (id : NodeId) : Prop :=
  ∀ v, g.Reaches id v → ¬ g.OnCircle v

theorem Safe.follows (h : g.Safe u) (hv : g.Follows u v) : g.Safe v :=
  fun w hw => h w (hw.head hv)

/-- A circle that can be reached from a node can be reached from one that follows it: a circle
through the node itself comes by such a node, too. -/
theorem safe_of_follows (h : ∀ v, g.Follows id v → g.Safe v) : g.Safe id := by
  intro w hreach hcircle
  rcases hreach.cases_head with rfl | ⟨v, hv, hreach⟩
  · obtain ⟨v, hv, hback⟩ := Relation.TransGen.head'_iff.mp hcircle
    exact h v hv id hback hcircle
  · exact h v hv w hreach hcircle

/-! ## The search -/

/-- The search is done with the nodes of a list: of those that it was done with none is lost, those
of the list that are known are among them, and from none of them a circle can be reached. -/
structure Finished (g : Graph) (visited ids done : List NodeId) : Prop where
  kept : visited ⊆ done
  found : ∀ v ∈ ids, v ∈ g.nodeIds → v ∈ done
  safe : ∀ v ∈ done, g.Safe v

/-- If the search finishes with each node by itself, it finishes with all one after the other. -/
theorem Finished.foldlM {f : List NodeId → NodeId → Option (List NodeId)}
    (hf : ∀ {visited id done}, f visited id = some done → (∀ v ∈ visited, g.Safe v) →
      g.Finished visited [id] done) {ids : List NodeId} (h : ids.foldlM f visited = some done)
    (hvisited : ∀ v ∈ visited, g.Safe v) : g.Finished visited ids done := by
  induction ids generalizing visited with
  | nil =>
    cases h
    exact ⟨List.Subset.refl _, nofun, hvisited⟩
  | cons id rest ih =>
    rw [List.foldlM_cons] at h
    obtain ⟨mid, hmid, h⟩ := Option.bind_eq_some_iff.mp h
    have hfirst := hf hmid hvisited
    have hrest := ih h hfirst.safe
    refine ⟨List.Subset.trans hfirst.kept hrest.kept, fun v hv hknown => ?_, hrest.safe⟩
    rcases List.mem_cons.mp hv with rfl | hv
    · exact hrest.kept (hfirst.found v List.mem_cons_self hknown)
    · exact hrest.found v hv hknown

/-- What the search gives is what it is done with. -/
theorem search_some (h : g.search depth way visited id = some done)
    (hvisited : ∀ v ∈ visited, g.Safe v) : g.Finished visited [id] done := by
  induction depth generalizing way visited id done with
  | zero => cases h
  | succ depth ih =>
    rw [search] at h
    split at h
    · next hskip =>
      cases h
      refine ⟨List.Subset.refl _, fun v hv hknown => ?_, hvisited⟩
      rw [List.mem_singleton.mp hv] at hknown ⊢
      simpa [hknown] using hskip
    · split at h
      · cases h
      · obtain ⟨all, hall, rfl⟩ := Option.map_eq_some_iff.mp h
        have htargets := Finished.foldlM ih hall hvisited
        refine ⟨List.subset_cons_of_subset _ htargets.kept, fun v hv _ => ?_, fun v hv => ?_⟩
        · rw [List.mem_singleton.mp hv]
          exact List.mem_cons_self
        · rcases List.mem_cons.mp hv with rfl | hv
          · exact safe_of_follows fun u hu => htargets.safe u (htargets.found u hu.1 hu.2)
          · exact htargets.safe v hv

theorem exists_of_foldlM_none {α β : Type} {f : β → α → Option β} {l : List α} {b : β}
    (h : l.foldlM f b = none) : ∃ a ∈ l, ∃ b', f b' a = none := by
  induction l generalizing b with
  | nil => cases h
  | cons a rest ih =>
    rw [List.foldlM_cons] at h
    cases hf : f b a with
    | none => exact ⟨a, List.mem_cons_self, b, hf⟩
    | some b' =>
      rw [hf] at h
      obtain ⟨a', ha', hnone⟩ := ih h
      exact ⟨a', List.mem_cons_of_mem _ ha', hnone⟩

/-- A search that gives up has come by a circle: the way leads to each node that is searched from,
and it cannot be longer than the list of nodes. -/
theorem search_none (h : g.search depth way visited id = none) (hnodup : way.Nodup)
    (hknown : way ⊆ g.nodeIds)
    (hway : id ∈ g.nodeIds → ∀ u ∈ way, Relation.TransGen g.Follows u id)
    (hlong : g.nodes.length < depth + way.length) : id ∈ g.nodeIds ∧ ¬ g.Safe id := by
  induction depth generalizing way visited id with
  | zero =>
    have hshort := (List.subperm_of_subset hnodup hknown).length_le
    rw [nodeIds, List.length_map] at hshort
    omega
  | succ depth ih =>
    rw [search] at h
    split at h
    · cases h
    · next hgo =>
      have hid : id ∈ g.nodeIds := by
        rw [Bool.or_eq_true_iff, not_or] at hgo
        simpa using hgo.1
      refine ⟨hid, ?_⟩
      split at h
      · next hin =>
        have hcircle := hway hid id (List.contains_iff_mem.mp hin)
        exact fun hsafe => hsafe id .refl hcircle
      · next hout =>
        have hout : id ∉ way := fun hmem => hout (List.contains_iff_mem.mpr hmem)
        obtain ⟨v, hv, visited', hnone⟩ := exists_of_foldlM_none (Option.map_eq_none_iff.mp h)
        have hnext : v ∈ g.nodeIds → ∀ u ∈ id :: way, Relation.TransGen g.Follows u v := by
          intro hvknown u hu
          rcases List.mem_cons.mp hu with rfl | hu
          · exact .single ⟨hv, hvknown⟩
          · exact (hway hid u hu).tail ⟨hv, hvknown⟩
        obtain ⟨hvknown, hunsafe⟩ := ih hnone (List.nodup_cons.mpr ⟨hout, hnodup⟩)
          (List.cons_subset.mpr ⟨hid, hknown⟩) hnext (by rw [List.length_cons]; omega)
        exact fun hsafe => hunsafe (hsafe.follows ⟨hv, hvknown⟩)

/-- The search finds a circle if and only if one can be reached from the entry. -/
theorem hasCycle_iff (g : Graph) : g.hasCycle = true ↔ g.Circular := by
  unfold hasCycle
  cases hsearch : g.search (g.nodes.length + 1) [] [] g.entry with
  | none =>
    obtain ⟨hentry, hunsafe⟩ := search_none hsearch List.nodup_nil (List.nil_subset _) nofun
      (Nat.lt_succ_self _)
    refine iff_of_true rfl ⟨hentry, ?_⟩
    by_contra hnone
    exact hunsafe fun v hreach hcircle => hnone ⟨v, hreach, hcircle⟩
  | some done =>
    have hfinished := search_some hsearch nofun
    refine iff_of_false nofun ?_
    rintro ⟨hentry, v, hreach, hcircle⟩
    have hdone := hfinished.found _ List.mem_cons_self hentry
    exact hfinished.safe _ hdone v hreach hcircle

/-! ## Walks -/

/-- A walk from the entry along flow edges, the latest node first. It goes on from known nodes
only. -/
inductive Walk (g : Graph) : List NodeId → Prop
  | start : Walk g [g.entry]
  | go {v id : NodeId} {before : List NodeId} : Walk g (id :: before) → id ∈ g.nodeIds →
      v ∈ g.targets id → Walk g (v :: id :: before)

namespace Walk

variable {walk before : List NodeId}

/-- All nodes but the latest are known. -/
theorem known (h : g.Walk (v :: before)) : before ⊆ g.nodeIds := by
  generalize hw : v :: before = walk at h
  induction h generalizing v before with
  | start =>
    cases hw
    exact List.nil_subset _
  | go _ hknown _ ih =>
    cases hw
    exact List.cons_subset.mpr ⟨hknown, ih rfl⟩

/-- A walk shows that its known nodes can be reached, from the entry and from one another. -/
theorem reaches (h : g.Walk (v :: before)) (hv : v ∈ g.nodeIds) :
    g.entry ∈ g.nodeIds ∧ g.Reaches g.entry v ∧
      ∀ u ∈ before, Relation.TransGen g.Follows u v := by
  generalize hw : v :: before = walk at h
  induction h generalizing v before with
  | start =>
    cases hw
    exact ⟨hv, .refl, nofun⟩
  | @go next id _ _ hknown hstep ih =>
    cases hw
    obtain ⟨hentry, hreach, hbefore⟩ := ih hknown rfl
    have hfollows : g.Follows id next := ⟨hstep, hv⟩
    refine ⟨hentry, hreach.tail hfollows, fun u hu => ?_⟩
    rcases List.mem_cons.mp hu with rfl | hu
    · exact .single hfollows
    · exact (hbefore u hu).tail hfollows

/-- Without circles a walk comes by no node twice. -/
theorem nodup (hc : g.hasCycle = false) (h : g.Walk walk) : walk.Nodup := by
  induction h with
  | start => exact List.nodup_singleton _
  | @go v id before hwalk hknown hstep ih =>
    refine List.nodup_cons.mpr ⟨fun hmem => ?_, ih⟩
    -- Coming by a node again would make it known, and close a circle.
    have hv : v ∈ g.nodeIds := List.cons_subset.mpr ⟨hknown, hwalk.known⟩ hmem
    obtain ⟨hentry, hreach, hbefore⟩ := (Walk.go hwalk hknown hstep).reaches hv
    have hcircular : g.Circular := ⟨hentry, v, hreach, hbefore v hmem⟩
    rw [g.hasCycle_iff.mpr hcircular] at hc
    cases hc

/-- Without circles a walk goes on from each node once at most. -/
theorem length_le (hc : g.hasCycle = false) (h : g.Walk (v :: before)) :
    before.length ≤ g.nodes.length := by
  have hnodup := (List.nodup_cons.mp (h.nodup hc)).2
  have hsub := (List.subperm_of_subset hnodup h.known).length_le
  rwa [nodeIds, List.length_map] at hsub

end Walk

end SceneLogic.Graph
