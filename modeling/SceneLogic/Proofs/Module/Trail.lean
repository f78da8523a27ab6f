import SceneLogic.Proofs.Module.Acyclic
import SceneLogic.Proofs.Module.Visit

/-!
# Trails without revisits

The trail of an instance lists what it did at nodes. From the graph and the trail follows where
its cursor stood. On a graph without circles the cursor never comes back to a node, so that

* `NoRevisit` — nothing happens at a node that was left, blocks that cannot wait are run once,
  timers are set once, and tests for a change fail

`OnWay` adds what an instance remembers of its trail. It is kept by `OnWay.stay`, `OnWay.arm` and
`OnWay.move`, which are the ways in which a visit of a node can go on.
-/

namespace SceneLogic

/-- The node at which something happened. -/
def NodeEvent.node : NodeEvent → NodeId
  | .entered id => id
  | .armed id => id
  | .left id _ => id

namespace Graph

/-- The nodes on which the cursor has stood, the latest first. -/
def cursors (g : Graph) : List NodeEvent → List NodeId
  | [] => [g.entry]
  | .left id port :: trail =>
    match g.next? id port with
    | some v => v :: g.cursors trail
    | none => g.cursors trail
  | _ :: trail => g.cursors trail

@[simp] theorem cursors_nil (g : Graph) : g.cursors [] = [g.entry] := rfl

@[simp] theorem cursors_entered (g : Graph) (id : NodeId) (trail : List NodeEvent) :
    g.cursors (.entered id :: trail) = g.cursors trail := rfl

@[simp] theorem cursors_armed (g : Graph) (id : NodeId) (trail : List NodeEvent) :
    g.cursors (.armed id :: trail) = g.cursors trail := rfl

theorem cursors_left_some {g : Graph} {id v : NodeId} {port : String}
    (h : g.next? id port = some v) (trail : List NodeEvent) :
    g.cursors (.left id port :: trail) = v :: g.cursors trail := by
  rw [cursors, h]

theorem cursors_left_none {g : Graph} {id : NodeId} {port : String}
    (h : g.next? id port = none) (trail : List NodeEvent) :
    g.cursors (.left id port :: trail) = g.cursors trail := by
  rw [cursors, h]

/-- Where an edge is followed it leads to a target. -/
theorem next?_mem_targets {g : Graph} {id v : NodeId} {port : String}
    (h : g.next? id port = some v) : v ∈ g.targets id := by
  obtain ⟨e, he, hfollow⟩ := List.exists_of_findSome?_eq_some h
  refine List.mem_filterMap.mpr ⟨e, he, ?_⟩
  cases e with
  | value => cases hfollow
  | flow source p target targetPort =>
    simp only [Edge.follow?] at hfollow
    simp only [Edge.flowTarget?]
    split at hfollow
    · next hp =>
      rw [if_pos hp.1]
      exact hfollow
    · cases hfollow

theorem find?_id {g : Graph} {id : NodeId} {node : Node} (h : g.find? id = some node) :
    node.id = id := by
  have hid := List.find?_some h
  exact of_decide_eq_true hid

theorem mem_nodeIds_of_find? {g : Graph} {id : NodeId} {node : Node}
    (h : g.find? id = some node) : id ∈ g.nodeIds :=
  List.mem_map.mpr ⟨node, List.mem_of_find?_eq_some h, find?_id h⟩

end Graph

/-- A trail on which nothing happens twice that should not. -/
structure NoRevisit (g : Graph) (trail : List NodeEvent) : Prop where
  cursors : (g.cursors trail).Nodup
  /-- Things happen where the cursor stands. -/
  stands : ∀ e before, e :: before <:+ trail → (g.cursors before).head? = some e.node
  gone : ∀ e before, e :: before <:+ trail → ∀ port, .left e.node port ∉ before
  once : ∀ id, (∀ node, g.find? id = some node → node.isAsync = false) →
    trail.count (.entered id) ≤ 1
  armed : ∀ id, trail.count (.armed id) ≤ 1
  changed : ∀ id node port, g.find? id = some node → node.testsChange = true →
    .left id port ∈ trail → port = "false"

namespace NoRevisit

variable {g : Graph} {trail : List NodeEvent} {e : NodeEvent}

theorem nil (g : Graph) : NoRevisit g [] where
  cursors := List.nodup_singleton _
  stands := fun e before h => absurd (List.suffix_nil.mp h) (List.cons_ne_nil e before)
  gone := fun e before h => absurd (List.suffix_nil.mp h) (List.cons_ne_nil e before)
  once := fun _ _ => Nat.zero_le _
  armed := fun _ => Nat.zero_le _
  changed := fun _ _ _ _ _ h => absurd h List.not_mem_nil

/-- One more event, at the cursor, of a kind that may happen. -/
theorem cons (h : NoRevisit g trail) (hcursors : (g.cursors (e :: trail)).Nodup)
    (hstands : (g.cursors trail).head? = some e.node) (hgone : ∀ port, .left e.node port ∉ trail)
    (honce : ∀ id, e = .entered id → .entered id ∈ trail →
      ∃ node, g.find? id = some node ∧ node.isAsync = true)
    (harmed : ∀ id, e = .armed id → .armed id ∉ trail)
    (hchanged : ∀ id node port, e = .left id port → g.find? id = some node →
      node.testsChange = true → port = "false") : NoRevisit g (e :: trail) where
  cursors := hcursors
  stands := by
    intro e' before hsuffix
    rcases List.suffix_cons_iff.mp hsuffix with heq | hsuffix
    · cases heq
      exact hstands
    · exact h.stands e' before hsuffix
  gone := by
    intro e' before hsuffix
    rcases List.suffix_cons_iff.mp hsuffix with heq | hsuffix
    · cases heq
      exact hgone
    · exact h.gone e' before hsuffix
  once := by
    intro id hsync
    by_cases he : e = .entered id
    · have hnew : .entered id ∉ trail := by
        intro hmem
        obtain ⟨node, hnode, hasync⟩ := honce id he hmem
        rw [hsync node hnode] at hasync
        cases hasync
      refine Nat.le_of_eq ?_
      rw [he, List.count_cons_self, List.count_eq_zero.mpr hnew]
    · rw [List.count_cons_of_ne he]
      exact h.once id hsync
  armed := by
    intro id
    by_cases he : e = .armed id
    · refine Nat.le_of_eq ?_
      rw [he, List.count_cons_self, List.count_eq_zero.mpr (harmed id he)]
    · rw [List.count_cons_of_ne he]
      exact h.armed id
  changed := by
    intro id node port hnode htests hmem
    rcases List.mem_cons.mp hmem with heq | hmem
    · exact hchanged id node port heq.symm hnode htests
    · exact h.changed id node port hnode htests hmem

end NoRevisit

/-- An instance that is on its way, and what it remembers of its trail. -/
structure OnWay (g : Graph) (i : Instance) (trail : List NodeEvent) : Prop
    extends NoRevisit g trail where
  acyclic : g.hasCycle = false
  cursor : ∃ before, g.cursors trail = i.cursor :: before
  walk : g.Walk (g.cursors trail)
  /-- A node that was left is behind. -/
  behind : ∀ id port, .left id port ∈ trail → id ∈ (g.cursors trail).tail
  seen : ∀ e ∈ trail, e.node ∈ g.cursors trail
  /-- Only a block that may wait is run again. -/
  again : .entered i.cursor ∈ trail → ∀ node, g.find? i.cursor = some node → node.isAsync = true
  waits : ∀ id, .armed id ∈ trail → ∀ node, g.find? id = some node → node.isWait = true
  timed : .armed i.cursor ∈ trail → i.Timed i.cursor
  /-- Values are remembered for nodes that were run. -/
  snapshots : ∀ id, Dict.get? i.snapshots (snapshotKey id) ≠ none → .entered id ∈ trail

/-- An instance that was refused to run: a circle can be reached in its graph. -/
structure Refused (g : Graph) (i : Instance) (trail : List NodeEvent) : Prop where
  circle : g.hasCycle = true
  status : i.status = .failed ⟨.cycleDetected, g.entry⟩
  trail : trail = []

theorem snapshotKey_injective {id id' : NodeId} (h : snapshotKey id = snapshotKey id') :
    id = id' :=
  (String.append_left_inj _).mp h

namespace OnWay

variable {g : Graph} {i : Instance} {trail : List NodeEvent} {node : Node}
  {r : NodeOutcome × Instance} {port : String}

/-- A new instance stands on the entry. -/
theorem start (hc : g.hasCycle = false) (hcursor : i.cursor = g.entry)
    (hsnapshots : i.snapshots = []) : OnWay g i [] where
  toNoRevisit := .nil g
  acyclic := hc
  cursor := ⟨[], by rw [hcursor, g.cursors_nil]⟩
  walk := .start
  behind := nofun
  seen := nofun
  again := nofun
  waits := nofun
  timed := nofun
  snapshots := by
    intro id h
    rw [hsnapshots] at h
    exact absurd (Dict.get?_nil _) h

theorem head? (h : OnWay g i trail) : (g.cursors trail).head? = some i.cursor := by
  obtain ⟨before, hcursors⟩ := h.cursor
  rw [hcursors]
  rfl

/-- The cursor stands on a node that was not left. -/
theorem not_left (h : OnWay g i trail) (port : String) : .left i.cursor port ∉ trail := by
  intro hmem
  have hbehind := h.behind _ _ hmem
  obtain ⟨before, hcursors⟩ := h.cursor
  have hnodup := h.cursors
  rw [hcursors] at hbehind hnodup
  exact (List.nodup_cons.mp hnodup).1 hbehind

theorem mem_cursors (h : OnWay g i trail) : i.cursor ∈ g.cursors trail := by
  obtain ⟨before, hcursors⟩ := h.cursor
  rw [hcursors]
  exact List.mem_cons_self

/-- A timer that was set is still set, or belongs to a node that was left. -/
theorem not_armed (h : OnWay g i trail) (hnot : ¬ i.Timed i.cursor) : .armed i.cursor ∉ trail :=
  fun hmem => hnot (h.timed hmem)

/-- A test for a change has nothing to compare with. -/
theorem snapshot_none (h : OnWay g i trail) (hnode : g.find? i.cursor = some node)
    (htests : node.testsChange = true) : Dict.get? i.snapshots (snapshotKey node.id) = none := by
  cases hget : Dict.get? i.snapshots (snapshotKey node.id) with
  | none => rfl
  | some v =>
    have hid := Graph.find?_id hnode
    -- The node was run before, so it may wait, which a test cannot.
    have hmem := h.snapshots node.id (by rw [hget]; exact nofun)
    have hasync := h.again (hid ▸ hmem) node hnode
    rw [Node.isAsync_eq_false_of_testsChange htests] at hasync
    cases hasync

theorem enter (h : OnWay g i trail) (hnode : g.find? i.cursor = some node) :
    NoRevisit g (.entered node.id :: trail) := by
  have hid := Graph.find?_id hnode
  rw [hid]
  refine h.toNoRevisit.cons h.cursors h.head? h.not_left ?_ nofun nofun
  intro id heq hmem
  cases heq
  exact ⟨node, hnode, h.again hmem node hnode⟩

/-- The snapshots after a visit are those of nodes that were run. -/
theorem snapshots_ran (h : OnWay g i trail) (hran : i.RanNode node r) {id : NodeId}
    (hget : Dict.get? r.2.snapshots (snapshotKey id) ≠ none) :
    .entered id ∈ NodeEvent.entered node.id :: trail := by
  by_cases hid : id = node.id
  · rw [hid]
    exact List.mem_cons_self
  · have hkey : snapshotKey id ≠ snapshotKey node.id := fun heq => hid (snapshotKey_injective heq)
    rw [hran.snapshots _ hkey] at hget
    exact List.mem_cons_of_mem _ (h.snapshots id hget)

/-- The instance stays on its node; if the node is a wait its timer was set before. -/
theorem stay (h : OnWay g i trail) (hnode : g.find? i.cursor = some node)
    (hran : i.RanNode node r) (hstay : r.1 = .stay)
    (htimer : node.isWait = true → r.2.Timed node.id) :
    OnWay g r.2 (.entered node.id :: trail) := by
  have hid := Graph.find?_id hnode
  have hcursor := hran.stands.2.1
  exact
    { toNoRevisit := h.enter hnode
      acyclic := h.acyclic
      cursor := hcursor ▸ h.cursor
      walk := h.walk
      behind := fun id port hmem => h.behind id port (by simpa using hmem)
      seen := by
        intro e he
        rcases List.mem_cons.mp he with rfl | he
        · exact hid ▸ h.mem_cursors
        · exact h.seen e he
      again := by
        intro _ node' hnode'
        rw [hcursor, hnode] at hnode'
        cases hnode'
        exact hran.stay hstay
      waits := fun id hmem => h.waits id (by simpa using hmem)
      timed := by
        intro hmem
        rw [hcursor] at hmem ⊢
        rw [← hid]
        exact htimer (h.waits _ (by simpa using hmem) node hnode)
      snapshots := fun id hget => h.snapshots_ran hran hget }

/-- The instance stays on a wait, and its timer is set. -/
theorem arm (h : OnWay g i trail) (hnode : g.find? i.cursor = some node)
    (hran : i.RanNode node r) (hstay : r.1 = .stay) (hwait : node.isWait = true)
    (hnot : ¬ i.Timed node.id) (htimed : r.2.Timed node.id) :
    OnWay g r.2 (.armed node.id :: .entered node.id :: trail) := by
  have hid := Graph.find?_id hnode
  have hcursor := hran.stands.2.1
  have hon := h.stay hnode hran hstay fun _ => htimed
  have hcur : r.2.cursor = node.id := hcursor.trans hid.symm
  have hfresh : .armed node.id ∉ NodeEvent.entered node.id :: trail := by
    rw [hid] at hnot ⊢
    exact fun hmem => h.not_armed hnot (by simpa using hmem)
  exact
    { toNoRevisit := hon.toNoRevisit.cons hon.cursors (hcur ▸ hon.head?) (hcur ▸ hon.not_left)
        nofun (fun id heq => by cases heq; exact hfresh) nofun
      acyclic := h.acyclic
      cursor := hon.cursor
      walk := hon.walk
      behind := fun id port hmem => hon.behind id port (by simpa using hmem)
      seen := by
        intro e he
        rcases List.mem_cons.mp he with rfl | he
        · exact hcur ▸ hon.mem_cursors
        · exact hon.seen e he
      again := fun hmem => hon.again (by simpa using hmem)
      waits := by
        intro id hmem node' hnode'
        rcases List.mem_cons.mp hmem with heq | hmem
        · cases heq
          rw [hid, hnode] at hnode'
          cases hnode'
          exact hwait
        · exact hon.waits id hmem node' hnode'
      timed := fun _ => hcur ▸ htimed
      snapshots := fun id hget => List.mem_cons_of_mem _ (hon.snapshots id hget) }

/-- The next node is a new one. -/
theorem walk_on (h : OnWay g i trail) (hnode : g.find? i.cursor = some node) {v : NodeId}
    (hnext : g.next? node.id port = some v) : g.Walk (v :: g.cursors trail) := by
  obtain ⟨before, hcursors⟩ := h.cursor
  have hwalk := h.walk
  rw [hcursors] at hwalk ⊢
  rw [Graph.find?_id hnode] at hnext
  exact hwalk.go (Graph.mem_nodeIds_of_find? hnode) (Graph.next?_mem_targets hnext)

/-- The node is left, whether or not another one follows. -/
theorem leave (h : OnWay g i trail) (hnode : g.find? i.cursor = some node)
    (hran : i.RanNode node r) (hleave : r.1 = .leave port) :
    NoRevisit g (.left node.id port :: .entered node.id :: trail) := by
  have hid := Graph.find?_id hnode
  have hcursors : (g.cursors (.left node.id port :: .entered node.id :: trail)).Nodup := by
    cases hnext : g.next? node.id port with
    | none =>
      rw [Graph.cursors_left_none hnext]
      exact h.cursors
    | some v =>
      rw [Graph.cursors_left_some hnext]
      exact (h.walk_on hnode hnext).nodup h.acyclic
  refine (h.enter hnode).cons hcursors (hid ▸ h.head?) (fun port hmem => ?_) nofun nofun ?_
  · exact h.not_left port (by simpa [NodeEvent.node, hid] using hmem)
  · intro id node' port' heq hnode' htests
    cases heq
    rw [hid, hnode] at hnode'
    cases hnode'
    exact hran.change htests (h.snapshot_none hnode htests) port hleave

/-- The instance moves on to the next node. -/
theorem move (h : OnWay g i trail) (hnode : g.find? i.cursor = some node)
    (hran : i.RanNode node r) (hleave : r.1 = .leave port) {v : NodeId}
    (hnext : g.next? node.id port = some v) :
    OnWay g { r.2 with cursor := v } (.left node.id port :: .entered node.id :: trail) := by
  have hid := Graph.find?_id hnode
  have hwalk := h.walk_on hnode hnext
  have hcursors : g.cursors (.left node.id port :: .entered node.id :: trail) =
      v :: g.cursors trail := Graph.cursors_left_some hnext _
  have hseen : ∀ e ∈ NodeEvent.left node.id port :: .entered node.id :: trail,
      e.node ∈ g.cursors trail := by
    intro e he
    rcases List.mem_cons.mp he with rfl | he
    · exact hid ▸ h.mem_cursors
    · rcases List.mem_cons.mp he with rfl | he
      · exact hid ▸ h.mem_cursors
      · exact h.seen e he
  -- Nothing has happened at the new node.
  have hnew : ∀ e ∈ NodeEvent.left node.id port :: .entered node.id :: trail, e.node ≠ v := by
    intro e he heq
    exact (List.nodup_cons.mp (hwalk.nodup h.acyclic)).1 (heq ▸ hseen e he)
  exact
    { toNoRevisit := h.leave hnode hran hleave
      acyclic := h.acyclic
      cursor := ⟨_, hcursors⟩
      walk := hcursors ▸ hwalk
      behind := by
        rw [hcursors]
        exact fun id port hmem => hseen _ hmem
      seen := by
        rw [hcursors]
        exact fun e he => List.mem_cons_of_mem _ (hseen e he)
      again := fun hmem => absurd rfl (hnew _ hmem)
      waits := by
        intro id hmem
        exact h.waits id (by simpa using hmem)
      timed := fun hmem => absurd rfl (hnew _ hmem)
      snapshots := fun id hget => List.mem_cons_of_mem _ (h.snapshots_ran hran hget) }

end OnWay

end SceneLogic
