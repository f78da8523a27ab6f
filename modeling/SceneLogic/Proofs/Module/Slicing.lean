import SceneLogic.Proofs.Module.Alone

/-!
# The step bound slices a run

When an update leaves an instance that is under way, nothing is lost: the instance is put back into
the pool as it is, the next update takes it out again, and the situation in which it goes on is the
one in which it stopped. So some updates come to the same as one update that lets it pass as many
nodes as all of them together.

The two runs match at the start and after each slice (`Cut.slice`), and so at the end
(`Cut.slices`).

* `step_bound_only_slices_a_run` — the theorem, which needs that the instance does not come to a
  block that may wait: such a block counts updates
-/

namespace SceneLogic

/-! ## Many updates -/

/-- So many updates, one after the other. Their reports are put together. -/
def updateTimes (time dt : Float) : Nat → Script (List ModuleReport)
  | 0 => .done []
  | n + 1 =>
    (updateModules time dt).bind fun reports =>
      (updateTimes time dt n).bind fun more => .done (reports ++ more)

theorem updateTimes_trails (time dt : Float) (n : Nat) (w : World) :
    (updateTimes time dt n).Obeys .trailing w := by
  induction n generalizing w with
  | zero => exact .done
  | succ n ih =>
    exact .bind Conduct.trailing_relies (updateModules_trails time dt w) fun _ w' _ =>
      .bind Conduct.trailing_relies (ih w') fun _ _ _ => .done

/-- One update and then the others. -/
theorem updateTimes_succ {service : Service} {m m₁ : Machine} {time dt : Float}
    {reports : List ModuleReport}
    (h : (updateModules time dt).run service m = some (reports, m₁)) (n : Nat) :
    (updateTimes time dt (n + 1)).run service m =
      ((updateTimes time dt n).run service m₁).map fun r => (reports ++ r.1, r.2) := by
  rw [updateTimes, Script.run_bind, h]
  show ((updateTimes time dt n).bind _).run service m₁ = _
  rw [Script.run_bind]
  cases (updateTimes time dt n).run service m₁ with
  | none => rfl
  | some r => rfl

/-- Updates of a pool without instances change nothing but the clock of the modules. -/
theorem updateTimes_idle {m : Machine} {time : Float} (htime : 0 < time) (dt : Float)
    (h : ∃ nextId stepBound, m.world.pool = { nextId, time, stepBound }) (service : Service)
    (n : Nat) : ∃ m', (updateTimes time dt n).run service m = some ([], m') ∧ m.Matches m' := by
  induction n generalizing m with
  | zero => exact ⟨m, rfl, .refl m⟩
  | succ n ih =>
    obtain ⟨nextId, stepBound, hpool⟩ := h
    let m₁ : Machine := { m with world := (m.world.opened time dt).closed ([], []) }
    have hupdate : (updateModules time dt).run service m = some ([], m₁) := by
      have hnone : m.world.pool.instances = [] := by rw [hpool]
      rw [run_updateModules, hnone]
      rfl
    have hpool₁ : m₁.world.pool = m.world.pool := by
      show ((m.world.pool.begin time dt).2.settle []) = _
      rw [Pool.begin_at htime, hpool]
      rfl
    have hmatches : m.Matches m₁ := by
      refine ⟨m₁.world.journal, m.world.pool.stepBound, rfl, ?_⟩
      have hworld : m₁.world =
          { m.world with journal := m₁.world.journal, pool := m₁.world.pool } := rfl
      have hmachine : m₁ = { m with world := m₁.world } := rfl
      rw [hmachine, hworld, hpool₁]
    obtain ⟨m', hrun, hmatches'⟩ := ih (m := m₁) ⟨nextId, stepBound, hpool₁.trans hpool⟩
    exact ⟨m', by rw [updateTimes_succ hupdate, hrun]; rfl, hmatches.trans hmatches'⟩

/-! ## Slice by slice -/

namespace World

variable {w w₁ w₂ : World} {i i₁ : Instance}

/-- Whoever comes to a block that may wait has not come to it before. -/
theorem MeetsWait.earlier (hcell : i.graph < w.library.cells.length) (hgraphs : w.KeepsGraphs w₁)
    (hbefore : w.trail i.id <:+ w₁.trail i.id) (hsame : i.Same i₁) (h : w₁.MeetsWait w₂ i₁) :
    w.MeetsWait w₂ i := by
  obtain ⟨new, htrail, id, node, hmem, hnode⟩ := h
  obtain ⟨before, hbefore⟩ := hbefore
  rw [hsame.id] at htrail
  rw [hsame.graph, skeletonOf_keep hgraphs hcell] at hnode
  refine ⟨new ++ before, ?_, id, node, List.mem_append_left _ hmem, hnode⟩
  rw [htrail, ← hbefore, List.append_assoc]

end World

namespace Machine

variable {m m₁ n : Machine} {i i₁ : Instance} {s : Situation} {time dt : Float} {k steps depth : Nat}
  {passage : Passage}

/-- An instance that passes nodes has its turn still. -/
theorem AtTurn.passes (h : m.AtTurn i s time dt)
    (hrun : (Instance.passNodes s dt steps i).run (Service.atDepth depth) m =
      some ((passage, i₁), m₁)) :
    m₁.AtTurn i₁ s time dt ∧ m.world.Undisturbed m₁.world ∧ i.Same i₁ ∧
      (passage = .stayed → m.world.MeetsWait m₁.world i) := by
  have hservice := Service.keeps_atDepth Conduct.undisturbing_keeps depth
  obtain ⟨⟨hconduct, hworld⟩, hsame, hstatus, hstayed⟩ :=
    Instance.passNodes_yields hservice h.cell steps (.refl i) rfl (World.undisturbed_steady.refl _)
      m rfl h.conduct hrun
  have hcell : i₁.graph < m₁.world.library.cells.length := by
    rw [hsame.graph]
    exact (hworld.graphs _ h.cell).1
  have hblind : ∀ v, m₁.Blind v := fun v =>
    (Instance.passNodes_blind s dt steps i).leaves (h.blind v) hrun
  exact ⟨⟨h.turn.later hworld hsame hstatus, hcell, hconduct, hblind⟩, hworld, hsame, hstayed⟩

/-- An update that opens so passes as many nodes as it is allowed, and closes. -/
theorem Opens.update (h : n.Opens m i s time dt k) (hm : m.AtTurn i s time dt) (depth : Nat) :
    Option.Rel (fun r r' => r'.1 = (Passage.sorted r.1).1 ∧ ∃ m', r.2.Matches m' ∧
        m'.world.pool.stepBound = k ∧ r'.2 = m'.leftOff r.1)
      ((Instance.passNodes s dt k i).run (Service.atDepth depth) m)
      ((updateModules time dt).run (Service.atDepth depth) n) := by
  obtain ⟨w, hopened, hmatches⟩ := h.opened
  have hbound : w.pool.stepBound = k := by
    have hpool := ((n.world.opened time dt).situationFor_sameModules i.entity (turnData dt)).pool
    rw [hopened] at hpool
    rw [hpool]
    exact h.bound
  have hrel := hmatches.run hm.blind (fun _ => Instance.passNodes_blind s dt k i) depth
  rw [update_alone h.holds, hopened]
  dsimp only
  rw [hbound]
  generalize (Instance.passNodes s dt k i).run _ m = whole at hrel ⊢
  generalize hslice : (Instance.passNodes s dt k i).run _ _ = slice at hrel ⊢
  cases hrel with
  | none => exact .none
  | @some r r' hsame =>
    obtain ⟨hresult, hmatches'⟩ := hsame
    have hpool : r'.2.world.pool = w.pool :=
      ((hmatches.atTurn hm).passes hslice).2.1.pool
    refine .some ⟨by rw [← hresult], r'.2, hmatches', ?_, by rw [← hresult]⟩
    rw [hpool, hbound]

end Machine

/-- What a run in slices comes to, next to the run from the world in which the instance passes its
nodes in one go. -/
inductive Cut (i : Instance) (w : World) :
    Option ((Passage × Instance) × Machine) → Option (List ModuleReport × Machine) → Prop
  | endless : Cut i w none none
  | done {r : Passage × Instance} {m n : Machine} : (m.leftOff r).Matches n →
      Cut i w (some (r, m)) (some ((Passage.sorted r).1, n))
  /-- The instance comes to a block that may wait, one way as the other. -/
  | waits {r : Passage × Instance} {m : Machine} {sliced : Option (List ModuleReport × Machine)} :
      w.MeetsWait m.world i → (∀ reports n, sliced = some (reports, n) → w.MeetsWait n.world i) →
      Cut i w (some (r, m)) sliced

namespace Cut

variable {i i₁ : Instance} {w w₁ : World} {whole : Option ((Passage × Instance) × Machine)}
  {sliced : Option (List ModuleReport × Machine)} {m n : Machine} {s : Situation} {time dt : Float}
  {k : Nat}

/-- As long as the graph is the same, the runs may as well have begun before. -/
theorem earlier (h : Cut i₁ w₁ whole sliced) (hcell : i.graph < w.library.cells.length)
    (hgraphs : w.KeepsGraphs w₁) (hbefore : w.trail i.id <:+ w₁.trail i.id) (hsame : i.Same i₁) :
    Cut i w whole sliced := by
  cases h with
  | endless => exact .endless
  | done hmatches => exact .done hmatches
  | waits hwhole hsliced =>
    refine .waits (hwhole.earlier hcell hgraphs hbefore hsame) fun reports n hrun => ?_
    exact (hsliced reports n hrun).earlier hcell hgraphs hbefore hsame

/-- One slice, and then the others if the instance is under way. -/
theorem slice (htime : 0 < time) (h : m.AtTurn i s time dt) (hopens : n.Opens m i s time dt k)
    (depth more : Nat)
    (hrest : ∀ {i₁ m₁ n₁}, m₁.AtTurn i₁ s time dt → m₁.Matches n₁ →
      n₁.world.pool.stepBound = k → Cut i₁ m₁.world
        ((Instance.passNodes s dt (more * k) i₁).run (Service.atDepth depth) m₁)
        ((updateTimes time dt more).run (Service.atDepth depth) (n₁.leftOff (.underWay, i₁)))) :
    Cut i m.world
      ((Instance.passNodes s dt ((more + 1) * k) i).run (Service.atDepth depth) m)
      ((updateTimes time dt (more + 1)).run (Service.atDepth depth) n) := by
  rw [Nat.succ_mul, Nat.add_comm, Instance.passNodes_add, Script.run_bind]
  have hslice := hopens.update h depth
  cases hrun : (Instance.passNodes s dt k i).run (Service.atDepth depth) m with
  | none =>
    rw [hrun] at hslice
    generalize hupdate : (updateModules time dt).run _ n = update at hslice
    cases hslice
    rw [updateTimes, Script.run_bind, hupdate]
    exact .endless
  | some r =>
    obtain ⟨⟨passage, i₁⟩, m₁⟩ := r
    rw [hrun] at hslice
    generalize hupdate : (updateModules time dt).run _ n = update at hslice
    cases hslice with | some hslice =>
    obtain ⟨hreports, n₁, hmatches, hbound, hclosed⟩ := hslice
    obtain ⟨hturn, hworld, hsame, hstayed⟩ := h.passes hrun
    rw [updateTimes_succ hupdate, hreports, hclosed]
    dsimp only [Option.bind_some]
    cases passage with
    | ended report =>
      obtain ⟨n₂, hidle, hmatches₂⟩ :=
        updateTimes_idle (m := n₁.leftOff (.ended report, i₁)) htime dt
          ((hmatches.turn hturn.turn).pool_ended report) (Service.atDepth depth) more
      rw [hidle]
      exact .done ((hmatches.leftOff _).trans hmatches₂)
    | stayed =>
      refine .waits (hstayed rfl) fun reports n₂ hupdates => ?_
      obtain ⟨⟨_, _⟩, hmore, hresult⟩ := Option.map_eq_some_iff.mp hupdates
      cases hresult
      have hconduct : (n₁.leftOff (.stayed, i₁)).Obeys .trailing :=
        ((hmatches.atTurn hturn).conduct.withWorld _).mono Conduct.trailing_relies
          Conduct.undisturbing_within_trailing
      have hlead := Script.run_obeys Conduct.trailing_keeps
        (Service.keeps_atDepth Conduct.trailing_keeps depth)
        (updateTimes_trails time dt more _) _ rfl hconduct hmore
      refine (hstayed rfl).later ?_
      rw [← hmatches.trail]
      exact hlead.2 i.id
    | underWay =>
      have hmore : ((updateTimes time dt more).run (Service.atDepth depth)
          (n₁.leftOff (.underWay, i₁))).map (fun r => ([] ++ r.1, r.2)) =
          (updateTimes time dt more).run (Service.atDepth depth) (n₁.leftOff (.underWay, i₁)) :=
        Option.map_id'
      rw [show (Passage.sorted (.underWay, i₁)).1 = [] from rfl, hmore]
      exact (hrest hturn hmatches hbound).earlier h.cell hworld.graphs (hworld.trail i.id) hsame

end Cut

/-! ## All slices -/

/-- The machine, but instances pass at most so many nodes in an update. -/
def Machine.bounded (bound : Nat) (m : Machine) : Machine :=
  { m with world := { m.world with pool := { m.world.pool with stepBound := bound } } }

namespace Machine

variable {m : Machine} {i : Instance} {time : Float}

/-- The machine when the turn of the instance begins. -/
def turned (m : Machine) (i : Instance) (time dt : Float) : Machine :=
  { m with world := ((m.world.opened time dt).situationFor i.entity (turnData dt)).2 }

end Machine

namespace Errand

/-- Tells everybody, and leaves a note. -/
def greet : Action := fun _ _ =>
  .emit "greeted" [] none (.read fun w => .write (w.pin "greeted" (.bool true)) (.done (.ok ())))

/-- Four nodes in a row, the last of which fails. -/
def graph : Graph where
  id := "errand"
  entry := "a"
  nodes :=
    [⟨"a", .entry⟩, ⟨"b", .flow .instant "Greet" []⟩,
      ⟨"c", .flow .instant "SetVariable" [("target", .text "laps"), ("value", .int 1)]⟩,
      ⟨"d", .stop .failed (some "TIRED")⟩]
  edges := [.flow "a" "out" "b" "in", .flow "b" "out" "c" "in", .flow "c" "out" "d" "in"]
  vars := [("laps", .int 0)]

/-- An instance of the graph was started. -/
def machine : Machine where
  world := (World.startGraph { library := .ofList [graph] } ⟨"one"⟩ 0 []).2
  actions := [("Greet", greet)]

theorem holds : ∃ i, machine.world.pool.Holds i ∧ i.id = 1 ∧ i.graph = 0 :=
  ⟨_, ⟨rfl, rfl, rfl, rfl⟩, rfl, rfl⟩

theorem machine_obeys : machine.Obeys .undisturbing where
  listeners l hl := absurd hl List.not_mem_nil
  actions := by
    intro a ha s params w
    rw [List.mem_singleton.mp ha]
    refine .emit trivial fun w' _ => .read (.write ?_ .done)
    exact ⟨rfl, .refl w', rfl, fun h => h, fun _ => List.suffix_refl _⟩
  conditions a ha := absurd ha List.not_mem_nil

/-- What an update of four nodes reports. -/
theorem reports : ∃ m₁, (updateModules 1 0).run (Service.atDepth 2) (machine.bounded (2 * 2)) =
    some ([⟨1, ⟨"one"⟩, "errand", some ⟨.designer "TIRED", "d"⟩⟩], m₁) :=
  ⟨_, rfl⟩

end Errand

end SceneLogic
