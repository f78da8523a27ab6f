import SceneLogic.Proofs.Module.Passing
import SceneLogic.Proofs.Module.Progress
import SceneLogic.Proofs.Module.Tame

/-!
# An instance that is not disturbed

Actions that keep their hands off the modules, and neither replace the input of the director nor
have entities forgotten, leave alone all that an instance holds on to from one node to the next:
`World.Undisturbed`. So does the instance by itself. Its trail only grows, and if it stays on a
node then it has come to a block that may wait.

* `Instance.passNodes_yields` — passing nodes
* `updateModules_trails` — the trails in an update, to which more than one instance may add
-/

namespace SceneLogic

/-- The modules are left alone, but for defaults of their variables, and what the situation of an
entity is made of stays. Trails may have grown. -/
structure World.Undisturbed (w w' : World) : Prop where
  pool : w'.pool = w.pool
  graphs : w.KeepsGraphs w'
  input : w'.director.map (·.input) = w.director.map (·.input)
  cells : ∀ {id cell}, Dict.get? w.senses.cellOf id = some cell →
    Dict.get? w'.senses.cellOf id = some cell
  trail : ∀ id, w.trail id <:+ w'.trail id

/-- Behaviours that do not disturb any instance. -/
def Conduct.undisturbing : Conduct where
  step := World.Undisturbed

/-- On the way from one world to the other the instance came to a block that may wait. -/
def World.MeetsWait (w w' : World) (i : Instance) : Prop :=
  ∃ new, w'.trail i.id = new ++ w.trail i.id ∧ (w.skeletonOf i.graph).Waits new

namespace World

variable {u v w : World}

theorem undisturbed_steady : Steady Undisturbed where
  refl w := ⟨rfl, .refl w, rfl, fun h => h, fun _ => List.suffix_refl _⟩
  trans h h' :=
    ⟨h'.pool.trans h.pool, h.graphs.trans h'.graphs, h'.input.trans h.input,
      fun hcell => h'.cells (h.cells hcell), fun id => (h.trail id).trans (h'.trail id)⟩

theorem undisturbed_note (w : World) (id : InstanceId) (e : NodeEvent) :
    w.Undisturbed (w.record (.atNode id e)) where
  pool := rfl
  graphs := .refl w
  input := rfl
  cells h := h
  trail id' := by
    by_cases h : id = id'
    · subst h
      rw [trail_atNode_self]
      exact List.suffix_cons _ _
    · exact (trail_atNode_of_ne _ _ h).symm ▸ List.suffix_refl _

theorem undisturbed_writes {i : Instance} (h : i.Writes u v) : u.Undisturbed v := by
  cases h with
  | publish name x =>
    exact ⟨rfl, u.keepsGraphs_publishWrite _ _ _ name x, rfl, fun h => h,
      fun _ => List.suffix_refl _⟩
  | assign name x => exact ⟨rfl, .refl u, rfl, fun h => h, fun _ => List.suffix_refl _⟩

/-- Whoever comes to a block that may wait has come to it for good. -/
theorem MeetsWait.later {i : Instance} (h : u.MeetsWait v i) (hlater : v.trail i.id <:+ w.trail i.id) :
    u.MeetsWait w i := by
  obtain ⟨new, hnew, hwaits⟩ := h
  obtain ⟨newer, hnewer⟩ := hlater
  refine ⟨newer ++ new, ?_, hwaits.mono (List.suffix_append _ _)⟩
  rw [← hnewer, hnew, List.append_assoc]

end World

namespace Conduct

theorem undisturbing_keeps : Conduct.undisturbing.Keeps World.Undisturbed where
  toSteady := World.undisturbed_steady
  step h := h
  rely _ := trivial
  emitted w _ := ⟨rfl, .refl w, rfl, fun h => h, fun _ => List.suffix_refl _⟩
  part h := h.elim

end Conduct

/-! ## Passing nodes -/

namespace Instance

variable {service : Service} {c : Conduct} {i : Instance} {w : World} {s : Situation}
  {dt : Float}

theorem atWork_undisturbed (hservice : service.Keeps c World.Undisturbed) (i : Instance) :
    AtWork service c World.Undisturbed World.Undisturbed i where
  steady := World.undisturbed_steady
  service := hservice
  within h := h
  own := World.undisturbed_writes

/-- What becomes of the trail when a node is run. -/
theorem visit_undisturbed (hservice : service.Keeps c World.Undisturbed) (i : Instance) (g : Graph)
    (node : Node) : (i.visit s dt g node).Yields service c World.Undisturbed w fun r w' =>
      i.RanNode node r ∧ .entered node.id :: w.trail i.id <:+ w'.trail i.id := by
  refine (visit_yields (atWork_undisturbed hservice i) World.undisturbed_steady (fun h => h)
    fun u e => u.undisturbed_note i.id e).mono fun r w' _ hr => ?_
  obtain ⟨hran, u, v, hu, htimer, hw'⟩ := hr
  have hentered : .entered node.id :: w.trail i.id = u.trail i.id := by
    rw [hu, World.trail_atNode_self]
  have hran' : u.trail i.id <:+ v.trail i.id := by
    cases htimer with
    | kept hkept _ => exact hkept.trail i.id
    | armed _ _ _ _ hv =>
      rw [hv]
      exact (u.undisturbed_note i.id _).trail i.id
  have hleft : v.trail i.id <:+ w'.trail i.id := by
    split at hw'
    · rw [hw']
      exact (v.undisturbed_note _ _).trail i.id
    · exact hw'.symm ▸ List.suffix_refl _
  rw [hentered]
  exact ⟨hran, hran'.trans hleft⟩

/-- An instance that passes nodes is still the same and running, and stays only on a block that may
wait. -/
theorem passNodes_yields (hservice : service.Keeps c World.Undisturbed)
    (hcell : i.graph < w.library.cells.length) (steps : Nat) {i₁ : Instance} {w₁ : World}
    (hsame : i.Same i₁) (hstatus : i₁.status = i.status) (hw : w.Undisturbed w₁) :
    (passNodes s dt steps i₁).Yields service c World.Undisturbed w₁ fun r w₂ =>
      i.Same r.2 ∧ r.2.status = i.status ∧ (r.1 = .stayed → w.MeetsWait w₂ i) := by
  induction steps generalizing i₁ w₁ with
  | zero => exact .done World.undisturbed_steady ⟨hsame, hstatus, nofun⟩
  | succ steps ih =>
    refine .read ?_
    dsimp only
    cases hfind : (w₁.library.read i₁.graph).find? i₁.cursor with
    | none => exact .done World.undisturbed_steady ⟨hsame, hstatus, nofun⟩
    | some node =>
      refine .bind World.undisturbed_steady (visit_undisturbed hservice i₁ _ node)
        fun r w₂ hw₂ hr => ?_
      obtain ⟨outcome, i₂⟩ := r
      obtain ⟨hran, htrail⟩ := hr
      obtain ⟨hsame₂, -, hstatus₂⟩ := hran.stands
      have hsame' : i.Same i₂ := hsame.trans hsame₂
      have hstatus' : i₂.status = i.status := hstatus₂.trans hstatus
      cases outcome with
      | stay =>
        refine .done World.undisturbed_steady ⟨hsame', hstatus', fun _ => ?_⟩
        -- The node was entered on the way, and its graph has not changed.
        rw [hsame.id] at htrail
        obtain ⟨before, hbefore⟩ := hw.trail i.id
        obtain ⟨after, hafter⟩ := htrail
        refine ⟨after ++ .entered node.id :: before, ?_, node.id, node, ?_, ?_, hran.stay rfl⟩
        · rw [← hafter, ← hbefore, List.append_assoc, List.cons_append]
        · exact List.mem_append_right _ List.mem_cons_self
        · have hskeleton := World.skeletonOf_keep hw.graphs hcell
          have hid : (w₁.skeletonOf i.graph).find? node.id = some node := by
            rw [Graph.find?_id hfind, ← hsame.graph]
            exact hfind
          rw [← hskeleton]
          exact hid
      | finish error => exact .done World.undisturbed_steady ⟨hsame', hstatus', nofun⟩
      | leave port =>
        dsimp only
        cases (w₁.library.read i₁.graph).next? node.id port with
        | none => exact .done World.undisturbed_steady ⟨hsame', hstatus', nofun⟩
        | some next =>
          have hmoved : i.Same { i₂ with cursor := next } :=
            ⟨hsame'.id, hsame'.entity, hsame'.moduleId, hsame'.graph⟩
          exact ih hmoved hstatus' (World.undisturbed_steady.trans hw hw₂)

end Instance

/-! ## Trails in an update -/

/-- Behaviours that take nothing away from trails. -/
def Conduct.trailing : Conduct where
  step w w' := ∀ id, w.trail id <:+ w'.trail id

theorem Conduct.trailing_keeps :
    Conduct.trailing.Keeps fun w w' => ∀ id, w.trail id <:+ w'.trail id where
  refl _ _ := List.suffix_refl _
  trans h h' id := (h id).trans (h' id)
  step h := h
  rely _ := trivial
  emitted _ _ _ := List.suffix_refl _
  part h := h.elim

theorem Conduct.trailing_relies : Conduct.trailing.Relies where
  refl _ := trivial
  trans _ _ := trivial
  step _ := trivial

theorem Conduct.undisturbing_within_trailing : Conduct.undisturbing.Within .trailing where
  step h := h.trail
  part h := h.elim
  announces h := h
  performs h := h
  checks h := h
  registers h := h
  rely _ := trivial

/-- The turns of an update add to trails. -/
theorem Conduct.working_within_trailing : Conduct.working.Within .trailing where
  step h := by
    cases h with
    | note id e => exact (World.undisturbed_note _ id e).trail
    | write h => exact (World.undisturbed_writes h).trail
    | sense entity data =>
      intro id
      exact ((World.situationFor_sameModules _ entity data).trail id).symm ▸ List.suffix_refl _
  part h := h.elim
  announces := nofun
  performs h := h
  checks := nofun
  registers := nofun
  rely _ := trivial

theorem updateModules_trails (time dt : Float) (w : World) :
    (updateModules time dt).Obeys .trailing w := by
  refine .read (.write (fun id => List.suffix_refl (w.trail id)) ?_)
  refine .bind Conduct.trailing_relies ?_ fun r w' _ =>
    .read (.write (fun id => List.suffix_refl (w'.trail id)) .done)
  exact (stepAll_works dt _ _).mono Conduct.trailing_relies Conduct.working_within_trailing

end SceneLogic
