import Mathlib.Data.List.Perm.Subperm
import SceneLogic.Proofs.Number.Equality
import SceneLogic.Proofs.Values.Nesting

/-!
# Permissive equality is symmetric

What two values are compared by depends on both of them, and a map looks for its own keys in the
other one only. Neither tells the two sides apart. A flag and a text are compared in one way,
whichever comes first; all that is left to the numbers depends on their distance; and two maps that
have equally many keys, each of them once, have the same keys if one has those of the other.

* `agrees_comm` — permissive equality does not depend on the order of the two values
-/

namespace SceneLogic

theorem Point.equal_comm (p q : Point) : (p == q) = (q == p) :=
  congrArg₂ and (Number.equal_comm p.x q.x) (Number.equal_comm p.y q.y)

namespace Value

theorem closeNumbers_comm (a b : Value) : closeNumbers a b = closeNumbers b a := by
  unfold closeNumbers
  cases a.number? with
  | none => cases b.number? <;> rfl
  | some x =>
    cases b.number? with
    | none => rfl
    | some y =>
      dsimp only
      rw [Number.sub_abs_swap]

/-- A key that a map has is a key of every map of as many keys in which it finds its own. -/
theorem mem_keys_of_agreeFields {as bs : Params} (hunique : Dict.Unique as)
    (hlength : as.length = bs.length) (h : agreeFields as bs = true) {k : String}
    (hk : k ∈ Dict.keys bs) : k ∈ Dict.keys as := by
  have hsub : Dict.keys as ⊆ Dict.keys bs := by
    intro l hl
    obtain ⟨f, hf, rfl⟩ := List.mem_map.mp hl
    obtain ⟨b, hget, -⟩ := agreeFields_iff.mp h f hf
    exact List.mem_map.mpr ⟨_, Dict.mem_of_get? hget, rfl⟩
  have hperm : (Dict.keys as).Perm (Dict.keys bs) :=
    (List.subperm_of_subset hunique hsub).perm_of_length_le (by simp [Dict.keys, hlength])
  exact hperm.mem_iff.mpr hk

/-- Maps agree the other way round where their values do. -/
theorem agreeFields_symm {as bs : Params} (ha : Dict.Unique as) (hb : Dict.Unique bs)
    (hlength : as.length = bs.length)
    (hcomm : ∀ f ∈ as, ∀ g ∈ bs, f.2.agrees g.2 = g.2.agrees f.2)
    (h : agreeFields as bs = true) : agreeFields bs as = true := by
  refine agreeFields_iff.mpr fun g hg => ?_
  have hkey : g.1 ∈ Dict.keys as :=
    mem_keys_of_agreeFields ha hlength h (List.mem_map.mpr ⟨g, hg, rfl⟩)
  obtain ⟨f, hf, hname⟩ := List.mem_map.mp hkey
  obtain ⟨b, hget, hagrees⟩ := agreeFields_iff.mp h f hf
  -- What `f` finds is the one field of its name.
  obtain rfl : g.2 = b := by
    rw [hname, Dict.get?_of_mem hb hg] at hget
    exact Option.some.inj hget
  refine ⟨f.2, ?_, ?_⟩
  · rw [← hname]
    exact Dict.get?_of_mem ha hf
  · rw [← hcomm f hf g hg]
    exact hagrees

theorem agreeItems_comm {as bs : List Value}
    (hcomm : ∀ a ∈ as, ∀ b ∈ bs, a.agrees b = b.agrees a) :
    agreeItems as bs = agreeItems bs as := by
  induction as generalizing bs with
  | nil => cases bs <;> rfl
  | cons a as ih =>
    cases bs with
    | nil => rfl
    | cons b bs =>
      have hrest : agreeItems as bs = agreeItems bs as := ih fun a' ha' b' hb' =>
        hcomm a' (List.mem_cons_of_mem _ ha') b' (List.mem_cons_of_mem _ hb')
      rw [agreeItems, agreeItems, hcomm a List.mem_cons_self b List.mem_cons_self, hrest]

/-- Permissive equality does not depend on the order of the two values. -/
theorem agrees_comm {a b : Value} (ha : a.Keyed) (hb : b.Keyed) : a.agrees b = b.agrees a := by
  induction a using Value.nested generalizing b with
  | null => cases b <;> simp only [agrees]
  | bool x =>
    cases b with
    | bool y => simp only [agrees, Bool.beq_comm]
    | _ => simp only [agrees, closeNumbers_comm]
  | int i => cases b <;> simp only [agrees, closeNumbers_comm]
  | float x => cases b <;> simp only [agrees, closeNumbers_comm]
  | text s =>
    cases b with
    | text t => simp only [agrees, Bool.beq_comm]
    | _ => simp only [agrees, closeNumbers_comm]
  | point p =>
    cases b with
    | point q => simp only [agrees, Point.equal_comm]
    | _ => simp only [agrees, closeNumbers_comm]
  | list as ih =>
    cases b with
    | list bs =>
      cases ha with
      | list ha =>
        cases hb with
        | list hb =>
          simp only [agrees]
          exact agreeItems_comm fun v hv w hw => ih v hv (ha v hv) (hb w hw)
    | _ => simp only [agrees, closeNumbers_comm]
  | map as ih =>
    cases b with
    | map bs =>
      cases ha with
      | map huniqueA ha =>
        cases hb with
        | map huniqueB hb =>
          have hcomm : ∀ f ∈ as, ∀ g ∈ bs, f.2.agrees g.2 = g.2.agrees f.2 :=
            fun f hf g hg => ih f hf (ha f hf) (hb g hg)
          rw [Bool.eq_iff_iff]
          simp only [agrees, Bool.and_eq_true, beq_iff_eq]
          constructor
          · rintro ⟨hlength, h⟩
            exact ⟨hlength.symm, agreeFields_symm huniqueA huniqueB hlength hcomm h⟩
          · rintro ⟨hlength, h⟩
            exact ⟨hlength.symm, agreeFields_symm huniqueB huniqueA hlength
              (fun g hg f hf => (hcomm f hf g hg).symm) h⟩
    | _ => simp only [agrees, closeNumbers_comm]

/-- A flag and its word, a number and its text agree either way round, and so do maps that have them
in different orders. -/
theorem chests_agree_comm :
    let chest := Value.map [("gold", .text "5"), ("items", .list [.bool true, .null, .float 0.5])]
    let sack := Value.map [("items", .list [.text "TRUE", .null, .text " .5"]), ("gold", .int 5)]
    chest.agrees sack = true ∧ sack.agrees chest = true := by
  intro chest sack
  have hchest : chest.Keyed := by
    refine .map (by unfold Dict.Unique; decide) ?_
    simp only [List.forall_mem_cons]
    refine ⟨.text _, .list ?_, fun f hf => absurd hf List.not_mem_nil⟩
    simp only [List.forall_mem_cons]
    exact ⟨.bool true, .null, .float _, fun v hv => absurd hv List.not_mem_nil⟩
  have hsack : sack.Keyed := by
    refine .map (by unfold Dict.Unique; decide) ?_
    simp only [List.forall_mem_cons]
    refine ⟨.list ?_, .int 5, fun f hf => absurd hf List.not_mem_nil⟩
    simp only [List.forall_mem_cons]
    exact ⟨.text _, .null, .text _, fun v hv => absurd hv List.not_mem_nil⟩
  have hagrees : chest.agrees sack = true := by decide +kernel
  exact ⟨hagrees, (agrees_comm hchest hsack).symm.trans hagrees⟩

end Value

end SceneLogic
