import SceneLogic.Dict

/-!
# Names of alternatives

The alternatives of a small type have names in definition texts and in reports. A name table
lists them; an alternative may have several names, of which the first is the one to report.
-/

namespace SceneLogic

/-- Alternatives with their names. -/
abbrev Names (α : Type) := Dict String α

/-- The alternatives of the type have names. -/
class Named (α : Type) where
  names : Names α

namespace Names

variable {α : Type}

/-- The alternative of a name. -/
def find? (names : Names α) (name : String) : Option α :=
  Dict.get? names name

/-- The first name of an alternative. -/
def nameOf? [DecidableEq α] (names : Names α) (a : α) : Option String :=
  (List.find? (fun e : String × α => e.2 = a) names).map (·.1)

/-- The first name of an alternative leads back to it, if no name stands for two. -/
theorem find?_nameOf? [DecidableEq α] {names : Names α} (h : Dict.Unique names) {a : α}
    {name : String} (hn : names.nameOf? a = some name) : names.find? name = some a := by
  induction names with
  | nil => simp [nameOf?] at hn
  | cons e rest ih =>
    obtain ⟨k, b⟩ := e
    simp only [nameOf?, List.find?_cons] at hn
    by_cases hb : b = a
    · simp [hb] at hn
      simp [find?, Dict.get?, hn, hb]
    · simp only [hb, decide_false] at hn
      simp only [Dict.Unique, Dict.keys, List.map_cons, List.nodup_cons] at h
      have hmem : name ∈ Dict.keys rest := by
        obtain ⟨p, hp, rfl⟩ := Option.map_eq_some_iff.1 hn
        exact List.mem_map.2 ⟨p, List.mem_of_find?_eq_some hp, rfl⟩
      have hne : k ≠ name := fun hk => h.1 (hk ▸ hmem)
      have := ih h.2 hn
      simpa [find?, Dict.get?, hne] using this

end Names

end SceneLogic
