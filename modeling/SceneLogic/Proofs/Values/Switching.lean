import SceneLogic.Module.Run
import SceneLogic.Proofs.Number.Equality
import SceneLogic.Proofs.Number.Numerals
import SceneLogic.Value.Equality

/-!
# What a switch compares

A switch compares a value with a case by number if both have one, else by truth value if both have
one, else by text. What a value is compared by seems to depend on the case, but it does not: with
what is not of its kind a value never matches. What counts as a number is written as one, what
counts as a truth value is written as one, and no text is both.

So each value has a key of its own (`switchKey`), and it selects the cases that have the same key.

* `selects_eq_same` — to select a case is to have its key
* `cases_are_classes` — selecting is symmetric and transitive, and a switch is left by the port of
  the first case of the value's class
-/

namespace SceneLogic

/-! ## Words -/

/-- A letter is the lower case of itself and of the upper case letter. -/
theorem Text.eq_or_eq_upper {c lower : Char} (upper : Char) (h : c.toLower = lower)
    (hupper : lower.val - 32 = upper.val) : c = lower ∨ c = upper := by
  unfold Char.toLower at h
  split at h
  · refine Or.inr (Char.ext ?_)
    rw [← hupper]
    exact eq_sub_of_add_eq (congrArg Char.val h)
  · exact Or.inl h

namespace Value

theorem head_of_sameIgnoringCase {s word : String} {d : Char} {rest : List Char}
    (hword : word.toList.map Char.toLower = d :: rest)
    (h : Text.sameIgnoringCase s word = true) :
    ∃ c rest', s.toList = c :: rest' ∧ c.toLower = d := by
  have hmap : s.toList.map Char.toLower = d :: rest := (beq_iff_eq.mp h).trans hword
  obtain ⟨c, rest', hs, hc, -⟩ := List.map_eq_cons_iff.mp hmap
  exact ⟨c, rest', hs, hc⟩

/-- The word for a truth value is no number. -/
theorem textNumber?_of_truthWord? {s : String} {b : Bool} (h : truthWord? s = some b) :
    textNumber? s = none := by
  unfold truthWord? at h
  split_ifs at h with htrue hfalse
  · obtain ⟨c, rest, hs, hc⟩ := head_of_sameIgnoringCase rfl htrue
    rcases Text.eq_or_eq_upper 'T' hc rfl with rfl | rfl
    · exact Number.read?_trim_of_head hs rfl rfl
    · exact Number.read?_trim_of_head hs rfl rfl
  · obtain ⟨c, rest, hs, hc⟩ := head_of_sameIgnoringCase rfl hfalse
    rcases Text.eq_or_eq_upper 'F' hc rfl with rfl | rfl
    · exact Number.read?_trim_of_head hs rfl rfl
    · exact Number.read?_trim_of_head hs rfl rfl

theorem truthWord?_of_head {s : String} {c : Char} {rest : List Char} (hs : s.toList = c :: rest)
    (htrue : c.toLower ≠ 't') (hfalse : c.toLower ≠ 'f') : truthWord? s = none := by
  have hword : ∀ {word d rest}, word.toList.map Char.toLower = d :: rest → c.toLower ≠ d →
      ¬ Text.sameIgnoringCase s word = true := by
    intro word d rest hword hne h
    obtain ⟨c', rest', hs', hc'⟩ := head_of_sameIgnoringCase hword h
    rw [hs] at hs'
    obtain ⟨rfl, -⟩ := List.cons.inj hs'
    exact hne hc'
  rw [truthWord?, if_neg (hword rfl htrue), if_neg (hword rfl hfalse)]

/-! ## Bare texts -/

theorem plainText_point (p : Point) : ∃ rest, (plainText (.point p)).toList = '(' :: rest := by
  simp [plainText, render, Point.render]

theorem plainText_list (items : List Value) :
    ∃ rest, (plainText (.list items)).toList = '[' :: rest := by
  simp [plainText, render]

theorem plainText_map (fields : List (String × Value)) :
    ∃ rest, (plainText (.map fields)).toList = '\x7b' :: rest := by
  simp [plainText, render]

/-- The bare text of a value is a number where the value counts as one. -/
theorem isSome_textNumber?_plainText (v : Value) :
    (textNumber? v.plainText).isSome = v.switchNumber?.isSome := by
  cases v with
  | null => rfl
  | bool b => cases b <;> rfl
  | int i => exact Number.read?_trim_toString i.toInt
  | float x => exact Number.read?_trim_render x
  | text s => rfl
  | point p =>
    obtain ⟨rest, hp⟩ := plainText_point p
    exact congrArg Option.isSome (Number.read?_trim_of_head hp rfl rfl)
  | list items =>
    obtain ⟨rest, hitems⟩ := plainText_list items
    exact congrArg Option.isSome (Number.read?_trim_of_head hitems rfl rfl)
  | map fields =>
    obtain ⟨rest, hfields⟩ := plainText_map fields
    exact congrArg Option.isSome (Number.read?_trim_of_head hfields rfl rfl)

/-- What counts as a number counts as no truth value. -/
theorem switchFlag?_of_switchNumber? {v : Value} (h : v.switchNumber?.isSome = true) :
    v.switchFlag? = none := by
  cases v with
  | bool b => cases h
  | text s =>
    cases hflag : truthWord? s with
    | none => exact hflag
    | some b =>
      have hnone : switchNumber? (.text s) = none := textNumber?_of_truthWord? hflag
      rw [hnone] at h
      cases h
  | _ => rfl

/-- The bare text of a value is the word for the truth value that it counts as. -/
theorem truthWord?_plainText (v : Value) : truthWord? v.plainText = v.switchFlag? := by
  have hnumber : v.switchNumber?.isSome = true → truthWord? v.plainText = none := by
    intro h
    rw [← isSome_textNumber?_plainText] at h
    exact switchFlag?_of_switchNumber? (v := .text v.plainText) h
  cases v with
  | null => rfl
  | bool b => cases b <;> rfl
  | int i => exact hnumber rfl
  | float x => exact hnumber rfl
  | text s => rfl
  | point p =>
    obtain ⟨rest, hp⟩ := plainText_point p
    exact truthWord?_of_head hp (by decide) (by decide)
  | list items =>
    obtain ⟨rest, hitems⟩ := plainText_list items
    exact truthWord?_of_head hitems (by decide) (by decide)
  | map fields =>
    obtain ⟨rest, hfields⟩ := plainText_map fields
    exact truthWord?_of_head hfields (by decide) (by decide)

end Value

/-! ## Keys -/

/-- What a switch compares a value by. -/
inductive SwitchKey where
  | number (x : Float)
  | flag (b : Bool)
  | word (s : String)

/-- The keys are of one kind and equal. -/
def SwitchKey.same : SwitchKey → SwitchKey → Bool
  | .number x, .number y => x == y
  | .flag a, .flag b => a == b
  | .word s, .word t => s == t
  | _, _ => false

/-- The number that a value counts as, else its truth value, else its text. -/
def Value.switchKey (v : Value) : SwitchKey :=
  match v.switchNumber?, v.switchFlag? with
  | some x, _ => .number x
  | none, some b => .flag b
  | none, none => .word v.plainText

theorem Value.switchKey_eq_number_iff {v : Value} {x : Float} :
    v.switchKey = .number x ↔ v.switchNumber? = some x := by
  unfold switchKey
  cases v.switchNumber? with
  | some y => simp
  | none => cases v.switchFlag? <;> simp

theorem SwitchKey.same_comm (k l : SwitchKey) : k.same l = l.same k := by
  cases k <;> cases l <;> first
    | rfl
    | exact Number.equal_comm _ _
    | exact Bool.beq_comm

theorem SwitchKey.same_trans {k l m : SwitchKey} (hkl : k.same l = true) (hlm : l.same m = true) :
    k.same m = true := by
  cases k with
  | number x =>
    cases l with
    | number y =>
      cases m with
      | number z => exact Number.equal_trans hkl hlm
      | _ => cases hlm
    | _ => cases hkl
  | flag a =>
    cases l with
    | flag b =>
      obtain rfl := beq_iff_eq.mp hkl
      exact hlm
    | _ => cases hkl
  | word s =>
    cases l with
    | word t =>
      obtain rfl := beq_iff_eq.mp hkl
      exact hlm
    | _ => cases hkl

namespace Value

variable {a b : Value}

/-- Values of different kinds have different texts. -/
theorem plainText_ne_of_number (h : a.switchNumber?.isSome ≠ b.switchNumber?.isSome) :
    (a.plainText == b.plainText) = false := by
  rw [beq_eq_false_iff_ne]
  intro htext
  rw [← isSome_textNumber?_plainText, ← isSome_textNumber?_plainText, htext] at h
  exact h rfl

theorem plainText_ne_of_flag (h : a.switchFlag? ≠ b.switchFlag?) :
    (a.plainText == b.plainText) = false := by
  rw [beq_eq_false_iff_ne]
  intro htext
  rw [← truthWord?_plainText, ← truthWord?_plainText, htext] at h
  exact h rfl

/-- To select a case is to have its key. -/
theorem selects_eq_same (a b : Value) : a.selects b = a.switchKey.same b.switchKey := by
  have hflagA := switchFlag?_of_switchNumber? (v := a)
  have hflagB := switchFlag?_of_switchNumber? (v := b)
  have htextN := plainText_ne_of_number (a := a) (b := b)
  have htextF := plainText_ne_of_flag (a := a) (b := b)
  unfold selects switchKey
  cases hna : a.switchNumber? with
  | some x =>
    rw [hna] at hflagA htextN
    rw [hflagA rfl]
    cases hnb : b.switchNumber? with
    | some y => rfl
    | none =>
      rw [hnb] at htextN
      cases hfb : b.switchFlag? <;> exact htextN Bool.noConfusion
  | none =>
    rw [hna] at htextN
    cases hnb : b.switchNumber? with
    | some y =>
      rw [hnb] at hflagB htextN
      rw [hflagB rfl]
      cases hfa : a.switchFlag? <;> exact htextN Bool.noConfusion
    | none =>
      cases hfa : a.switchFlag? with
      | some f =>
        rw [hfa] at htextF
        cases hfb : b.switchFlag? with
        | some g => rfl
        | none => exact htextF (hfb ▸ Option.some_ne_none f)
      | none =>
        rw [hfa] at htextF
        cases hfb : b.switchFlag? with
        | some g => exact htextF (hfb ▸ (Option.some_ne_none g).symm)
        | none => rfl

/-! ## Cases -/

theorem selects_comm (a b : Value) : a.selects b = b.selects a := by
  rw [selects_eq_same, selects_eq_same, SwitchKey.same_comm]

theorem selects_trans {a b c : Value} (hab : a.selects b = true) (hbc : b.selects c = true) :
    a.selects c = true := by
  rw [selects_eq_same] at hab hbc ⊢
  exact SwitchKey.same_trans hab hbc

/-- Values that select each other select the same. -/
theorem selects_congr {a b : Value} (h : a.selects b = true) (c : Value) :
    a.selects c = b.selects c := by
  rw [Bool.eq_iff_iff]
  exact ⟨selects_trans (selects_comm a b ▸ h), selects_trans h⟩

end Value

/-- The first case that a value selects is the one by which a switch is left. -/
theorem chosenPort_append {v : Value} {before after : List SwitchCase} {c : SwitchCase}
    (h : v.selects c.value = true) (hbefore : ∀ d ∈ before, v.selects d.value = false) :
    Instance.chosenPort v (before ++ c :: after) = c.port := by
  have hnone : before.find? (fun d => v.selects d.value) = none :=
    List.find?_eq_none.mpr fun d hd => by rw [hbefore d hd]; exact Bool.false_ne_true
  have hfirst : (c :: after).find? (fun d => v.selects d.value) = some c :=
    List.find?_cons_of_pos h
  unfold Instance.chosenPort
  rw [List.find?_append, hnone, hfirst]
  rfl

/-- Selecting is symmetric and transitive, so that the cases that one value selects select each
other, and a switch is left by the port of the first case of its class, whichever value of the class
comes. -/
theorem cases_are_classes :
    (∀ a b : Value, a.selects b = b.selects a) ∧
      (∀ a b c : Value, a.selects b = true → b.selects c = true → a.selects c = true) ∧
      (∀ v c d : Value, v.selects c = true → v.selects d = true → c.selects d = true) ∧
      (∀ (v w : Value) (cases : List SwitchCase), v.selects w = true →
        Instance.chosenPort v cases = Instance.chosenPort w cases) ∧
      ∀ (v : Value) (before after : List SwitchCase) (c : SwitchCase), v.selects c.value = true →
        (∀ d ∈ before, c.value.selects d.value = false) →
        Instance.chosenPort v (before ++ c :: after) = c.port := by
  refine ⟨Value.selects_comm, fun _ _ _ => Value.selects_trans, fun v c d hc hd => ?_,
    fun v w cases h => ?_, fun v before after c h hbefore => ?_⟩
  · rw [← Value.selects_congr hc]
    exact hd
  · unfold Instance.chosenPort
    simp only [Value.selects_congr h]
  · refine chosenPort_append h fun d hd => ?_
    rw [Value.selects_congr h]
    exact hbefore d hd

/-- A number and the texts of it are one class, and the first case of that is taken. -/
theorem fives_are_a_class :
    (Value.text "5").selects (.int 5) = (Value.int 5).selects (.text "5") ∧
      (Value.text " 5.0").selects (.text "5") = true ∧
      (Value.int 5).selects (.text "5e0") = true ∧
      Instance.chosenPort (.text " 5.0") [⟨.text "5", "five"⟩] =
        Instance.chosenPort (.int 5) [⟨.text "5", "five"⟩] ∧
      Instance.chosenPort (.int 5) ([⟨.text "five", "word"⟩] ++ ⟨.text "5", "five"⟩ ::
        [⟨.int 5, "number"⟩]) = "five" := by
  obtain ⟨hsymm, htrans, hclass, hport, hfirst⟩ := cases_are_classes
  refine ⟨hsymm _ _, htrans (.text " 5.0") (.int 5) (.text "5") ?_ ?_,
    hclass (.text "5") (.int 5) (.text "5e0") ?_ ?_, hport (.text " 5.0") (.int 5) _ ?_,
    hfirst (.int 5) [⟨.text "five", "word"⟩] [⟨.int 5, "number"⟩] ⟨.text "5", "five"⟩ ?_ ?_⟩
  · decide +kernel
  · decide +kernel
  · decide +kernel
  · decide +kernel
  · decide +kernel
  · decide +kernel
  · decide +kernel

end SceneLogic
