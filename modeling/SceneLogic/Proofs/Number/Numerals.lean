import Mathlib.Data.List.TakeWhile
import Mathlib.Tactic.Set
import Mathlib.Tactic.SplitIfs
import SceneLogic.Number.Reading
import SceneLogic.Number.Shortest
import SceneLogic.Text.Blank

/-!
# Texts of numbers

Every text that is written for a number is read as one. Of the other texts, those that begin with a
character that no number begins with are read as none.

* `read?_trim_toString`, `read?_trim_render` — integers and doubles are read back as numbers
* `read?_trim_of_head` — the first character of a text may tell that it is no number
-/

namespace SceneLogic

namespace Text

theorem trim_of_blankless {s : String} (h : ∀ c ∈ s.toList, isBlank c = false) : trim s = s := by
  have hdrop : ∀ l : List Char, (∀ c ∈ l, isBlank c = false) → l.dropWhile isBlank = l := by
    intro l hl
    rw [List.dropWhile_eq_self_iff]
    intro hlength
    rw [hl _ (List.getElem_mem hlength)]
    exact Bool.false_ne_true
  rw [trim, trimList, hdrop _ h, hdrop _ fun c hc => h c (List.mem_reverse.mp hc),
    List.reverse_reverse, String.ofList_toList]

/-- The first character stays if it is no blank. -/
theorem toList_trim_cons {s : String} {c : Char} {rest : List Char} (hs : s.toList = c :: rest)
    (hc : isBlank c = false) : ∃ rest', (trim s).toList = c :: rest' := by
  have hfront : s.toList.dropWhile isBlank = c :: rest := by
    rw [hs, List.dropWhile_cons_of_neg (by rw [hc]; exact Bool.false_ne_true)]
  rw [trim, String.toList_ofList, trimList, hfront, List.reverse_cons, List.dropWhile_append]
  split_ifs
  · refine ⟨[], ?_⟩
    rw [List.dropWhile_cons_of_neg (by rw [hc]; exact Bool.false_ne_true)]
    rfl
  · rw [List.reverse_append]
    exact ⟨_, rfl⟩

theorem isBlank_of_isDigit {c : Char} (h : c.isDigit = true) : isBlank c = false := by
  simp only [Char.isDigit, Bool.and_eq_true, decide_eq_true_eq] at h
  have hlow : 48 ≤ c.toNat := h.1
  have hhigh : c.toNat ≤ 57 := h.2
  simp [isBlank]
  omega

end Text

namespace Number

/-! ## Digits and points -/

/-- Digits, and maybe a point with more digits after them. -/
inductive Positional : List Char → Prop
  | whole {whole : List Char} (hsome : whole ≠ []) (hwhole : ∀ c ∈ whole, c.isDigit = true) :
      Positional whole
  | point {whole fraction : List Char} (hsome : whole ≠ [])
      (hwhole : ∀ c ∈ whole, c.isDigit = true) (hfraction : ∀ c ∈ fraction, c.isDigit = true) :
      Positional (whole ++ '.' :: fraction)

variable {text : List Char}

theorem Positional.splitDigits (h : Positional text) :
    ∃ whole fraction, whole ≠ [] ∧ splitDigits text = (whole, fraction, []) := by
  cases h with
  | whole hsome hwhole =>
    refine ⟨text, [], hsome, ?_⟩
    unfold Number.splitDigits
    rw [List.takeWhile_eq_self_iff.mpr hwhole, List.dropWhile_eq_nil_iff.mpr hwhole]
  | @point whole fraction hsome hwhole hfraction =>
    refine ⟨whole, fraction, hsome, ?_⟩
    unfold Number.splitDigits
    rw [List.takeWhile_append_of_pos hwhole, List.dropWhile_append_of_pos hwhole]
    simp [List.takeWhile_eq_self_iff.mpr hfraction, List.dropWhile_eq_nil_iff.mpr hfraction]

theorem Positional.readUnsigned? (h : Positional text) : (readUnsigned? text).isSome = true := by
  obtain ⟨whole, fraction, hsome, hsplit⟩ := h.splitDigits
  unfold Number.readUnsigned?
  rw [hsplit]
  dsimp only
  split_ifs with _ _ hnone
  · rfl
  · rfl
  · exact absurd (List.isEmpty_iff.mp hnone.1) hsome
  · rfl

theorem Positional.exists_cons (h : Positional text) :
    ∃ c rest, text = c :: rest ∧ c.isDigit = true := by
  cases h with
  | whole hsome hwhole =>
    obtain ⟨c, rest, rfl⟩ := List.exists_cons_of_ne_nil hsome
    exact ⟨c, rest, rfl, hwhole c List.mem_cons_self⟩
  | point hsome hwhole _ =>
    obtain ⟨c, rest, rfl⟩ := List.exists_cons_of_ne_nil hsome
    exact ⟨c, _, rfl, hwhole c List.mem_cons_self⟩

theorem Positional.isBlank (h : Positional text) : ∀ c ∈ text, Text.isBlank c = false := by
  cases h with
  | whole _ hwhole => exact fun c hc => Text.isBlank_of_isDigit (hwhole c hc)
  | point _ hwhole hfraction =>
    intro c hc
    rcases List.mem_append.mp hc with hc | hc
    · exact Text.isBlank_of_isDigit (hwhole c hc)
    · rcases List.mem_cons.mp hc with rfl | hc
      · rfl
      · exact Text.isBlank_of_isDigit (hfraction c hc)

theorem splitSign_cons {c : Char} (hminus : c ≠ '-') (hplus : c ≠ '+') (rest : List Char) :
    splitSign (c :: rest) = (false, c :: rest) := by
  unfold splitSign
  split
  · next heq => exact absurd (List.cons.inj heq).1 hminus
  · next heq => exact absurd (List.cons.inj heq).1 hplus
  · rfl

theorem read?_eq (s : String) : Number.read? s = (Number.readUnsigned? (splitSign s.toList).2).map
    fun x => if (splitSign s.toList).1 then -x else x :=
  rfl

/-- Digits are a number without a sign. -/
theorem Positional.read? (h : Positional text) : (read? (String.ofList text)).isSome = true := by
  obtain ⟨c, rest, rfl, hc⟩ := h.exists_cons
  have hminus : c ≠ '-' := by
    rintro rfl
    exact absurd hc (by decide)
  have hplus : c ≠ '+' := by
    rintro rfl
    exact absurd hc (by decide)
  rw [read?_eq, String.toList_ofList, splitSign_cons hminus hplus, Option.isSome_map]
  exact h.readUnsigned?

/-- So are digits after a hyphen. -/
theorem Positional.read?_neg (h : Positional text) :
    (Number.read? (String.ofList ('-' :: text))).isSome = true := by
  rw [read?_eq, String.toList_ofList, Option.isSome_map]
  exact h.readUnsigned?

/-- Digits with a hyphen or without are read even where blanks would be dropped. -/
theorem Positional.read?_trim (h : Positional text) :
    (Number.read? (Text.trim (String.ofList text))).isSome = true ∧
      (Number.read? (Text.trim (String.ofList ('-' :: text)))).isSome = true := by
  have hplain : ∀ c ∈ (String.ofList text).toList, Text.isBlank c = false := by
    rw [String.toList_ofList]
    exact h.isBlank
  have hminus : ∀ c ∈ (String.ofList ('-' :: text)).toList, Text.isBlank c = false := by
    rw [String.toList_ofList]
    exact List.forall_mem_cons.mpr ⟨rfl, h.isBlank⟩
  rw [Text.trim_of_blankless hplain, Text.trim_of_blankless hminus]
  exact ⟨h.read?, h.read?_neg⟩

/-! ## Written numbers -/

theorem isDigit_of_mem_toDigits {n : Nat} : ∀ c ∈ Nat.toDigits 10 n, c.isDigit = true :=
  fun _ => Nat.isDigit_of_mem_toDigits (by decide) (by decide)

theorem positional_toDigits (n : Nat) : Positional (Nat.toDigits 10 n) :=
  .whole Nat.toDigits_ne_nil isDigit_of_mem_toDigits

/-- An integer is read back as a number. -/
theorem read?_trim_toString (n : Int) : (read? (Text.trim (toString n))).isSome = true := by
  cases n with
  | ofNat n => exact (positional_toDigits n).read?_trim.1
  | negSucc n =>
    have htext : toString (Int.negSucc n) = String.ofList ('-' :: Nat.toDigits 10 n.succ) := by
      rw [← String.toList_inj]
      simp [Int.toString_eq_repr, Int.repr]
    rw [htext]
    exact (positional_toDigits n.succ).read?_trim.2

theorem isDigit_of_mem_replicate {k : Nat} : ∀ c ∈ List.replicate k '0', c.isDigit = true := by
  intro c hc
  rw [List.eq_of_mem_replicate hc]
  rfl

theorem mem_of_mem_dropTrailingZeros {digits : List Char} {c : Char}
    (h : c ∈ dropTrailingZeros digits) : c ∈ digits := by
  unfold dropTrailingZeros at h
  exact List.mem_reverse.mp ((List.dropWhile_suffix _).mem (List.mem_reverse.mp h))

theorem positional_digitsText (d : Decimal) : Positional d.digitsText := by
  unfold Decimal.digitsText
  dsimp only
  split_ifs with hwhole
  · refine .whole (by simp [Nat.toDigits_ne_nil]) fun c hc => ?_
    rcases List.mem_append.mp hc with hc | hc
    · exact isDigit_of_mem_toDigits c hc
    · exact isDigit_of_mem_replicate c hc
  · -- The whole part has a digit, for there are more digits than places.
    set places := (-d.exponent).toNat
    set padded := List.replicate (places + 1 - (Nat.toDigits 10 d.digits).length) '0' ++
      Nat.toDigits 10 d.digits
    have hlength : places < padded.length := by
      simp only [padded, List.length_append, List.length_replicate]
      omega
    have hdigits : ∀ c ∈ padded, c.isDigit = true := by
      intro c hc
      rcases List.mem_append.mp hc with hc | hc
      · exact isDigit_of_mem_replicate c hc
      · exact isDigit_of_mem_toDigits c hc
    have hsome : padded.take (padded.length - places) ≠ [] := by
      rw [ne_eq, List.take_eq_nil_iff]
      rintro (hzero | hnil)
      · omega
      · rw [hnil] at hlength
        exact absurd hlength (Nat.not_lt_zero _)
    have hwhole : ∀ c ∈ padded.take (padded.length - places), c.isDigit = true :=
      fun c hc => hdigits c (List.mem_of_mem_take hc)
    cases hfraction : dropTrailingZeros (padded.drop (padded.length - places)) with
    | nil => exact .whole hsome hwhole
    | cons f rest =>
      refine .point hsome hwhole fun c hc => ?_
      exact hdigits c (List.mem_of_mem_drop (mem_of_mem_dropTrailingZeros (hfraction ▸ hc)))

/-- The text of a double that is no NaN: an infinity or digits, after a hyphen or not. -/
theorem render_of_not_isNaN {x : Float} (h : ¬ x.isNaN = true) :
    ∃ body, (body = ['i', 'n', 'f'] ∨ Positional body) ∧
      (render x = String.ofList body ∨ render x = String.ofList ('-' :: body)) := by
  let d := (Magnitude.ofBits x.toBits).shortest
  let body := if x.isInf then ['i', 'n', 'f'] else if d.digits = 0 then ['0'] else d.digitsText
  have hbody : body = ['i', 'n', 'f'] ∨ Positional body := by
    by_cases hinf : x.isInf = true
    · exact Or.inl (if_pos hinf)
    · refine Or.inr ?_
      have heq : body = if d.digits = 0 then ['0'] else d.digitsText := if_neg hinf
      rw [heq]
      split_ifs
      · exact positional_toDigits 0
      · exact positional_digitsText d
  have hrender : render x = String.ofList ((if isNegative x then ['-'] else []) ++ body) := if_neg h
  refine ⟨body, hbody, ?_⟩
  rw [hrender]
  by_cases hneg : isNegative x = true
  · exact Or.inr (by rw [if_pos hneg]; rfl)
  · exact Or.inl (by rw [if_neg hneg]; rfl)

/-- A double is read back as a number. -/
theorem read?_trim_render (x : Float) : (read? (Text.trim (render x))).isSome = true := by
  by_cases hnan : x.isNaN = true
  · rw [render, if_pos hnan]
    rfl
  · obtain ⟨body, rfl | hbody, hrender | hrender⟩ := render_of_not_isNaN hnan
    · rw [hrender]
      rfl
    · rw [hrender]
      rfl
    · rw [hrender]
      exact hbody.read?_trim.1
    · rw [hrender]
      exact hbody.read?_trim.2

/-! ## Other texts -/

/-- A number may begin with the character: a sign, a digit, the point, or the first letter of a
name. -/
def opens (c : Char) : Bool :=
  c == '-' || c == '+' || c == '.' || c.isDigit || c.toLower == 'i' || c.toLower == 'n'

theorem readUnsigned?_of_head {c : Char} (h : opens c = false) (rest : List Char) :
    readUnsigned? (c :: rest) = none := by
  simp only [opens, Bool.or_eq_false_iff, beq_eq_false_iff_ne] at h
  obtain ⟨⟨⟨⟨⟨-, -⟩, hpoint⟩, hdigit⟩, hi⟩, hn⟩ := h
  have hsplit : splitDigits (c :: rest) = ([], [], c :: rest) := by
    unfold splitDigits
    rw [List.takeWhile_cons_of_neg (by simp [hdigit]),
      List.dropWhile_cons_of_neg (by simp [hdigit])]
    split
    · next heq => exact absurd (List.cons.inj heq).1 hpoint
    · rfl
  unfold readUnsigned?
  rw [hsplit]
  simp [hi, hn]

theorem read?_of_head {s : String} {c : Char} {rest : List Char} (hs : s.toList = c :: rest)
    (h : opens c = false) : read? s = none := by
  have hminus : c ≠ '-' := by
    rintro rfl
    exact absurd h (by decide)
  have hplus : c ≠ '+' := by
    rintro rfl
    exact absurd h (by decide)
  rw [read?_eq, hs, splitSign_cons hminus hplus, readUnsigned?_of_head h]
  rfl

/-- The first character tells that the text is no number. -/
theorem read?_trim_of_head {s : String} {c : Char} {rest : List Char} (hs : s.toList = c :: rest)
    (hblank : Text.isBlank c = false) (h : opens c = false) : read? (Text.trim s) = none := by
  obtain ⟨rest', hs'⟩ := Text.toList_trim_cons hs hblank
  exact read?_of_head hs' h

end Number

end SceneLogic
