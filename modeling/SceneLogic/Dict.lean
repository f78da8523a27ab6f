/-!
# Maps that remember the order of insertion

A dictionary is a list of entries. Its view is `get?`: the value of the first entry with a key.
Inserting under a key that is present replaces the value and keeps the entry's place; a new key
goes to the end. `Unique` says that no key occurs twice, which every dictionary built by
`insert` from the empty one satisfies.
-/

namespace SceneLogic

universe u

/-- Entries in the order in which their keys first came. -/
abbrev Dict (κ : Type) (α : Type u) := List (κ × α)

namespace Dict

variable {κ : Type} {α : Type u} [DecidableEq κ]

/-- The value under a key. -/
def get? : Dict κ α → κ → Option α
  | [], _ => none
  | (k', v) :: rest, k => if k' = k then some v else get? rest k

/-- Whether a key has a value. -/
def contains (d : Dict κ α) (k : κ) : Bool :=
  (get? d k).isSome

/-- Puts a value under a key, in the key's place if it has one. -/
def insert : Dict κ α → κ → α → Dict κ α
  | [], k, v => [(k, v)]
  | (k', v') :: rest, k, v => if k' = k then (k', v) :: rest else (k', v') :: insert rest k v

/-- Removes a key; the other entries keep their order. -/
def erase : Dict κ α → κ → Dict κ α
  | [], _ => []
  | (k', v') :: rest, k => if k' = k then rest else (k', v') :: erase rest k

/-- Changes the value under a key, if there is one. -/
def modify : Dict κ α → κ → (α → α) → Dict κ α
  | [], _, _ => []
  | (k', v') :: rest, k, f => if k' = k then (k', f v') :: rest else (k', v') :: modify rest k f

omit [DecidableEq κ] in
/-- The keys, in order. -/
def keys (d : Dict κ α) : List κ :=
  List.map (·.1) d

omit [DecidableEq κ] in
/-- The values, in the order of their keys. -/
def values (d : Dict κ α) : List α :=
  List.map (·.2) d

/-- The dictionary of a list of entries: later values win, first places stay. -/
def ofList (entries : List (κ × α)) : Dict κ α :=
  entries.foldl (fun d e => insert d e.1 e.2) []

/-- The entries that are new or have another value than before. -/
def changed [BEq α] (before now : Dict κ α) : Dict κ α :=
  now.filter fun e =>
    match get? before e.1 with
    | some v => !(v == e.2)
    | none => true

/-- The keys that have no value any more. -/
def dropped (before now : Dict κ α) : List κ :=
  (keys before).filter fun k => !contains now k

omit [DecidableEq κ] in
/-- No key occurs twice. -/
def Unique (d : Dict κ α) : Prop :=
  (keys d).Nodup

@[simp] theorem get?_nil (k : κ) : get? ([] : Dict κ α) k = none := rfl

/-- What was put under a key is found there. -/
@[simp] theorem get?_insert_self (d : Dict κ α) (k : κ) (v : α) :
    get? (insert d k v) k = some v := by
  induction d with
  | nil => simp [insert, get?]
  | cons e rest ih => by_cases h : e.1 = k <;> simp [insert, get?, h, ih]

/-- Putting a value under a key leaves the other keys alone. -/
theorem get?_insert_of_ne (d : Dict κ α) {k k' : κ} (v : α) (h : k ≠ k') :
    get? (insert d k v) k' = get? d k' := by
  induction d with
  | nil => simp [insert, get?, h]
  | cons e rest ih =>
    obtain ⟨k₀, v₀⟩ := e
    by_cases he : k₀ = k
    · subst he
      simp [insert, get?, h]
    · simp only [insert, he, if_false, get?, ih]

/-- What is put under a key is found there, and the other keys are left alone. -/
theorem get?_insert (d : Dict κ α) (k : κ) (v : α) (k' : κ) :
    get? (insert d k v) k' = if k = k' then some v else get? d k' := by
  split
  · next h => rw [h, get?_insert_self]
  · next h => exact get?_insert_of_ne d v h

/-- What is under a key is changed, and nothing else. -/
theorem get?_modify (d : Dict κ α) (k : κ) (f : α → α) (k' : κ) :
    get? (modify d k f) k' = if k = k' then (get? d k').map f else get? d k' := by
  induction d with
  | nil => simp [modify]
  | cons e rest ih =>
    obtain ⟨k₀, v₀⟩ := e
    by_cases he : k₀ = k
    · subst he
      by_cases hk : k₀ = k' <;> simp [modify, get?, hk]
    · by_cases hk : k₀ = k'
      · subst hk
        simp [modify, get?, he, Ne.symm he]
      · simp [modify, get?, he, hk, ih]

/-- Changing what is under a key keeps the keys. -/
theorem keys_modify (d : Dict κ α) (k : κ) (f : α → α) : keys (modify d k f) = keys d := by
  induction d with
  | nil => rfl
  | cons e rest ih =>
    unfold keys at ih
    by_cases he : e.1 = k
    · simp [modify, keys, he]
    · simp [modify, keys, he, ih]

/-- Inserting keeps the keys and adds at most the new one, at the end. -/
theorem keys_insert (d : Dict κ α) (k : κ) (v : α) :
    keys (insert d k v) = if k ∈ keys d then keys d else keys d ++ [k] := by
  induction d with
  | nil => simp [insert, keys]
  | cons e rest ih =>
    by_cases h : e.1 = k
    · simp [insert, keys, h]
    · have hk : ¬ k = e.1 := fun hh => h hh.symm
      simp only [keys] at ih
      by_cases hm : k ∈ List.map (·.1) rest
      · simp [insert, keys, h, hk, ih, hm]
      · simp [insert, keys, h, hk, ih, hm]

/-- Changing what is under a key introduces no repeated key. -/
theorem Unique.modify {d : Dict κ α} (h : Unique d) (k : κ) (f : α → α) :
    Unique (Dict.modify d k f) := by
  rw [Unique, keys_modify]
  exact h

/-- Inserting introduces no repeated key. -/
theorem Unique.insert {d : Dict κ α} (h : Unique d) (k : κ) (v : α) :
    Unique (Dict.insert d k v) := by
  unfold Unique at *
  rw [keys_insert]
  split
  · exact h
  · next hk =>
    refine List.nodup_append.2 ⟨h, by simp, fun a ha b hb => ?_⟩
    rw [List.mem_singleton] at hb
    subst hb
    exact fun hab => hk (hab ▸ ha)

end Dict

end SceneLogic
