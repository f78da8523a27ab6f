import SceneLogic.Proofs.Dict
import SceneLogic.Proofs.Variables

/-!
# Variables keep to their kinds

A variable that was loaded may hold anything. Once a value was assigned to it, it holds one of its
kind, for what is assigned is brought to the kind. The kind itself gives way in two cases: a
variable of numbers becomes one of points when a point comes, and a variable of points takes on the
kind of whatever comes.

* `Kind.fits_coerce` — what is brought to a kind belongs to it
* `Kind.Turns` — what becomes of a kind
* `Variable.Receives`, `Entity.Receives` — what becomes of a variable and of an entity
* `variables_keep_to_their_kinds` — assignments do just that
-/

namespace SceneLogic

namespace Kind

variable {k k' : Kind} {v : Value}

/-! ## Values of a kind -/

theorem isNumber_toNumber (v : Value) : (toNumber v).isNumber = true := by
  unfold toNumber
  split
  · next h => exact h
  · rfl

theorem toNumber_of_isNumber (h : v.isNumber = true) : toNumber v = v :=
  if_pos h

/-- What is brought to a kind belongs to it. The kind of points leaves values as they are, so that
only points will do. -/
theorem fits_coerce (h : k = .point → ∃ p, v = .point p) : k.Fits (k.coerce v) := by
  cases k with
  | int => exact isNumber_toNumber v
  | float => exact isNumber_toNumber v
  | bool => exact ⟨_, rfl⟩
  | text => exact ⟨_, rfl⟩
  | point => exact h rfl

/-- What belongs to a kind is left as it is. -/
theorem coerce_of_fits (h : k.Fits v) : k.coerce v = v := by
  cases k with
  | int => exact toNumber_of_isNumber h
  | float => exact toNumber_of_isNumber h
  | bool =>
    obtain ⟨b, rfl⟩ := h
    rfl
  | text =>
    obtain ⟨s, rfl⟩ := h
    rfl
  | point => rfl

/-- Points alone are taken for points. -/
theorem exists_of_infer_eq_point (h : infer v = .point) : ∃ p, v = .point p := by
  cases v with
  | point p => exact ⟨p, rfl⟩
  | text s =>
    simp only [infer] at h
    split_ifs at h
  | _ => cases h

/-! ## Kinds that change -/

/-- What becomes of the kind of a variable to which a value is assigned. -/
inductive Turns (v : Value) : Kind → Kind → Prop
  | upgraded {k : Kind} {p : Point} (hnumeric : k.isNumeric = true) (hpoint : v = .point p) :
      Turns v k .point
  | inferred : Turns v .point (infer v)
  | kept {k : Kind} (hpoint : k ≠ .point) (hnumeric : k.isNumeric = true → ∀ p, v ≠ .point p) :
      Turns v k k

theorem turns_kindAfter (k : Kind) (v : Value) : Turns v k (Variable.kindAfter k v) := by
  cases k with
  | int =>
    cases v with
    | point p => exact .upgraded rfl rfl
    | _ => exact .kept Kind.noConfusion fun _ _ => Value.noConfusion
  | float =>
    cases v with
    | point p => exact .upgraded rfl rfl
    | _ => exact .kept Kind.noConfusion fun _ _ => Value.noConfusion
  | bool => exact .kept Kind.noConfusion fun h => nomatch h
  | text => exact .kept Kind.noConfusion fun h => nomatch h
  | point => exact .inferred

/-- Where the kind is that of points in the end, a point was assigned. -/
theorem Turns.exists_point (h : Turns v k k') (hk' : k' = .point) : ∃ p, v = .point p := by
  cases h with
  | upgraded _ hpoint => exact ⟨_, hpoint⟩
  | inferred => exact exists_of_infer_eq_point hk'
  | kept hpoint _ => exact absurd hk' hpoint

/-- What belongs to a kind does not change it. -/
theorem Turns.eq_of_fits (h : Turns v k k') (hv : k.Fits v) : k' = k := by
  cases h with
  | upgraded hnumeric hpoint =>
    subst hpoint
    cases k with
    | int => exact absurd hv Bool.false_ne_true
    | float => exact absurd hv Bool.false_ne_true
    | _ => cases hnumeric
  | inferred =>
    obtain ⟨p, rfl⟩ := hv
    rfl
  | kept _ _ => rfl

end Kind

namespace Variable

/-! ## Assignments to a variable -/

/-- The value of the variable belongs to its kind. -/
def Fitting (x : Variable) : Prop :=
  x.kind.Fits x.value

theorem ofValue_fits (name : String) (v : Value) : (ofValue name v).Fitting :=
  Kind.fits_coerce Kind.exists_of_infer_eq_point

theorem assign_fits (x : Variable) (v : Value) : (x.assign v).Fitting :=
  Kind.fits_coerce (Kind.turns_kindAfter x.kind v).exists_point

/-- A value of the kind is taken as it is. -/
theorem assign_of_fits {x : Variable} {v : Value} (h : x.kind.Fits v) :
    x.assign v = { x with value := v } := by
  have hkind := (Kind.turns_kindAfter x.kind v).eq_of_fits h
  unfold assign
  dsimp only
  rw [hkind, Kind.coerce_of_fits h]

/-- What becomes of a variable, whatever it was, to which a value is assigned. -/
structure Receives (x : Variable) (v : Value) (x' : Variable) : Prop where
  name : x'.name = x.name
  fits : x'.Fitting
  kind : Kind.Turns v x.kind x'.kind
  /-- A value of the kind is taken as it is. -/
  taken : x.kind.Fits v → x' = { x with value := v }
  /-- To assign the value that is stored changes nothing. -/
  settled : x'.assign x'.value = x'

theorem receives_assign (x : Variable) (v : Value) : x.Receives v (x.assign v) where
  name := rfl
  fits := x.assign_fits v
  kind := Kind.turns_kindAfter x.kind v
  taken := assign_of_fits
  settled := assign_of_fits (x.assign_fits v)

end Variable

namespace Entity

/-! ## Assignments to an entity -/

variable {e : Entity} {calls : List (String × Value)} {name : String}

theorem assignedTo_fits (e : Entity) (name : String) (v : Value) :
    (e.assignedTo name v).Fitting := by
  unfold assignedTo
  cases e.lookup? name with
  | none => exact Variable.ofValue_fits name v
  | some x => exact x.assign_fits v

/-- Assigns values one after the other. -/
def assignAll (e : Entity) (calls : List (String × Value)) : Entity :=
  calls.foldl (fun e c => e.assign c.1 c.2) e

theorem named_assignAll_of_untouched (h : name ∉ calls.map (·.1)) :
    (e.assignAll calls).named name = e.named name := by
  induction calls generalizing e with
  | nil => rfl
  | cons c rest ih =>
    obtain ⟨hc, hrest⟩ := not_or.mp (mt List.mem_cons.mpr h)
    exact (ih hrest).trans (named_assign_of_ne e c.2 hc)

theorem named_assignAll_of_touched (h : name ∈ calls.map (·.1)) :
    ∃ x : Variable, x.Fitting ∧ (e.assignAll calls).named name = x :: (e.named name).tail := by
  induction calls generalizing e with
  | nil => cases h
  | cons c rest ih =>
    by_cases hrest : name ∈ rest.map (·.1)
    · obtain ⟨x, hx, hnamed⟩ := ih (e := e.assign c.1 c.2) hrest
      exact ⟨x, hx, hnamed.trans (congrArg (x :: ·) (e.tail_named_assign c.1 c.2 name))⟩
    -- After the last assignment to the name only others follow.
    · have hname : name = c.1 := (List.mem_cons.mp h).resolve_right hrest
      subst hname
      exact ⟨_, e.assignedTo_fits c.1 c.2,
        (named_assignAll_of_untouched hrest).trans (e.named_assign_self c.1 c.2)⟩

theorem assignAll_eq (e : Entity) (calls : List (String × Value)) :
    e.assignAll calls = { e with vars := (e.assignAll calls).vars } := by
  induction calls generalizing e with
  | nil => rfl
  | cons c rest ih => exact ih (e.assign c.1 c.2)

/-- What becomes of an entity to which values are assigned one after the other. -/
structure Receives (e : Entity) (calls : List (String × Value)) (e' : Entity) : Prop where
  /-- Names that are missing come to the end, in the order in which they are first assigned to. -/
  names : e'.names = e.names ++ ((calls.map (·.1)).filter fun name => name ∉ e.names).eraseDups
  /-- The first variable of a name that is assigned to holds a value of its kind and is read back;
  further variables of the name are left alone. -/
  touched : ∀ name ∈ calls.map (·.1), ∃ x : Variable, x.Fitting ∧ e'.value? name = some x.value ∧
    e'.named name = x :: (e.named name).tail
  untouched : ∀ name ∉ calls.map (·.1), e'.named name = e.named name
  rest : e' = { e with vars := e'.vars }

theorem receives_assignAll (e : Entity) (calls : List (String × Value)) :
    e.Receives calls (e.assignAll calls) where
  names := Dict.foldl_gains names _ _ (fun e c => e.names_assign c.1 c.2) calls e
  touched := fun name h => by
    obtain ⟨x, hx, hnamed⟩ := named_assignAll_of_touched (e := e) h
    exact ⟨x, hx, value?_of_named hnamed, hnamed⟩
  untouched := fun name h => named_assignAll_of_untouched h
  rest := assignAll_eq e calls

end Entity

/-- A new variable and one that was assigned to hold a value of their kind, and the kind changes
only from numbers to points, for a point, and from points to what is assigned. An assignment to an
entity goes to the first variable of the name, or adds one where there is none; so after any number
of assignments each name that was touched has a value of its kind, and all else is as it was. -/
theorem variables_keep_to_their_kinds :
    (∀ (name : String) (v : Value), (Variable.ofValue name v).Fitting) ∧
      (∀ (x : Variable) (v : Value), x.Receives v (x.assign v)) ∧
      (∀ (e : Entity) (name : String) (v : Value),
        Assigned name v e.vars (e.assign name v).vars) ∧
      ∀ (e : Entity) (calls : List (String × Value)), e.Receives calls (e.assignAll calls) :=
  ⟨Variable.ofValue_fits, Variable.receives_assign, Entity.assigned_assign,
    Entity.receives_assignAll⟩

namespace Hoard

/-- A dragon who was loaded with gold that is no number, and with more of it behind. -/
def dragon : Entity :=
  { id := ⟨"dragon"⟩
    vars := [⟨"gold", .text "much", .int⟩, ⟨"gold", .null, .text⟩] }

def lair : Point := ⟨3, 4⟩

def calls : List (String × Value) :=
  [("gold", .text "7"), ("home", .point lair), ("gold", .point lair), ("home", .text "true")]

end Hoard

/-- The gold is a place in the end and the home a truth value; the gold behind is untouched. -/
theorem dragon_keeps_to_kinds : ∃ gold home : Variable, gold.Fitting ∧ home.Fitting ∧
    (Hoard.dragon.assignAll Hoard.calls).named "gold" = [gold, ⟨"gold", .null, .text⟩] ∧
    (Hoard.dragon.assignAll Hoard.calls).value? "gold" = some gold.value ∧
    gold.value = .point Hoard.lair ∧
    (Hoard.dragon.assignAll Hoard.calls).value? "home" = some home.value ∧
    home.value = .bool true ∧
    (Hoard.dragon.assignAll Hoard.calls).names = ["gold", "gold", "home"] := by
  have hreceives := variables_keep_to_their_kinds.2.2.2 Hoard.dragon Hoard.calls
  obtain ⟨gold, hgold, hgoldValue, hgoldAll⟩ := hreceives.touched "gold" (by decide)
  obtain ⟨home, hhome, hhomeValue, -⟩ := hreceives.touched "home" (by decide)
  have hplace : gold.value = .point Hoard.lair := Option.some.inj (hgoldValue.symm.trans rfl)
  have htruth : home.value = .bool true := Option.some.inj (hhomeValue.symm.trans rfl)
  exact ⟨gold, home, hgold, hhome, hgoldAll, hgoldValue, hplace, hhomeValue, htruth,
    hreceives.names.trans (by decide)⟩

end SceneLogic
