import SceneLogic.Entity

/-!
# Assignments to the variables of an entity

Names may occur more than once among the variables of an entity; an assignment, like a lookup, goes
for the first one. `Assigned` says what becomes of the whole list.

* `Entity.assigned_assign` — what an assignment does
* `Entity.lookup?_assign_self`, `Entity.lookup?_assign_of_ne` — what is found after it
* `Entity.named_assign_self`, `Entity.named_assign_of_ne` — what all variables of a name are then
-/

namespace SceneLogic

/-- The variables after a value was assigned to a name: the first one of the name has it, or there
is a new one at the end. The others are as they were. -/
inductive Assigned (name : String) (v : Value) : List Variable → List Variable → Prop
  | existing {before after : List Variable} {x : Variable} (hbefore : ∀ y ∈ before, y.name ≠ name)
      (hname : x.name = name) :
      Assigned name v (before ++ x :: after) (before ++ x.assign v :: after)
  | new {vars : List Variable} (hvars : ∀ y ∈ vars, y.name ≠ name) :
      Assigned name v vars (vars ++ [.ofValue name v])

namespace Assigned

variable {name : String} {v : Value} {vars vars' : List Variable}

theorem find?_eq_none (h : ∀ y ∈ vars, y.name ≠ name) :
    vars.find? (fun x => x.name = name) = none := by
  simpa only [List.find?_eq_none, decide_eq_true_eq] using h

/-- What was assigned is the first of its name. -/
theorem find?_eq (h : Assigned name v vars vars') : vars'.find? (fun x => x.name = name) =
    some (((vars.find? fun x => x.name = name).map (·.assign v)).getD (.ofValue name v)) := by
  cases h with
  | @existing before after x hbefore hname =>
    have hassigned : (x.assign v).name = name := hname
    simp [List.find?_append, find?_eq_none hbefore, hname, hassigned]
  | new hvars =>
    have hnew : (Variable.ofValue name v).name = name := rfl
    simp [List.find?_append, find?_eq_none hvars, hnew]

/-- The other names have the variables that they had. -/
theorem find?_of_ne (h : Assigned name v vars vars') {name' : String} (hne : name' ≠ name) :
    vars'.find? (fun x => x.name = name') = vars.find? fun x => x.name = name' := by
  cases h with
  | @existing before after x hbefore hname =>
    have hassigned : (x.assign v).name = name := hname
    simp [List.find?_append, hname, hassigned, hne.symm]
  | new hvars =>
    have hnew : (Variable.ofValue name v).name = name := rfl
    simp [List.find?_append, hnew, hne.symm]

theorem filter_eq_nil (h : ∀ y ∈ vars, y.name ≠ name) :
    vars.filter (fun x => x.name = name) = [] := by
  simpa only [List.filter_eq_nil_iff, decide_eq_true_eq] using h

/-- Of the variables of the name only the first one is another. -/
theorem filter_eq (h : Assigned name v vars vars') : vars'.filter (fun x => x.name = name) =
    ((vars.find? fun x => x.name = name).map (·.assign v)).getD (.ofValue name v) ::
      (vars.filter fun x => x.name = name).tail := by
  cases h with
  | @existing before after x hbefore hname =>
    have hassigned : (x.assign v).name = name := hname
    simp [List.find?_append, find?_eq_none hbefore, List.filter_append, filter_eq_nil hbefore,
      hname, hassigned]
  | new hvars =>
    have hnew : (Variable.ofValue name v).name = name := rfl
    simp [find?_eq_none hvars, filter_eq_nil hvars, hnew]

theorem filter_of_ne (h : Assigned name v vars vars') {name' : String} (hne : name' ≠ name) :
    vars'.filter (fun x => x.name = name') = vars.filter fun x => x.name = name' := by
  cases h with
  | @existing before after x hbefore hname =>
    have hassigned : (x.assign v).name = name := hname
    simp [hname, hassigned, hne.symm]
  | new hvars =>
    have hnew : (Variable.ofValue name v).name = name := rfl
    simp [hnew, hne.symm]

end Assigned

namespace Entity

/-- An assignment passes over the variables of other names. -/
theorem assignIn_append {name : String} {vars : List Variable} (h : ∀ y ∈ vars, y.name ≠ name)
    (v : Value) (rest : List Variable) :
    assignIn name v (vars ++ rest) = vars ++ assignIn name v rest := by
  induction vars with
  | nil => rfl
  | cons x vars ih =>
    obtain ⟨hx, hvars⟩ := List.forall_mem_cons.mp h
    rw [List.cons_append, assignIn, if_neg hx, ih hvars, List.cons_append]

/-- A name that is missing gets a variable at the end. -/
theorem assignIn_of_missing {name : String} {vars : List Variable}
    (h : ∀ y ∈ vars, y.name ≠ name) (v : Value) :
    assignIn name v vars = vars ++ [.ofValue name v] := by
  have happend := assignIn_append h v []
  rwa [List.append_nil] at happend

theorem ne_of_lookup?_eq_none {e : Entity} {name : String} (h : e.lookup? name = none) :
    ∀ y ∈ e.vars, y.name ≠ name := by
  simpa [lookup?] using h

/-- The variable that is found is the first of its name. -/
theorem exists_of_lookup?_eq_some {e : Entity} {name : String} {x : Variable}
    (h : e.lookup? name = some x) : x.name = name ∧
      ∃ before after, e.vars = before ++ x :: after ∧ ∀ y ∈ before, y.name ≠ name := by
  obtain ⟨hname, before, after, hvars, hbefore⟩ := List.find?_eq_some_iff_append.mp h
  exact ⟨by simpa using hname, before, after, hvars, by simpa using hbefore⟩

theorem assigned_assign (e : Entity) (name : String) (v : Value) :
    Assigned name v e.vars (e.assign name v).vars := by
  rw [assign]
  cases hx : e.lookup? name with
  | some x =>
    obtain ⟨hname, before, after, hvars, hbefore⟩ := exists_of_lookup?_eq_some hx
    rw [hvars, assignIn_append hbefore, assignIn, if_pos hname]
    exact .existing hbefore hname
  | none =>
    have hmissing := ne_of_lookup?_eq_none hx
    rw [assignIn_of_missing hmissing]
    exact .new hmissing

/-- The variable that a name has after an assignment. -/
def assignedTo (e : Entity) (name : String) (v : Value) : Variable :=
  ((e.lookup? name).map (·.assign v)).getD (.ofValue name v)

@[simp] theorem lookup?_assign_self (e : Entity) (name : String) (v : Value) :
    (e.assign name v).lookup? name = some (e.assignedTo name v) :=
  (e.assigned_assign name v).find?_eq

theorem lookup?_assign_of_ne (e : Entity) {name name' : String} (v : Value) (h : name' ≠ name) :
    (e.assign name v).lookup? name' = e.lookup? name' :=
  (e.assigned_assign name v).find?_of_ne h

/-! ## All variables of a name -/

/-- The names of the variables, in order. -/
def names (e : Entity) : List String :=
  e.vars.map (·.name)

/-- The variables of a name, in order. -/
def named (e : Entity) (name : String) : List Variable :=
  e.vars.filter fun x => x.name = name

theorem lookup?_eq_head? (e : Entity) (name : String) :
    e.lookup? name = (e.named name).head? :=
  List.head?_filter.symm

/-- The value that is read is the one of the first variable. -/
theorem value?_of_named {e : Entity} {name : String} {x : Variable} {rest : List Variable}
    (h : e.named name = x :: rest) : e.value? name = some x.value := by
  rw [value?, lookup?_eq_head?, h]
  rfl

/-- An assignment adds the name at the end if it is missing. -/
theorem names_assign (e : Entity) (name : String) (v : Value) :
    (e.assign name v).names = if name ∈ e.names then e.names else e.names ++ [name] := by
  have hassigned := e.assigned_assign name v
  unfold names
  generalize e.vars = vars, (e.assign name v).vars = vars' at hassigned
  cases hassigned with
  | @existing before after x hbefore hname =>
    have hx : (x.assign v).name = x.name := rfl
    simp [hx, hname]
  | new hvars =>
    have hnew : (Variable.ofValue name v).name = name := rfl
    have hmissing : name ∉ vars.map (·.name) := by simpa using hvars
    rw [if_neg hmissing, List.map_append, List.map_singleton, hnew]

/-- Of the variables of a name the first one is assigned to. -/
theorem named_assign_self (e : Entity) (name : String) (v : Value) :
    (e.assign name v).named name = e.assignedTo name v :: (e.named name).tail :=
  (e.assigned_assign name v).filter_eq

theorem named_assign_of_ne (e : Entity) {name name' : String} (v : Value) (h : name' ≠ name) :
    (e.assign name v).named name' = e.named name' :=
  (e.assigned_assign name v).filter_of_ne h

/-- No assignment reaches further than the first variable of a name. -/
theorem tail_named_assign (e : Entity) (assigned : String) (v : Value) (name : String) :
    ((e.assign assigned v).named name).tail = (e.named name).tail := by
  by_cases h : name = assigned
  · rw [h, named_assign_self, List.tail_cons]
  · rw [named_assign_of_ne e v h]

end Entity

end SceneLogic
