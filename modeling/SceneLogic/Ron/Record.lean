import SceneLogic.Ron.Skip

/-!
# Records of object notation

A record is a group of named fields, in any order. A field that the record does not know is
skipped. No field may come twice, under whichever of its names, and those that the record
requires must come.
-/

namespace SceneLogic.Ron.Reader

/-- The name of a field, of which another name may have been written. -/
def canonicalName (aliases : List (String × String)) (name : String) : String :=
  (aliases.lookup name).getD name

/-- Reads the value of a field: what it changes in the record, or nothing for an unknown name. -/
def field {σ : Type} (aliases : List (String × String))
    (fields : String → Option (Reader (σ → σ))) : Reader (Option String × (σ → σ)) := do
  let name := canonicalName aliases (← deeper ident)
  blanks
  char ':'
  blanks
  match fields name with
  | some r => return (some name, ← deeper (plain r))
  | none =>
    deeper (plain (anything (nestingLimit + 1)))
    return (none, id)

/-- Reads the fields of a record between parentheses, if these do not belong to a variant. -/
def fieldsOf {σ : Type} (aliases : List (String × String)) (required : List String) (init : σ)
    (fields : String → Option (Reader (σ → σ))) : Reader σ := do
  let unwrapped := (← read).unwrapped
  unless unwrapped do char '('
  let found ← plain (items ')' (field aliases fields))
  unless unwrapped do char ')'
  let names := found.filterMap (·.1)
  if names.Nodup ∧ required.all names.contains then
    return found.foldl (fun record change => change.2 record) init
  else refuse

/-- Reads the name of a record, which may be left out unless names are asked for. -/
def recordName (name : String) : Reader Unit := do
  if atIdentEnd (← remaining) then
    if (← read).extensions.explicitNames then refuse
  else if (← ident) ≠ name then refuse

/-- Reads a record of a named type, of which some fields have a second name. -/
def aliasedRecord {σ : Type} (aliases : List (String × String)) (name : String)
    (required : List String) (init : σ) (fields : String → Option (Reader (σ → σ))) :
    Reader σ := do
  unless (← read).unwrapped do recordName name
  blanks
  fieldsOf aliases required init fields

/-- Reads a record of a named type. -/
def record {σ : Type} (name : String) (required : List String) (init : σ)
    (fields : String → Option (Reader (σ → σ))) : Reader σ :=
  aliasedRecord [] name required init fields

/-- Reads the record of a variant. -/
def variantRecord {σ : Type} (required : List String) (init : σ)
    (fields : String → Option (Reader (σ → σ))) : Reader σ := do
  blanks
  plain (fieldsOf [] required init fields)

/-- A field that is read by a reader and put in place by a function. -/
def into {σ α : Type} (r : Reader α) (put : σ → α → σ) : Option (Reader (σ → σ)) :=
  some do
    let a ← r
    return fun record => put record a

end SceneLogic.Ron.Reader
