import SceneLogic.Ron.Record

/-!
# Whole texts of object notation

A text holds a single value, with blanks around it. Attributes may come before the value: they
switch extensions of the notation on, or tell the type or the schema of the text. What they tell
is not looked at.
-/

namespace SceneLogic.Ron

/-- Switches on an extension by its name. -/
def Extensions.enable? (e : Extensions) (name : String) : Option Extensions :=
  if name = "unwrap_newtypes" then some { e with unwrapNewtypes := true }
  else if name = "implicit_some" then some { e with implicitSome := true }
  else if name = "unwrap_variant_newtypes" then some { e with unwrapVariants := true }
  else if name = "explicit_struct_names" then some { e with explicitNames := true }
  else none

namespace Reader

/-- Reads a character that must come next, and the blanks after it. -/
def sign (c : Char) : Reader Unit := do
  char c
  blanks

/-- Reads the names of extensions. The number bounds how many. -/
def extensionNames : Nat → Extensions → Reader Extensions
  | 0, _ => refuse
  | n + 1, e => do
    match Extensions.enable? e (← ident) with
    | none => refuse
    | some e =>
      let more ← comma
      if more && !atIdentEnd (← remaining) then extensionNames n e else return e

/-- Reads what an attribute has between its brackets. -/
def attributeContent (e : Extensions) : Reader Extensions := do
  if ← tryWord ['e', 'n', 'a', 'b', 'l', 'e'] then
    blanks
    sign '('
    let e ← extensionNames ((← remaining).length + 1) e
    blanks
    sign ')'
    return e
  unless ← tryWord ['t', 'y', 'p', 'e'] do
    unless ← tryWord ['s', 'c', 'h', 'e', 'm', 'a'] do refuse
  blanks
  sign '='
  let _ ← text
  blanks
  return e

/-- Reads the attributes at the beginning of a text. The number bounds how many there are. -/
def attributes : Nat → Extensions → Reader Extensions
  | 0, _ => refuse
  | n + 1, e => do
    if ← atChar '#' then
      sign '#'
      sign '!'
      sign '['
      let e ← attributeContent e
      sign ']'
      attributes n e
    else return e

/-- Reads a whole text as one value. -/
def whole {α : Type} (r : Reader α) (text : String) : Option α :=
  let start : Context := { levels := nestingLimit, extensions := {} }
  let input := text.toList
  let run : Reader α := do
    blanks
    let e ← attributes (input.length + 1) {}
    let a ← ReaderT.adapt ({ · with extensions := e }) r
    blanks
    if (← remaining).isEmpty then return a else refuse
  ((run start).run input).map (·.1)

end Reader

end SceneLogic.Ron
