import SceneLogic.Ron.Reader

/-!
# Skipping values

A field that a record does not know may have a value of any form: of those that readers know, or
a character, bytes, a range, a group with or without a name. Such a value must be well-formed,
and it nests like any other; nothing is kept of it.

What stands between the parentheses of a group is told by looking ahead: named fields if an
identifier and a colon come first, and items otherwise. Where the parentheses of a group were
taken for those of the variant that it is in, one item alone is no group.
-/

namespace SceneLogic.Ron

/-- What stands between parentheses. -/
inductive GroupForm where
  | fields
  | items
  /-- A single value, which is no group. -/
  | single

/-- Skips a character, a text or bytes, if one of them comes first. -/
def skipQuoted? (text : Input) : Option Input :=
  (char? text).map (·.2) <|> (text? text).map (·.2) <|> (bytes? text).map (·.2)

/-- The form of what goes on after a comma. -/
def GroupForm.afterComma? (text : Input) : Option GroupForm :=
  (skipBlanks .outside text).map fun rest =>
    if rest.head? = some ')' then .single else .items

/-- Looks for a comma before the closing parenthesis, inside of so many further brackets, and tells
the form by it. The first number bounds the characters that are looked at. -/
def GroupForm.byComma? : Nat → Nat → Input → Option GroupForm
  | 0, _, _ => none
  | n + 1, depth, text =>
    (skipBlanks .outside text).bind fun text =>
      match skipQuoted? text, text with
      | some rest, _ => byComma? n depth rest
      | none, [] => none
      | none, c :: rest =>
        if c = '(' ∨ c = '[' ∨ c = '\x7b' then byComma? n (depth + 1) rest
        else if c = ')' ∨ c = ']' ∨ c = '\x7d' then
          match depth with
          | 0 => some .single
          | depth + 1 => byComma? n depth rest
        else if c = ',' ∧ depth = 0 then afterComma? rest
        else byComma? n depth rest

/-- The form of what stands in parentheses that belong to a variant. -/
def GroupForm.ofContent? (text : Input) : Option GroupForm :=
  (skipBlanks .outside text).bind fun text =>
    match skipIdent? text with
    | none => byComma? (text.length + 1) 0 text
    | some rest =>
      (skipBlanks .outside rest).bind fun rest =>
        match rest with
        | ':' :: _ => some .fields
        | ',' :: rest => afterComma? rest
        | ')' :: _ => some .single
        | rest => byComma? (rest.length + 1) 0 rest

/-- The text begins with the name of a field and a colon. -/
def beginsField (text : Input) : Bool :=
  ((skipIdent? text).bind fun rest => (skipBlanks .outside rest).bind List.head?) == some ':'

/-- The words that are values by themselves. -/
def valueWords : List (List Char) :=
  [['t', 'r', 'u', 'e'], ['f', 'a', 'l', 's', 'e'], ['N', 'o', 'n', 'e']]

namespace Reader

/-- Skips what stands in parentheses up to the closing one: fields, or items. -/
def skipContent (fields : Bool) (value : Reader Unit) : Reader Unit :=
  plain do
    if fields then
      let _ ← items ')' (entry ident value)
    else
      let _ ← items ')' (deeper value)

/-- Skips a group in parentheses. -/
def skipGroup (value : Reader Unit) : Reader Unit := do
  char '('
  blanks
  skipContent (beginsField (← remaining)) value
  char ')'

/-- Skips a value that is not the content of a variant. -/
def skipValue (value : Reader Unit) : Reader Unit := do
  let text ← remaining
  if let some rest := valueWords.findSome? (word? · text) then
    set rest
  else if (word? ['S', 'o', 'm', 'e'] text).isSome then
    let _ ← option value
  else if beginsNumber text then
    skip skipRange?
  else if let some rest := skipIdent? text then
    set rest
    blanks
    if ← atChar '(' then skipGroup value
  else
    match text with
    | [] => refuse
    | '(' :: ')' :: rest => set rest
    | '(' :: _ => skipGroup value
    | '[' :: _ =>
      let _ ← list value
    | '\x7b' :: _ =>
      let _ ← map value value
    | _ => skip skipQuoted?

/-- Skips a value of any form. The number bounds its nesting. -/
def anything : Nat → Reader Unit
  | 0 => refuse
  | n + 1 => do
    if (← read).unwrapped then
      if ← atChar ')' then return
      match GroupForm.ofContent? (← remaining) with
      | none => refuse
      | some .fields => skipContent true (anything n)
      | some .items => skipContent false (anything n)
      | some .single => plain (skipValue (anything n))
    else skipValue (anything n)

end Reader

end SceneLogic.Ron
