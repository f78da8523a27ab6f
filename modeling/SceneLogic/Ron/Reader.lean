import SceneLogic.Dict
import SceneLogic.Ron.Numeral

/-!
# Readers of object notation

A reader takes a value of one type off the front of a text. Readers are put together by the form
of the value: lists, maps, choices between variants, optional values.

Every opening of a form takes one level off the nesting that is left, so that no text makes a
reader go deeper than `nestingLimit`.
-/

namespace SceneLogic.Ron

/-- The variations of the notation that a text may switch on. -/
structure Extensions where
  unwrapNewtypes : Bool := false
  implicitSome : Bool := false
  unwrapVariants : Bool := false
  explicitNames : Bool := false

/-- What a reader goes by. -/
structure Context where
  /-- The levels of nesting that are left. -/
  levels : Nat
  extensions : Extensions
  /-- The parentheses of the value to be read belong to the variant that it is in. -/
  unwrapped : Bool := false

/-- The deepest nesting that is read. -/
def nestingLimit : Nat := 128

/-- Takes a value off the front of a text. -/
abbrev Reader := ReaderT Context (StateT Input Option)

namespace Reader

/-- The text that is left. -/
def remaining : Reader Input := get

/-- Reads nothing. -/
def refuse {α : Type} : Reader α := failure

/-- Reads by a function on the text. -/
def scan {α : Type} (f : Input → Option (α × Input)) : Reader α := fun _ text => f text

/-- Skips by a function on the text. -/
def skip (f : Input → Option Input) : Reader Unit := scan fun text => (f text).map ((), ·)

/-- Skips blanks and comments. -/
def blanks : Reader Unit := skip (skipBlanks .outside)

/-- Reads a character if it comes next. -/
def tryChar (c : Char) : Reader Bool := do
  match ← remaining with
  | d :: rest => if c = d then set rest; return true else return false
  | [] => return false

/-- Reads a character that must come next. -/
def char (c : Char) : Reader Unit := do
  unless ← tryChar c do refuse

/-- The character comes next. -/
def atChar (c : Char) : Reader Bool :=
  return (← remaining).head? = some c

/-- Reads a word if it comes next. -/
def tryWord (word : List Char) : Reader Bool := do
  match word? word (← remaining) with
  | some rest => set rest; return true
  | none => return false

/-- Reads a comma, if one comes next, with the blanks around it. -/
def comma : Reader Bool := do
  blanks
  let found ← tryChar ','
  if found then blanks
  return found

/-- Reads one level deeper. -/
def deeper {α : Type} (r : Reader α) : Reader α := fun context text =>
  match context.levels with
  | 0 => none
  | levels + 1 => r { context with levels } text

/-- Reads what is not the content of a variant. -/
def plain {α : Type} (r : Reader α) : Reader α :=
  ReaderT.adapt ({ · with unwrapped := false }) r

/-- Reads an identifier. -/
def ident : Reader String := scan ident?

/-! ## Leaves -/

/-- Reads a truth value. -/
def bool : Reader Bool := scan fun text =>
  match word? ['t', 'r', 'u', 'e'] text with
  | some rest => some (true, rest)
  | none => (word? ['f', 'a', 'l', 's', 'e'] text).map (false, ·)

/-- Reads a 64-bit integer. -/
def int64 : Reader Int64 :=
  return Int64.ofInt (← scan IntegerType.signed64.read?)

/-- Reads a natural number of 64 bits. -/
def natural : Reader Nat :=
  return (← scan IntegerType.unsigned64.read?).toNat

/-- Reads a double. -/
def float : Reader Float := scan float?

/-- Reads a text. -/
def text : Reader String := scan text?

/-! ## Forms -/

/-- Reads items with commas between them up to a closing character, which is left. A comma after
the last item is allowed. The number bounds how many items there are. -/
def separated {α : Type} (closing : Char) (item : Reader α) : Nat → Reader (List α)
  | 0 => refuse
  | n + 1 => do
    blanks
    if ← atChar closing then return []
    let a ← item
    if ← comma then return a :: (← separated closing item n)
    if ← atChar closing then return [a] else refuse

/-- Reads items one level deeper, up to a closing character, which is left. -/
def items {α : Type} (closing : Char) (item : Reader α) : Reader (List α) := do
  let found ← deeper do separated closing item ((← remaining).length + 1)
  blanks
  return found

/-- Reads items between two characters. -/
def enclosed {α : Type} (opening closing : Char) (item : Reader α) : Reader (List α) := do
  char opening
  let found ← items closing item
  char closing
  return found

/-- Reads a list. -/
def list {α : Type} (item : Reader α) : Reader (List α) :=
  plain (enclosed '[' ']' (deeper item))

/-- Reads an entry of a map. -/
def entry {κ α : Type} (key : Reader κ) (value : Reader α) : Reader (κ × α) := do
  let k ← deeper key
  blanks
  char ':'
  blanks
  return (k, ← deeper value)

/-- Reads a map. -/
def map {κ α : Type} (key : Reader κ) (value : Reader α) : Reader (List (κ × α)) :=
  plain (enclosed '\x7b' '\x7d' (entry key value))

/-- Reads the content of a variant between parentheses. -/
def content {α : Type} (r : Reader α) : Reader α := do
  char '('
  blanks
  let unwrapped := (← read).extensions.unwrapVariants
  let a ← deeper (ReaderT.adapt ({ · with unwrapped }) r)
  let _ ← comma
  char ')'
  return a

/-- Reads what follows the name of a variant that has content. -/
def payload {α : Type} (r : Reader α) : Reader α := do
  blanks
  content r

/-- Reads a value that may be missing. A text may switch on that the parentheses of a value that
is there, and its mark, may be left out. -/
def option {α : Type} (r : Reader α) : Reader (Option α) := plain do
  if ← tryWord ['N', 'o', 'n', 'e'] then return none
  if ← tryWord ['S', 'o', 'm', 'e'] then
    blanks
    if ← atChar '(' then return some (← content r)
  if (← read).extensions.implicitSome then return some (← deeper r) else refuse

/-- Reads one of several variants. -/
def choice {α : Type} (variant? : String → Option (Reader α)) : Reader α :=
  plain <| deeper do
    blanks
    match variant? (← deeper ident) with
    | some r => r
    | none => refuse

end Reader

end SceneLogic.Ron
