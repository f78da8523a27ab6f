import SceneLogic.Text.Identifier

/-!
# Blanks and identifiers of object notation

What stands between the tokens of a definition text in RON, and its identifiers. Each function
takes a token off the front of the text and gives it with the rest, or nothing if the text does
not begin with such a token.

Identifiers may have letters of all scripts. One that is marked as raw by `r#` may also have
points and signs among its characters, and may begin with any of them.
-/

namespace SceneLogic.Ron

/-- A text that is being read. -/
abbrev Input := List Char

/-! ## Blanks -/

/-- The character separates tokens and has no other meaning. -/
def isBlank (c : Char) : Bool :=
  let n := c.toNat
  (0x09 ≤ n && n ≤ 0x0D) || n == 0x20 || n == 0x85 || n == 0x200E || n == 0x200F ||
    n == 0x2028 || n == 0x2029

/-- Where the reading of blanks stands. -/
inductive Zone where
  | outside
  /-- In a comment that ends with the line. -/
  | line
  /-- In a comment between `/*` and `*/`, inside so many others. -/
  | block (depth : Nat)

/-- Skips blanks and comments. A comment must be closed, and a slash must begin one. -/
def skipBlanks : Zone → Input → Option Input
  | .outside, '/' :: '/' :: rest => skipBlanks .line rest
  | .outside, '/' :: '*' :: rest => skipBlanks (.block 0) rest
  | .outside, '/' :: _ => none
  | .outside, c :: rest => if isBlank c then skipBlanks .outside rest else some (c :: rest)
  | .outside, [] => some []
  | .line, '\n' :: rest => skipBlanks .outside rest
  | .line, _ :: rest => skipBlanks .line rest
  | .line, [] => some []
  | .block 0, '*' :: '/' :: rest => skipBlanks .outside rest
  | .block (depth + 1), '*' :: '/' :: rest => skipBlanks (.block depth) rest
  | .block depth, '/' :: '*' :: rest => skipBlanks (.block (depth + 1)) rest
  | .block depth, _ :: rest => skipBlanks (.block depth) rest
  | .block _, [] => none

/-! ## Identifiers -/

/-- The character may begin an identifier. -/
def isIdentFirst (c : Char) : Bool :=
  c = '_' || Text.isIdentStart c

/-- The character may stand in an identifier. -/
def isIdentRest (c : Char) : Bool :=
  Text.isIdentContinue c

/-- The character may stand in an identifier that is marked as raw. -/
def isRawIdent (c : Char) : Bool :=
  isIdentRest c || c = '.' || c = '+' || c = '-'

/-- The text does not begin with a character of an identifier. -/
def atIdentEnd : Input → Bool
  | [] => true
  | c :: _ => !isIdentRest c

/-- Reads an identifier. One that goes on with characters of a raw identifier is refused. -/
def ident? : Input → Option (String × Input)
  | 'r' :: '#' :: rest =>
    let name := rest.takeWhile isRawIdent
    if name.isEmpty then none else some (String.ofList name, rest.dropWhile isRawIdent)
  | c :: rest =>
    if isIdentFirst c then
      let more := rest.takeWhile isIdentRest
      let rest := rest.dropWhile isIdentRest
      match rest with
      | d :: _ => if isRawIdent d then none else some (String.ofList (c :: more), rest)
      | [] => some (String.ofList (c :: more), rest)
    else none
  | [] => none

/-- Reads a given word, if no longer identifier begins with it. -/
def word? (word : List Char) (text : Input) : Option Input :=
  if word.isPrefixOf text && atIdentEnd (text.drop word.length) then
    some (text.drop word.length)
  else none

/-- The beginnings of quoted texts and bytes that look like those of identifiers. -/
def quoteMarks : List (List Char) :=
  [ ['b', '"'], ['b', '\''], ['b', 'r', '#'], ['b', 'r', '"'], ['r', '"'], ['r', '#', '"'],
    ['r', '#', '#'] ]

/-- Skips an identifier, if one comes first. What follows it is not looked at. -/
def skipIdent? (text : Input) : Option Input :=
  if quoteMarks.any (·.isPrefixOf text) then none
  else
    match text with
    | 'r' :: '#' :: rest =>
      if (rest.takeWhile isRawIdent).isEmpty then none else some (rest.dropWhile isRawIdent)
    | c :: rest => if isIdentFirst c then some (rest.dropWhile isIdentRest) else none
    | [] => none

end SceneLogic.Ron
