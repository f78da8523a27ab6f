import SceneLogic.Ron.Scan

/-!
# Quoted texts of object notation

Texts between quotes, characters between apostrophes, and bytes with their mark `b`. A text is
written with escapes or, with the mark `r` and as many hash signs as it takes, raw.

An escape by a code point stands for that character. An escape by a byte stands for the ASCII
character of that number; greater bytes stand in a text for the character whose form in UTF-8
they make up together.
-/

namespace SceneLogic.Ron

/-! ## Escapes -/

/-- The value of a hexadecimal digit. -/
def hexValue? (c : Char) : Option Nat :=
  if c.isDigit then some (c.toNat - '0'.toNat)
  else if 'a' ≤ c ∧ c ≤ 'f' then some (c.toNat - 'a'.toNat + 10)
  else if 'A' ≤ c ∧ c ≤ 'F' then some (c.toNat - 'A'.toNat + 10)
  else none

/-- Reads a byte of two hexadecimal digits. -/
def hexByte? : Input → Option (UInt8 × Input)
  | a :: b :: rest =>
    match hexValue? a, hexValue? b with
    | some x, some y => some ((x * 16 + y).toUInt8, rest)
    | _, _ => none
  | _ => none

/-- The character of a code point, if there is one. -/
def charOfCode? (n : Nat) : Option Char :=
  if n.isValidChar then some (Char.ofNat n) else none

/-- The character whose form in UTF-8 the bytes are. -/
def charOfBytes? (bytes : List UInt8) : Option Char :=
  match (String.fromUTF8? ⟨bytes.toArray⟩).map String.toList with
  | some [c] => some c
  | _ => none

/-- Reads the digits of a Unicode escape and its closing brace: one to six digits. -/
def unicodeDigits? : Nat → Nat → Bool → Input → Option (Nat × Input)
  | _, n, true, '\x7d' :: rest => some (n, rest)
  | digits + 1, n, _, c :: rest =>
    (hexValue? c).bind fun d => unicodeDigits? digits (n * 16 + d) true rest
  | _, _, _, _ => none

/-- Reads what follows the backslash of an escape by a letter or a sign. -/
def signEscape? : Input → Option (Char × Input)
  | '\'' :: rest => some ('\'', rest)
  | '"' :: rest => some ('"', rest)
  | '\\' :: rest => some ('\\', rest)
  | 'n' :: rest => some ('\n', rest)
  | 'r' :: rest => some ('\r', rest)
  | 't' :: rest => some ('\t', rest)
  | '0' :: rest => some ('\x00', rest)
  | _ => none

/-- Reads what follows the backslash of an escape by a code point. -/
def codeEscape? : Input → Option (Char × Input)
  | 'u' :: '\x7b' :: rest =>
    (unicodeDigits? 6 0 false rest).bind fun (n, rest) => (charOfCode? n).map (·, rest)
  | _ => none

/-- Reads what follows the backslash of an escape by a byte. -/
def byteEscape? : Input → Option (UInt8 × Input)
  | 'x' :: rest => hexByte? rest
  | _ => none

/-- Reads what follows the backslash of an escape by a byte, as the character of its number. -/
def latinEscape? (text : Input) : Option (Char × Input) :=
  (byteEscape? text).map fun (b, rest) => (Char.ofNat b.toNat, rest)

/-- Reads what follows the backslash of an escape in a character. -/
def charEscape? (text : Input) : Option (Char × Input) :=
  signEscape? text <|> codeEscape? text <|> (latinEscape? text).filter (·.1.toNat < 0x80)

/-- Reads escapes by bytes, the first without its backslash, until the bytes make up a character.
The number bounds how many escapes there may be. -/
def byteRun? : Nat → List UInt8 → Input → Option (Char × Input)
  | 0, _, _ => none
  | n + 1, bytes, text =>
    (byteEscape? text).bind fun (b, rest) =>
      match charOfBytes? (bytes ++ [b]), rest with
      | some c, _ => some (c, rest)
      | none, '\\' :: rest => byteRun? n (bytes ++ [b]) rest
      | none, _ => none

/-- Reads what follows the backslash of an escape in a text. -/
def textEscape? (text : Input) : Option (Char × Input) :=
  charEscape? text <|> byteRun? 4 [] text

/-- Reads what follows the backslash of an escape in bytes. -/
def bytesEscape? (text : Input) : Option (Char × Input) :=
  signEscape? text <|> codeEscape? text <|> latinEscape? text

/-- The character may be skipped at the beginning of a line that goes on with a text. -/
def isIndent (c : Char) : Bool :=
  c = ' ' || c = '\t' || c = '\n' || c = '\r'

/-- Skips what follows the backslash at the end of a line, up to the characters with which the
text goes on. -/
def skipLineBreak? : Input → Option Input
  | '\n' :: rest => some (rest.dropWhile isIndent)
  | '\r' :: '\n' :: rest => some (rest.dropWhile isIndent)
  | _ => none

/-! ## Texts -/

/-- Reads the characters of a text up to its closing quote, with the escapes that a function
reads. The number bounds how many characters there are. -/
def quoted? (escape? : Input → Option (Char × Input)) : Nat → Input → Option (List Char × Input)
  | 0, _ => none
  | _ + 1, '"' :: rest => some ([], rest)
  | n + 1, '\\' :: rest =>
    match skipLineBreak? rest with
    | some rest => quoted? escape? n rest
    | none =>
      (escape? rest).bind fun (c, rest) =>
        (quoted? escape? n rest).map fun (cs, rest) => (c :: cs, rest)
  | n + 1, c :: rest => (quoted? escape? n rest).map fun (cs, rest) => (c :: cs, rest)
  | _ + 1, [] => none

/-- Reads the characters of a raw text up to a quote with so many hash signs. -/
def rawQuoted? (hashes : Nat) : Input → Option (List Char × Input)
  | [] => none
  | c :: rest =>
    if c = '"' && (List.replicate hashes '#').isPrefixOf rest then some ([], rest.drop hashes)
    else (rawQuoted? hashes rest).map fun (cs, rest) => (c :: cs, rest)

/-- Reads a raw text after its mark: hash signs, and the text between quotes. -/
def rawText? (text : Input) : Option (List Char × Input) :=
  let hashes := (text.takeWhile (· = '#')).length
  match text.drop hashes with
  | '"' :: rest => rawQuoted? hashes rest
  | _ => none

/-- Reads a text between quotes, with escapes or raw. -/
def text? : Input → Option (String × Input)
  | '"' :: rest =>
    (quoted? textEscape? (rest.length + 1) rest).map fun (cs, rest) => (String.ofList cs, rest)
  | 'r' :: rest => (rawText? rest).map fun (cs, rest) => (String.ofList cs, rest)
  | _ => none

/-! ## Characters and bytes -/

/-- Reads a closing apostrophe. -/
def closed? {α : Type} : α × Input → Option (α × Input)
  | (a, '\'' :: rest) => some (a, rest)
  | _ => none

/-- Reads a single character between apostrophes. It may be an apostrophe itself. -/
def char? : Input → Option (Char × Input)
  | '\'' :: '\\' :: rest => (charEscape? rest).bind closed?
  | '\'' :: c :: rest => closed? (c, rest)
  | _ => none

/-- Reads a single byte between apostrophes, as the character of its number. -/
def byte? : Input → Option (Char × Input)
  | 'b' :: '\'' :: '\\' :: rest => (signEscape? rest <|> latinEscape? rest).bind closed?
  | 'b' :: '\'' :: c :: rest => if c.toNat < 0x80 then closed? (c, rest) else none
  | _ => none

/-- Reads bytes between quotes, with escapes or raw, as characters. -/
def bytes? : Input → Option (List Char × Input)
  | 'b' :: '"' :: rest => quoted? bytesEscape? (rest.length + 1) rest
  | 'b' :: 'r' :: rest => rawText? rest
  | _ => none

end SceneLogic.Ron
