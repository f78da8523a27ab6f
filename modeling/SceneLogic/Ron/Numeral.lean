import SceneLogic.Number.Reading
import SceneLogic.Ron.Quoted

/-!
# Numbers of object notation

An integer is written in one of four bases, a decimal number as doubles are; a suffix may tell
the type of either. Where the type does not matter, a number is taken for an integer unless it
has more characters of a decimal number, and an integer that no type can hold is taken for a
decimal number.

Two numbers, or one of them, with two points between make up a range.
-/

namespace SceneLogic.Ron

/-! ## Integers -/

/-- The character may stand in an integer of some base. -/
def isIntegerChar (c : Char) : Bool :=
  (hexValue? c).isSome || c = '_'

/-- The base that the beginning of an integer tells, and the digits after it. -/
def splitBase : Input → Nat × Input
  | '0' :: 'b' :: rest => (2, rest)
  | '0' :: 'o' :: rest => (8, rest)
  | '0' :: 'x' :: rest => (16, rest)
  | rest => (10, rest)

/-- The value of digits in a base; underscores among them do not count. -/
def baseValue? (base : Nat) : List Char → Option Nat
  | digits =>
    digits.foldl
      (fun acc c =>
        if c = '_' then acc
        else
          match acc, hexValue? c with
          | some n, some d => if d < base then some (n * base + d) else none
          | _, _ => none)
      (some 0)

/-- Reads an integer with an optional sign, and without a suffix. -/
def integer? (text : Input) : Option (Int × Input) :=
  let (negative, text) := Number.splitSign text
  let (base, text) := splitBase text
  let digits := text.takeWhile isIntegerChar
  let rest := text.dropWhile isIntegerChar
  if digits.isEmpty ∨ digits.head? = some '_' then none
  else (baseValue? base digits).map fun n => (if negative then -(n : Int) else n, rest)

/-- A type of integers: its suffix, its least and its greatest value. -/
structure IntegerType where
  suffix : List Char
  least : Int
  greatest : Int

/-- The type of the signed integers of 64 bits. -/
def IntegerType.signed64 : IntegerType :=
  ⟨['i', '6', '4'], Int64.minValue.toInt, Int64.maxValue.toInt⟩

/-- The type of the natural numbers of 64 bits. -/
def IntegerType.unsigned64 : IntegerType :=
  ⟨['u', '6', '4'], 0, UInt64.size - 1⟩

/-- All types of integers. -/
def IntegerType.all : List IntegerType :=
  [ ⟨['i', '8'], Int8.minValue.toInt, Int8.maxValue.toInt⟩,
    ⟨['i', '1', '6'], Int16.minValue.toInt, Int16.maxValue.toInt⟩,
    ⟨['i', '3', '2'], Int32.minValue.toInt, Int32.maxValue.toInt⟩,
    signed64,
    ⟨['u', '8'], 0, UInt8.size - 1⟩,
    ⟨['u', '1', '6'], 0, UInt16.size - 1⟩,
    ⟨['u', '3', '2'], 0, UInt32.size - 1⟩,
    unsigned64 ]

/-- Takes a number that the type can hold. -/
def IntegerType.take? (t : IntegerType) (n : Int) (rest : Input) : Option (Int × Input) :=
  if t.least ≤ n ∧ n ≤ t.greatest then some (n, rest) else none

/-- Reads an integer of a type, with an optional suffix. -/
def IntegerType.read? (t : IntegerType) (text : Input) : Option (Int × Input) :=
  (integer? text).bind fun (n, rest) => t.take? n ((word? t.suffix rest).getD rest)

/-- Reads an integer of the type that its suffix tells, or else of one of the widest. -/
def anyInteger? (text : Input) : Option (Int × Input) :=
  (integer? text).bind fun (n, rest) =>
    match IntegerType.all.findSome? fun t => (word? t.suffix rest).map (t, ·) with
    | some (t, rest) => t.take? n rest
    | none => IntegerType.signed64.take? n rest <|> IntegerType.unsigned64.take? n rest

/-! ## Decimal numbers -/

/-- The character may stand in a decimal number. -/
def isDecimalChar (c : Char) : Bool :=
  c.isDigit || c = 'e' || c = 'E' || c = '.' || c = '+' || c = '-' || c = '_'

/-- Splits off the characters of a decimal number. Two points in a row do not belong to one. -/
def splitDecimal : Input → List Char × Input
  | [] => ([], [])
  | '.' :: '.' :: rest => ([], '.' :: '.' :: rest)
  | c :: rest =>
    if isDecimalChar c then
      let (digits, rest) := splitDecimal rest
      (c :: digits, rest)
    else ([], c :: rest)

/-- Takes the underscores out of a number. They may stand after a digit or an exponent mark, and
not after the decimal point. -/
def dropUnderscores? : Bool → List Char → Option (List Char)
  | _, [] => some []
  | allowed, c :: rest =>
    if c = '_' then (if allowed then dropUnderscores? true rest else none)
    else
      let allowed := if c.isDigit || c = 'e' || c = 'E' then true
        else if c = '.' then false else allowed
      (dropUnderscores? allowed rest).map (c :: ·)

/-- The words for numbers that have no digits. -/
def numberWords : List (List Char × Float) :=
  [ (['i', 'n', 'f'], 1 / 0), (['+', 'i', 'n', 'f'], 1 / 0), (['-', 'i', 'n', 'f'], -(1 / 0)),
    (['N', 'a', 'N'], 0 / 0), (['+', 'N', 'a', 'N'], 0 / 0), (['-', 'N', 'a', 'N'], 0 / 0) ]

/-- Reads a word for a number, with one of the suffixes or without. -/
def numberWord? (suffixes : List (List Char)) (text : Input) : Option (Float × Input) :=
  numberWords.findSome? fun (word, x) =>
    ([] :: suffixes).findSome? fun suffix => (word? (word ++ suffix) text).map (x, ·)

/-- Reads a decimal number, with one of the suffixes or without. -/
def decimal? (suffixes : List (List Char)) (text : Input) : Option (Float × Input) :=
  numberWord? suffixes text <|>
    let (digits, rest) := splitDecimal text
    (dropUnderscores? false digits).bind fun digits =>
      (Number.read? (String.ofList digits)).map fun x =>
        (x, (suffixes.findSome? (word? · rest)).getD rest)

/-- The suffix of doubles. -/
def doubleSuffix : List Char :=
  ['f', '6', '4']

/-- The suffix of decimal numbers of 32 bits. -/
def singleSuffix : List Char :=
  ['f', '3', '2']

/-- Reads a double. -/
def float? : Input → Option (Float × Input) :=
  decimal? [doubleSuffix]

/-! ## Numbers of any type -/

/-- The text goes on with more characters of a decimal number than of an integer. -/
def looksDecimal (text : Input) : Bool :=
  let unsigned := (Number.splitSign text).2
  (unsigned.takeWhile isIntegerChar).length < (splitDecimal unsigned).1.length

/-- The suffixes of decimal numbers. -/
def decimalSuffixes : List (List Char) :=
  [singleSuffix, doubleSuffix]

/-- Skips a number of any type. A byte between apostrophes is a number, too. -/
def skipNumber? (text : Input) : Option Input :=
  let decimal := (decimal? decimalSuffixes text).map (·.2)
  if looksDecimal text then decimal
  else ((byte? text).map (·.2) <|> (anyInteger? text).map (·.2)) <|> decimal

/-- The text begins like a number: with its sign, a digit, a point, a word for a number, or the
mark of a byte. -/
def beginsNumber (text : Input) : Bool :=
  (numberWord? decimalSuffixes text).isSome ||
    match text with
    | 'b' :: '\'' :: _ => true
    | c :: _ => c.isDigit || c = '+' || c = '-' || c = '.'
    | [] => false

/-- Skips what follows the two points of a range. After an equals sign there must be a number. -/
def skipRangeEnd? : Input → Option Input
  | '=' :: rest => skipNumber? rest
  | rest => some ((skipNumber? rest).getD rest)

/-- Skips a number of any type, or a range. -/
def skipRange? : Input → Option Input
  | '.' :: '.' :: rest => skipRangeEnd? rest
  | text =>
    (skipNumber? text).bind fun rest =>
      match rest with
      | '.' :: '.' :: rest => skipRangeEnd? rest
      | rest => some rest

end SceneLogic.Ron
