/-!
# Reading a double

The accepted texts are an optional sign followed by

* `inf`, `infinity` or `nan`, in any mixture of upper and lower case, or
* digits with at most one decimal point among, before or after them, then optionally `e` or `E`,
  an optional sign and at least one digit.

At least one digit stands before the exponent. Nothing else is allowed, blanks least of all.
The value is the double nearest to the decimal number, an infinity where that is too large.
-/

namespace SceneLogic.Number

/-- The value of a list of decimal digits. -/
def digitsValue (digits : List Char) : Nat :=
  digits.foldl (fun n c => n * 10 + (c.toNat - '0'.toNat)) 0

/-- The sign in front of a text, and what follows it. -/
def splitSign : List Char → Bool × List Char
  | '-' :: rest => (true, rest)
  | '+' :: rest => (false, rest)
  | rest => (false, rest)

/-- The exponent part that ends a number: nothing, or `e` with an integer. -/
def readExponent? : List Char → Option Int
  | [] => some 0
  | c :: rest =>
    if c = 'e' ∨ c = 'E' then
      let (negative, digits) := splitSign rest
      if digits.isEmpty ∨ ¬ digits.all Char.isDigit then none
      else
        let n : Int := digitsValue digits
        some (if negative then -n else n)
    else none

/-- The double nearest to `digits * 10 ^ exponent`. A number whose leading digit is far outside
the range of doubles is decided without forming the power. -/
def nearest (digits : Nat) (exponent : Int) : Float :=
  let leading := exponent + (Nat.toDigits 10 digits).length
  if digits = 0 ∨ leading < -400 then 0
  else if 400 < leading then 1 / 0
  else if 0 ≤ exponent then Float.ofScientific digits false exponent.toNat
  else Float.ofScientific digits true (-exponent).toNat

/-- The digits around the decimal point, and the text after them. -/
def splitDigits (text : List Char) : List Char × List Char × List Char :=
  let whole := text.takeWhile Char.isDigit
  match text.dropWhile Char.isDigit with
  | '.' :: rest => (whole, rest.takeWhile Char.isDigit, rest.dropWhile Char.isDigit)
  | rest => (whole, [], rest)

/-- A number without its sign. -/
def readUnsigned? (text : List Char) : Option Float :=
  let word := text.map Char.toLower
  if word = ['i', 'n', 'f'] ∨ word = ['i', 'n', 'f', 'i', 'n', 'i', 't', 'y'] then some (1 / 0)
  else if word = ['n', 'a', 'n'] then some (0 / 0)
  else
    let (whole, fraction, rest) := splitDigits text
    if whole.isEmpty ∧ fraction.isEmpty then none
    else
      (readExponent? rest).map fun e =>
        nearest (digitsValue (whole ++ fraction)) (e - fraction.length)

/-- Reads a double, or answers `none` if the text is not one. -/
def read? (text : String) : Option Float :=
  let (negative, rest) := splitSign text.toList
  (readUnsigned? rest).map fun x => if negative then -x else x

end SceneLogic.Number
