import SceneLogic.Number.Binary

/-!
# The text of a double

A double is written with the fewest significant digits that read back to it, always
positionally: no exponent, and no decimal point for a whole number.

## How the digits are found

The reals that round to a double form an interval, from halfway to the neighbour below to
halfway to the neighbour above; the ends belong to it exactly when the mantissa is even. For
one, two, … seventeen digits the search takes the decimal grid that has so many digits at the
value's scale and tests the value's two neighbours on it. The first grid with a neighbour in
the interval wins. Of two such neighbours the nearer is taken, and the upper one on a tie.
All comparisons are between natural numbers.

## Why it stops

The search walks a list of seventeen digit counts. Should none of them do, the exact decimal
expansion is used, so the result reads back in every case.
-/

namespace SceneLogic.Number

/-- The decimal number `digits * 10 ^ exponent`. -/
structure Decimal where
  digits : Nat
  exponent : Int
deriving DecidableEq, Repr

/-- Compares `a * 10 ^ i` with `b * 2 ^ j`. -/
def compareScaled (a : Nat) (i : Int) (b : Nat) (j : Int) : Ordering :=
  compare (a * Nat.pow 10 i.toNat * Nat.pow 2 (-j).toNat)
    (b * Nat.pow 2 j.toNat * Nat.pow 10 (-i).toNat)

/-- The decimal lies among the reals that round to the magnitude. -/
def Magnitude.readsBack (m : Magnitude) (d : Decimal) : Bool :=
  let low := if m.narrowBelow then 4 * m.mantissa - 1 else 4 * m.mantissa - 2
  let high := 4 * m.mantissa + 2
  let closed := m.mantissa % 2 = 0
  let atLow := compareScaled d.digits d.exponent low (m.exponent - 2)
  let atHigh := compareScaled d.digits d.exponent high (m.exponent - 2)
  (atLow == .gt || (closed && atLow == .eq)) && (atHigh == .lt || (closed && atHigh == .eq))

/-- The least `k` with `mantissa * 2 ^ exponent < 10 ^ k`, for a non-zero magnitude: an estimate
from the binary logarithm, then at most two steps up. -/
def Magnitude.scale (m : Magnitude) : Int :=
  let k := ((m.mantissa.log2 : Int) + m.exponent) * 30103 / 100000
  let below (k : Int) : Bool := compareScaled 1 k m.mantissa m.exponent == .gt
  if below k then k else if below (k + 1) then k + 1 else k + 2

/-- The neighbour on the grid `10 ^ grid` that reads back: the nearer if both do, and the upper
if they are equally near. -/
def Magnitude.onGrid? (m : Magnitude) (grid : Int) : Option Decimal :=
  let above := m.mantissa * Nat.pow 2 m.exponent.toNat * Nat.pow 10 (-grid).toNat
  let below := Nat.pow 2 (-m.exponent).toNat * Nat.pow 10 grid.toNat
  let d := above / below
  let lower : Decimal := ⟨d, grid⟩
  let upper : Decimal := ⟨d + 1, grid⟩
  match m.readsBack lower, m.readsBack upper with
  | true, true => some (if 2 * above < (2 * d + 1) * below then lower else upper)
  | true, false => some lower
  | false, true => some upper
  | false, false => none

/-- The exact decimal expansion of a magnitude. -/
def Magnitude.exact (m : Magnitude) : Decimal :=
  if 0 ≤ m.exponent then ⟨m.mantissa * Nat.pow 2 m.exponent.toNat, 0⟩
  else ⟨m.mantissa * Nat.pow 5 (-m.exponent).toNat, m.exponent⟩

/-- The shortest decimal that reads back as the magnitude. -/
def Magnitude.shortest (m : Magnitude) : Decimal :=
  if m.mantissa = 0 then ⟨0, 0⟩
  else
    let k := m.scale
    ((List.range 17).findSome? fun n => m.onGrid? (k - (n + 1 : Nat))).getD m.exact

/-- The digits of a fraction without the zeros at their end. -/
def dropTrailingZeros (digits : List Char) : List Char :=
  (digits.reverse.dropWhile (· = '0')).reverse

/-- The positional text of a decimal. -/
def Decimal.digitsText (d : Decimal) : List Char :=
  let digits := (Nat.toDigits 10 d.digits)
  if 0 ≤ d.exponent then digits ++ List.replicate d.exponent.toNat '0'
  else
    let places := (-d.exponent).toNat
    let padded := List.replicate (places + 1 - digits.length) '0' ++ digits
    let whole := padded.take (padded.length - places)
    match dropTrailingZeros (padded.drop (padded.length - places)) with
    | [] => whole
    | fraction => whole ++ '.' :: fraction

/-- The text of a double. -/
def render (x : Float) : String :=
  if x.isNaN then "NaN"
  else
    let sign := if isNegative x then ['-'] else []
    let body :=
      if x.isInf then ['i', 'n', 'f']
      else
        let d := (Magnitude.ofBits x.toBits).shortest
        if d.digits = 0 then ['0'] else d.digitsText
    String.ofList (sign ++ body)

end SceneLogic.Number
