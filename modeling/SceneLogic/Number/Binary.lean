/-!
# Doubles as exact numbers

A finite double is a natural number times a power of two, up to its sign. This module decodes
the bit pattern into that form and builds the two conversions between doubles and 64-bit
integers on it. Both are exact statements about `Nat` and `Int`; nothing is left to the rounding
of floating point operations.

* `Magnitude.ofBits` — the finite magnitude that a bit pattern stands for
* `truncate` — the integer part, towards zero
* `saturate` — the integer part brought into the 64-bit range
-/

namespace SceneLogic.Number

/-- The magnitude `mantissa * 2 ^ exponent` of a finite double. -/
structure Magnitude where
  /-- The significant bits as a natural number. -/
  mantissa : Nat
  /-- The power of two that one unit of the mantissa stands for. -/
  exponent : Int
  /-- The gap to the next smaller double is half the gap to the next larger one. This happens
  exactly at the powers of two that have a full-width neighbour below. -/
  narrowBelow : Bool
deriving DecidableEq, Repr

/-- The biased exponent field of a bit pattern. -/
def exponentField (bits : UInt64) : Nat :=
  ((bits >>> 52) &&& 0x7FF).toNat

/-- The fraction field of a bit pattern. -/
def fractionField (bits : UInt64) : Nat :=
  (bits &&& 0xFFFFFFFFFFFFF).toNat

/-- The magnitude of a finite double. The patterns of NaN and of the infinities stand for no
magnitude; callers test for them first. -/
def Magnitude.ofBits (bits : UInt64) : Magnitude :=
  let e := exponentField bits
  let f := fractionField bits
  if e = 0 then ⟨f, -1074, false⟩
  else ⟨Nat.pow 2 52 + f, (e : Int) - 1075, f = 0 && 1 < e⟩

/-- The sign bit, which also tells `-0.0` from `0.0`. -/
def isNegative (x : Float) : Bool :=
  (x.toBits >>> 63) = 1

/-- The integer part of a magnitude. -/
def Magnitude.floor (m : Magnitude) : Nat :=
  if 0 ≤ m.exponent then m.mantissa * Nat.pow 2 m.exponent.toNat
  else m.mantissa / Nat.pow 2 (-m.exponent).toNat

/-- The integer part of a finite double, towards zero. -/
def truncate (x : Float) : Int :=
  let n := (Magnitude.ofBits x.toBits).floor
  if isNegative x then -(n : Int) else n

/-- Brings an integer into the 64-bit range: what does not fit becomes the nearest bound. -/
def clamp (n : Int) : Int64 :=
  if n < Int64.minValue.toInt then Int64.minValue
  else if Int64.maxValue.toInt < n then Int64.maxValue
  else Int64.ofInt n

/-- The 64-bit integer of a double: the integer part, the nearest bound where that does not
fit, and zero for NaN. -/
def saturate (x : Float) : Int64 :=
  if x.isNaN then 0
  else if x.isInf then (if isNegative x then Int64.minValue else Int64.maxValue)
  else clamp (truncate x)

/-- The double nearest to a 64-bit integer. -/
def ofInt64 (i : Int64) : Float :=
  Float.ofInt i.toInt

/-- The larger of two doubles. A NaN yields the other operand: as the first it is passed over,
and as the second it compares with nothing. Of two equal operands (`0.0` and `-0.0`) the second
is taken. -/
def maximum (a b : Float) : Float :=
  if a.isNaN || a ≤ b then b else a

/-- The smaller of two doubles, with the same rules as `maximum`. -/
def minimum (a b : Float) : Float :=
  if a.isNaN || b ≤ a then b else a

end SceneLogic.Number
