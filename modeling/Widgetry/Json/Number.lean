import Widgetry.Decimal.Shortest

/-! Numbers of a data text. A numeral without fraction and exponent that fits 64 bits is an integer;
every other one is a floating point number, computed from its leading digits as far as they fit 64
bits and one multiplication or division by a power of ten. -/

namespace Widgetry.Json

/-- A numeral, taken apart. -/
structure Numeral where
  negative : Bool
  whole : List Nat
  fraction : Option (List Nat)
  /-- The sign and the digits of the exponent. -/
  exponent : Option (Bool × List Nat)

inductive Number where
  | integer (value : Int)
  | float (value : Float)

namespace Number

/-- The number as messages show it. -/
def text : Number → String
  | integer value => "integer `" ++ toString value ++ "`"
  | float value => "floating point `" ++ Decimal.text value ++ "`"

end Number

/-- What does not fit 64 bits. -/
def wordLimit : Nat := 0x10000000000000000

/-- Digits are appended while the result fits 64 bits; the number of those taken is the second
part. -/
def appendDigits : Nat → List Nat → Nat × Nat
  | n, [] => (n, 0)
  | n, d :: ds =>
    if 10 * n + d < wordLimit then
      let (m, taken) := appendDigits (10 * n + d) ds
      (m, taken + 1)
    else (n, 0)

def powerOfTen (k : Nat) : Float := Float.ofScientific 1 false k

/-- The number times a power of ten, or nothing if that is too large. -/
def scaled (x : Float) (exponent : Int) : Option Float :=
  if exponent.natAbs ≤ 308 then
    if 0 ≤ exponent then
      let y := x * powerOfTen exponent.natAbs
      if y.isInf then none else some y
    else some (x / powerOfTen exponent.natAbs)
  else if x == 0 then some x
  else if h : 0 ≤ exponent then none
  else scaled (x / powerOfTen 308) (exponent + 308)
termination_by exponent.natAbs

/-- The value of an exponent, or nothing if it does not fit 32 bits. -/
def exponentValue? (digits : List Nat) : Option Nat :=
  digits.foldlM (fun n d => if 10 * n + d < 0x80000000 then some (10 * n + d) else none) 0

namespace Numeral

/-- The floating point number of leading digits and a power of ten. -/
def float? (negative : Bool) (significand : Nat) (exponent : Int) : Option Number :=
  (scaled (UInt64.ofNat significand).toFloat exponent).map fun x =>
    .float (if negative then -x else x)

/-- The number that a numeral writes, or nothing if it is out of range. -/
def number? (n : Numeral) : Option Number :=
  let (significand, taken) := appendDigits 0 n.whole
  let dropped : Int := n.whole.length - taken
  match n.fraction, n.exponent with
  | none, none =>
    if dropped = 0 then
      if !n.negative then some (.integer significand)
      else if 0 < significand ∧ 2 * significand ≤ wordLimit then some (.integer (-significand))
      else some (.float (-(UInt64.ofNat significand).toFloat))
    else float? n.negative significand dropped
  | fraction, exponent =>
    let (significand, taken) := appendDigits significand (fraction.getD [])
    let start := dropped - taken
    match exponent with
    | none => float? n.negative significand start
    | some (down, digits) =>
      match exponentValue? digits with
      | some e => float? n.negative significand (if down then start - e else start + e)
      | none =>
        if significand ≠ 0 ∧ !down then none
        else some (.float (if n.negative then -0.0 else 0.0))

end Numeral

end Widgetry.Json
