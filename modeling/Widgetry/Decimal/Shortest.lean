/-! Shortest decimal text of a binary floating point number: of all decimals that round to the
number those with the fewest digits, and of these the nearest. All arithmetic is on natural
numbers. -/

namespace Widgetry.Decimal

/-- A positive number `mantissa * 2 ^ exponent` with the interval of numbers that round to it. The
ends are in quarters of the last place and belong to the interval if the mantissa is even. -/
structure Rounded where
  mantissa : Nat
  exponent : Int
  /-- The neighbour below is only half as far away as the one above. -/
  boundary : Bool

namespace Rounded

/-- A double has 52 bits of fraction. -/
def fractionLimit : Nat := 0x10000000000000

/-- The number of a positive double's bits. -/
def ofBits (bits : Nat) : Rounded :=
  let field := bits / fractionLimit % 2048
  let fraction := bits % fractionLimit
  if field = 0 then ⟨fraction, -1074, false⟩
  else ⟨fraction + fractionLimit, (field : Int) - 1075, fraction = 0 ∧ 1 < field⟩

/-- The multiple of `10 ^ place` that stands for the number, if one rounds to it. -/
def onGrid (r : Rounded) (place : Int) : Option Nat :=
  let quarter := r.exponent - 2
  let scale (x : Nat) : Nat := x * Nat.pow 2 quarter.toNat * Nat.pow 10 (-place).toNat
  let unit := Nat.pow 10 place.toNat * Nat.pow 2 (-quarter).toNat
  let value := scale (4 * r.mantissa)
  let low := scale (4 * r.mantissa - (if r.boundary then 1 else 2))
  let high := scale (4 * r.mantissa + 2)
  let even := r.mantissa % 2 = 0
  let inside (d : Nat) : Bool :=
    (low < d * unit || (even && low == d * unit)) && (d * unit < high || (even && d * unit == high))
  let below := value / unit
  let above := below + 1
  match inside below, inside above with
  | true, true =>
    let shortfall := value - below * unit
    let excess := above * unit - value
    some (if shortfall < excess then below else if excess < shortfall then above
      else if below % 2 = 0 then below else above)
  | true, false => some below
  | false, true => some above
  | false, false => none

/-- The digits and the place of the last one, on the coarsest grid that has a hit. -/
def shortest (r : Rounded) : Nat × Int :=
  ((List.range 700).findSome? fun (k : Nat) =>
    let place : Int := 330 - k
    (r.onGrid place).map (·, place)).getD (0, 0)

end Rounded

/-- An exponent with its sign and at least two digits. -/
def exponentText (exponent : Int) : String :=
  (if exponent < 0 then "-" else "+") ++ (if exponent.natAbs < 10 then "0" else "") ++
    toString exponent.natAbs

/-- Positional while at most 16 digits stand before the point or fewer than five zeros follow it,
always with a digit on both sides of the point; scientific otherwise. -/
def write (digits : Nat) (place : Int) : String :=
  let text := toString digits
  let before : Int := text.length + place
  if 0 ≤ place ∧ before ≤ 16 then
    text ++ String.ofList (List.replicate place.toNat '0') ++ ".0"
  else if 0 < before ∧ before ≤ 16 then
    String.ofList (text.toList.take before.toNat) ++ "." ++
      String.ofList (text.toList.drop before.toNat)
  else if -5 < before ∧ before ≤ 0 then
    "0." ++ String.ofList (List.replicate (-before).toNat '0') ++ text
  else
    let fraction := text.toList.drop 1
    String.ofList (text.toList.take 1) ++
      (if fraction.isEmpty then "" else "." ++ String.ofList fraction) ++
      "e" ++ exponentText (before - 1)

/-- The bit of a double's sign. -/
def signBit : Nat := 0x8000000000000000

/-- The text of a finite number. -/
def text (x : Float) : String :=
  let bits := x.toBits.toNat
  let sign := if signBit ≤ bits then "-" else ""
  let bits := bits % signBit
  if bits = 0 then sign ++ "0.0"
  else
    let (digits, place) := (Rounded.ofBits bits).shortest
    sign ++ write digits place

end Widgetry.Decimal
