/-!
# Decimal text of binary64 numbers

A finite binary64 number is `m · 2 ^ q` for integers `m` and `q`. `shortest` finds the fewest
decimal digits that read back as the same number, and of two such decimals of equal length the
nearer one. All of its arithmetic is on natural numbers.

`scale?` goes the other way: it brings a whole number and a power of ten together in floating-point
arithmetic, with one rounding for the whole number and one for each multiplication or division.
-/

namespace ContractLens.Binary64

/-! ## From decimal parts -/

/-- The power `10 ^ k`, rounded to nearest. -/
def powerOfTen (k : Nat) : Float := Float.ofScientific 1 false k

/-- The number `x · 10 ^ exponent` for a finite `x ≥ 0`; none when it is too large. Powers beyond
    `10 ^ 308` have no binary64 form, so a division by one goes in two steps. -/
def scale? (x : Float) (exponent : Int) : Option Float :=
  if 308 < exponent then
    if x == 0.0 then some x else none
  else if 0 ≤ exponent then
    let y := x * powerOfTen exponent.toNat
    if y.isInf then none else some y
  else if -308 ≤ exponent then some (x / powerOfTen (-exponent).toNat)
  else if -616 ≤ exponent then some (x / powerOfTen 308 / powerOfTen (-exponent - 308).toNat)
  else some (x / powerOfTen 308 / powerOfTen 308)

/-! ## To the fewest digits -/

/-- A positive fraction `num / den` and the ends `low / den` and `high / den` of the interval of
    numbers that round to it; `closed` tells whether the ends belong to it. -/
structure Interval where
  num : Nat
  low : Nat
  high : Nat
  den : Nat
  closed : Bool

/-- The interval of a positive finite number, from the bits of its magnitude. -/
def Interval.ofBits (bits : UInt64) : Interval :=
  let fraction := bits.toNat % Nat.pow 2 52
  let biased := bits.toNat / Nat.pow 2 52 % Nat.pow 2 11
  let mantissa := if biased = 0 then fraction else Nat.pow 2 52 + fraction
  -- All ends are whole quarters of the last place, which is worth `2 ^ (exponent - 1075)`; the
  -- lower neighbour of a power of two is half as far away as the upper one.
  let exponent := if biased = 0 then 1 else biased
  let below := if fraction = 0 ∧ 1 < biased then 1 else 2
  let up := Nat.pow 2 (exponent - 1077)
  { num := 4 * mantissa * up
    low := (4 * mantissa - below) * up
    high := (4 * mantissa + 2) * up
    den := Nat.pow 2 (1077 - exponent)
    closed := mantissa % 2 = 0 }

/-- Whether `c · a / b` lies in the interval. -/
def Interval.covers (i : Interval) (c a b : Nat) : Bool :=
  if i.closed then i.low * b ≤ c * a && c * a ≤ i.high * b
  else i.low * b < c * a && c * a < i.high * b

/-- The multiple of `10 ^ place` in the interval that is nearest to its number, as a count of
    `10 ^ place`. Only the two multiples next to the number are candidates. -/
def Interval.onGrid? (i : Interval) (place : Int) : Option Nat :=
  let a := i.den * Nat.pow 10 place.toNat
  let b := Nat.pow 10 (-place).toNat
  let lower := i.num * b / a
  let upper := lower + 1
  match i.covers lower a b, i.covers upper a b with
  | true, true =>
    let down := i.num * b - lower * a
    let up := upper * a - i.num * b
    some (if down < up ∨ (down = up ∧ lower % 2 = 0) then lower else upper)
  | true, false => some lower
  | false, true => some upper
  | false, false => none

/-- The least `k` with `num / den < 10 ^ k`. -/
def Interval.magnitude (i : Interval) : Int :=
  let k : Int := (toString i.num).length - (toString i.den).length
  if i.num * Nat.pow 10 (-k).toNat < i.den * Nat.pow 10 k.toNat then k else k + 1

/-- Trailing zeros of a digit count moved into its place value. -/
def dropZeros : Nat → Nat → Int → Nat × Int
  | 0, digits, place => (digits, place)
  | fuel + 1, digits, place =>
    if digits % 10 = 0 then dropZeros fuel (digits / 10) (place + 1) else (digits, place)

/-- The fewest digits that read back as the positive finite number with these bits, as a whole
    number `d` and a place `e` with `d · 10 ^ e` for their value. Seventeen digits always
    suffice. -/
def shortest (bits : UInt64) : Nat × Int :=
  let i := Interval.ofBits bits
  let k := i.magnitude
  let found := (List.range 17).findSome? fun (n : Nat) =>
    let place := k - (n + 1)
    (i.onGrid? place).map fun d => (d, place)
  match found with
  | some (digits, place) => dropZeros 17 digits place
  | none => (0, 0)

end ContractLens.Binary64
