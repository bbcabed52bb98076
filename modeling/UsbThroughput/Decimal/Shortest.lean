/-!
# Shortest decimals

The decimal with the fewest digits that reads back as a given double-precision number. A finite
positive number owns the decimals between the points half-way to its neighbours, its `Basin`. For
one digit, two digits and so on, `Basin.shortest` tries the two decimals next to the number with
that many digits, and takes the first that lies in the basin. Of two that do, the nearer is taken,
and of two equally near the larger. All comparisons are between whole numbers.
-/

namespace UsbThroughput

/-- The number `digits * 10 ^ exponent`. -/
structure Decimal where
  digits : Nat
  exponent : Int
  deriving DecidableEq, Repr

/-- A number and the range of those that are rounded to it, all in units of `2 ^ exponent`. -/
structure Basin where
  value : Nat
  lower : Nat
  upper : Nat
  exponent : Int
  /-- Whether the two ends are rounded to the number as well. -/
  closed : Bool
  deriving DecidableEq, Repr

namespace Basin

/-- Bits of the fraction of a double-precision number. -/
def fractionBits : Nat := 52

/-- The basin of the number with the given fraction and biased exponent, unless it is zero,
infinite or not a number. The unit is a quarter of the last place, because the neighbour below a
power of two is only half as far away as the one above. -/
def ofParts? (fraction biased : Nat) : Option Basin :=
  if biased = 2047 ∨ (biased = 0 ∧ fraction = 0) then none
  else
    let significand := if biased = 0 then fraction else Nat.pow 2 fractionBits + fraction
    let place : Int := (if biased = 0 then 1 else biased : Nat) - 1075
    let narrow : Bool := fraction = 0 ∧ 1 < biased
    some
      { value := 4 * significand
        lower := 4 * significand - (if narrow then 1 else 2)
        upper := 4 * significand + 2
        exponent := place - 2
        closed := significand % 2 = 0 }

/-- The factors by which a decimal in units of `10 ^ place` and a number in units of
`2 ^ exponent` are multiplied to become comparable whole numbers. -/
def factors (basin : Basin) (place : Int) : Nat × Nat :=
  (Nat.pow 10 place.toNat * Nat.pow 2 (-basin.exponent).toNat,
    Nat.pow 2 basin.exponent.toNat * Nat.pow 10 (-place).toNat)

/-- Whether `digits * 10 ^ place` is rounded to the number. -/
def contains (basin : Basin) (place : Int) (digits : Nat) : Bool :=
  let (ten, two) := basin.factors place
  if basin.closed then basin.lower * two ≤ digits * ten ∧ digits * ten ≤ basin.upper * two
  else basin.lower * two < digits * ten ∧ digits * ten < basin.upper * two

/-- The multiple of `10 ^ place` that stands for the number, if one of its two neighbours among
these multiples does. -/
def atPlace? (basin : Basin) (place : Int) : Option Nat :=
  let (ten, two) := basin.factors place
  let below := basin.value * two / ten
  match basin.contains place below, basin.contains place (below + 1) with
  | true, true =>
      if 2 * (basin.value * two) < (2 * below + 1) * ten then some below else some (below + 1)
  | true, false => some below
  | false, true => some (below + 1)
  | false, false => none

/-- A power of ten large enough to bring every positive number above one. -/
def lift : Nat := 400

/-- The place of the first digit of the number. -/
def leadingPlace (basin : Basin) : Int :=
  let raised := basin.value * Nat.pow 2 basin.exponent.toNat * Nat.pow 10 lift
  let whole := raised / Nat.pow 2 (-basin.exponent).toNat
  ((Nat.toDigits 10 whole).length : Int) - 1 - lift

/-- Digits that always suffice. -/
def enoughDigits : Nat := 17

/-- The decimal with the fewest digits that is rounded to the number. -/
def shortest (basin : Basin) : Decimal :=
  let leading := basin.leadingPlace
  let found := (List.range enoughDigits).findSome? fun (extra : Nat) =>
    let place := leading - (extra : Int)
    (basin.atPlace? place).map fun digits => { digits, exponent := place }
  found.getD ⟨0, 0⟩

end Basin

end UsbThroughput
