import UsbThroughput.Decimal.Shortest

/-!
# Numbers as text

A decimal in positional notation, without an exponent at any size and without a point when it is
whole, and the text of a double-precision number by its shortest decimal.
-/

namespace UsbThroughput

/-- A decimal in positional notation. Zeros at the end of the fraction are left out, and so is the
point when no fraction remains. -/
def Decimal.positional (decimal : Decimal) : String :=
  let digits := Nat.toDigits 10 decimal.digits
  if 0 ≤ decimal.exponent then
    String.ofList (digits ++ List.replicate decimal.exponent.toNat '0')
  else
    let places := (-decimal.exponent).toNat
    let padded := digits.leftpad (places + 1) '0'
    let whole := padded.take (padded.length - places)
    let fraction := ((padded.drop (padded.length - places)).reverse.dropWhile (· == '0')).reverse
    String.ofList (if fraction.isEmpty then whole else whole ++ '.' :: fraction)

/-- The text of a double-precision number given by its bits. -/
def positionalOfBits (bits : UInt64) : String :=
  let magnitude := bits.toNat % Nat.pow 2 63
  let fraction := magnitude % Nat.pow 2 Basin.fractionBits
  let biased := magnitude / Nat.pow 2 Basin.fractionBits
  let sign := if bits.toNat < Nat.pow 2 63 then "" else "-"
  match Basin.ofParts? fraction biased with
  | some basin => sign ++ basin.shortest.positional
  | none =>
      if biased = 0 then sign ++ "0" else if fraction = 0 then sign ++ "inf" else "NaN"

end UsbThroughput
