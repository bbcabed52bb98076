/-!
# Hexadecimal text

Lower-case hexadecimal digits, padded with zeros on the left to a least width.
-/

namespace UsbThroughput

/-- The lower-case hexadecimal digits of a number, at least `width` of them. -/
def hex (width value : Nat) : String :=
  String.ofList ((Nat.toDigits 16 value).leftpad width '0')

/-- An endpoint address as the log writes it. -/
def hexAddress (address : UInt8) : String :=
  s!"0x{hex 2 address.toNat}"

end UsbThroughput
