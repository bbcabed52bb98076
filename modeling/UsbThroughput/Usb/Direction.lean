/-!
# Directions and endpoint addresses

A bulk endpoint is addressed by a byte: its top bit says in which direction data flows, the other
bits are the number of the endpoint.
-/

namespace UsbThroughput

/-- The direction of a transfer, as seen from the host. -/
inductive Direction where
  | inbound
  | outbound
  deriving DecidableEq, Repr

namespace Direction

/-- The name that the standard gives to a direction. -/
def name : Direction → String
  | inbound => "IN"
  | outbound => "OUT"

/-- The bit of an endpoint address that is set for inbound data. -/
def addressBit : UInt8 := 0x80

/-- The address of an endpoint in a direction. A direction bit in the number is overruled. -/
def address (direction : Direction) (number : UInt8) : UInt8 :=
  match direction with
  | inbound => number ||| addressBit
  | outbound => number &&& ~~~addressBit

/-- The direction in which an address transfers. -/
def ofAddress (address : UInt8) : Direction :=
  if address &&& addressBit = addressBit then inbound else outbound

end Direction

end UsbThroughput
