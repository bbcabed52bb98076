import Mathlib.Data.Nat.Bitwise
import UsbThroughput.Settings

/-!
# Addresses and lengths

The address of an endpoint tells the direction in its top bit and the number in the others, however
the number was given. The lengths of valid settings are words of the stack.
-/

namespace UsbThroughput

namespace Direction

variable (direction : Direction) (number : UInt8)

/-- A number that is an address already may be addressed again. -/
theorem address_address :
    direction.address (direction.address number) = direction.address number := by
  cases direction with
  | inbound =>
      unfold address
      rw [UInt8.or_assoc, UInt8.or_self]
  | outbound =>
      unfold address
      rw [UInt8.and_assoc, UInt8.and_self]

/-- The top bit of an address is that of its direction. -/
theorem testBit_address :
    (direction.address number).toNat.testBit 7 = true ↔ direction = .inbound := by
  cases direction with
  | inbound =>
      refine iff_of_true ?_ rfl
      rw [address, UInt8.toNat_or, Nat.testBit_or]
      exact Bool.or_true _
  | outbound =>
      refine iff_of_false ?_ nofun
      rw [address, UInt8.toNat_and, Nat.testBit_and]
      exact (Bool.and_false _).trans_ne Bool.false_ne_true

/-- The other bits of an address are those of the number. -/
theorem address_mod :
    (direction.address number).toNat % 2 ^ 7 = number.toNat % 2 ^ 7 := by
  cases direction with
  | inbound =>
      rw [address, UInt8.toNat_or, Nat.or_mod_two_pow]
      exact Nat.or_zero _
  | outbound =>
      have low : (~~~addressBit).toNat = 2 ^ 7 - 1 := rfl
      rw [address, UInt8.toNat_and, low, Nat.and_two_pow_sub_one_eq_mod, Nat.mod_mod]

/-- The direction is read back from an address. -/
theorem ofAddress_address : ofAddress (direction.address number) = direction := by
  cases direction with
  | inbound =>
      have set : (number ||| addressBit) &&& addressBit = addressBit := by
        apply UInt8.toNat_inj.mp
        rw [UInt8.toNat_and, UInt8.toNat_or]
        apply Nat.eq_of_testBit_eq
        intro place
        rw [Nat.testBit_and, Nat.testBit_or]
        cases addressBit.toNat.testBit place with
        | false => exact Bool.and_false _
        | true => rw [Bool.or_true, Bool.and_true]
      exact if_pos set
  | outbound =>
      have cleared : (number &&& ~~~addressBit) &&& addressBit = 0 := by
        rw [UInt8.and_assoc]
        exact UInt8.and_zero
      exact if_neg (cleared.trans_ne (by decide))

end Direction

namespace Settings

/-- The transfers of a valid test have a length, which is a word of the stack. -/
theorem transferLength_bounds {settings : Settings} (valid : settings.validate = .ok ())
    (direction : Direction) :
    1 ≤ settings.transferLength direction ∧ settings.transferLength direction ≤ maxLength := by
  unfold validate at valid
  split at valid
  · contradiction
  split at valid
  · contradiction
  next some =>
    split at valid
    · contradiction
    next short =>
      rw [not_or] at some
      have both := Nat.max_le.mp (Nat.le_of_not_lt short)
      cases direction with
      | inbound => exact ⟨Nat.one_le_iff_ne_zero.mpr some.1, both.1⟩
      | outbound => exact ⟨Nat.one_le_iff_ne_zero.mpr some.2, both.2⟩

end Settings

end UsbThroughput
