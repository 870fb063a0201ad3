/-!
# Little-endian numbers

A number below `256 ^ width` becomes `width` bytes, least significant first, and bytes become a
number again.  The one law is `decode_encode`: writing and reading back keeps the number modulo
`256 ^ width`, hence keeps it exactly when it fits.
-/

set_option autoImplicit false

namespace Heartbeat.LittleEndian

/-- The lowest `width` bytes of a number, least significant byte first. -/
def encode : (width : Nat) → (number : Nat) → List UInt8
  | 0, _ => []
  | width + 1, number => UInt8.ofNat (number % 256) :: encode width (number / 256)

/-- The number whose bytes are given, least significant byte first. -/
def decode : List UInt8 → Nat
  | [] => 0
  | byte :: rest => byte.toNat + 256 * decode rest

@[simp] theorem length_encode (width number : Nat) : (encode width number).length = width := by
  induction width generalizing number with
  | zero => rfl
  | succ width ih => simp [encode, ih]

theorem decode_encode (width number : Nat) :
    decode (encode width number) = number % Nat.pow 256 width := by
  induction width generalizing number with
  | zero => simp [encode, decode, Nat.mod_one]
  | succ width ih =>
    have small : (UInt8.ofNat (number % 256)).toNat = number % 256 := by
      rw [UInt8.toNat_ofNat']
      exact Nat.mod_eq_of_lt (Nat.mod_lt _ (by decide))
    have grown : Nat.pow 256 (width + 1) = 256 * Nat.pow 256 width := Nat.mul_comm _ _
    rw [encode, decode, ih, small, grown, Nat.mod_mul]

theorem decode_encode_of_lt {width number : Nat} (fits : number < Nat.pow 256 width) :
    decode (encode width number) = number := by
  rw [decode_encode, Nat.mod_eq_of_lt fits]

end Heartbeat.LittleEndian
