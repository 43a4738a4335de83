import DeviceHub.Bytes.Encoding

/-!
# Bytes as hexadecimal digits

How a buffer is written with two digits a byte, `buffer.toString('hex')`, and how a text is read,
`Buffer.from(text, 'hex')`, which ends at the first two characters that are no digits.

## Main definitions

* `Hex.encode`, `Hex.decode` : the two functions.

## Main results

* `Hex.decode_encode` : a buffer that was written is read back.
-/

namespace DeviceHub

namespace Hex

/-- The value of a digit, in lower or upper case. -/
def value (c : Char) : Option Nat :=
  if '0' ≤ c ∧ c ≤ '9' then some (c.toNat - '0'.toNat)
  else if 'a' ≤ c ∧ c ≤ 'f' then some (c.toNat - 'a'.toNat + 10)
  else if 'A' ≤ c ∧ c ≤ 'F' then some (c.toNat - 'A'.toNat + 10)
  else none

/-- The two digits of a byte. -/
def digits (b : UInt8) : List Char := [Nat.digitChar (b.toNat / 16), Nat.digitChar (b.toNat % 16)]

/-- `buffer.toString('hex')` -/
def encode (bytes : Bytes) : String := String.ofList (bytes.flatMap digits)

/-- The bytes of a list of characters. -/
def bytes : List Char → Bytes
  | high :: low :: rest =>
    match value high, value low with
    | some x, some y => .ofNat (16 * x + y) :: bytes rest
    | _, _ => []
  | _ => []

/-- `Buffer.from(text, 'hex')` -/
def decode (text : String) : Bytes := bytes text.toList

theorem value_digitChar {n : Nat} (h : n < 16) : value (Nat.digitChar n) = some n := by
  have hall : ∀ n < 16, value (Nat.digitChar n) = some n := by decide
  exact hall n h

theorem bytes_digits_append (b : UInt8) (rest : List Char) :
    bytes (digits b ++ rest) = b :: bytes rest := by
  have hlt : b.toNat < 256 := b.toNat_lt
  simp only [digits, List.cons_append, List.nil_append, bytes]
  rw [value_digitChar (by omega), value_digitChar (Nat.mod_lt _ (by decide))]
  dsimp only
  rw [Nat.div_add_mod, UInt8.ofNat_toNat]

/-- **A buffer that was written is read back.** -/
@[simp] theorem decode_encode (buffer : Bytes) : decode (encode buffer) = buffer := by
  unfold decode encode
  rw [String.toList_ofList]
  induction buffer with
  | nil => rfl
  | cons b buffer ih => rw [List.flatMap_cons, bytes_digits_append, ih]

end Hex

end DeviceHub
