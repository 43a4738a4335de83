import Mathlib.Algebra.Order.Ring.Nat
import Mathlib.Data.List.Basic

/-!
# Numbers as bytes

Variable-length numbers: seven bits in each byte, the lowest ones first, and the eighth bit set in
every byte but the last.

## Main definitions

* `Bytes` : lists of bytes.
* `varint` : the bytes of a number.
* `Partial` : a number of which some bytes have been read.

## Main results

* `Partial.last`, `Partial.more` : what the next byte of a number says.
-/

namespace DeviceHub

/-- The contents of a `Buffer`. -/
abbrev Bytes := List UInt8

theorem exists_append_of_length_le {α : Type} {a b c d : List α} (h : a ++ b = c ++ d)
    (hle : a.length ≤ c.length) : ∃ e, c = a ++ e ∧ b = e ++ d := by
  rcases List.append_eq_append_iff.1 h with he | ⟨e, rfl, rfl⟩
  · exact he
  · obtain rfl : e = [] := by
      rw [List.length_append] at hle
      exact List.length_eq_zero_iff.1 (by omega)
    exact ⟨[], by simp, rfl⟩

/-- The bytes of a number. -/
def varint (n : Nat) : Bytes :=
  if n < 128 then [.ofNat n] else .ofNat (128 + n % 128) :: varint (n / 128)

theorem varint_of_lt {n : Nat} (h : n < 128) : varint n = [.ofNat n] := by
  rw [varint, if_pos h]

theorem varint_of_le {n : Nat} (h : 128 ≤ n) :
    varint n = .ofNat (128 + n % 128) :: varint (n / 128) := by
  rw [varint, if_neg (Nat.not_lt.2 h)]

/-- The first `j` bytes of `total` have the value `value`, and the number `rest` is still to be
read. -/
structure Partial (total value j rest : Nat) : Prop where
  eq : total = value + rest * 128 ^ j
  pos : 0 < rest

namespace Partial

variable {total value j rest : Nat}

theorem start (h : 0 < total) : Partial total 0 0 total := ⟨by simp, h⟩

theorem last (h : Partial total value j rest) : value + rest * 128 ^ j = total := h.eq.symm

theorem more (h : Partial total value j rest) (hrest : 128 ≤ rest) :
    Partial total (value + rest % 128 * 128 ^ j) (j + 1) (rest / 128) where
  eq := by
    have hsplit : rest * 128 ^ j = rest % 128 * 128 ^ j + rest / 128 * 128 ^ (j + 1) := by
      rw [Nat.pow_succ, ← Nat.mul_assoc, Nat.mul_right_comm, ← Nat.add_mul, Nat.mul_comm (rest / 128),
        Nat.mod_add_div]
    rw [h.eq, hsplit, Nat.add_assoc]
  pos := Nat.div_pos hrest (by decide)

theorem mul_le (h : Partial total value j rest) : rest * 128 ^ j ≤ total := by
  rw [h.eq]
  exact Nat.le_add_left _ _

theorem lt_five (h : Partial total value j rest) (htotal : total < 2 ^ 31) : j < 5 := by
  by_contra hj
  have hpow : 128 ^ 5 ≤ 128 ^ j := Nat.pow_le_pow_right (by decide) (Nat.not_lt.1 hj)
  have hle := (Nat.le_mul_of_pos_left (128 ^ j) h.pos).trans h.mul_le
  have hlarge : 2 ^ 31 < 128 ^ 5 := by decide
  omega

end Partial

end DeviceHub
