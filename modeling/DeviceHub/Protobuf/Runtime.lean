import DeviceHub.Bytes.Encoding

/-!
# The values of a message as bytes

What generated message classes rely on in the runtime library that reads and writes single values.
A record is a tag, which has the number of a field and a wire type, and a payload; the wire type
says where the payload ends, so that a reader can skip a field that it does not know.

## Main definitions

* `Codec` : how values are written and read; writing can fail.
* `BinaryRuntime` : the codecs of a runtime library, and how it skips a payload.
* `Skips` : bytes that are skipped as a whole.
-/

namespace DeviceHub

namespace Protobuf

/-- How the value after a tag is written. -/
inductive WireType
  | varint | bit64 | lengthDelimited | startGroup | endGroup | bit32
  deriving DecidableEq

/-- How values of a type are written and read.  Writing fails for a value that has no encoding. -/
structure Codec (A : Type) where
  write : A → Option Bytes
  read : Bytes → Option (A × Bytes)
  /-- What was written is read again, whatever comes after it. -/
  read_write : ∀ {a bs}, write a = some bs → ∀ rest, read (bs ++ rest) = some (a, rest)
  /-- Reading takes a byte at least. -/
  read_length : ∀ {a bs rest}, read bs = some (a, rest) → rest.length < bs.length

/-- The bytes are skipped as a whole. -/
def Skips (skip : WireType → Bytes → Option (Bytes × Bytes)) (wireType : WireType) (data : Bytes) :
    Prop := ∀ rest, skip wireType (data ++ rest) = some (data, rest)

/-- A codec for payloads of a wire type. -/
structure Scalar (skip : WireType → Bytes → Option (Bytes × Bytes)) (wireType : WireType)
    (A : Type) extends Codec A where
  skips : ∀ {a bs}, write a = some bs → Skips skip wireType bs

/-- What the generated classes use of the runtime library. -/
class BinaryRuntime where
  /-- The number of a field and the wire type of its payload. -/
  tag : Codec (ℕ × WireType)
  /-- The bytes that are skipped, and those after them. -/
  skip : WireType → Bytes → Option (Bytes × Bytes)
  skip_eq : ∀ {wireType bs data rest}, skip wireType bs = some (data, rest) →
    bs = data ++ rest ∧ Skips skip wireType data
  string : Scalar skip .lengthDelimited String
  bytes : Scalar skip .lengthDelimited Bytes
  uint32 : Scalar skip .varint ℤ
  int32 : Scalar skip .varint ℤ
  bool : Scalar skip .varint Bool
  /-- A length, and so many bytes. -/
  skips_join : ∀ {body length : Bytes}, uint32.write body.length = some length →
    Skips skip .lengthDelimited (length ++ body)

variable [BinaryRuntime]

export BinaryRuntime (tag skip string bytes uint32 int32 bool)

theorem skip_length {wireType : WireType} {bs data rest : Bytes}
    (h : skip wireType bs = some (data, rest)) : rest.length ≤ bs.length := by
  rw [(BinaryRuntime.skip_eq h).1, List.length_append]
  exact Nat.le_add_left _ _

theorem tag_ne_nil {t : ℕ × WireType} {bs : Bytes} (h : tag.write t = some bs) : bs ≠ [] := by
  rintro rfl
  have hlength := tag.read_length (tag.read_write h [])
  exact Nat.lt_irrefl _ hlength

end Protobuf

end DeviceHub
