import DeviceHub.Bytes.Encoding

/-!
# Readable streams of Node

What the code relies on in streams that are read by calls of `read` on the event `readable`.  The
event is emitted some time after bytes have arrived that were missing.  The limit on the bytes that a
stream keeps is not modelled.

## Main definitions

* `Readable` : the bytes of a stream that have not been read, and when it tells of more.
* `Readable.Awake` : the listener will be told of the next bytes.

## Main results

* `Readable.Awake.push` : after bytes have arrived the event is on its way.
-/

namespace DeviceHub

/-- A readable stream, as its methods show it. -/
structure Readable where
  buffer : Bytes := []
  /-- More bytes are to be told of. -/
  needReadable : Bool := false
  /-- The event is going to be emitted. -/
  scheduled : Bool := false
  deriving DecidableEq

namespace Readable

/-- Bytes arrive. -/
def push (s : Readable) (chunk : Bytes) : Readable where
  buffer := s.buffer ++ chunk
  needReadable := false
  scheduled := s.scheduled || s.needReadable

/-- `read(n)`: so many bytes, or `null`. -/
def read (s : Readable) (n : Nat) : Option Bytes × Readable :=
  if 0 < n ∧ n ≤ s.buffer.length then
    (some (s.buffer.take n),
      { s with
        buffer := s.buffer.drop n
        needReadable := s.needReadable || n == s.buffer.length })
  else (none, { s with needReadable := true })

/-- `read()`: all there are, or `null`. -/
def readAll (s : Readable) : Option Bytes × Readable := s.read s.buffer.length

/-- A listener of the event is added. -/
def listen (s : Readable) : Readable :=
  { s with needReadable := s.buffer.isEmpty, scheduled := s.scheduled || !s.buffer.isEmpty }

/-- The listener is told of the next bytes. -/
def Awake (s : Readable) : Prop := s.needReadable = true ∨ s.scheduled = true

variable {s : Readable}

theorem read_of_lt {n : Nat} (h : s.buffer.length < n) :
    s.read n = (none, { s with needReadable := true }) := if_neg (by omega)

theorem read_of_le {n : Nat} (hpos : 0 < n) (h : n ≤ s.buffer.length) :
    s.read n = (some (s.buffer.take n),
      { s with
        buffer := s.buffer.drop n
        needReadable := s.needReadable || n == s.buffer.length }) := if_pos ⟨hpos, h⟩

theorem buffer_read {n : Nat} {chunk : Bytes} {s' : Readable} (h : s.read n = (some chunk, s')) :
    0 < n ∧ chunk.length = n ∧ s.buffer = chunk ++ s'.buffer := by
  unfold read at h
  split at h
  · rename_i hn
    obtain ⟨hchunk, rfl⟩ := Prod.mk.inj h
    obtain rfl := Option.some.inj hchunk
    exact ⟨hn.1, by simp [hn.2], (List.take_append_drop n s.buffer).symm⟩
  · cases h

theorem readAll_nil (h : s.buffer = []) : s.readAll = (none, { s with needReadable := true }) := by
  simp [readAll, read, h]

theorem readAll_of_ne (h : s.buffer ≠ []) :
    s.readAll = (some s.buffer, { s with buffer := [], needReadable := true }) := by
  rw [readAll, read_of_le (List.length_pos_of_ne_nil h) (Nat.le_refl _)]
  simp

theorem Awake.push (h : s.Awake) (chunk : Bytes) : (s.push chunk).scheduled = true := by
  simpa [Readable.push] using h.symm

theorem awake_listen (s : Readable) : s.listen.Awake := by
  cases h : s.buffer <;> simp [Awake, listen, h]

end Readable

end DeviceHub
