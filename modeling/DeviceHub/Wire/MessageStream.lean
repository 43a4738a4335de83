import DeviceHub.Bytes.Encoding
import Mathlib.Data.BitVec

/-!
# `wire/messagestream.ts`

Messages with their length in front of them.

## Main definitions

* `shiftLeft`, `shiftRight`, `bitAnd` : operators on signed 32-bit integers.
* `DelimitedStream`, `DelimitedStream.transform` : the reader.
* `DelimitingStream.transform` : what the writer pushes for a message.

## Main results

* `DelimitingStream.transform_eq` : the length is written as a variable-length number.
* `DelimitedStream.loop_pushes` : what the reader makes of the bytes in its buffer.
* `DelimitedStream.pushes_messages` : the reader pushes the messages that were written, however
  their bytes are cut.
-/

namespace DeviceHub

/-! ### Operators -/

/-- `a << n`. -/
def shiftLeft (a : Int) (n : Nat) : Int := (BitVec.ofInt 32 a <<< (n % 32)).toInt

/-- `a >> n`. -/
def shiftRight (a : Int) (n : Nat) : Int := ((BitVec.ofInt 32 a).sshiftRight (n % 32)).toInt

/-- `a & b`. -/
def bitAnd (a b : Int) : Int := (BitVec.ofInt 32 a &&& BitVec.ofInt 32 b).toInt

theorem toInt_of_lt {n : Nat} (h : n < 2 ^ 31) : (BitVec.ofNat 32 n).toInt = n := by
  have hnat : (BitVec.ofNat 32 n).toNat = n := by
    rw [BitVec.toNat_ofNat]
    exact Nat.mod_eq_of_lt (by omega)
  rw [BitVec.toInt_eq_toNat_of_lt (by omega), hnat]

theorem shiftLeft_of_lt {a n : Nat} (hn : n < 32) (h : a * 2 ^ n < 2 ^ 31) :
    shiftLeft a n = (a * 2 ^ n : Nat) := by
  have hshift : BitVec.ofNat 32 a <<< n = BitVec.ofNat 32 (a * 2 ^ n) := by
    apply BitVec.eq_of_toNat_eq
    simp [Nat.shiftLeft_eq, Nat.mod_mul_mod]
  rw [shiftLeft, Nat.mod_eq_of_lt hn, BitVec.ofInt_natCast, hshift, toInt_of_lt h]

theorem shiftRight_of_lt {a n : Nat} (hn : n < 32) (h : a < 2 ^ 31) :
    shiftRight a n = (a / 2 ^ n : Nat) := by
  rw [shiftRight, Nat.mod_eq_of_lt hn, BitVec.ofInt_natCast, BitVec.toInt_sshiftRight, toInt_of_lt h,
    Int.shiftRight_eq_div_pow]
  norm_cast

theorem bitAnd_mask (a : Nat) : bitAnd a 0x7f = (a % 128 : Nat) := by
  have hand : BitVec.ofNat 32 a &&& BitVec.ofNat 32 0x7f = BitVec.ofNat 32 (a % 128) := by
    apply BitVec.eq_of_toNat_eq
    rw [BitVec.toNat_and, BitVec.toNat_ofNat, BitVec.toNat_ofNat, BitVec.toNat_ofNat,
      show 0x7f % 2 ^ 32 = 2 ^ 7 - 1 from rfl, Nat.and_two_pow_sub_one_eq_mod]
    omega
  rw [bitAnd, BitVec.ofInt_natCast, show BitVec.ofInt 32 0x7f = BitVec.ofNat 32 0x7f from rfl, hand,
    toInt_of_lt (by omega)]

/-! ### The writer -/

namespace DelimitingStream

/-- The bytes of the length; `fuel` is more than the number of turns of the loop, each of which
makes the length smaller. -/
def lengthBytes : Nat → Int → List Int
  | 0, _ => []
  | fuel + 1, length =>
    if length > 0x7f then
      (shiftLeft 1 7 + bitAnd length 0x7f) :: lengthBytes fuel (shiftRight length 7)
    else [length]

/-- What `_transform` pushes: `Buffer.from(lengthBytes)` and the message. -/
def transform (chunk : Bytes) : Bytes :=
  (lengthBytes (chunk.length + 1) chunk.length).map (fun n => UInt8.ofInt n) ++ chunk

theorem ofInt_natCast (n : Nat) : UInt8.ofInt n = UInt8.ofNat n := by
  apply UInt8.toNat_inj.1
  simp only [UInt8.ofInt, UInt8.toNat_ofNat']
  omega

theorem lengthBytes_eq {fuel length : Nat} (hfuel : length < fuel) (h : length < 2 ^ 31) :
    (lengthBytes fuel length).map (fun n => UInt8.ofInt n) = varint length := by
  induction fuel generalizing length with
  | zero => omega
  | succ fuel ih =>
    rw [lengthBytes]
    by_cases hlong : length < 128
    · rw [if_neg (by omega), varint_of_lt hlong, List.map_singleton, ofInt_natCast]
    · have hshift : shiftRight length 7 = (length / 128 : Nat) := shiftRight_of_lt (by decide) h
      have hone : shiftLeft 1 7 = 128 := by decide
      rw [if_pos (by omega), varint_of_le (Nat.not_lt.1 hlong), hshift, bitAnd_mask, hone,
        List.map_cons, ih (by omega) (by omega), ← ofInt_natCast, Nat.cast_add]
      rfl

/-- **The length is written as a variable-length number.** -/
theorem transform_eq {chunk : Bytes} (h : chunk.length < 2 ^ 31) :
    transform chunk = varint chunk.length ++ chunk := by
  rw [transform, lengthBytes_eq (Nat.lt_succ_self _) h]

end DelimitingStream

/-! ### The reader -/

/-- The stream, with the bytes that it keeps. -/
structure DelimitedStream where
  length : Int
  lengthIndex : Nat
  readingLength : Bool
  buffer : Bytes
  /-- The messages that were pushed. -/
  pushed : List Bytes
  deriving DecidableEq

namespace DelimitedStream

/-- A new stream. -/
def new : DelimitedStream where
  length := 0
  lengthIndex := 0
  readingLength := true
  buffer := []
  pushed := []

/-- Where an index of `buffer.slice` is: negative ones count from the end. -/
def sliceIndex (buffer : Bytes) (i : Int) : Nat := if i < 0 then (buffer.length + i).toNat else i.toNat

/-- One byte of a length. -/
def readLength (s : DelimitedStream) (byte : UInt8) (buffer : Bytes) : DelimitedStream :=
  let length := s.length + shiftLeft (byte &&& 0x7f).toNat (7 * s.lengthIndex)
  if byte &&& 0x80 ≠ 0 then
    { s with length := length, lengthIndex := s.lengthIndex + 1, buffer := buffer }
  else { s with length := length, lengthIndex := 0, readingLength := false, buffer := buffer }

/-- A message is pushed. -/
def pushMessage (s : DelimitedStream) : DelimitedStream :=
  let i := sliceIndex s.buffer s.length
  { s with
    pushed := s.pushed ++ [s.buffer.take i]
    buffer := s.buffer.drop i
    length := 0
    readingLength := true }

/-- The `while` loop.  Every second turn at the latest takes a byte out of the buffer. -/
def loop : Nat → DelimitedStream → DelimitedStream
  | 0, s => s
  | fuel + 1, s =>
    match s.buffer with
    | [] => s
    | byte :: buffer =>
      if s.readingLength then loop fuel (s.readLength byte buffer)
      else if s.length ≤ s.buffer.length then loop fuel s.pushMessage
      else s

/-- `_transform` -/
def transform (s : DelimitedStream) (chunk : Bytes) : DelimitedStream :=
  let s := { s with buffer := s.buffer ++ chunk }
  loop (2 * s.buffer.length + 1) s

/-- The bytes of messages. -/
def stream (messages : List Bytes) : Bytes := messages.flatMap DelimitingStream.transform

/-- A length that the writer can write. -/
def Sized (message : Bytes) : Prop := 1 ≤ message.length ∧ message.length ≤ 2 ^ 31 - 1

/-- The reader still has to push the messages, and the bytes after those it has read are `bytes`. -/
inductive At (s : DelimitedStream) : List Bytes → Bytes → Prop
  | ended (hlength : s.length = 0) (hindex : s.lengthIndex = 0) (hreading : s.readingLength = true) :
    At s [] []
  /-- Inside the length of a message. -/
  | length {value rest : Nat} {message : Bytes} {messages : List Bytes}
    (hlength : s.length = value) (hreading : s.readingLength = true)
    (hpart : Partial message.length value s.lengthIndex rest) :
    At s (message :: messages) (varint rest ++ (message ++ stream messages))
  /-- Before a message. -/
  | message {message : Bytes} {messages : List Bytes} (hlength : s.length = message.length)
    (hindex : s.lengthIndex = 0) (hreading : s.readingLength = false) :
    At s (message :: messages) (message ++ stream messages)

theorem At.start {s : DelimitedStream} {messages : List Bytes}
    (hsized : ∀ message ∈ messages, Sized message) (hlength : s.length = 0)
    (hindex : s.lengthIndex = 0) (hreading : s.readingLength = true) :
    At s messages (stream messages) := by
  cases messages with
  | nil => exact .ended hlength hindex hreading
  | cons message messages =>
    obtain ⟨hpos, hle⟩ := hsized message List.mem_cons_self
    rw [stream, List.flatMap_cons, DelimitingStream.transform_eq (by omega), List.append_assoc]
    exact At.length hlength hreading (by rw [hindex]; exact Partial.start hpos)

theorem toNat_lastByte {n : Nat} (h : n < 128) :
    ((UInt8.ofNat n) &&& 0x7f).toNat = n ∧ (UInt8.ofNat n) &&& 0x80 = 0 := by
  have hall : ∀ n < 128, ((UInt8.ofNat n) &&& 0x7f).toNat = n ∧ (UInt8.ofNat n) &&& 0x80 = 0 := by
    decide
  exact hall n h

theorem toNat_moreByte {n : Nat} (h : n < 128) :
    ((UInt8.ofNat (128 + n)) &&& 0x7f).toNat = n ∧ (UInt8.ofNat (128 + n)) &&& 0x80 ≠ 0 := by
  have hall : ∀ n < 128,
      ((UInt8.ofNat (128 + n)) &&& 0x7f).toNat = n ∧ (UInt8.ofNat (128 + n)) &&& 0x80 ≠ 0 := by
    decide
  exact hall n h

theorem shiftLeft_part {total value j rest part : Nat} (h : Partial total value j rest)
    (htotal : total < 2 ^ 31) (hpart : part ≤ rest) :
    shiftLeft part (7 * j) = (part * 128 ^ j : Nat) := by
  have hj := h.lt_five htotal
  have hpow : 2 ^ (7 * j) = 128 ^ j := Nat.pow_mul 2 7 j
  rw [← hpow]
  refine shiftLeft_of_lt (by omega) ?_
  rw [hpow]
  exact ((Nat.mul_le_mul_right _ hpart).trans h.mul_le).trans_lt htotal

/-- One byte of a length leads to the next one or to the message. -/
theorem At.readLength {s : DelimitedStream} {messages : List Bytes} {byte : UInt8}
    {buffer rest : Bytes} (hsized : ∀ message ∈ messages, Sized message)
    (h : At s messages (byte :: (buffer ++ rest))) (hreading : s.readingLength = true) :
    At (s.readLength byte buffer) messages (buffer ++ rest) := by
  generalize hbytes : byte :: (buffer ++ rest) = bytes at h
  cases h with
  | ended => cases hbytes
  | message _ _ hno => exact absurd (hreading.symm.trans hno) (by decide)
  | @length value left message messages hlength _ hpart =>
    have htotal : message.length < 2 ^ 31 := by
      have := (hsized message List.mem_cons_self).2
      omega
    by_cases hlast : left < 128
    · rw [varint_of_lt hlast] at hbytes
      obtain ⟨rfl, hrest⟩ := List.cons.inj hbytes
      obtain ⟨hlow, hhigh⟩ := toNat_lastByte hlast
      have hshift := shiftLeft_part hpart htotal (Nat.le_refl left)
      rw [hrest]
      have hnot : ¬ (UInt8.ofNat left &&& 0x80 ≠ 0) := not_not_intro hhigh
      rw [DelimitedStream.readLength, if_neg hnot, hlow]
      refine .message ?_ rfl rfl
      show s.length + shiftLeft left (7 * s.lengthIndex) = message.length
      rw [hlength, hshift, ← hpart.last, Nat.cast_add]
    · have hle := Nat.not_lt.1 hlast
      rw [varint_of_le hle] at hbytes
      obtain ⟨rfl, hrest⟩ := List.cons.inj hbytes
      obtain ⟨hlow, hhigh⟩ := toNat_moreByte (Nat.mod_lt left (by decide : 0 < 128))
      have hshift := shiftLeft_part hpart htotal (Nat.mod_le left 128)
      rw [hrest, DelimitedStream.readLength, if_pos hhigh, hlow]
      refine At.length ?_ hreading (hpart.more hle)
      show s.length + shiftLeft (left % 128 : Nat) (7 * s.lengthIndex) = _
      rw [hlength, hshift, Nat.cast_add]

/-- A whole message is pushed. -/
theorem At.pushMessage {s : DelimitedStream} {messages : List Bytes} {rest : Bytes}
    (hsized : ∀ message ∈ messages, Sized message) (h : At s messages (s.buffer ++ rest))
    (hreading : s.readingLength = false) (hbuffer : s.buffer ≠ [])
    (hle : s.length ≤ s.buffer.length) :
    ∃ message messages', messages = message :: messages' ∧
      s.pushMessage.pushed = s.pushed ++ [message] ∧
      At s.pushMessage messages' (s.pushMessage.buffer ++ rest) ∧
      s.pushMessage.buffer.length < s.buffer.length := by
  generalize hbytes : s.buffer ++ rest = bytes at h
  cases h with
  | ended => exact absurd (List.append_eq_nil_iff.1 hbytes).1 hbuffer
  | length _ hyes => exact absurd (hreading.symm.trans hyes) (by decide)
  | @message message messages hlength hindex _ =>
    obtain ⟨buffer, hsplit, hrest⟩ := exists_append_of_length_le hbytes.symm (by omega)
    have hpos := (hsized message List.mem_cons_self).1
    have hslice : sliceIndex s.buffer s.length = message.length := by
      rw [sliceIndex, hlength, if_neg (by omega), Int.toNat_natCast]
    have hpush : s.pushMessage = { s with
        pushed := s.pushed ++ [message], buffer := buffer, length := 0, readingLength := true } := by
      rw [DelimitedStream.pushMessage, hslice, hsplit, List.take_left, List.drop_left]
    refine ⟨message, messages, rfl, by rw [hpush], ?_, ?_⟩
    · rw [hpush, ← hrest]
      exact At.start (fun m hm => hsized m (List.mem_cons_of_mem _ hm)) rfl hindex rfl
    · rw [hpush, hsplit, List.length_append]
      show buffer.length < _
      omega

section Loop

variable {fuel : Nat} {s : DelimitedStream}

theorem loop_nil (hbuffer : s.buffer = []) : loop fuel s = s := by
  cases fuel with
  | zero => rfl
  | succ fuel => rw [loop, hbuffer]

theorem loop_readLength {byte : UInt8} {buffer : Bytes} (hbuffer : s.buffer = byte :: buffer)
    (hreading : s.readingLength = true) :
    loop (fuel + 1) s = loop fuel (s.readLength byte buffer) := by
  rw [loop, hbuffer]
  exact if_pos hreading

theorem loop_pushMessage (hbuffer : s.buffer ≠ []) (hreading : s.readingLength = false)
    (hle : s.length ≤ s.buffer.length) : loop (fuel + 1) s = loop fuel s.pushMessage := by
  obtain ⟨byte, buffer, hcons⟩ := List.exists_cons_of_ne_nil hbuffer
  have hno : ¬ s.readingLength = true := by simp [hreading]
  rw [loop, hcons]
  dsimp only
  rw [if_neg hno, ← hcons, if_pos hle]

theorem loop_wait (hreading : s.readingLength = false) (hlt : s.buffer.length < s.length) :
    loop fuel s = s := by
  cases fuel with
  | zero => rfl
  | succ fuel =>
    have hno : ¬ s.readingLength = true := by simp [hreading]
    cases hbuffer : s.buffer with
    | nil => exact loop_nil hbuffer
    | cons byte buffer =>
      rw [loop, hbuffer]
      dsimp only
      rw [if_neg hno, ← hbuffer, if_neg (by omega)]

theorem readLength_buffer (byte : UInt8) (buffer : Bytes) :
    (s.readLength byte buffer).buffer = buffer ∧ (s.readLength byte buffer).pushed = s.pushed := by
  unfold readLength
  split <;> exact ⟨rfl, rfl⟩

/-- **What the reader makes of the bytes in its buffer**: it pushes messages until the buffer is
empty or the next message is not there as a whole. -/
theorem loop_pushes {messages : List Bytes} {rest : Bytes}
    (hsized : ∀ message ∈ messages, Sized message) (h : At s messages (s.buffer ++ rest))
    (hfuel : 2 * s.buffer.length + (if s.readingLength then 0 else 1) ≤ fuel) :
    ∃ before after, messages = before ++ after ∧ (loop fuel s).pushed = s.pushed ++ before ∧
      At (loop fuel s) after ((loop fuel s).buffer ++ rest) ∧ ((loop fuel s).buffer = [] ∨
        (loop fuel s).readingLength = false ∧ (loop fuel s).buffer.length < (loop fuel s).length) := by
  induction fuel generalizing s messages with
  | zero =>
    have hempty : s.buffer = [] := List.length_eq_zero_iff.1 (by omega)
    exact ⟨[], messages, rfl, (List.append_nil _).symm, h, .inl hempty⟩
  | succ fuel ih =>
    by_cases hempty : s.buffer = []
    · rw [loop_nil hempty]
      exact ⟨[], messages, rfl, (List.append_nil _).symm, h, .inl hempty⟩
    cases hreading : s.readingLength with
    | true =>
      obtain ⟨byte, buffer, hbuffer⟩ := List.exists_cons_of_ne_nil hempty
      obtain ⟨hrest, hpushed⟩ := readLength_buffer (s := s) byte buffer
      rw [hbuffer, hreading, List.length_cons, if_pos rfl] at hfuel
      rw [hbuffer] at h
      have hread := h.readLength hsized hreading
      obtain ⟨before, after, hsplit, hout, hat, hend⟩ := ih (s := s.readLength byte buffer) hsized
        (by rw [hrest]; exact hread) (by rw [hrest]; split <;> omega)
      rw [loop_readLength hbuffer hreading]
      exact ⟨before, after, hsplit, by rw [hout, hpushed], hat, hend⟩
    | false =>
      by_cases hle : s.length ≤ s.buffer.length
      · rw [hreading] at hfuel
        obtain ⟨message, messages', rfl, hpush, hat, hshorter⟩ :=
          h.pushMessage hsized hreading hempty hle
        obtain ⟨before, after, hsplit, hout, hat', hend⟩ := ih (s := s.pushMessage)
          (fun m hm => hsized m (List.mem_cons_of_mem _ hm)) hat (by
            rw [show s.pushMessage.readingLength = true from rfl, if_pos rfl]
            simp only [Bool.false_eq_true, if_false] at hfuel
            omega)
        rw [loop_pushMessage hempty hreading hle]
        refine ⟨message :: before, after, by rw [hsplit]; rfl, ?_, hat', hend⟩
        rw [hout, hpush, List.append_assoc]
        rfl
      · rw [loop_wait hreading (by omega)]
        exact ⟨[], messages, rfl, (List.append_nil _).symm, h, .inr ⟨hreading, by omega⟩⟩

end Loop

theorem At.withBuffer {s : DelimitedStream} {messages : List Bytes} {bytes : Bytes}
    (h : At s messages bytes) (buffer : Bytes) : At { s with buffer := buffer } messages bytes := by
  cases h with
  | ended hlength hindex hreading => exact .ended hlength hindex hreading
  | length hlength hreading hpart => exact .length hlength hreading hpart
  | message hlength hindex hreading => exact .message hlength hindex hreading

/-- The chunks arrive one after the other. -/
theorem foldl_transform {chunks : List Bytes} {s : DelimitedStream} {messages : List Bytes}
    (hsized : ∀ message ∈ messages, Sized message)
    (h : At s messages (s.buffer ++ chunks.flatten))
    (hend : s.buffer = [] ∨ s.readingLength = false ∧ s.buffer.length < s.length) :
    ∃ before after, messages = before ++ after ∧
      (chunks.foldl transform s).pushed = s.pushed ++ before ∧
      At (chunks.foldl transform s) after (chunks.foldl transform s).buffer ∧
      ((chunks.foldl transform s).buffer = [] ∨ (chunks.foldl transform s).readingLength = false ∧
        (chunks.foldl transform s).buffer.length < (chunks.foldl transform s).length) := by
  induction chunks generalizing s messages with
  | nil =>
    rw [List.flatten_nil, List.append_nil] at h
    exact ⟨[], messages, rfl, (List.append_nil _).symm, h, hend⟩
  | cons chunk chunks ih =>
    rw [List.flatten_cons, ← List.append_assoc] at h
    have hfuel : 2 * (s.buffer ++ chunk).length + (if s.readingLength then 0 else 1) ≤
        2 * (s.buffer ++ chunk).length + 1 := by split <;> omega
    obtain ⟨before, after, rfl, hpushed, hat, hend'⟩ :=
      loop_pushes hsized (h.withBuffer (s.buffer ++ chunk)) hfuel
    obtain ⟨before', after', rfl, hpushed', hat', hend''⟩ :=
      ih (s := s.transform chunk) (fun m hm => hsized m (List.mem_append_right _ hm)) hat hend'
    refine ⟨before ++ before', after', (List.append_assoc _ _ _).symm, ?_, hat', hend''⟩
    rw [List.foldl_cons, hpushed', transform, hpushed, List.append_assoc]

/-- **Framed messages arrive**: however the bytes of messages are cut, a new reader pushes the
messages in their order, and is ready for the next length. -/
theorem pushes_messages {messages chunks : List Bytes}
    (hsized : ∀ message ∈ messages, Sized message)
    (hcut : chunks.flatten = messages.flatMap DelimitingStream.transform) :
    chunks.foldl transform new = { new with pushed := messages } := by
  have hstart : At new messages (new.buffer ++ chunks.flatten) := by
    rw [hcut]
    exact At.start hsized rfl rfl rfl
  obtain ⟨before, after, rfl, hpushed, hat, hend⟩ := foldl_transform hsized hstart (.inl rfl)
  set s := chunks.foldl transform new
  generalize hbytes : s.buffer = bytes at hat
  cases hat with
  | ended hlength hindex hreading =>
    have hs : s = ⟨0, 0, true, [], before⟩ := by
      rw [← hlength, ← hindex, ← hreading, ← hbytes, ← show s.pushed = before from hpushed]
    rw [hs, List.append_nil]
    rfl
  | @length value left message messages _ hyes _ =>
    rcases hend with hnil | ⟨hno, -⟩
    · have hvarint : varint left = [] := (List.append_eq_nil_iff.1 (hbytes.symm.trans hnil)).1
      rw [varint] at hvarint
      split at hvarint <;> cases hvarint
    · exact absurd (hyes.symm.trans hno) (by decide)
  | @message message messages hlength _ hno =>
    have hpos := (hsized message (by simp)).1
    have hlen : s.buffer.length = message.length + (stream messages).length := by
      rw [hbytes, List.length_append]
    rcases hend with hnil | ⟨-, hlt⟩
    · rw [hnil, List.length_nil] at hlen
      omega
    · omega

theorem pushes_messages_split :
    [[2, 7], [], [9, 1], [5]].foldl transform new = { new with pushed := [[7, 9], [5]] } :=
  pushes_messages (by unfold Sized; decide) (by decide)

end DelimitedStream

end DeviceHub
