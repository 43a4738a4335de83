import DeviceHub.Wire.MessageStream

/-!
# `plugins/screen/util/frameparser.js`

The frames of a screen, each with its length in four bytes in front of it, the lowest byte first.
The parser counts the bytes of the length and those of the body with the same counter.

## Main definitions

* `FrameParser`, `FrameParser.push`, `FrameParser.nextFrame` : the parser and its methods.
* `FrameReader`, `FrameReader.nextFrame` : the loop of the frame producer that pushes the chunks.
* `encodeFrame` : a frame with its length.
* `FrameParser.Ahead` : what the bytes to come have to be.

## Main results

* `FrameParser.loop_spec` : one call of `nextFrame` returns the next frame, or reads the chunk to its
  end.
* `FrameReader.nextFrames_eq` : the calls return the frames in their order, and then `null`.
-/

namespace DeviceHub

/-- `a >>> 0`. -/
def unsigned (a : Int) : Nat := (BitVec.ofInt 32 a).toNat

/-- The parser, with the chunk that it reads. -/
structure FrameParser where
  readFrameBytes : Nat
  frameBodyLength : Nat
  frameBody : Option Bytes
  cursor : Nat
  chunk : Option Bytes

/-- `Must consume pending frames before pushing more chunks`. -/
inductive FrameError where
  | mustConsumePendingFrames
  deriving DecidableEq

namespace FrameParser

/-- A new parser. -/
def new : FrameParser := ⟨0, 0, none, 0, none⟩

/-- A chunk is given to the parser. -/
def push (p : FrameParser) (chunk : Bytes) : Except FrameError FrameParser :=
  if p.chunk.isSome then .error .mustConsumePendingFrames else .ok { p with chunk := some chunk }

/-- `Buffer.concat([this.frameBody, bytes])`, or the bytes alone. -/
def concat (p : FrameParser) (bytes : Bytes) : Bytes :=
  p.frameBody.elim bytes fun body => body ++ bytes

/-- One byte of the length is read. -/
def readLengthByte (p : FrameParser) (byte : UInt8) : FrameParser :=
  { p with
    frameBodyLength := p.frameBodyLength + unsigned (shiftLeft byte.toNat (p.readFrameBytes * 8))
    cursor := p.cursor + 1
    readFrameBytes := p.readFrameBytes + 1 }

/-- The chunk has the rest of the body. -/
def completeBody (p : FrameParser) (chunk : Bytes) : Bytes × FrameParser :=
  (p.concat ((chunk.drop p.cursor).take p.frameBodyLength),
    { p with
      cursor := p.cursor + p.frameBodyLength
      frameBodyLength := 0
      readFrameBytes := 0
      frameBody := none })

/-- The chunk has only a part of what is left of the body. -/
def partialBody (p : FrameParser) (chunk : Bytes) : FrameParser :=
  let bytesLeft := chunk.length - p.cursor
  { p with
    frameBody := some (p.concat (chunk.drop p.cursor))
    frameBodyLength := p.frameBodyLength - bytesLeft
    readFrameBytes := p.readFrameBytes + bytesLeft
    cursor := chunk.length }

/-- The loop of `nextFrame`, and the end of the chunk. -/
def loop (p : FrameParser) (chunk : Bytes) : Option Bytes × FrameParser :=
  if h : p.cursor < chunk.length then
    if p.readFrameBytes < 4 then (p.readLengthByte chunk[p.cursor]).loop chunk
    else if chunk.length - p.cursor ≥ p.frameBodyLength then
      let completed := p.completeBody chunk
      (some completed.1, completed.2)
    else (p.partialBody chunk).loop chunk
  else (none, { p with cursor := 0, chunk := none })
termination_by chunk.length - p.cursor
decreasing_by
  · simp only [readLengthByte]
    omega
  · simp only [partialBody]
    omega

/-- The next frame, if all of it has come. -/
def nextFrame (p : FrameParser) : Option Bytes × FrameParser :=
  match p.chunk with
  | none => (none, p)
  | some chunk => p.loop chunk

end FrameParser

/-- The parser of a frame producer, and the chunks that its socket has. -/
structure FrameReader where
  parser : FrameParser
  chunks : List Bytes

namespace FrameReader

/-- A chunk is pushed whenever the parser has returned `null`, as long as there is one. -/
def read (parser : FrameParser) : List Bytes → Except FrameError (Option Bytes × FrameReader)
  | [] =>
    let (frame, parser) := parser.nextFrame
    .ok (frame, ⟨parser, []⟩)
  | chunk :: chunks =>
    match parser.nextFrame with
    | (some frame, parser) => .ok (some frame, ⟨parser, chunk :: chunks⟩)
    | (none, parser) => (parser.push chunk).bind fun parser => read parser chunks

/-- The next frame from the chunks that wait. -/
def nextFrame (r : FrameReader) : Except FrameError (Option Bytes × FrameReader) :=
  read r.parser r.chunks

/-- What so many calls return. -/
def nextFrames (r : FrameReader) : Nat → Except FrameError (List (Option Bytes))
  | 0 => .ok []
  | n + 1 => r.nextFrame.bind fun (frame, r) => (r.nextFrames n).map (frame :: ·)

end FrameReader

/-! ### Frames -/

/-- The length in four bytes, the lowest byte first. -/
def frameLength (n : Nat) : Bytes :=
  [.ofNat n, .ofNat (n / 256), .ofNat (n / 256 ^ 2), .ofNat (n / 256 ^ 3)]

/-- A frame after its length. -/
def encodeFrame (frame : Bytes) : Bytes := frameLength frame.length ++ frame

/-- The length of a frame is from 1 to 2^32 - 1. -/
def FrameFits (frame : Bytes) : Prop := 0 < frame.length ∧ frame.length < 2 ^ 32

@[simp] theorem length_frameLength (n : Nat) : (frameLength n).length = 4 := rfl

theorem drop_frameLength {h : Nat} (hh : h < 4) (n : Nat) :
    (frameLength n).drop h = .ofNat (n / 256 ^ h) :: (frameLength n).drop (h + 1) := by
  match h, hh with
  | 0, _ => simp [frameLength]
  | 1, _ => simp [frameLength]
  | 2, _ => rfl
  | 3, _ => rfl

theorem unsigned_shiftLeft (b : UInt8) {h : Nat} (hh : h < 4) :
    unsigned (shiftLeft b.toNat (h * 8)) = b.toNat * 256 ^ h := by
  have hlt : b.toNat < 256 := b.toNat_lt
  have hmod : h * 8 % 32 = h * 8 := Nat.mod_eq_of_lt (by omega)
  have hpow : 2 ^ (h * 8) = 256 ^ h := by rw [Nat.mul_comm, Nat.pow_mul]
  have hle : b.toNat * 256 ^ h < 2 ^ 32 := by
    have hh3 : 256 ^ h ≤ 256 ^ 3 := Nat.pow_le_pow_right (by decide) (by omega)
    calc b.toNat * 256 ^ h ≤ 255 * 256 ^ 3 := Nat.mul_le_mul (by omega) hh3
      _ < 2 ^ 32 := by decide
  rw [unsigned, shiftLeft, BitVec.ofInt_toInt, hmod, BitVec.ofInt_natCast, BitVec.toNat_shiftLeft,
    BitVec.toNat_ofNat, Nat.mod_eq_of_lt (show b.toNat < 2 ^ 32 by omega), Nat.shiftLeft_eq, hpow,
    Nat.mod_eq_of_lt hle]

namespace FrameParser

variable {p : FrameParser} {chunk tail : Bytes} {frames : List Bytes}

/-- **What is ahead of a parser**: the bytes that complete its frame, and those of the other
frames. -/
inductive Ahead : FrameParser → Bytes → List Bytes → Prop
  | ended {p : FrameParser} : p.readFrameBytes = 0 → p.frameBodyLength = 0 → p.frameBody = none →
      Ahead p [] []
  | length {p : FrameParser} {frame : Bytes} {frames : List Bytes} : p.readFrameBytes < 4 →
      p.frameBodyLength = frame.length % 256 ^ p.readFrameBytes → p.frameBody = none →
      Ahead p ((frameLength frame.length).drop p.readFrameBytes ++
          (frame ++ frames.flatMap encodeFrame))
        (frame :: frames)
  | body {p : FrameParser} {front rest : Bytes} {frames : List Bytes} : 4 ≤ p.readFrameBytes →
      p.frameBodyLength = rest.length → rest ≠ [] → p.concat [] = front →
      Ahead p (rest ++ frames.flatMap encodeFrame) ((front ++ rest) :: frames)

theorem concat_eq (bytes : Bytes) : p.concat bytes = p.concat [] ++ bytes := by
  unfold concat
  cases p.frameBody <;> simp

theorem Ahead.start (hread : p.readFrameBytes = 0) (hlength : p.frameBodyLength = 0)
    (hbody : p.frameBody = none) : Ahead p (frames.flatMap encodeFrame) frames := by
  cases frames with
  | nil => exact .ended hread hlength hbody
  | cons frame frames =>
    have h := @Ahead.length p frame frames (by omega)
      (by rw [hread, hlength, Nat.pow_zero, Nat.mod_one]) hbody
    rwa [hread, List.drop_zero, ← List.append_assoc] at h

theorem Ahead.of_chunk {bytes : Bytes} (h : Ahead p bytes frames) (chunk : Option Bytes)
    (cursor : Nat) : Ahead { p with chunk := chunk, cursor := cursor } bytes frames := by
  generalize hp : ({ p with chunk := chunk, cursor := cursor } : FrameParser) = p'
  have hread : p'.readFrameBytes = p.readFrameBytes := by rw [← hp]
  have hlength : p'.frameBodyLength = p.frameBodyLength := by rw [← hp]
  have hbody : p'.frameBody = p.frameBody := by rw [← hp]
  cases h with
  | ended hread' hlength' hbody' =>
    exact .ended (hread.trans hread') (hlength.trans hlength') (hbody.trans hbody')
  | length hread' hlength' hbody' =>
    rw [← hread] at hread' hlength' ⊢
    exact .length hread' (hlength.trans hlength') (hbody.trans hbody')
  | body hread' hlength' hne hfront =>
    refine .body (hread ▸ hread') (hlength.trans hlength') hne ?_
    rw [concat, hbody]
    exact hfront

theorem Ahead.ne_nil {frame : Bytes} (h : Ahead p [] (frame :: frames)) (hfits : FrameFits frame) :
    False := by
  generalize hbytes : [] = bytes at h
  cases h with
  | length =>
    obtain ⟨-, hframe⟩ := List.append_eq_nil_iff.1 hbytes.symm
    obtain ⟨rfl, -⟩ := List.append_eq_nil_iff.1 hframe
    exact absurd hfits.1 (by decide)
  | body _ _ hne => exact hne (List.append_eq_nil_iff.1 hbytes.symm).1

/-- A byte of the length is read. -/
theorem Ahead.readLengthByte {byte : UInt8} {bytes : Bytes} (h : Ahead p (byte :: bytes) frames)
    (hfits : ∀ frame ∈ frames, FrameFits frame) (hread : p.readFrameBytes < 4) :
    Ahead (p.readLengthByte byte) bytes frames := by
  generalize hall : byte :: bytes = all at h
  cases h with
  | ended => cases hall
  | body hmore => omega
  | @length frame frames _ hlength hbody =>
    have hfit := (hfits frame List.mem_cons_self).2
    rw [drop_frameLength hread, List.cons_append] at hall
    obtain ⟨rfl, rfl⟩ := List.cons.inj hall
    set k := p.readFrameBytes with hk
    have hvalue : (p.readLengthByte (.ofNat (frame.length / 256 ^ k))).frameBodyLength =
        frame.length % 256 ^ (k + 1) := by
      show p.frameBodyLength + unsigned (shiftLeft _ (k * 8)) = _
      rw [unsigned_shiftLeft _ hread, hlength, Nat.mod_pow_succ, UInt8.toNat_ofNat', Nat.mul_comm]
    by_cases hlast : k + 1 < 4
    · exact .length hlast hvalue hbody
    · -- the length is complete
      obtain hk3 : k + 1 = 4 := by omega
      have hdrop : (frameLength frame.length).drop (k + 1) = [] := by
        rw [hk3]
        rfl
      rw [hdrop, List.nil_append]
      refine @Ahead.body _ [] _ _ ?_ ?_ ?_ ?_
      · exact Nat.le_of_eq hk3.symm
      · rw [hvalue, hk3]
        exact Nat.mod_eq_of_lt hfit
      · exact List.ne_nil_of_length_pos (hfits frame List.mem_cons_self).1
      · show p.concat [] = []
        rw [concat, hbody]
        rfl

/-- The chunk has the rest of a frame. -/
theorem Ahead.completeBody (h : Ahead p (chunk.drop p.cursor ++ tail) frames)
    (hread : 4 ≤ p.readFrameBytes) (hne : chunk.drop p.cursor ≠ [])
    (hleft : p.frameBodyLength ≤ chunk.length - p.cursor) :
    ∃ frame frames', frames = frame :: frames' ∧ (p.completeBody chunk).1 = frame ∧
      Ahead (p.completeBody chunk).2 (chunk.drop (p.completeBody chunk).2.cursor ++ tail)
        frames' := by
  generalize hall : chunk.drop p.cursor ++ tail = all at h
  cases h with
  | ended => exact absurd (List.append_eq_nil_iff.1 hall).1 hne
  | length hless => omega
  | @body front rest frames _ hlength _ hfront =>
    have hle : rest.length ≤ (chunk.drop p.cursor).length := by
      rw [List.length_drop, ← hlength]
      exact hleft
    obtain ⟨more, hmore, hafter⟩ := exists_append_of_length_le hall.symm hle
    refine ⟨front ++ rest, frames, rfl, ?_, ?_⟩
    · show p.concat ((chunk.drop p.cursor).take p.frameBodyLength) = _
      rw [concat_eq, hfront, hmore, hlength, List.take_left]
    · have hdrop : chunk.drop (p.cursor + p.frameBodyLength) = more := by
        rw [← List.drop_drop, hmore, hlength, List.drop_left]
      show Ahead _ (chunk.drop (p.cursor + p.frameBodyLength) ++ tail) frames
      rw [hdrop, ← hafter]
      exact .start rfl rfl rfl

/-- The chunk has only a part of the frame. -/
theorem Ahead.partialBody (h : Ahead p (chunk.drop p.cursor ++ tail) frames)
    (hread : 4 ≤ p.readFrameBytes) (hne : chunk.drop p.cursor ≠ [])
    (hleft : chunk.length - p.cursor < p.frameBodyLength) :
    Ahead (p.partialBody chunk) tail frames := by
  generalize hall : chunk.drop p.cursor ++ tail = all at h
  cases h with
  | ended => exact absurd (List.append_eq_nil_iff.1 hall).1 hne
  | length hless => omega
  | @body front rest frames _ hlength _ hfront =>
    have hlen : (chunk.drop p.cursor).length = chunk.length - p.cursor := List.length_drop
    obtain ⟨more, rfl, rfl⟩ := exists_append_of_length_le hall (by omega)
    rw [List.length_append, hlen] at hlength
    rw [← List.append_assoc]
    refine @Ahead.body _ (front ++ chunk.drop p.cursor) _ _ ?_ ?_ ?_ ?_
    · exact hread.trans (Nat.le_add_right _ _)
    · show p.frameBodyLength - (chunk.length - p.cursor) = more.length
      omega
    · rintro rfl
      rw [List.length_nil] at hlength
      omega
    · show p.concat (chunk.drop p.cursor) ++ [] = _
      rw [List.append_nil, concat_eq, hfront]

/-- **One call of `nextFrame`** on a chunk returns the next frame, or reads the chunk to its end. -/
theorem loop_spec (hfits : ∀ frame ∈ frames, FrameFits frame)
    (h : Ahead p (chunk.drop p.cursor ++ tail) frames) :
    (∃ frame frames', frames = frame :: frames' ∧ (p.loop chunk).1 = some frame ∧
      (p.loop chunk).2.chunk = p.chunk ∧
      Ahead (p.loop chunk).2 (chunk.drop (p.loop chunk).2.cursor ++ tail) frames') ∨
    (p.loop chunk).1 = none ∧ (p.loop chunk).2.chunk = none ∧ (p.loop chunk).2.cursor = 0 ∧
      Ahead (p.loop chunk).2 tail frames := by
  fun_induction loop p chunk with
  | case1 p hlt hread ih =>
    rw [List.drop_eq_getElem_cons hlt, List.cons_append] at h
    exact ih (h.readLengthByte hfits hread)
  | case2 p hlt hread hleft completed =>
    have hne : chunk.drop p.cursor ≠ [] := fun hnil => by
      rw [List.drop_eq_nil_iff] at hnil
      omega
    obtain ⟨frame, frames', rfl, hframe, hahead⟩ := h.completeBody (by omega) hne hleft
    exact .inl ⟨frame, frames', rfl, congrArg some hframe, rfl, hahead⟩
  | case3 p hlt hread hleft ih =>
    have hne : chunk.drop p.cursor ≠ [] := fun hnil => by
      rw [List.drop_eq_nil_iff] at hnil
      omega
    have hrest : chunk.drop (p.partialBody chunk).cursor = [] := List.drop_length
    refine ih ?_
    rw [hrest, List.nil_append]
    exact h.partialBody (by omega) hne (by omega)
  | case4 p hend =>
    rw [List.drop_eq_nil_of_le (by omega), List.nil_append] at h
    exact .inr ⟨rfl, rfl, rfl, h.of_chunk none 0⟩

end FrameParser

namespace FrameReader

open FrameParser

variable {r : FrameReader} {frames : List Bytes}

/-- The bytes that the parser and the chunks have. -/
def bytes (r : FrameReader) : Bytes :=
  (r.parser.chunk.elim [] fun chunk => chunk.drop r.parser.cursor) ++ r.chunks.flatten

/-- The reader has these frames ahead of it; a parser without a chunk will read the next one from
its beginning. -/
structure Reads (r : FrameReader) (frames : List Bytes) : Prop where
  fits : ∀ frame ∈ frames, FrameFits frame
  ahead : Ahead r.parser r.bytes frames
  cursor : r.parser.chunk = none → r.parser.cursor = 0

/-- A call of the parser returns the next frame, or leaves the parser without a chunk. -/
theorem Reads.nextFrame_parser {parser : FrameParser} {chunks : List Bytes}
    (h : Reads ⟨parser, chunks⟩ frames) :
    (∃ frame frames' parser', frames = frame :: frames' ∧
      parser.nextFrame = (some frame, parser') ∧ Reads ⟨parser', chunks⟩ frames') ∨
    ∃ parser', parser.nextFrame = (none, parser') ∧ parser'.chunk = none ∧
      Reads ⟨parser', chunks⟩ frames := by
  have hahead := h.ahead
  unfold bytes at hahead
  unfold FrameParser.nextFrame
  cases hchunk : parser.chunk with
  | none => exact .inr ⟨parser, rfl, hchunk, h⟩
  | some chunk =>
    dsimp only at hahead
    rw [hchunk] at hahead
    rcases loop_spec h.fits hahead with ⟨frame, frames', rfl, hframe, hsame, hrest⟩ |
      ⟨hnone, hno, hcursor, hrest⟩
    · refine .inl ⟨frame, frames', _, rfl, Prod.ext hframe rfl,
        fun f hf => h.fits f (List.mem_cons_of_mem _ hf), ?_, ?_⟩
      · unfold bytes
        dsimp only
        rwa [hsame, hchunk]
      · intro hno
        dsimp only at hno
        rw [hsame, hchunk] at hno
        cases hno
    · refine .inr ⟨_, Prod.ext hnone rfl, hno, h.fits, ?_, fun _ => hcursor⟩
      unfold bytes
      dsimp only
      rwa [hno]

theorem Reads.push {parser : FrameParser} {chunk : Bytes} {chunks : List Bytes}
    (h : Reads ⟨parser, chunk :: chunks⟩ frames) (hno : parser.chunk = none) :
    ∃ parser', parser.push chunk = .ok parser' ∧ Reads ⟨parser', chunks⟩ frames := by
  have hcursor : parser.cursor = 0 := h.cursor hno
  have hahead := h.ahead
  unfold bytes at hahead
  dsimp only at hahead
  rw [hno] at hahead
  refine ⟨{ parser with chunk := some chunk }, by rw [FrameParser.push, hno]; rfl, h.fits, ?_, nofun⟩
  unfold bytes
  show Ahead _ (chunk.drop parser.cursor ++ chunks.flatten) frames
  rw [hcursor, List.drop_zero]
  exact hcursor ▸ hahead.of_chunk (some chunk) 0

/-- **A call returns the next frame**; `null`, when there is none. -/
theorem Reads.read {parser : FrameParser} {chunks : List Bytes} (h : Reads ⟨parser, chunks⟩ frames) :
    ∃ r', FrameReader.read parser chunks = .ok (frames.head?, r') ∧ Reads r' frames.tail := by
  induction chunks generalizing parser with
  | nil =>
    unfold FrameReader.read
    rcases h.nextFrame_parser with ⟨frame, frames', parser', rfl, hframe, hreads⟩ |
      ⟨parser', hframe, hno, hreads⟩
    · rw [hframe]
      exact ⟨_, rfl, hreads⟩
    · -- there are no more bytes, and so there is no more frame
      rw [hframe]
      cases frames with
      | nil => exact ⟨_, rfl, hreads⟩
      | cons frame frames =>
        have hahead := hreads.ahead
        unfold bytes at hahead
        dsimp only at hahead
        rw [hno] at hahead
        exact (hahead.ne_nil (h.fits frame List.mem_cons_self)).elim
  | cons chunk chunks ih =>
    unfold FrameReader.read
    rcases h.nextFrame_parser with ⟨frame, frames', parser', rfl, hframe, hreads⟩ |
      ⟨parser', hframe, hno, hreads⟩
    · rw [hframe]
      exact ⟨_, rfl, hreads⟩
    · rw [hframe]
      obtain ⟨parser'', hpush, hreads'⟩ := hreads.push hno
      dsimp only
      rw [hpush]
      exact ih hreads'

theorem Reads.nextFrames (h : Reads r frames) (n : Nat) :
    r.nextFrames n = .ok ((frames.map some ++ List.replicate n none).take n) := by
  induction n generalizing r frames with
  | zero => rfl
  | succ n ih =>
    have hr : Reads ⟨r.parser, r.chunks⟩ frames := h
    obtain ⟨r', hread, hreads⟩ := hr.read
    unfold FrameReader.nextFrames FrameReader.nextFrame
    rw [hread]
    show (r'.nextFrames n).map (frames.head? :: ·) = _
    rw [ih hreads]
    cases frames with
    | nil => simp [Except.map, List.replicate_succ]
    | cons frame frames =>
      have hlong : n ≤ (frames.map some ++ List.replicate n none).length := by simp
      rw [List.map_cons, List.cons_append, List.take_succ_cons, List.replicate_succ',
        ← List.append_assoc, List.take_append_of_le_length hlong]
      rfl

/-- **Frames are reassembled**: however their bytes are cut into chunks, the calls return the frames
in their order and `null` after the last one. -/
theorem nextFrames_eq {frames chunks : List Bytes} (hfits : ∀ frame ∈ frames, FrameFits frame)
    (hcut : chunks.flatten = frames.flatMap encodeFrame) (n : Nat) :
    (FrameReader.mk .new chunks).nextFrames n =
      .ok ((frames.map some ++ List.replicate n none).take n) := by
  refine Reads.nextFrames ⟨hfits, ?_, fun _ => rfl⟩ n
  show Ahead .new ([] ++ chunks.flatten) frames
  rw [List.nil_append, hcut]
  exact .start rfl rfl rfl

/-- Two frames in three chunks. -/
theorem nextFrames_two : (FrameReader.mk .new [[2, 0], [0, 0, 7], [9, 1, 0, 0, 0, 5]]).nextFrames 3 =
    .ok [some [7, 9], some [5], none] :=
  nextFrames_eq (show ∀ frame ∈ [[7, 9], [5]], FrameFits frame by unfold FrameFits; decide)
    (by decide) 3

end FrameReader

end DeviceHub
