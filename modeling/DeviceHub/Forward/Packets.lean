import DeviceHub.Bytes.Encoding
import Mathlib.Data.List.Infix

/-!
# `plugins/forward/util/reader.js` and `writer.js`

The bytes of all connections of a port forward go through one stream, in packets with a header of
four bytes: the target of the packet and its length.  A packet of length 0 ends its connection.

## Main definitions

* `forward.writeAll` : what a `ForwardWriter` pushes.
* `ForwardReader`, `ForwardReader.transform` : the reader.
* `forward.InHeader` : the places of a stream that are inside a header.

## Main results

* `ForwardReader.turns_packets`, `ForwardReader.turns_payload` : what a turn of its loop reads.
* `ForwardReader.loop_reads` : what the reader makes of a chunk that does not end inside a header.
* `forward.intact_of_whole_headers` : bytes arrive intact if no chunk ends inside a header.
-/

namespace DeviceHub

namespace forward

/-- The bytes of a header. -/
def HEADER_SIZE : Nat := 4

/-- The largest length that a header can tell. -/
def MAX_PACKET_SIZE : Nat := 0xFFFF

/-- `buffer.writeUInt16LE(n)`, for numbers below 65536. -/
def uInt16LE (n : Nat) : Bytes := [.ofNat (n % 256), .ofNat (n / 256)]

/-- `buffer.readUInt16LE(offset)`. -/
def readUInt16LE (buffer : Bytes) (offset : Nat) : Nat :=
  (buffer.getD offset 0).toNat + 256 * (buffer.getD (offset + 1) 0).toNat

/-- The header of a packet. -/
def header (target length : Nat) : Bytes := uInt16LE target ++ uInt16LE length

/-! ### The writer -/

/-- The packets of a chunk that is written: the `do` loop goes on as long as something is left. -/
def packets (chunk : Bytes) : List Bytes :=
  if chunk.length ≤ MAX_PACKET_SIZE then [chunk]
  else chunk.take MAX_PACKET_SIZE :: packets (chunk.drop MAX_PACKET_SIZE)
termination_by chunk.length
decreasing_by
  have hpos : 0 < MAX_PACKET_SIZE := by decide
  rw [List.length_drop]
  omega

/-- What `_transform` pushes for a chunk. -/
def transform (target : Nat) (chunk : Bytes) : Bytes :=
  (packets chunk).flatMap fun packet => header target packet.length ++ packet

/-- What `_flush` pushes. -/
def flush (target : Nat) : Bytes := header target 0

/-- The bytes of a `ForwardWriter` to which the chunks are written and which is flushed then. -/
def writeAll (target : Nat) (chunks : List Bytes) : Bytes :=
  chunks.flatMap (transform target) ++ flush target

end forward

open forward

/-! ### The reader -/

/-- The reader of the packets. -/
structure ForwardReader where
  header : Bytes
  needLength : Int
  target : Nat
  /-- The packets that were emitted; a fin packet has no data. -/
  emitted : List (Nat × Option Bytes)
  deriving DecidableEq

namespace ForwardReader

/-- A new reader. -/
def new : ForwardReader where
  header := [0, 0, 0, 0]
  needLength := -HEADER_SIZE
  target := 0
  emitted := []

/-- A packet is emitted. -/
def emitPacket (r : ForwardReader) (packet : Option Bytes) : ForwardReader :=
  { r with emitted := r.emitted ++ [(r.target, packet)] }

/-- `chunk.copy(header, HEADER_SIZE + needLength, cursor, cursor - needLength)`, where `rest` is the
chunk from the cursor on; what the chunk does not have is not copied. -/
def copyHeader (r : ForwardReader) (rest : Bytes) : ForwardReader :=
  let start := (HEADER_SIZE + r.needLength).toNat
  let bytes := rest.take (-r.needLength).toNat
  { r with header := r.header.take start ++ bytes ++ r.header.drop (start + bytes.length) }

/-- The target and the length are read from the header. -/
def readHeader (r : ForwardReader) : ForwardReader :=
  let r := { r with target := readUInt16LE r.header 0, needLength := readUInt16LE r.header 2 }
  if r.needLength = 0 then { r.emitPacket none with needLength := -HEADER_SIZE } else r

/-- The loop of `_transform` on a chunk of `length` bytes, of which `rest` are left.  Every turn
moves the cursor on. -/
def loop (length : Nat) : Nat → ForwardReader → Bytes → ForwardReader
  | 0, r, _ => r
  | fuel + 1, r, rest =>
    if rest = [] then r
    else
      let diff := rest.length
      if r.needLength < 0 then
        -- the whole length of the chunk is compared, not what is left of it
        if (length : Int) < -r.needLength then r.copyHeader rest
        else loop length fuel (r.copyHeader rest).readHeader (rest.drop (-r.needLength).toNat)
      else if r.needLength ≤ diff then
        loop length fuel { r.emitPacket (some (rest.take r.needLength.toNat)) with
          needLength := -HEADER_SIZE } (rest.drop r.needLength.toNat)
      else
        loop length fuel { r.emitPacket (some rest) with needLength := r.needLength - diff } []

/-- A chunk is read. -/
def transform (r : ForwardReader) (chunk : Bytes) : ForwardReader :=
  loop chunk.length chunk.length r chunk

/-- The chunks arrive at a new reader. -/
def readAll (chunks : List Bytes) : ForwardReader := chunks.foldl transform new

end ForwardReader

/-! ### Packets -/

namespace forward

theorem readUInt16LE_header {target length : Nat} (ht : target < 65536) (hl : length < 65536) :
    readUInt16LE (header target length) 0 = target ∧
      readUInt16LE (header target length) 2 = length := by
  simp only [readUInt16LE, header, uInt16LE, List.cons_append, List.nil_append, List.getD_cons_zero,
    List.getD_cons_succ, UInt8.toNat_ofNat']
  omega

@[simp] theorem length_header (target length : Nat) : (header target length).length = 4 := rfl

theorem flatten_packets (chunk : Bytes) : (packets chunk).flatten = chunk := by
  induction chunk using packets.induct with
  | case1 chunk h =>
    rw [packets, if_pos h, List.flatten_singleton]
  | case2 chunk h ih =>
    rw [packets, if_neg h, List.flatten_cons, ih, List.take_append_drop]

theorem flatten_flatMap_packets (chunks : List Bytes) :
    (chunks.flatMap packets).flatten = chunks.flatten := by
  induction chunks with
  | nil => rfl
  | cons chunk chunks ih =>
    rw [List.flatMap_cons, List.flatten_append, flatten_packets, ih, List.flatten_cons]

theorem mem_packets {chunk : Bytes} (hchunk : chunk ≠ []) :
    ∀ packet ∈ packets chunk, packet ≠ [] ∧ packet.length < 65536 := by
  have hmax : MAX_PACKET_SIZE = 65535 := rfl
  induction chunk using packets.induct with
  | case1 chunk h =>
    rw [packets, if_pos h]
    intro packet hpacket
    obtain rfl := List.mem_singleton.1 hpacket
    exact ⟨hchunk, by omega⟩
  | case2 chunk h ih =>
    rw [packets, if_neg h]
    intro packet hpacket
    rcases List.mem_cons.1 hpacket with rfl | hpacket
    · rw [← List.length_pos_iff, List.length_take]
      omega
    · refine ih (fun hnil => ?_) packet hpacket
      have hle := List.drop_eq_nil_iff.1 hnil
      omega

/-- The bytes of packets that end with a fin packet. -/
def stream (target : Nat) (ps : List Bytes) : Bytes :=
  (ps.flatMap fun packet => header target packet.length ++ packet) ++ flush target

theorem stream_cons (target : Nat) (packet : Bytes) (ps : List Bytes) :
    stream target (packet :: ps) = header target packet.length ++ (packet ++ stream target ps) := by
  simp only [stream, List.flatMap_cons, List.append_assoc]

theorem writeAll_eq_stream (target : Nat) (chunks : List Bytes) :
    writeAll target chunks = stream target (chunks.flatMap packets) := by
  rw [writeAll, stream, List.flatMap_assoc]
  rfl

/-- The places of the stream of some packets that are inside a header. -/
def InHeader : List Bytes → Nat → Prop
  | [], n => 0 < n ∧ n < HEADER_SIZE
  | packet :: ps, n => 0 < n ∧ n < HEADER_SIZE ∨ HEADER_SIZE + packet.length ≤ n ∧
      InHeader ps (n - (HEADER_SIZE + packet.length))

instance : ∀ (ps : List Bytes) (n : Nat), Decidable (InHeader ps n)
  | [], _ => inferInstanceAs (Decidable (_ ∧ _))
  | packet :: ps, n =>
    have := instDecidableInHeader ps (n - (HEADER_SIZE + packet.length))
    inferInstanceAs (Decidable (_ ∧ _ ∨ _ ∧ _))

/-- What is left of a stream: nothing, packets, or the data of a packet before others. -/
inductive Left
  | ended
  | packets (ps : List Bytes)
  | payload (data : Bytes) (ps : List Bytes)

namespace Left

/-- The bytes that are left. -/
def bytes (target : Nat) : Left → Bytes
  | ended => []
  | packets ps => stream target ps
  | payload data ps => data ++ stream target ps

/-- The data that are still to come. -/
def data : Left → Bytes
  | ended => []
  | packets ps => ps.flatten
  | payload data ps => data ++ ps.flatten

/-- The position is inside of a header. -/
def InHeader : Left → Nat → Prop
  | ended, _ => False
  | packets ps, n => forward.InHeader ps n
  | payload data ps, n => data.length ≤ n ∧ forward.InHeader ps (n - data.length)

theorem inHeader_cons {packet : Bytes} {ps : List Bytes} {n : Nat}
    (h : (payload packet ps).InHeader n) : (packets (packet :: ps)).InHeader (HEADER_SIZE + n) := by
  obtain ⟨hle, hin⟩ := h
  refine .inr ⟨Nat.add_le_add_left hle _, ?_⟩
  rwa [Nat.add_sub_add_left]

end Left

/-- The packets that a reader emits on the way from one place of a stream to another. -/
inductive Delivers (target : Nat) : Left → List (Nat × Option Bytes) → Left → Prop
  | done (left : Left) : Delivers target left [] left
  /-- A header comes before its data. -/
  | header {packet : Bytes} {ps : List Bytes} {emitted : List (Nat × Option Bytes)} {left : Left} :
    Delivers target (.payload packet ps) emitted left →
      Delivers target (.packets (packet :: ps)) emitted left
  /-- A part of the data. -/
  | part {data rest : Bytes} {ps : List Bytes} {emitted : List (Nat × Option Bytes)} {left : Left} :
    Delivers target (.payload rest ps) emitted left →
      Delivers target (.payload (data ++ rest) ps) ((target, some data) :: emitted) left
  /-- The data to the end of the packet. -/
  | last {data : Bytes} {ps : List Bytes} {emitted : List (Nat × Option Bytes)} {left : Left} :
    Delivers target (.packets ps) emitted left →
      Delivers target (.payload data ps) ((target, some data) :: emitted) left
  /-- The fin packet. -/
  | fin {emitted : List (Nat × Option Bytes)} {left : Left} :
    Delivers target .ended emitted left → Delivers target (.packets []) ((target, none) :: emitted) left

namespace Delivers

variable {target : Nat} {left left' left'' : Left} {emitted emitted' : List (Nat × Option Bytes)}

theorem trans (h : Delivers target left emitted left')
    (h' : Delivers target left' emitted' left'') :
    Delivers target left (emitted ++ emitted') left'' := by
  induction h with
  | done => exact h'
  | header _ ih => exact .header (ih h')
  | part _ ih => exact .part (ih h')
  | last _ ih => exact .last (ih h')
  | fin _ ih => exact .fin (ih h')

/-- On the way to the end all data are delivered, and one fin packet after them. -/
theorem of_ended (h : Delivers target left emitted .ended) (hleft : left ≠ .ended) :
    ∃ datas : List Bytes, datas.flatten = left.data ∧
      emitted = datas.map (fun data => (target, some data)) ++ [(target, none)] := by
  generalize hended : Left.ended = final at h
  induction h with
  | done => exact absurd hended.symm hleft
  | header _ ih =>
    obtain ⟨datas, hdata, hemitted⟩ := ih (by simp) hended
    exact ⟨datas, hdata, hemitted⟩
  | @part data rest ps _ _ _ ih =>
    obtain ⟨datas, hdata, hemitted⟩ := ih (by simp) hended
    refine ⟨data :: datas, ?_, by rw [hemitted]; rfl⟩
    rw [List.flatten_cons, hdata, Left.data, Left.data, List.append_assoc]
  | @last data ps _ _ _ ih =>
    obtain ⟨datas, hdata, hemitted⟩ := ih (by simp) hended
    refine ⟨data :: datas, ?_, by rw [hemitted]; rfl⟩
    rw [List.flatten_cons, hdata]
    rfl
  | fin h _ =>
    subst hended
    cases h
    exact ⟨[], rfl, rfl⟩

end Delivers

end forward

namespace ForwardReader

variable {target : Nat}

/-- The reader is at a place of the stream. -/
structure Waits (target : Nat) (r : ForwardReader) (left : Left) : Prop where
  header : r.header.length = HEADER_SIZE
  state : match left with
    | .ended => r.needLength = -HEADER_SIZE
    | .packets ps => r.needLength = -HEADER_SIZE ∧ ∀ packet ∈ ps, packet ≠ [] ∧ packet.length < 65536
    | .payload data ps => r.needLength = data.length ∧ r.target = target ∧ data ≠ [] ∧
        ∀ packet ∈ ps, packet ≠ [] ∧ packet.length < 65536

theorem copyHeader_eq {r : ForwardReader} (hheader : r.header.length = HEADER_SIZE)
    (hneed : r.needLength = -HEADER_SIZE) {bytes rest : Bytes}
    (hbytes : bytes.length = HEADER_SIZE) :
    r.copyHeader (bytes ++ rest) = { r with header := bytes } := by
  have htake : (bytes ++ rest).take HEADER_SIZE = bytes := List.take_left' hbytes
  simp only [copyHeader, hneed, Int.neg_neg, Int.toNat_natCast, Int.add_right_neg, Int.toNat_zero,
    List.take_zero, List.nil_append, htake, Nat.zero_add, hbytes]
  rw [List.drop_of_length_le hheader.le, List.append_nil]

/-- A whole header is read. -/
theorem loop_header {r : ForwardReader} (hheader : r.header.length = HEADER_SIZE)
    (hneed : r.needLength = -HEADER_SIZE) {packetLength length fuel : Nat} (ht : target < 65536)
    (hl : packetLength < 65536) {rest : Bytes} (hlength : HEADER_SIZE ≤ length) :
    loop length (fuel + 1) r (forward.header target packetLength ++ rest) =
      loop length fuel
        (if packetLength = 0 then { r with
            header := forward.header target 0, target := target
            emitted := r.emitted ++ [(target, none)], needLength := -HEADER_SIZE }
          else { r with
            header := forward.header target packetLength, target := target
            needLength := packetLength }) rest := by
  obtain ⟨htarget, hpacket⟩ := readUInt16LE_header ht hl
  have hneg : r.needLength < 0 := by rw [hneed]; decide
  have henough : ¬ (length : Int) < -r.needLength := by
    rw [hneed, Int.neg_neg]
    omega
  have hdrop : (forward.header target packetLength ++ rest).drop (-r.needLength).toNat = rest := by
    rw [hneed]
    rfl
  rw [loop, if_neg (by simp [forward.header, uInt16LE]), if_pos hneg, if_neg henough, hdrop,
    copyHeader_eq hheader hneed (length_header _ _)]
  congr 1
  simp only [readHeader, htarget, hpacket, emitPacket]
  by_cases hzero : packetLength = 0
  · simp [hzero]
  · simp [hzero]

theorem loop_last {r : ForwardReader} {data rest : Bytes} {length fuel : Nat}
    (hneed : r.needLength = data.length) (hdata : data ≠ []) :
    loop length (fuel + 1) r (data ++ rest) = loop length fuel
      { r with emitted := r.emitted ++ [(r.target, some data)], needLength := -HEADER_SIZE }
      rest := by
  rw [loop, if_neg (by simp [hdata]), if_neg (by omega), hneed,
    if_pos (by rw [List.length_append]; omega), Int.toNat_natCast, List.take_left, List.drop_left]
  rfl

theorem loop_part {r : ForwardReader} {chunk : Bytes} {needLength length fuel : Nat}
    (hneed : r.needLength = needLength) (hchunk : chunk ≠ []) (hshort : chunk.length < needLength) :
    loop length (fuel + 1) r chunk = loop length fuel
      { r with
        emitted := r.emitted ++ [(r.target, some chunk)]
        needLength := needLength - chunk.length } [] := by
  rw [loop, if_neg hchunk, if_neg (by omega), hneed, if_neg (by omega)]
  rfl

/-- The reader goes on by so many bytes from one place of the stream to another. -/
structure Reads (target : Nat) (r : ForwardReader) (left : Left) (n : Nat) (r' : ForwardReader)
    (left' : Left) : Prop where
  waits : Waits target r' left'
  inHeader : ∀ k, left'.InHeader k → left.InHeader (n + k)
  delivers : ∃ emitted, r'.emitted = r.emitted ++ emitted ∧ Delivers target left emitted left'

namespace Reads

variable {r r' r'' : ForwardReader} {left left' left'' : Left} {n n' : Nat}

theorem refl (hr : Waits target r left) : Reads target r left 0 r left :=
  ⟨hr, fun k hk => by rwa [Nat.zero_add], [], (List.append_nil _).symm, .done _⟩

theorem trans (h : Reads target r left n r' left') (h' : Reads target r' left' n' r'' left'') :
    Reads target r left (n + n') r'' left'' := by
  obtain ⟨emitted, hemitted, hdelivers⟩ := h.delivers
  obtain ⟨emitted', hemitted', hdelivers'⟩ := h'.delivers
  refine ⟨h'.waits, fun k hk => ?_, emitted ++ emitted', ?_, hdelivers.trans hdelivers'⟩
  · rw [Nat.add_assoc]
    exact h.inHeader _ (h'.inHeader k hk)
  · rw [hemitted', hemitted, List.append_assoc]

end Reads

/-- A turn of the loop takes some bytes from a chunk and goes on with the rest. -/
def Turns (target length : Nat) (r : ForwardReader) (left : Left) (chunk rest : Bytes) : Prop :=
  ∃ first chunk' r' left', chunk = first ++ chunk' ∧ first ≠ [] ∧
    (∀ fuel, loop length (fuel + 1) r chunk = loop length fuel r' chunk') ∧
    Reads target r left first.length r' left' ∧ left'.bytes target = chunk' ++ rest

/-- A turn at the beginning of a packet reads a whole header. -/
theorem turns_packets (ht : target < 65536) {length : Nat} {r : ForwardReader} {ps : List Bytes}
    {chunk rest : Bytes} (hr : Waits target r (.packets ps))
    (hbytes : stream target ps = chunk ++ rest) (hwhole : HEADER_SIZE ≤ chunk.length)
    (hlength : chunk.length ≤ length) : Turns target length r (.packets ps) chunk rest := by
  obtain ⟨hheader, hneed, hps⟩ := hr
  cases ps with
  | nil =>
    obtain ⟨chunk', rfl, hrest⟩ := exists_append_of_length_le
      (a := forward.header target 0) (b := []) (by rw [← hbytes, List.append_nil]; rfl) hwhole
    refine ⟨_, chunk', _, .ended, rfl, List.cons_ne_nil _ _,
      fun fuel => loop_header hheader hneed ht (by decide) (hwhole.trans hlength), ?_, hrest⟩
    rw [if_pos rfl]
    exact ⟨⟨rfl, rfl⟩, fun k hk => hk.elim, [(target, none)], rfl, .fin (.done _)⟩
  | cons packet ps =>
    obtain ⟨hpacket, hlt⟩ := hps packet List.mem_cons_self
    obtain ⟨chunk', rfl, hrest⟩ := exists_append_of_length_le
      (a := forward.header target packet.length) (b := packet ++ stream target ps)
      (by rw [← hbytes, stream_cons]) hwhole
    have hne : packet.length ≠ 0 := fun h0 => hpacket (List.length_eq_zero_iff.1 h0)
    refine ⟨_, chunk', _, .payload packet ps, rfl, List.cons_ne_nil _ _,
      fun fuel => loop_header hheader hneed ht hlt (hwhole.trans hlength), ?_, hrest⟩
    rw [if_neg hne]
    exact ⟨⟨rfl, rfl, rfl, hpacket, fun p hp => hps p (List.mem_cons_of_mem _ hp)⟩,
      fun k hk => Left.inHeader_cons hk, [], (List.append_nil _).symm, .header (.done _)⟩

/-- A turn inside a packet reads the rest of its data, or as much of it as there is. -/
theorem turns_payload {length : Nat} {r : ForwardReader} {data : Bytes} {ps : List Bytes}
    {chunk rest : Bytes} (hr : Waits target r (.payload data ps)) (hchunk : chunk ≠ [])
    (hbytes : data ++ stream target ps = chunk ++ rest) :
    Turns target length r (.payload data ps) chunk rest := by
  obtain ⟨hheader, hneed, htarget, hdata, hps⟩ := hr
  by_cases hall : data.length ≤ chunk.length
  · obtain ⟨chunk', rfl, hrest⟩ := exists_append_of_length_le hbytes hall
    refine ⟨data, chunk', _, .packets ps, rfl, hdata, fun fuel => loop_last hneed hdata, ?_, hrest⟩
    refine ⟨⟨hheader, rfl, hps⟩, fun k hk => ⟨Nat.le_add_right _ _, ?_⟩, [(target, some data)], ?_,
      .last (.done _)⟩
    · rwa [Nat.add_sub_cancel_left]
    · rw [htarget]
  · obtain ⟨data', rfl, hrest⟩ := exists_append_of_length_le hbytes.symm (Nat.le_of_not_le hall)
    rw [List.length_append] at hneed hall
    refine ⟨chunk, [], _, .payload data' ps, (List.append_nil _).symm, hchunk,
      fun fuel => loop_part hneed hchunk (by omega), ?_, hrest.symm⟩
    refine ⟨⟨hheader, ?_, htarget, ?_, hps⟩, fun k hk => ⟨?_, ?_⟩, [(target, some chunk)], ?_,
      .part (.done _)⟩
    · push_cast
      omega
    · rintro rfl
      simp at hall
    · rw [List.length_append]
      exact Nat.add_le_add_left hk.1 _
    · rw [List.length_append, Nat.add_sub_add_left]
      exact hk.2
    · rw [htarget]

/-- **What the reader makes of a chunk** that does not end inside a header. -/
theorem loop_reads (ht : target < 65536) {length fuel : Nat} {r : ForwardReader} {left : Left}
    {chunk rest : Bytes} (hr : Waits target r left) (hbytes : left.bytes target = chunk ++ rest)
    (hfuel : chunk.length ≤ fuel) (hlength : chunk.length ≤ length)
    (hcut : ¬ left.InHeader chunk.length) :
    ∃ left', Reads target r left chunk.length (loop length fuel r chunk) left' ∧
      left'.bytes target = rest := by
  induction fuel generalizing r left chunk with
  | zero =>
    obtain rfl := List.length_eq_zero_iff.1 (Nat.le_zero.1 hfuel)
    exact ⟨left, .refl hr, hbytes⟩
  | succ fuel ih =>
    by_cases hchunk : chunk = []
    · subst hchunk
      exact ⟨left, .refl hr, hbytes⟩
    have hpos := List.length_pos_iff.2 hchunk
    obtain ⟨first, chunk', r', left', rfl, hfirst, hturn, hreads, hrest⟩ :
        Turns target length r left chunk rest := by
      cases left with
      | ended => exact absurd (List.append_eq_nil_iff.1 hbytes.symm).1 hchunk
      | packets ps =>
        refine turns_packets ht hr hbytes ?_ hlength
        -- the chunk has the whole header, for it does not end inside it
        by_contra hshort
        refine hcut ?_
        cases ps with
        | nil => exact ⟨hpos, Nat.not_le.1 hshort⟩
        | cons => exact .inl ⟨hpos, Nat.not_le.1 hshort⟩
      | payload data ps => exact turns_payload hr hchunk hbytes
    have hlt := List.length_pos_iff.2 hfirst
    rw [List.length_append] at hfuel hlength hcut
    obtain ⟨left'', hreads', hleft⟩ := ih hreads.waits hrest (by omega) (by omega)
      fun hin => hcut (hreads.inHeader _ hin)
    rw [hturn, List.length_append]
    exact ⟨left'', hreads.trans hreads', hleft⟩

/-- The chunks arrive one after the other. -/
theorem foldl_transform (ht : target < 65536) {chunks : List Bytes} {r : ForwardReader}
    {left : Left} (hr : Waits target r left) (hbytes : left.bytes target = chunks.flatten)
    (hcut : ∀ before, before <+: chunks → ¬ left.InHeader before.flatten.length) :
    ∃ left', Reads target r left chunks.flatten.length (chunks.foldl transform r) left' ∧
      left'.bytes target = [] := by
  induction chunks generalizing r left with
  | nil => exact ⟨left, .refl hr, hbytes⟩
  | cons chunk chunks ih =>
    have hfirst : ¬ left.InHeader chunk.length := by
      simpa using hcut [chunk] (List.prefix_append [chunk] chunks)
    obtain ⟨mid, hreads, hrest⟩ :=
      loop_reads ht hr hbytes (Nat.le_refl _) (Nat.le_refl _) hfirst
    obtain ⟨left', hreads', hleft⟩ := ih hreads.waits hrest fun before hbefore h =>
      hcut (chunk :: before) ((List.prefix_cons_inj chunk).2 hbefore) (by
        rw [List.flatten_cons, List.length_append]
        exact hreads.inHeader _ h)
    rw [List.flatten_cons, List.length_append]
    exact ⟨left', hreads.trans hreads', hleft⟩

end ForwardReader

namespace forward

/-- The packets of a port forward are intact: all have the target, the data are those that were
written, and the only fin packet is the last one. -/
def Intact (target : Nat) (written : List Bytes) (emitted : List (Nat × Option Bytes)) : Prop :=
  ∃ datas : List Bytes, datas.flatten = written.flatten ∧
    emitted = datas.map (fun data => (target, some data)) ++ [(target, none)]

/-- **Forwarded bytes arrive intact** if no chunk ends inside a header. -/
theorem intact_of_whole_headers {target : Nat} (ht : target < 65536) {written : List Bytes}
    (hwritten : ∀ chunk ∈ written, chunk ≠ []) {chunks : List Bytes}
    (hcut : chunks.flatten = writeAll target written)
    (hwhole : ∀ before, before <+: chunks →
      ¬ InHeader (written.flatMap packets) before.flatten.length) :
    Intact target written (ForwardReader.readAll chunks).emitted := by
  have hps : ∀ packet ∈ written.flatMap packets, packet ≠ [] ∧ packet.length < 65536 := by
    intro packet hpacket
    obtain ⟨chunk, hchunk, hmem⟩ := List.mem_flatMap.1 hpacket
    exact mem_packets (hwritten chunk hchunk) packet hmem
  have hstart : ForwardReader.Waits target .new (.packets (written.flatMap packets)) :=
    ⟨rfl, rfl, hps⟩
  obtain ⟨left, hreads, hbytes⟩ := ForwardReader.foldl_transform ht hstart
    ((writeAll_eq_stream target written).symm.trans hcut.symm) hwhole
  obtain ⟨emitted, hemitted, hdelivers⟩ := hreads.delivers
  -- nothing is left only after the fin packet
  obtain rfl : left = .ended := by
    cases left with
    | ended => rfl
    | packets ps =>
      exact absurd (List.append_eq_nil_iff.1 hbytes).2 (by simp [flush, header, uInt16LE])
    | payload data ps =>
      have hstream := (List.append_eq_nil_iff.1 hbytes).2
      exact absurd (List.append_eq_nil_iff.1 hstream).2 (by simp [flush, header, uInt16LE])
  obtain ⟨datas, hdata, hlist⟩ := hdelivers.of_ended (by simp)
  refine ⟨datas, ?_, by rw [ForwardReader.readAll, hemitted, hlist]; rfl⟩
  rw [hdata, Left.data, flatten_flatMap_packets]

theorem intact_of_whole_headers_split :
    Intact 1 [[7]] (ForwardReader.readAll [[1, 0, 1, 0], [7, 1, 0, 0, 0]]).emitted := by
  have hpackets : [[(7 : UInt8)]].flatMap packets = [[7]] := by
    rw [List.flatMap_singleton, packets, if_pos (by decide)]
  refine intact_of_whole_headers (by decide) (by decide) ?_ fun before hbefore => ?_
  · rw [writeAll_eq_stream, hpackets]
    decide
  · rw [hpackets]
    have hmem : before ∈ [[], [[1, 0, 1, 0]], [[1, 0, 1, 0], [7, 1, 0, 0, 0]]] :=
      (List.mem_inits _ _).2 hbefore
    clear hbefore
    revert before
    decide

/-- **A header is cut in two**: its beginning gets lost. -/
theorem not_intact_of_cut_header :
    [[1, 0], [1, 0, 7, 1, 0, 0, 0]].flatten = writeAll 1 [[7]] ∧
    (ForwardReader.readAll [[1, 0], [1, 0, 7, 1, 0, 0, 0]]).emitted = [(1, some [0, 0, 0])] ∧
    ¬ Intact 1 [[7]] (ForwardReader.readAll [[1, 0], [1, 0, 7, 1, 0, 0, 0]]).emitted := by
  have hpackets : [[(7 : UInt8)]].flatMap packets = [[7]] := by
    rw [List.flatMap_singleton, packets, if_pos (by decide)]
  have hemitted : (ForwardReader.readAll [[1, 0], [1, 0, 7, 1, 0, 0, 0]]).emitted =
      [(1, some [0, 0, 0])] := by decide
  refine ⟨by rw [writeAll_eq_stream, hpackets]; decide, hemitted, ?_⟩
  rintro ⟨datas, -, hlist⟩
  rw [hemitted] at hlist
  have hlast := congrArg List.getLast? hlist
  simp at hlast

end forward

end DeviceHub
