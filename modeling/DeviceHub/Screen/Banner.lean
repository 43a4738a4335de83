import DeviceHub.Screen.FrameParser
import DeviceHub.Util.Readable

/-!
# `plugins/screen/util/banner.js`

The banner that the screen service sends in front of the frames: its length is in its second byte,
the numbers have their lowest bytes first.  It is read in two pieces, each as soon as it is there.

## Main definitions

* `Banner`, `BannerReader`, `BannerReader.tryRead` : what is read, and the listener that reads it.
* `MinicapBanner`, `MinicapBanner.encode` : what the service has to say, and how it is sent.

## Main results

* `MinicapBanner.tried` : a call of the listener reads the banner, or as much of it as there is.
-/

namespace DeviceHub

/-- The fields of a banner, as far as they were read. -/
structure Banner where
  version : Nat := 0
  length : Nat := 0
  pid : Nat := 0
  realWidth : Nat := 0
  realHeight : Nat := 0
  virtualWidth : Nat := 0
  virtualHeight : Nat := 0
  orientation : Nat := 0
  dumb : Bool := false
  alwaysUpright : Bool := false
  tear : Bool := false
  deriving DecidableEq

/-- `(byte << (i * 8)) >>> 0` -/
def shiftedByte (byte : UInt8) (i : Nat) : Nat := unsigned (shiftLeft byte.toNat (i * 8))

/-- What the byte number `i` of the banner says. -/
def Banner.addByte (banner : Banner) (byte : UInt8) (i : Nat) : Banner :=
  if i = 0 then { banner with version := byte.toNat }
  else if i = 1 then { banner with length := byte.toNat }
  else if i < 6 then { banner with pid := banner.pid + shiftedByte byte (i - 2) }
  else if i < 10 then { banner with realWidth := banner.realWidth + shiftedByte byte (i - 6) }
  else if i < 14 then { banner with realHeight := banner.realHeight + shiftedByte byte (i - 10) }
  else if i < 18 then
    { banner with virtualWidth := banner.virtualWidth + shiftedByte byte (i - 14) }
  else if i < 22 then
    { banner with virtualHeight := banner.virtualHeight + shiftedByte byte (i - 18) }
  else if i = 22 then { banner with orientation := banner.orientation + byte.toNat * 90 }
  else if i = 23 then
    { banner with
      dumb := byte &&& 1 == 1
      alwaysUpright := byte &&& 2 == 2
      tear := byte &&& 4 == 4 }
  else banner

theorem Banner.addByte_of_le (banner : Banner) (byte : UInt8) {i : Nat} (h : 24 ≤ i) :
    banner.addByte byte i = banner := by
  unfold Banner.addByte
  rw [if_neg (by omega), if_neg (by omega), if_neg (by omega), if_neg (by omega),
    if_neg (by omega), if_neg (by omega), if_neg (by omega), if_neg (by omega), if_neg (by omega)]

/-- The variables of `parseBanner`. -/
structure BannerReader where
  readBannerBytes : Nat := 0
  needBannerBytes : Nat := 2
  banner : Banner := {}
  deriving DecidableEq

/-- What has become of the promise of the banner. -/
inductive BannerOutcome where
  | pending
  | resolved
  | rejected
  deriving DecidableEq

namespace BannerReader

/-- One byte of the banner is read. -/
def readByte (r : BannerReader) (byte : UInt8) : BannerReader where
  readBannerBytes := r.readBannerBytes + 1
  needBannerBytes := if r.readBannerBytes = 1 then byte.toNat else r.needBannerBytes
  banner := r.banner.addByte byte r.readBannerBytes

/-- The loop over a chunk.  The branch for what is supposed to be impossible does not move on in the
chunk: it rejects the promise and then goes round for ever, for which `.rejected` stands. -/
def readChunk (r : BannerReader) : Bytes → BannerOutcome × BannerReader
  | [] => (.pending, r)
  | byte :: chunk =>
    if r.readBannerBytes < r.needBannerBytes then
      let r := r.readByte byte
      if r.readBannerBytes = r.needBannerBytes then (.resolved, r) else r.readChunk chunk
    else (.rejected, r)

theorem length_of_read {socket socket' : Readable} {n : Nat} {chunk : Bytes}
    (h : socket.read n = (some chunk, socket')) :
    socket'.buffer.length < socket.buffer.length := by
  obtain ⟨hpos, hlen, hbuffer⟩ := Readable.buffer_read h
  rw [hbuffer, List.length_append]
  omega

/-- The listener of `readable`. -/
def tryRead (r : BannerReader) (socket : Readable) :
    BannerOutcome × BannerReader × Readable :=
  match _h : socket.read (r.needBannerBytes - r.readBannerBytes) with
  | (none, socket) => (.pending, r, socket)
  | (some chunk, socket) =>
    match r.readChunk chunk with
    | (.pending, r) => r.tryRead socket
    | (outcome, r) => (outcome, r, socket)
termination_by socket.buffer.length
decreasing_by exact length_of_read ‹_›

theorem tryRead_of_none {r : BannerReader} {socket socket' : Readable}
    (h : socket.read (r.needBannerBytes - r.readBannerBytes) = (none, socket')) :
    r.tryRead socket = (.pending, r, socket') := by
  unfold tryRead
  split
  · rename_i heq
    rw [h] at heq
    rw [(Prod.mk.inj heq).2]
  · rename_i heq
    rw [h] at heq
    cases heq

theorem tryRead_of_some {r : BannerReader} {socket socket' : Readable} {chunk : Bytes}
    (h : socket.read (r.needBannerBytes - r.readBannerBytes) = (some chunk, socket')) :
    r.tryRead socket =
      if (r.readChunk chunk).1 = .pending then (r.readChunk chunk).2.tryRead socket'
      else ((r.readChunk chunk).1, (r.readChunk chunk).2, socket') := by
  conv => lhs; unfold tryRead
  split
  · rename_i heq
    rw [h] at heq
    cases heq
  · rename_i heq
    rw [h] at heq
    obtain ⟨hchunk, rfl⟩ := Prod.mk.inj heq
    obtain rfl := Option.some.inj hchunk
    split <;> simp_all

theorem readChunk_eq {r : BannerReader} {chunk : Bytes} (hne : chunk ≠ [])
    (hread : 2 ≤ r.readBannerBytes)
    (hlen : r.readBannerBytes + chunk.length = r.needBannerBytes) :
    r.readChunk chunk = (.resolved, chunk.foldl readByte r) := by
  induction chunk generalizing r with
  | nil => contradiction
  | cons byte chunk ih =>
    rw [List.length_cons] at hlen
    have hneed : (r.readByte byte).needBannerBytes = r.needBannerBytes := if_neg (by omega)
    have hmore : (r.readByte byte).readBannerBytes = r.readBannerBytes + 1 := rfl
    unfold readChunk
    rw [if_pos (by omega)]
    dsimp only
    rw [hneed, hmore]
    cases chunk with
    | nil => exact if_pos (by simpa using hlen)
    | cons byte' chunk =>
      rw [if_neg (by rw [List.length_cons] at hlen; omega)]
      exact ih (List.cons_ne_nil _ _) (by omega) (by rw [hneed, hmore]; omega)

end BannerReader

/-! ### Banners -/

/-- What the service says of itself and of the screen. -/
structure MinicapBanner where
  version : UInt8
  pid : UInt32
  realWidth : UInt32
  realHeight : UInt32
  virtualWidth : UInt32
  virtualHeight : UInt32
  /-- In quarter turns. -/
  orientation : UInt8
  dumb : Bool
  alwaysUpright : Bool
  tear : Bool
  /-- What other versions of the service say. -/
  rest : Bytes
  fits : 24 + rest.length < 256

namespace MinicapBanner

variable (b : MinicapBanner)

/-- The byte of the quirks. -/
def quirks : UInt8 :=
  (if b.dumb then 1 else 0) + (if b.alwaysUpright then 2 else 0) + if b.tear then 4 else 0

/-- How long the banner is. -/
def length : Nat := 24 + b.rest.length

/-- The fields, which follow the first two bytes. -/
def fields : Bytes :=
  frameLength b.pid.toNat ++ frameLength b.realWidth.toNat ++ frameLength b.realHeight.toNat ++
    frameLength b.virtualWidth.toNat ++ frameLength b.virtualHeight.toNat ++
    [b.orientation, b.quirks]

/-- The banner without its first two bytes. -/
def body : Bytes := b.fields ++ b.rest

/-- The bytes of the banner. -/
def encode : Bytes := [b.version, .ofNat b.length] ++ b.body

/-- What is to be read. -/
def banner : Banner where
  version := b.version.toNat
  length := b.length
  pid := b.pid.toNat
  realWidth := b.realWidth.toNat
  realHeight := b.realHeight.toNat
  virtualWidth := b.virtualWidth.toNat
  virtualHeight := b.virtualHeight.toNat
  orientation := b.orientation.toNat * 90
  dumb := b.dumb
  alwaysUpright := b.alwaysUpright
  tear := b.tear

/-- The reader when it has read the first two bytes. -/
def begun : BannerReader := ⟨2, b.length, { version := b.version.toNat, length := b.length }⟩

/-- The reader when it has read the banner. -/
def done : BannerReader := ⟨b.length, b.length, b.banner⟩

theorem length_body : b.body.length = 22 + b.rest.length := by
  simp [body, fields]
  omega

theorem shiftedByte_sum (n : UInt32) :
    shiftedByte n.toUInt8 0 + shiftedByte (.ofNat (n.toNat / 256)) 1 +
      shiftedByte (.ofNat (n.toNat / 65536)) 2 + shiftedByte (.ofNat (n.toNat / 16777216)) 3 =
      n.toNat := by
  have hlt : n.toNat < 256 ^ 4 := n.toNat_lt
  unfold shiftedByte
  rw [unsigned_shiftLeft _ (by decide), unsigned_shiftLeft _ (by decide),
    unsigned_shiftLeft _ (by decide), unsigned_shiftLeft _ (by decide)]
  simp only [UInt8.toNat_ofNat', UInt32.toNat_toUInt8]
  omega

theorem foldl_rest (rest : Bytes) {r : BannerReader} (h : 24 ≤ r.readBannerBytes) :
    rest.foldl BannerReader.readByte r =
      { r with readBannerBytes := r.readBannerBytes + rest.length } := by
  induction rest generalizing r with
  | nil => rfl
  | cons byte rest ih =>
    have hbyte : r.readByte byte = { r with readBannerBytes := r.readBannerBytes + 1 } := by
      unfold BannerReader.readByte
      rw [if_neg (by omega), Banner.addByte_of_le _ _ h]
    rw [List.foldl_cons, hbyte, ih (Nat.le_succ_of_le h), List.length_cons]
    simp only [Nat.add_assoc, Nat.add_comm 1]

theorem quirks_bits : (b.quirks &&& 1 == 1) = b.dumb ∧
    (b.quirks &&& 2 == 2) = b.alwaysUpright ∧ (b.quirks &&& 4 == 4) = b.tear := by
  unfold quirks
  cases b.dumb <;> cases b.alwaysUpright <;> cases b.tear <;> decide

theorem foldl_fields : b.fields.foldl BannerReader.readByte b.begun = ⟨24, b.length, b.banner⟩ := by
  obtain ⟨hdumb, hupright, htear⟩ := b.quirks_bits
  simp [fields, begun, banner, frameLength, BannerReader.readByte, Banner.addByte,
    shiftedByte_sum, hdumb, hupright, htear]

theorem foldl_body : b.body.foldl BannerReader.readByte b.begun = b.done := by
  unfold body
  rw [List.foldl_append, foldl_fields, foldl_rest _ (Nat.le_refl 24)]
  rfl

/-! ### The listener -/

theorem readChunk_front :
    ({} : BannerReader).readChunk [b.version, .ofNat b.length] = (.pending, b.begun) := by
  have hlength : (UInt8.ofNat b.length).toNat = b.length := by
    have hfits := b.fits
    rw [UInt8.toNat_ofNat', length, Nat.mod_eq_of_lt hfits]
  have hlong : 2 ≠ b.length := by
    unfold length
    omega
  simp [BannerReader.readChunk, BannerReader.readByte, Banner.addByte, begun, hlength, hlong]

theorem readChunk_body : b.begun.readChunk b.body = (.resolved, b.done) := by
  have hlen := b.length_body
  rw [BannerReader.readChunk_eq (List.ne_nil_of_length_pos (by omega)) (Nat.le_refl 2), foldl_body]
  show 2 + b.body.length = b.length
  rw [hlen, length]
  omega

/-- What is left of the banner for a reader. -/
inductive Left (b : MinicapBanner) : BannerReader → Bytes → Prop
  | all : Left b {} b.encode
  | body : Left b b.begun b.body

/-- What the listener makes of the bytes of a stream, when `tail` is going to arrive and `more`
follows the banner: it reads the banner, or what is left of it is not there. -/
inductive Tried (b : MinicapBanner) (tail more : Bytes) (scheduled : Bool) :
    BannerOutcome × BannerReader × Readable → Prop
  | waits {r : BannerReader} {left buffer : Bytes} :
      Left b r left → buffer ++ tail = left ++ more → buffer.length < left.length →
      Tried b tail more scheduled (.pending, r, ⟨buffer, true, scheduled⟩)
  | reads {buffer : Bytes} {needReadable : Bool} : buffer ++ tail = more →
      Tried b tail more scheduled (.resolved, b.done, ⟨buffer, needReadable, scheduled⟩)

variable {b} {tail more : Bytes}

theorem tried_begun {socket : Readable} (h : socket.buffer ++ tail = b.body ++ more) :
    Tried b tail more socket.scheduled (b.begun.tryRead socket) := by
  have hlen := b.length_body
  have hneed : b.begun.needBannerBytes - b.begun.readBannerBytes = b.body.length := by
    show b.length - 2 = _
    rw [hlen, length]
    omega
  by_cases hlt : socket.buffer.length < b.body.length
  · rw [BannerReader.tryRead_of_none (hneed ▸ Readable.read_of_lt hlt)]
    exact .waits .body h hlt
  · obtain ⟨rest, hbuffer, hmore⟩ := exists_append_of_length_le h.symm (Nat.le_of_not_lt hlt)
    have hread := Readable.read_of_le (s := socket) (by omega) (Nat.le_of_not_lt hlt)
    rw [hbuffer, List.take_left, List.drop_left] at hread
    rw [BannerReader.tryRead_of_some (hneed ▸ hread), b.readChunk_body]
    exact .reads hmore.symm

/-- A call of the listener reads the banner, or as much of it as there is. -/
theorem tried {socket : Readable} {r : BannerReader} {left : Bytes} (hleft : Left b r left)
    (h : socket.buffer ++ tail = left ++ more) :
    Tried b tail more socket.scheduled (r.tryRead socket) := by
  cases hleft with
  | body => exact tried_begun h
  | all =>
    by_cases hlt : socket.buffer.length < 2
    · rw [BannerReader.tryRead_of_none (Readable.read_of_lt hlt)]
      exact .waits .all h (hlt.trans_le (by simp [encode, length_body]))
    · have hfront : socket.buffer ++ tail = [b.version, .ofNat b.length] ++ (b.body ++ more) := h
      obtain ⟨rest, hbuffer, hrest⟩ := exists_append_of_length_le hfront.symm (Nat.le_of_not_lt hlt)
      obtain ⟨socket', hread, hsocket, hscheduled⟩ : ∃ socket',
          socket.read 2 = (some [b.version, .ofNat b.length], socket') ∧ socket'.buffer = rest ∧
            socket'.scheduled = socket.scheduled := by
        rw [Readable.read_of_le (by decide) (Nat.le_of_not_lt hlt), hbuffer]
        exact ⟨_, rfl, rfl, rfl⟩
      rw [BannerReader.tryRead_of_some hread, b.readChunk_front, if_pos rfl, ← hscheduled]
      exact tried_begun (hsocket ▸ hrest.symm)

end MinicapBanner

end DeviceHub
