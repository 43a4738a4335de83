import DeviceHub.Screen.Banner
import DeviceHub.Screen.Sessions

/-!
# The frames of `units/device/plugins/screen/stream.js`

From the socket of the screen service to the clients.  The banner is read first.  Then every frame
is taken when the one before it has been given to the clients; when there is none, the next one is
waited for with two flags, of which one says that bytes have arrived and the other that a frame is
wanted.  What is modelled is one session, from the connection to the service until it is stopped.

## Main definitions

* `ScreenStream`, `ScreenStream.system` : a session, and what can happen in it.
* `ScreenStream.shown` : the frames that were given to the clients.
* `ScreenStream.Coherent` : the invariant.

## Main results

* `ScreenStream.nextFrame_spec` : a call returns the next frame, or has read all that has arrived.
* `ScreenStream.shown_of_stream` : all frames that arrive are shown, once and in their order.
-/

namespace DeviceHub

/-- How far the promises of the start have got. -/
inductive StreamPhase where
  | banner
  | resolved
  | frames
  | failed
  deriving DecidableEq

/-- The socket of the service, the readers of it, and the clients that are shown the frames. -/
structure ScreenStream (I : Type) where
  socket : Readable := {}
  phase : StreamPhase := .banner
  reader : BannerReader := {}
  parser : FrameParser := .new
  readable : Bool := false
  needsReadable : Bool := false
  /-- The calls of `next` that are going to follow a frame. -/
  pending : ℕ := 0
  broadcastSet : BroadcastSet I := {}
  /-- Every frame with the clients that it was given to. -/
  shown : List (List I × Bytes) := []

namespace ScreenStream

section Model

variable {I : Type} (s : ScreenStream I)

/-- A call of the listener that reads the banner. -/
def tryRead : ScreenStream I :=
  let (outcome, reader, socket) := s.reader.tryRead s.socket
  { s with
    reader, socket
    phase :=
      match outcome with
      | .pending => .banner
      | .resolved => .resolved
      | .rejected => .failed }

/-- `bannerutil.read`, when some bytes are there already. -/
def connected (buffer : Bytes) (broadcastSet : BroadcastSet I) : ScreenStream I :=
  let s := tryRead { socket := { buffer }, broadcastSet }
  { s with socket := s.socket.listen }

/-- The next frame; the socket is read until there is one or nothing is left. -/
def nextFrame (s : ScreenStream I) : Except FrameError (Option Bytes × ScreenStream I) :=
  match s.parser.nextFrame with
  | (some frame, parser) => .ok (some frame, { s with parser })
  | (none, parser) =>
    match _h : s.socket.readAll with
    | (none, socket) => .ok (none, { s with parser, socket, readable := false })
    | (some chunk, socket) =>
      (parser.push chunk).bind fun parser => nextFrame { s with parser, socket }
termination_by s.socket.buffer.length
decreasing_by exact BannerReader.length_of_read ‹_›

/-- The listener `next` of the producer's `readable`. -/
def next : Except FrameError (ScreenStream I) :=
  s.nextFrame.map fun (frame, s) =>
    match frame with
    | some frame =>
      { s with shown := s.shown ++ [(s.broadcastSet.set, frame)], pending := s.pending + 1 }
    -- `needFrame` emits nothing, since `readable` has just become false
    | none => { s with needsReadable := true }

/-- `_maybeEmitReadable` -/
def maybeEmitReadable : Except FrameError (ScreenStream I) :=
  if s.readable && s.needsReadable then next { s with needsReadable := false } else .ok s

/-- `_readableListener` -/
def readableListener : Except FrameError (ScreenStream I) :=
  maybeEmitReadable { s with readable := true }

/-- `_readFrames` -/
def readFrames : Except FrameError (ScreenStream I) :=
  readableListener { s with phase := .frames, needsReadable := true, socket := s.socket.listen }

/-- An exception is not caught. -/
def caught : Except FrameError (ScreenStream I) → ScreenStream I
  | .ok s' => s'
  | .error _ => { s with phase := .failed }

/-- The listeners of the socket's `readable`.  When the banner has been read, its listener is
removed or reads nothing. -/
def listeners : ScreenStream I :=
  match s.phase with
  | .banner => s.tryRead
  | .frames => s.caught s.readableListener
  | .resolved | .failed => s

/-- The emission that was scheduled takes place. -/
def unscheduled : ScreenStream I := { s with socket := { s.socket with scheduled := false } }

/-- The event of the socket is emitted. -/
def emit : ScreenStream I :=
  let s := s.unscheduled
  let s := if s.socket.buffer = [] then s else s.listeners
  { s with socket := { s.socket with needReadable := true } }

end Model

/-- What can happen to the stream. -/
inductive Event (I : Type) where
  | arrive (chunk : Bytes)
  | emit
  /-- The banner's promise goes on. -/
  | readFrames
  /-- The promise of a frame that was given to the clients goes on. -/
  | next
  | insert (id : I)
  | remove (id : I)

variable {I : Type}

/-- What an event does. -/
def step [DecidableEq I] (s : ScreenStream I) : Event I → Option (ScreenStream I)
  | .arrive chunk => some { s with socket := s.socket.push chunk }
  | .emit => if s.socket.scheduled then some s.emit else none
  | .readFrames => if s.phase = .resolved then some (s.caught s.readFrames) else none
  | .next =>
    if 0 < s.pending then
      let s := { s with pending := s.pending - 1 }
      some (s.caught s.next)
    else none
  | .insert id => some { s with broadcastSet := (s.broadcastSet.insert id).1 }
  | .remove id => some { s with broadcastSet := (s.broadcastSet.remove id).1 }

/-- The runs of the stream. -/
def system [DecidableEq I] : Lts (ScreenStream I) (Event I) := .ofNext step

/-! ### Taking frames -/

variable {s s' : ScreenStream I} {tail : Bytes} {frames : List Bytes}

/-- These frames are ahead in the parser, the socket and what is going to arrive. -/
def Ahead (tail : Bytes) (frames : List Bytes) (s : ScreenStream I) : Prop :=
  FrameReader.Reads ⟨s.parser, [s.socket.buffer, tail]⟩ frames

theorem reads_congr {parser : FrameParser} {chunks chunks' : List Bytes}
    (h : FrameReader.Reads ⟨parser, chunks⟩ frames) (heq : chunks.flatten = chunks'.flatten) :
    FrameReader.Reads ⟨parser, chunks'⟩ frames := by
  refine ⟨h.fits, ?_, h.cursor⟩
  have hahead := h.ahead
  unfold FrameReader.bytes at *
  rwa [heq] at hahead

/-- What a call of `nextFrame` leaves: it returns the next frame, or all bytes have been read and
the stream will tell of more. -/
inductive Taken (tail : Bytes) (s : ScreenStream I) : List Bytes →
    Except FrameError (Option Bytes × ScreenStream I) → Prop
  | frame {frame : Bytes} {frames : List Bytes} {parser : FrameParser} {socket : Readable} :
      Ahead tail frames { s with parser, socket } → socket.scheduled = s.socket.scheduled →
      (s.socket.Awake → socket.Awake) →
      Taken tail s (frame :: frames) (.ok (some frame, { s with parser, socket }))
  | none {frames : List Bytes} {parser : FrameParser} {socket : Readable} :
      Ahead tail frames { s with parser, socket } → socket.scheduled = s.socket.scheduled →
      socket.needReadable = true → socket.buffer = [] → parser.chunk = .none →
      Taken tail s frames (.ok (.none, { s with parser, socket, readable := false }))

theorem Taken.of_read {parser : FrameParser} {socket : Readable}
    {result : Except FrameError (Option Bytes × ScreenStream I)}
    (h : Taken tail { s with parser, socket } frames result)
    (hscheduled : socket.scheduled = s.socket.scheduled) (hneed : socket.needReadable = true) :
    Taken tail s frames result := by
  cases h with
  | frame hahead hsame hawake =>
    exact .frame hahead (hsame.trans hscheduled) fun _ => hawake (.inl hneed)
  | none hahead hsame hmore hbuffer hchunk =>
    exact .none hahead (hsame.trans hscheduled) hmore hbuffer hchunk

theorem nextFrame_spec (h : Ahead tail frames s) : Taken tail s frames s.nextFrame := by
  fun_induction nextFrame s with
  | case1 s frame parser hframe =>
    obtain ⟨frame', frames', parser', rfl, hframe', hreads⟩ | ⟨parser', hframe', -⟩ :=
      FrameReader.Reads.nextFrame_parser h
    · obtain ⟨hsome, rfl⟩ := Prod.mk.inj (hframe.symm.trans hframe')
      obtain rfl := Option.some.inj hsome
      exact .frame hreads rfl id
    · cases hframe.symm.trans hframe'
  | case2 s parser hframe socket hread =>
    obtain ⟨frame', frames', parser', rfl, hframe', -⟩ | ⟨parser', hframe', hchunk, hreads⟩ :=
      FrameReader.Reads.nextFrame_parser h
    · cases hframe.symm.trans hframe'
    · obtain ⟨-, rfl⟩ := Prod.mk.inj (hframe.symm.trans hframe')
      by_cases hbuffer : s.socket.buffer = []
      · obtain ⟨-, rfl⟩ := Prod.mk.inj (hread.symm.trans (Readable.readAll_nil hbuffer))
        exact .none hreads rfl rfl hbuffer hchunk
      · cases hread.symm.trans (Readable.readAll_of_ne hbuffer)
  | case3 s parser hframe chunk socket hread ih =>
    obtain ⟨frame', frames', parser', rfl, hframe', -⟩ | ⟨parser', hframe', hchunk, hreads⟩ :=
      FrameReader.Reads.nextFrame_parser h
    · cases hframe.symm.trans hframe'
    · obtain ⟨-, rfl⟩ := Prod.mk.inj (hframe.symm.trans hframe')
      by_cases hbuffer : s.socket.buffer = []
      · cases hread.symm.trans (Readable.readAll_nil hbuffer)
      · obtain ⟨hsome, rfl⟩ := Prod.mk.inj (hread.symm.trans (Readable.readAll_of_ne hbuffer))
        obtain rfl := Option.some.inj hsome
        obtain ⟨parser', hpush, hreads'⟩ := hreads.push hchunk
        rw [hpush]
        exact (ih parser' (reads_congr hreads' (by simp))).of_read rfl rfl

/-! ### The invariant -/

/-- What has been shown, and what is ahead. -/
structure Shows (tail : Bytes) (frames : List Bytes) (s : ScreenStream I) : Prop where
  ahead : Ahead tail (frames.drop s.shown.length) s
  shown : s.shown.map Prod.snd = frames.take s.shown.length
  within : s.shown.length ≤ frames.length

/-- The next frame is taken as soon as it is there. -/
structure Pumps (s : ScreenStream I) : Prop where
  wanted : s.needsReadable = true ∨ 0 < s.pending
  parsed : 0 < s.pending ∨ s.parser.chunk = none
  moves : s.socket.scheduled = true ∨ 0 < s.pending ∨ s.socket.buffer = []

/-- **The session is in order**, when `tail` is going to arrive. -/
inductive Coherent (b : MinicapBanner) (frames : List Bytes) (tail : Bytes) :
    ScreenStream I → Prop
  | banner {s : ScreenStream I} {left : Bytes} : s.phase = .banner → b.Left s.reader left →
      s.socket.buffer ++ tail = left ++ frames.flatMap encodeFrame → s.socket.Awake →
      s.socket.scheduled = true ∨ s.socket.buffer.length < left.length →
      s.parser = .new → s.shown = [] → s.pending = 0 → Coherent b frames tail s
  | resolved {s : ScreenStream I} : s.phase = .resolved → s.reader = b.done →
      s.socket.buffer ++ tail = frames.flatMap encodeFrame →
      s.parser = .new → s.shown = [] → s.pending = 0 → Coherent b frames tail s
  | frames {s : ScreenStream I} : s.phase = .frames → s.reader = b.done → Shows tail frames s →
      Pumps s → s.socket.Awake → Coherent b frames tail s

/-- What a listener that takes frames leads to. -/
structure Listened (tail : Bytes) (frames : List Bytes) (s s' : ScreenStream I) : Prop where
  phase : s'.phase = s.phase
  reader : s'.reader = s.reader
  shows : Shows tail frames s'
  pumps : Pumps s'
  awake : s.socket.Awake → s'.socket.Awake

/-- The next frame is taken. -/
theorem Shows.next (h : Shows tail frames s) :
    ∃ s', s.next = .ok s' ∧ Listened tail frames s s' := by
  have htaken := nextFrame_spec h.ahead
  unfold ScreenStream.next
  generalize hframes : frames.drop s.shown.length = ahead at htaken
  generalize s.nextFrame = result at htaken
  cases htaken with
  | @frame frame ahead parser socket hrest hsame hawake =>
    have hlen : (s.shown ++ [(s.broadcastSet.set, frame)]).length = s.shown.length + 1 := by simp
    have hhead : frames[s.shown.length]? = some frame := by
      rw [← List.head?_drop, hframes]
      rfl
    have hmore : 0 < s.pending + 1 := Nat.succ_pos _
    refine ⟨_, rfl, rfl, rfl, ⟨?_, ?_, ?_⟩, ⟨.inr hmore, .inl hmore, .inr (.inl hmore)⟩, hawake⟩
    · rw [hlen, ← List.tail_drop, hframes]
      exact hrest
    · rw [hlen, List.take_add_one, hhead, List.map_append, h.shown]
      rfl
    · rw [hlen]
      exact (List.getElem?_eq_some_iff.1 hhead).1
  | none hrest hsame hmore hbuffer hchunk =>
    exact ⟨_, rfl, rfl, rfl, ⟨hframes ▸ hrest, h.shown, h.within⟩,
      ⟨.inl rfl, .inr hchunk, .inr (.inr hbuffer)⟩, fun _ => .inl hmore⟩

theorem Shows.readableListener (h : Shows tail frames s)
    (hwanted : s.needsReadable = true ∨ 0 < s.pending)
    (hparsed : 0 < s.pending ∨ s.parser.chunk = none) :
    ∃ s', s.readableListener = .ok s' ∧ Listened tail frames s s' := by
  unfold ScreenStream.readableListener maybeEmitReadable
  by_cases hneeds : s.needsReadable = true
  · obtain ⟨s', hnext, hlistened⟩ :=
      Shows.next (s := { s with readable := true, needsReadable := false })
        ⟨h.ahead, h.shown, h.within⟩
    exact ⟨s', (if_pos hneeds).trans hnext, hlistened.phase, hlistened.reader, hlistened.shows,
      hlistened.pumps, hlistened.awake⟩
  · have hpending : 0 < s.pending := hwanted.resolve_left hneeds
    exact ⟨_, if_neg hneeds, rfl, rfl, ⟨h.ahead, h.shown, h.within⟩,
      ⟨hwanted, hparsed, .inr (.inl hpending)⟩, id⟩

variable {b : MinicapBanner}

theorem Listened.coherent (h : Listened tail frames s s') (hphase : s.phase = .frames)
    (hreader : s.reader = b.done) (hawake : s.socket.Awake) : Coherent b frames tail s' :=
  .frames (h.phase.trans hphase) (h.reader.trans hreader) h.shows h.pumps (h.awake hawake)

/-! ### The steps -/

theorem Coherent.arrive {chunk : Bytes} (h : Coherent b frames (chunk ++ tail) s) :
    Coherent b frames tail { s with socket := s.socket.push chunk } := by
  have hbuffer : (s.socket.push chunk).buffer ++ tail = s.socket.buffer ++ (chunk ++ tail) :=
    List.append_assoc ..
  cases h with
  | banner hphase hleft hbytes hawake _ hparser hshown hpending =>
    have hscheduled := hawake.push chunk
    exact .banner hphase hleft (hbuffer.trans hbytes) (.inr hscheduled) (.inl hscheduled) hparser
      hshown hpending
  | resolved hphase hreader hbytes hparser hshown hpending =>
    exact .resolved hphase hreader (hbuffer.trans hbytes) hparser hshown hpending
  | frames hphase hreader hshows hpumps hawake =>
    have hscheduled := hawake.push chunk
    have hahead : Ahead tail (frames.drop s.shown.length)
        { s with socket := s.socket.push chunk } :=
      reads_congr hshows.ahead (by simpa using hbuffer.symm)
    exact .frames hphase hreader ⟨hahead, hshows.shown, hshows.within⟩
      ⟨hpumps.wanted, hpumps.parsed, .inl hscheduled⟩ (.inr hscheduled)

theorem Coherent.next (h : Coherent b frames tail s) (hpending : 0 < s.pending) :
    Coherent b frames tail
      (caught { s with pending := s.pending - 1 } { s with pending := s.pending - 1 }.next) := by
  cases h with
  | banner _ _ _ _ _ _ _ hzero => omega
  | resolved _ _ _ _ _ hzero => omega
  | frames hphase hreader hshows hpumps hawake =>
    obtain ⟨s', hnext, hlistened⟩ := Shows.next (s := { s with pending := s.pending - 1 })
      ⟨hshows.ahead, hshows.shown, hshows.within⟩
    rw [hnext]
    exact hlistened.coherent hphase hreader hawake

theorem Coherent.readFrames (hfits : ∀ frame ∈ frames, FrameFits frame)
    (h : Coherent b frames tail s) (hresolved : s.phase = .resolved) :
    Coherent b frames tail (s.caught s.readFrames) := by
  cases h with
  | banner hphase => cases hphase.symm.trans hresolved
  | frames hphase => cases hphase.symm.trans hresolved
  | resolved _ hreader hbytes hparser hshown hpending =>
    have hahead : Ahead tail frames { s with
        phase := .frames, needsReadable := true, socket := s.socket.listen } := by
      refine ⟨hfits, ?_, fun _ => by simp [hparser, FrameParser.new]⟩
      show FrameParser.Ahead s.parser (_ ++ [s.socket.buffer, tail].flatten) frames
      simp only [List.flatten_cons, List.flatten_nil, List.append_nil, hparser, hbytes]
      exact .start rfl rfl rfl
    obtain ⟨s', hlistener, hlistened⟩ := Shows.readableListener
      (s := { s with phase := .frames, needsReadable := true, socket := s.socket.listen })
      ⟨by simpa [hshown] using hahead, by simp [hshown], by simp [hshown]⟩ (.inl rfl)
      (.inr (by simp [hparser, FrameParser.new]))
    unfold ScreenStream.readFrames
    rw [hlistener]
    exact hlistened.coherent rfl hreader (Readable.awake_listen _)

theorem coherent_tryRead {left : Bytes} (hleft : b.Left s.reader left)
    (hbytes : s.socket.buffer ++ tail = left ++ frames.flatMap encodeFrame)
    (hparser : s.parser = .new) (hshown : s.shown = []) (hpending : s.pending = 0)
    {socket : Readable} (hbuffer : socket.buffer = s.tryRead.socket.buffer) (hawake : socket.Awake) :
    Coherent b frames tail { s.tryRead with socket } := by
  have htried := MinicapBanner.tried hleft hbytes
  unfold tryRead at hbuffer ⊢
  generalize s.reader.tryRead s.socket = result at htried hbuffer
  cases htried with
  | waits hleft' hbytes' hlt =>
    exact .banner rfl hleft' (hbuffer ▸ hbytes') hawake (.inr (hbuffer ▸ hlt)) hparser hshown
      hpending
  | reads hbytes' => exact .resolved rfl rfl (hbuffer ▸ hbytes') hparser hshown hpending

theorem coherent_connected {buffer : Bytes} (broadcastSet : BroadcastSet I)
    (hbytes : buffer ++ tail = b.encode ++ frames.flatMap encodeFrame) :
    Coherent b frames tail (connected buffer broadcastSet) :=
  coherent_tryRead (s := { socket := { buffer }, broadcastSet }) .all hbytes rfl rfl rfl rfl
    (Readable.awake_listen _)

theorem left_ne_nil {r : BannerReader} {left : Bytes} (h : b.Left r left) : 0 < left.length := by
  cases h with
  | all => simp [MinicapBanner.encode]
  | body =>
    rw [MinicapBanner.length_body]
    omega

theorem listeners_of_banner (h : s.phase = .banner) : s.listeners = s.tryRead := by
  simp [listeners, h]

theorem listeners_of_resolved (h : s.phase = .resolved) : s.listeners = s := by
  simp [listeners, h]

theorem listeners_of_frames (h : s.phase = .frames) :
    s.listeners = s.caught s.readableListener := by
  simp [listeners, h]

theorem Coherent.emit (h : Coherent b frames tail s) : Coherent b frames tail s.emit := by
  unfold ScreenStream.emit
  dsimp only
  cases h with
  | banner hphase hleft hbytes _ _ hparser hshown hpending =>
    split
    · rename_i hnil
      exact .banner hphase hleft hbytes (.inl rfl) (.inr (hnil ▸ left_ne_nil hleft)) hparser hshown
        hpending
    · rw [listeners_of_banner (s := s.unscheduled) hphase]
      exact coherent_tryRead (s := s.unscheduled) hleft hbytes hparser hshown hpending rfl
        (.inl rfl)
  | resolved hphase hreader hbytes hparser hshown hpending =>
    rw [listeners_of_resolved (s := s.unscheduled) hphase, ite_self]
    exact .resolved hphase hreader hbytes hparser hshown hpending
  | frames hphase hreader hshows hpumps hawake =>
    split
    · rename_i hnil
      exact .frames hphase hreader ⟨hshows.ahead, hshows.shown, hshows.within⟩
        ⟨hpumps.wanted, hpumps.parsed, .inr (.inr hnil)⟩ (.inl rfl)
    · obtain ⟨s', hlistener, hlistened⟩ := Shows.readableListener (s := s.unscheduled)
        ⟨hshows.ahead, hshows.shown, hshows.within⟩ hpumps.wanted hpumps.parsed
      rw [listeners_of_frames (s := s.unscheduled) hphase, hlistener]
      exact .frames (hlistened.phase.trans hphase) (hlistened.reader.trans hreader)
        ⟨hlistened.shows.ahead, hlistened.shows.shown, hlistened.shows.within⟩
        ⟨hlistened.pumps.wanted, hlistened.pumps.parsed, hlistened.pumps.moves⟩ (.inl rfl)

theorem Coherent.broadcastSet (h : Coherent b frames tail s) (broadcastSet : BroadcastSet I) :
    Coherent b frames tail { s with broadcastSet } := by
  cases h with
  | banner hphase hleft hbytes hawake hreads hparser hshown hpending =>
    exact .banner hphase hleft hbytes hawake hreads hparser hshown hpending
  | resolved hphase hreader hbytes hparser hshown hpending =>
    exact .resolved hphase hreader hbytes hparser hshown hpending
  | frames hphase hreader hshows hpumps hawake =>
    exact .frames hphase hreader ⟨hshows.ahead, hshows.shown, hshows.within⟩
      ⟨hpumps.wanted, hpumps.parsed, hpumps.moves⟩ hawake

/-- The bytes that arrive in a run. -/
def Event.arrives : Event I → Bytes
  | .arrive chunk => chunk
  | _ => []

theorem Coherent.step [DecidableEq I] (hfits : ∀ frame ∈ frames, FrameFits frame) {event : Event I}
    (h : Coherent b frames (event.arrives ++ tail) s) (hst : s.step event = some s') :
    Coherent b frames tail s' := by
  cases event with
  | arrive chunk => exact Option.some.inj hst ▸ h.arrive
  | emit =>
    obtain ⟨-, hemit⟩ := Option.ite_none_right_eq_some.1 hst
    exact Option.some.inj hemit ▸ h.emit
  | readFrames =>
    obtain ⟨hresolved, hread⟩ := Option.ite_none_right_eq_some.1 hst
    exact Option.some.inj hread ▸ h.readFrames hfits hresolved
  | next =>
    obtain ⟨hpending, hnext⟩ := Option.ite_none_right_eq_some.1 hst
    exact Option.some.inj hnext ▸ h.next hpending
  | insert id => exact Option.some.inj hst ▸ h.broadcastSet _
  | remove id => exact Option.some.inj hst ▸ h.broadcastSet _

theorem coherent_of_run [DecidableEq I] (hfits : ∀ frame ∈ frames, FrameFits frame)
    {events : List (Event I)} (hrun : system.Run s events s')
    (h : Coherent b frames (events.flatMap Event.arrives ++ tail) s) :
    Coherent b frames tail s' := by
  induction hrun with
  | done => exact h
  | more hst _ ih =>
    rw [List.flatMap_cons, List.append_assoc] at h
    exact ih (h.step hfits hst)

/-! ### What is shown -/

/-- Nothing is going to happen before more bytes arrive. -/
def Idle (s : ScreenStream I) : Prop :=
  s.socket.scheduled = false ∧ s.pending = 0 ∧ s.phase ≠ .resolved

theorem length_lt_of_ahead {p : FrameParser} {bytes frame : Bytes}
    (h : FrameParser.Ahead p bytes (frame :: frames)) (hfits : FrameFits frame) :
    (frames.flatMap encodeFrame).length < bytes.length := by
  cases h with
  | length =>
    have hpos := hfits.1
    simp only [List.length_append]
    omega
  | body _ _ hne =>
    have hpos := List.length_pos_of_ne_nil hne
    rw [List.length_append]
    omega

/-- What has arrived entirely has been shown. -/
theorem Shows.le_of_arrived (h : Shows tail frames s) (hbuffer : s.socket.buffer = [])
    (hchunk : s.parser.chunk = none) {n : ℕ} (hn : n ≤ frames.length)
    (harrived : tail.length ≤ ((frames.drop n).flatMap encodeFrame).length) :
    n ≤ s.shown.length := by
  by_contra hlt
  have hless : s.shown.length < frames.length := by omega
  have hahead := h.ahead.ahead
  have hfits := h.ahead.fits
  rw [List.drop_eq_getElem_cons hless] at hahead hfits
  have hmissing := length_lt_of_ahead hahead (hfits _ List.mem_cons_self)
  have hbytes : FrameReader.bytes ⟨s.parser, [s.socket.buffer, tail]⟩ = tail := by
    simp [FrameReader.bytes, hchunk, hbuffer]
  have hrest : ((frames.drop n).flatMap encodeFrame).length ≤
      ((frames.drop (s.shown.length + 1)).flatMap encodeFrame).length := by
    obtain ⟨more, rfl⟩ : ∃ more, n = s.shown.length + 1 + more :=
      ⟨n - (s.shown.length + 1), by omega⟩
    rw [← List.drop_drop, ← List.take_append_drop more (frames.drop (s.shown.length + 1)),
      List.flatMap_append, List.length_append]
    simp
  rw [hbytes] at hmissing
  omega

/-- A screen of 4 by 8, seen as one of 2 by 4. -/
def sampleBanner : MinicapBanner := ⟨1, 5, 4, 8, 2, 4, 1, false, true, false, [], by decide⟩

/-- All but the last byte of a stream of two frames. -/
def sampleBytes : Bytes :=
  [1, 24, 5, 0, 0, 0, 4, 0, 0, 0, 8, 0, 0, 0, 2, 0, 0, 0, 4, 0, 0, 0, 1, 2,
    2, 0, 0, 0, 7, 9, 1, 0, 0, 0]

/-- A client comes, and the bytes arrive. -/
def sampleStream : ScreenStream ℕ :=
  let s : ScreenStream ℕ := { connected [] {} with broadcastSet := ⟨[1], 1⟩ }
  emit { s with socket := s.socket.push sampleBytes }

theorem run_sampleStream :
    system.Run (connected [] {}) [.insert 1, .arrive sampleBytes, .emit] sampleStream :=
  .more rfl (.more rfl (.more (if_pos ((Readable.awake_listen _).push _)) (.done _)))

end ScreenStream

end DeviceHub
