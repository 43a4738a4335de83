import DeviceHub.Bytes.Reader
import DeviceHub.Vnc.Security

/-!
# Chunking of VNC input

The bytes of a client arrive in chunks, and a chunk is read as it arrives, except during an
authentication.  A read that returns early leaves the rest of its chunk in the buffer, where it is not
looked at before the next chunk: what the connection has done depends on the chunks.

## Main definitions

* `VncConnection.reader` : the parser as a reader of the bytes.
* `VncSession`, `VncSession.inputs` : a connection, and the chunks and authentications that reach it.
* `VncSession.Done` : nothing that could be parsed is left in the buffer.
* `VncSession.Whole` : no read returns early with bytes that could be parsed.

## Main results

* `VncConnection.loop_spec` : the loop goes on until it has to wait, unless it returns early.
* `VncSession.done_iff_whole` : an input leaves nothing behind exactly if its read is whole.
* `VncSession.same_iff_whole` : when the chunks make no difference.
* `VncSession.exists_socket_run` : sessions are runs of a socket.
-/

namespace DeviceHub

namespace VncConnection

/-! ### The parser as a reader -/

/-- Authentications are under way. -/
def Pending (c : VncConnection) : Prop := none ∈ c.blockingOps

instance (c : VncConnection) : Decidable c.Pending := inferInstanceAs (Decidable (_ ∈ _))

theorem needed_handle {c : VncConnection} (h : c.needed = 0) :
    (c.handle []).1.needed = 1 ∧ (c.handle []).1.blockingOps = c.blockingOps := by
  unfold needed at h
  split at h <;> rename_i hstate <;> simp only [handle, hstate] <;> first | exact ⟨rfl, rfl⟩ | omega

/-- The parser as a reader; it does not read during an authentication. -/
def reader : Reader VncConnection UInt8 where
  need c := if c.Pending then none else some c.needed
  act c chunk := (c.handle chunk).1
  active c h := by
    split at h
    · cases h
    obtain ⟨hneeded, hops⟩ := needed_handle (Option.some.inj h)
    split
    · exact nofun
    · simp [hneeded]

variable {x y z : VncConnection × Bytes}

theorem step_reader (h : ¬ x.1.Pending) : reader.step x = (turn x).map Prod.fst := by
  unfold Reader.step turn consume
  simp only [reader, if_neg h]
  by_cases hnil : x.2 = []
  · simp [hnil]
  · by_cases hle : x.1.needed ≤ x.2.length
    · simp [hnil, hle, Nat.not_lt.2 hle]
    · simp [hnil, hle, Nat.not_le.1 hle]

theorem step_of_turn {flag : Bool} (h : ¬ x.1.Pending) (hturn : turn x = some (y, flag)) :
    reader.step x = some y := by
  rw [step_reader h, hturn, Option.map_some]

/-- Turns that go on. -/
def Goes : VncConnection × Bytes → VncConnection × Bytes → Prop :=
  Relation.ReflTransGen fun x y => turn x = some (y, false)

/-- The loop returns early, and leaves this. -/
def Stops (x y : VncConnection × Bytes) : Prop := ∃ z, Goes x z ∧ turn z = some (y, true)

theorem blockingOps_turn {flag : Bool} (hturn : turn x = some (y, flag)) :
    y.1.blockingOps = x.1.blockingOps ∨
      flag = true ∧ y.1.blockingOps = x.1.blockingOps ++ [none] := by
  obtain ⟨chunk, -, heq⟩ := Option.map_eq_some_iff.1 hturn
  obtain ⟨hy, rfl⟩ := Prod.mk.inj heq
  obtain rfl := hy
  have hops := blockingOps_handle x.1 chunk.1
  split at hops
  · rename_i hstate
    refine .inr ⟨?_, hops⟩
    simp only [handle, hstate]
  · exact .inl hops

theorem blockingOps_goes (h : Goes x y) : y.1.blockingOps = x.1.blockingOps := by
  induction h with
  | refl => rfl
  | tail _ hturn ih =>
    obtain hops | ⟨hflag, -⟩ := blockingOps_turn hturn
    · exact hops.trans ih
    · cases hflag

theorem pending_goes (h : Goes x y) (hpending : ¬ x.1.Pending) : ¬ y.1.Pending := by
  rw [Pending, blockingOps_goes h]
  exact hpending

theorem steps_of_goes (h : Goes x y) (hpending : ¬ x.1.Pending) : reader.Steps x y := by
  induction h with
  | refl => exact .refl
  | tail hgoes hturn ih => exact ih.tail (step_of_turn (pending_goes hgoes hpending) hturn)

/-- **The loop**: it goes on until nothing can be consumed, unless it returns early. -/
theorem loop_spec {n : Nat} (hpending : ¬ x.1.Pending) (hfuel : reader.fuel x < n) :
    Goes x (loop n x) ∧ turn (loop n x) = none ∨ Stops x (loop n x) := by
  induction n generalizing x with
  | zero => exact absurd hfuel (Nat.not_lt_zero _)
  | succ n ih =>
    rw [loop]
    split
    · rename_i hturn
      exact .inl ⟨.refl, hturn⟩
    · rename_i y hturn
      exact .inr ⟨x, .refl, hturn⟩
    · rename_i y hturn
      have hlt := Reader.fuel_step (step_of_turn hpending hturn)
      have hgoes : Goes x y := .single hturn
      obtain ⟨hrest, hend⟩ | ⟨z, hrest, hstop⟩ := ih (pending_goes hgoes hpending) (by omega)
      · exact .inl ⟨hgoes.trans hrest, hend⟩
      · exact .inr ⟨z, hgoes.trans hrest, hstop⟩

theorem loop_of_stops {n : Nat} (hpending : ¬ x.1.Pending) (hfuel : reader.fuel x < n)
    (h : Stops x y) : loop n x = y := by
  obtain ⟨z, hgoes, hstop⟩ := h
  induction hgoes using Relation.ReflTransGen.head_induction_on generalizing n with
  | refl =>
    obtain ⟨n, rfl⟩ := Nat.exists_eq_add_one_of_ne_zero (by omega : n ≠ 0)
    rw [loop, hstop]
  | head hturn hrest ih =>
    obtain ⟨n, rfl⟩ := Nat.exists_eq_add_one_of_ne_zero (by omega : n ≠ 0)
    have hlt := Reader.fuel_step (step_of_turn hpending hturn)
    rw [loop, hturn]
    exact ih (pending_goes (.single hturn) hpending) (by omega)

theorem steps_of_stops (hpending : ¬ x.1.Pending) (h : Stops x y) : reader.Steps x y := by
  obtain ⟨z, hgoes, hstop⟩ := h
  exact (steps_of_goes hgoes hpending).tail (step_of_turn (pending_goes hgoes hpending) hstop)

theorem blockingOps_stops (h : Stops x y) :
    y.1.blockingOps = x.1.blockingOps ∨ y.1.blockingOps = x.1.blockingOps ++ [none] := by
  obtain ⟨z, hgoes, hstop⟩ := h
  rw [← blockingOps_goes hgoes]
  exact (blockingOps_turn hstop).imp_right And.right

/-! ### Reads -/

theorem fuel_reader_lt (x : VncConnection × Bytes) : reader.fuel x < 2 * x.2.length + 2 := by
  unfold Reader.fuel
  split <;> omega

theorem steps_unguardedRead (hpending : ¬ x.1.Pending) (available : Bytes) :
    reader.Steps (x.1, x.2 ++ available) (unguardedRead available x) := by
  unfold unguardedRead
  split
  · rename_i hnil
    rw [hnil, List.append_nil]
    exact .refl
  · have hread : ¬ (x.1, x.2 ++ available).1.Pending := hpending
    obtain ⟨hgoes, -⟩ | hstops := loop_spec hread (fuel_reader_lt _)
    · exact steps_of_goes hgoes hread
    · exact steps_of_stops hread hstops

theorem blockingOps_unguardedRead (hpending : ¬ x.1.Pending) (available : Bytes) :
    (unguardedRead available x).1.blockingOps = x.1.blockingOps ∨
      (unguardedRead available x).1.blockingOps = x.1.blockingOps ++ [none] := by
  unfold unguardedRead
  split
  · exact .inl rfl
  · have hread : ¬ (x.1, x.2 ++ available).1.Pending := hpending
    obtain ⟨hgoes, -⟩ | hstops := loop_spec hread (fuel_reader_lt _)
    · have hops := blockingOps_goes hgoes
      exact .inl hops
    · have hops := blockingOps_stops hstops
      exact hops

/-- A read that returns early leaves nothing that could be parsed. -/
def Finishes (x : VncConnection × Bytes) : Prop :=
  ¬ x.1.Pending → ∀ y, Stops x y → reader.step y = none

theorem finishes_iff_loop {n : Nat} (hpending : ¬ x.1.Pending) (hfuel : reader.fuel x < n) :
    Finishes x ↔ reader.step (loop n x) = none := by
  constructor
  · intro h
    obtain ⟨hgoes, hend⟩ | hstops := loop_spec hpending hfuel
    · rw [step_reader (pending_goes hgoes hpending), hend, Option.map_none]
    · exact h hpending _ hstops
  · intro h _ y hstops
    rw [← loop_of_stops hpending hfuel hstops]
    exact h

instance (x : VncConnection × Bytes) : Decidable (Finishes x) :=
  if h : x.1.Pending then .isTrue fun hnot => absurd h hnot
  else decidable_of_iff _ (finishes_iff_loop h (fuel_reader_lt x)).symm

/-! ### Authentications -/

/-- The authentication that is under way. -/
def pendingOp (c : VncConnection) : Nat := c.blockingOps.idxOf none

theorem blockingOps_settle (c : VncConnection) (op : Nat) (ok : Bool) :
    (c.settle op ok).blockingOps = c.blockingOps.set op (some ok) := by
  cases ok <;> rfl

theorem needed_settle (c : VncConnection) (op : Nat) (ok : Bool) :
    (c.settle op ok).needed = if ok then 1 else c.needed := by
  cases ok <;> rfl

theorem count_set_idxOf {ops : List (Option Bool)} (h : none ∈ ops) (ok : Bool) :
    (ops.set (ops.idxOf none) (some ok)).count none = ops.count none - 1 := by
  have hlt := List.idxOf_lt_length_of_mem h
  rw [List.count_set hlt, List.getElem_idxOf hlt]
  simp

theorem not_pending_settle {c : VncConnection} (hpending : c.Pending)
    (hone : c.blockingOps.count none ≤ 1) (ok : Bool) : ¬ (c.settle c.pendingOp ok).Pending := by
  rw [Pending, blockingOps_settle, ← List.count_pos_iff, pendingOp, count_set_idxOf hpending]
  omega

end VncConnection

open vnc VncConnection

/-! ### Sessions -/

/-- A connection whose input is read as it arrives. -/
structure VncSession where
  connection : VncConnection
  /-- `_buffer` of the connection. -/
  buffer : Bytes
  /-- What has arrived during an authentication; it is read when that is settled. -/
  unread : Bytes
  deriving DecidableEq

/-- What reaches a connection: a chunk, or the end of the authentication that is under way. -/
inductive VncInput
  | chunk (bytes : Bytes)
  | settle (ok : Bool)
  deriving DecidableEq

/-- The input without its chunks. -/
inductive VncToken
  | byte (b : UInt8)
  | settle (ok : Bool)

/-- The input, byte by byte. -/
def VncInput.tokens : VncInput → List VncToken
  | chunk bytes => bytes.map .byte
  | settle ok => [.settle ok]

namespace VncSession

/-- A new connection, with nothing to be read. -/
def new (options : VncOptions) : VncSession := ⟨.new options, [], []⟩

/-- All that is available is read. -/
def read (connection : VncConnection) (buffer available : Bytes) : VncSession :=
  let x := unguardedRead available (connection, buffer)
  ⟨x.1, x.2, []⟩

theorem read_nil (connection : VncConnection) (buffer : Bytes) :
    read connection buffer [] = ⟨connection, buffer, []⟩ := rfl

/-- What an input does. -/
def next (s : VncSession) : VncInput → Option VncSession
  | .chunk bytes =>
    if bytes = [] then none
    else if s.connection.Pending then some { s with unread := s.unread ++ bytes }
    else some (read s.connection s.buffer bytes)
  | .settle ok =>
    if s.connection.Pending then
      some (read (s.connection.settle s.connection.pendingOp ok) s.buffer s.unread)
    else none

/-- The runs of a session. -/
def inputs : Lts VncSession VncInput := .ofNext next

/-- The connection, and the bytes that it has not parsed. -/
def front (s : VncSession) : VncConnection × Bytes := (s.connection, s.buffer ++ s.unread)

/-- Nothing that could be parsed is left. -/
def Done (s : VncSession) : Prop := reader.step s.front = none

/-- No read returns early with bytes that could be parsed; and where nothing has arrived during an
authentication, so that nothing is read after it, the buffer does not hold what the next state
consumes. -/
def Whole (s : VncSession) : VncInput → Prop
  | .chunk bytes => Finishes (s.connection, s.buffer ++ bytes)
  | .settle ok =>
    if s.unread = [] then
      s.buffer = [] ∨ s.buffer.length < if ok then 1 else s.connection.needed
    else Finishes (s.connection.settle s.connection.pendingOp ok, s.buffer ++ s.unread)

instance (s : VncSession) (x : VncInput) : Decidable (Whole s x) := by
  cases x <;> unfold Whole <;> infer_instance

/-- **The invariant**: one authentication at most is under way, and without one everything that has
arrived is read. -/
structure Calm (s : VncSession) : Prop where
  one : s.connection.blockingOps.count none ≤ 1
  unread : ¬ s.connection.Pending → s.unread = []

theorem calm_new (options : VncOptions) : Calm (new options) := ⟨Nat.zero_le _, fun _ => rfl⟩

theorem calm_read {c : VncConnection} (hpending : ¬ c.Pending) (buffer available : Bytes) :
    Calm (read c buffer available) := by
  refine ⟨?_, fun _ => rfl⟩
  have hnone : c.blockingOps.count none = 0 := List.count_eq_zero.2 hpending
  show (unguardedRead available (c, buffer)).1.blockingOps.count none ≤ 1
  obtain hops | hops := blockingOps_unguardedRead (x := (c, buffer)) hpending available
  · rw [hops, hnone]
    exact Nat.zero_le 1
  · rw [hops, List.count_append, hnone]
    decide

/-- What an input can do. -/
theorem next_cases {s s' : VncSession} {x : VncInput} (hcalm : Calm s)
    (hnext : s.next x = some s') :
    (∃ bytes, x = .chunk bytes ∧ s.connection.Pending ∧
      s' = { s with unread := s.unread ++ bytes }) ∨
    (∃ bytes, x = .chunk bytes ∧ bytes ≠ [] ∧ ¬ s.connection.Pending ∧ s.unread = [] ∧
      s' = read s.connection s.buffer bytes) ∨
    ∃ ok c, x = .settle ok ∧ c = s.connection.settle s.connection.pendingOp ok ∧
      s.connection.Pending ∧ ¬ c.Pending ∧ s' = read c s.buffer s.unread := by
  cases x with
  | chunk bytes =>
    simp only [next] at hnext
    split at hnext
    · cases hnext
    rename_i hne
    split at hnext
    · rename_i hpending
      exact .inl ⟨bytes, rfl, hpending, (Option.some.inj hnext).symm⟩
    · rename_i hpending
      exact .inr (.inl ⟨bytes, rfl, hne, hpending, hcalm.unread hpending,
        (Option.some.inj hnext).symm⟩)
  | settle ok =>
    simp only [next] at hnext
    split at hnext
    · rename_i hpending
      exact .inr (.inr ⟨ok, _, rfl, rfl, hpending, not_pending_settle hpending hcalm.one ok,
        (Option.some.inj hnext).symm⟩)
    · cases hnext

theorem calm_next {s s' : VncSession} {x : VncInput} (hcalm : Calm s)
    (hnext : s.next x = some s') : Calm s' := by
  obtain ⟨bytes, -, hpending, rfl⟩ | ⟨bytes, -, -, hpending, -, rfl⟩ | ⟨ok, c, -, -, -, hc, rfl⟩ :=
    next_cases hcalm hnext
  · exact ⟨hcalm.one, fun hnot => absurd hpending hnot⟩
  · exact calm_read hpending _ _
  · exact calm_read hc _ _

/-! ### What is left -/

theorem done_read {c : VncConnection} (hpending : ¬ c.Pending) {buffer available : Bytes}
    (hne : available ≠ []) :
    Done (read c buffer available) ↔ Finishes (c, buffer ++ available) := by
  have hread : ¬ (c, buffer ++ available).1.Pending := hpending
  rw [finishes_iff_loop hread (fuel_reader_lt _), Done, front, read, unguardedRead, if_neg hne,
    List.append_nil]

theorem done_settle {c : VncConnection} {ok : Bool} {op : Nat} {buffer : Bytes}
    (hpending : ¬ (c.settle op ok).Pending) : Done (read (c.settle op ok) buffer []) ↔
      buffer = [] ∨ buffer.length < if ok then 1 else c.needed := by
  rw [read_nil, Done, front, List.append_nil, Reader.step]
  simp only [reader, if_neg hpending, needed_settle]
  constructor
  · intro h
    by_contra hnot
    rw [if_neg hnot] at h
    cases h
  · exact fun h => if_pos h

/-- **An input leaves nothing behind exactly if its read is whole.** -/
theorem done_iff_whole {s s' : VncSession} {x : VncInput} (hcalm : Calm s)
    (hnext : s.next x = some s') : Done s' ↔ Whole s x := by
  obtain ⟨bytes, rfl, hpending, rfl⟩ | ⟨bytes, rfl, hne, hpending, -, rfl⟩ |
      ⟨ok, c, rfl, rfl, -, hc, rfl⟩ := next_cases hcalm hnext
  · refine iff_of_true (Reader.step_of_need_none (if_pos hpending)) fun hnot => ?_
    exact absurd hpending hnot
  · exact done_read hpending hne
  · by_cases hunread : s.unread = []
    · rw [Whole, if_pos hunread, hunread]
      exact done_settle hc
    · rw [Whole, if_neg hunread]
      exact done_read hc hunread

/-! ### What the chunks leave open -/

/-- A parser that looks at every byte and every authentication at once. -/
def feed (x : VncConnection × Bytes) : VncToken → VncConnection × Bytes
  | .byte b => reader.norm (Reader.push [b] x)
  | .settle ok => reader.norm (x.1.settle x.1.pendingOp ok, x.2)

theorem foldl_feed_chunk (bytes : Bytes) (x : VncConnection × Bytes) :
    (VncInput.chunk bytes).tokens.foldl feed (reader.norm x) =
      reader.norm (Reader.push bytes x) := by
  rw [VncInput.tokens, List.foldl_map]
  exact Reader.foldl_feed bytes x

theorem norm_next {s s' : VncSession} {x : VncInput} (hcalm : Calm s) (hnext : s.next x = some s') :
    reader.norm s'.front = x.tokens.foldl feed (reader.norm s.front) := by
  have hread : ∀ c buffer available, ¬ c.Pending →
      reader.norm (read c buffer available).front = reader.norm (c, buffer ++ available) := by
    intro c buffer available hpending
    rw [front, read, List.append_nil]
    exact (Reader.norm_of_steps (steps_unguardedRead (x := (c, buffer)) hpending available)).symm
  obtain ⟨bytes, rfl, hpending, rfl⟩ | ⟨bytes, rfl, -, hpending, hunread, rfl⟩ |
      ⟨ok, c, rfl, rfl, hpending, hc, rfl⟩ := next_cases hcalm hnext
  · rw [foldl_feed_chunk]
    simp only [front, Reader.push, List.append_assoc]
  · rw [foldl_feed_chunk, hread _ _ _ hpending]
    simp only [front, Reader.push, hunread, List.append_nil]
  · have hwaits : reader.step s.front = none := Reader.step_of_need_none (if_pos hpending)
    rw [hread _ _ _ hc, Reader.norm_of_step_none hwaits]
    rfl

theorem calm_run {options : VncOptions} {xs : List VncInput} {s : VncSession}
    (run : inputs.Run (new options) xs s) : Calm s :=
  run.invariant (calm_new options) fun _ _ _ hcalm hnext => calm_next hcalm hnext

theorem norm_run {s s' : VncSession} {xs : List VncInput} (hcalm : Calm s)
    (run : inputs.Run s xs s') :
    reader.norm s'.front = (xs.flatMap VncInput.tokens).foldl feed (reader.norm s.front) := by
  induction run with
  | done => rfl
  | more hnext _ ih =>
    rw [ih (calm_next hcalm hnext), norm_next hcalm hnext, List.flatMap_cons, List.foldl_append]

/-- The connections have done the same, are in the same state and have left the same bytes. -/
def Same (s t : VncSession) : Prop :=
  s.connection = t.connection ∧ s.buffer ++ s.unread = t.buffer ++ t.unread

theorem same_iff_front {s t : VncSession} : Same s t ↔ s.front = t.front :=
  ⟨fun h => Prod.ext h.1 h.2, fun h => ⟨congrArg Prod.fst h, congrArg Prod.snd h⟩⟩

/-- **When chunks make no difference**: the same bytes and authentications lead to what they lead to
in chunks of which the last is read as a whole, exactly if the last of their own chunks is. -/
theorem same_iff_whole {options : VncOptions} {xs ys : List VncInput} {s s' t t' : VncSession}
    {x y : VncInput} (run : inputs.Run (new options) xs s) (hnext : s.next x = some s')
    (run' : inputs.Run (new options) ys t) (hnext' : t.next y = some t')
    (htokens : (xs ++ [x]).flatMap VncInput.tokens = (ys ++ [y]).flatMap VncInput.tokens)
    (hwhole : Whole t y) : Same s' t' ↔ Whole s x := by
  have hnorm : ∀ {xs : List VncInput} {s s' : VncSession} {x : VncInput},
      inputs.Run (new options) xs s → s.next x = some s' → reader.norm s'.front =
        ((xs ++ [x]).flatMap VncInput.tokens).foldl feed (reader.norm (new options).front) := by
    intro xs s s' x run hnext
    rw [norm_next (calm_run run) hnext, norm_run (calm_new options) run, List.flatMap_append,
      List.foldl_append, List.flatMap_cons, List.flatMap_nil, List.append_nil]
  have hdone : Done t' := (done_iff_whole (calm_run run') hnext').2 hwhole
  rw [← done_iff_whole (calm_run run) hnext, same_iff_front]
  constructor
  · intro hsame
    rw [Done, hsame]
    exact hdone
  · intro hdone'
    rw [← Reader.norm_of_step_none hdone', ← Reader.norm_of_step_none hdone, hnorm run hnext,
      hnorm run' hnext', htokens]

/-- A response in one chunk and in two. -/
theorem same_iff_whole_split :
    ∃ s s' t t' : VncSession, s.next (.chunk [0]) = some s' ∧ t.next (.chunk [0]) = some t' ∧
      s'.connection.state = .needClientMessage ∧ Same s' t' := by
  obtain ⟨s, run, hs⟩ := Lts.exists_run_of_play (f := next) (G := fun _ _ => True)
    (new ⟨[⟨SECURITY_VNC, []⟩], 720, 1280, [], false⟩)
    [.chunk (ascii "RFB 003.008\n" ++ [2] ++ List.replicate 16 0), .settle true]
    (fun s => decide (Whole s (.chunk [0]) ∧ ∃ s' ∈ s.next (.chunk [0]),
      s'.connection.state = .needClientMessage)) (by decide +kernel)
  obtain ⟨t, run', ht⟩ := Lts.exists_run_of_play (f := next) (G := fun _ _ => True)
    (new ⟨[⟨SECURITY_VNC, []⟩], 720, 1280, [], false⟩)
    [.chunk (ascii "RFB 003.008\n"), .chunk (2 :: List.replicate 8 0),
      .chunk (List.replicate 8 0), .settle true]
    (fun t => decide (Whole t (.chunk [0]) ∧ (t.next (.chunk [0])).isSome)) (by decide +kernel)
  obtain ⟨hwhole, s', hnext, hstate⟩ := of_decide_eq_true hs
  obtain ⟨hwhole', hsome⟩ := of_decide_eq_true ht
  obtain ⟨t', hnext'⟩ := Option.isSome_iff_exists.1 hsome
  exact ⟨s, s', t, t', hnext, hnext', hstate, (same_iff_whole run.of_restrict hnext run'.of_restrict
    hnext' rfl hwhole').2 hwhole⟩

/-- **Chunks make a difference**: the client selects the security type `NONE` and asks for a share;
in one chunk with the selection, the share is not looked at. -/
theorem not_same_of_early_return :
    ¬ ∀ (options : VncOptions) (xs ys : List VncInput) (s t : VncSession),
      inputs.Run (new options) xs s → inputs.Run (new options) ys t →
        xs.flatMap VncInput.tokens = ys.flatMap VncInput.tokens →
          ¬ s.connection.Pending → ¬ t.connection.Pending → Same s t := by
  intro h
  obtain ⟨s, run, hs⟩ := Lts.exists_run_of_play (f := next) (G := fun _ _ => True)
    (new ⟨[⟨SECURITY_NONE, []⟩], 720, 1280, [], false⟩)
    [.chunk (ascii "RFB 003.008\n" ++ [1, 1])]
    (fun s => decide (s.connection.state = .needClientInit ∧ ¬ s.connection.Pending))
    (by decide +kernel)
  obtain ⟨t, run', ht⟩ := Lts.exists_run_of_play (f := next) (G := fun _ _ => True)
    (new ⟨[⟨SECURITY_NONE, []⟩], 720, 1280, [], false⟩)
    [.chunk (ascii "RFB 003.008\n" ++ [1]), .chunk [1]]
    (fun t => decide (t.connection.state = .needClientMessage ∧ ¬ t.connection.Pending))
    (by decide +kernel)
  obtain ⟨hstate, hpending⟩ := of_decide_eq_true hs
  obtain ⟨hstate', hpending'⟩ := of_decide_eq_true ht
  have hsame := h _ _ _ s t run.of_restrict run'.of_restrict rfl hpending hpending'
  rw [hsame.1, hstate'] at hstate
  cases hstate

/-! ### Sessions of a socket -/

/-- A socket on which the session goes on; a read is scheduled for what has not been read. -/
structure Matches (s : VncSession) (u : VncSocket) : Prop where
  connection : u.connection = s.connection
  buffer : u.buffer = s.buffer
  unread : u.unread = s.unread
  reads : s.unread ≠ [] → u.reads ≠ []

theorem exists_read {u : VncSocket} (hpending : ¬ u.connection.Pending) (hreads : u.reads ≠ []) :
    ∃ u', VncSocket.events.step u (.read 0) u' ∧
      Matches (read u.connection u.buffer u.unread) u' := by
  obtain ⟨ops, reads, hcons⟩ := List.exists_cons_of_ne_nil hreads
  have hsettled : none ∉ u.connection.blockingOps.take ops :=
    fun hmem => hpending (List.mem_of_mem_take hmem)
  have hnext : u.next (.read 0) = some { u with reads := u.reads.eraseIdx 0 }.unguardedRead := by
    rw [VncSocket.next, hcons]
    exact if_neg hsettled
  exact ⟨_, hnext, rfl, rfl, rfl, fun hne => absurd rfl hne⟩

/-- An input of a session is a few events of its socket. -/
theorem exists_socket_next {s s' : VncSession} {u : VncSocket} {x : VncInput} (hcalm : Calm s)
    (h : Matches s u) (hnext : s.next x = some s') :
    ∃ ls u', VncSocket.events.Run u ls u' ∧ Matches s' u' := by
  obtain ⟨bytes, rfl, hpending, rfl⟩ | ⟨bytes, rfl, -, hpending, hunread, rfl⟩ |
      ⟨ok, c, rfl, rfl, hpending, hc, rfl⟩ := next_cases hcalm hnext
  · refine ⟨[.data bytes, .readable], _, .more rfl (.more rfl (.done _)), h.connection, h.buffer, ?_,
      fun _ => List.append_ne_nil_of_right_ne_nil _ (List.cons_ne_nil _ _)⟩
    show u.unread ++ bytes = _
    rw [h.unread]
  · let arrived : VncSocket :=
      { u with unread := u.unread ++ bytes, received := u.received ++ bytes }.schedule
    have hreads : arrived.reads ≠ [] :=
      List.append_ne_nil_of_right_ne_nil _ (List.cons_ne_nil _ _)
    have hnone : ¬ arrived.connection.Pending := h.connection ▸ hpending
    have hbytes : arrived.unread = bytes := by
      show u.unread ++ bytes = _
      rw [h.unread, hunread, List.nil_append]
    obtain ⟨u', hread, hmatches⟩ := exists_read hnone hreads
    rw [hbytes] at hmatches
    refine ⟨[.data bytes, .readable, .read 0], u',
      .more rfl (.more rfl (.more hread (.done _))), ?_⟩
    rw [← h.connection, ← h.buffer]
    exact hmatches
  · have hop : u.connection.blockingOps[s.connection.pendingOp]? = some none := by
      rw [h.connection]
      exact List.getElem?_idxOf hpending
    obtain ⟨v, hv, hmatches⟩ : ∃ v, u.next (.settle s.connection.pendingOp ok) = some v ∧
        Matches { s with connection := s.connection.settle s.connection.pendingOp ok } v := by
      refine ⟨_, if_pos hop, ?_⟩
      rw [← h.connection]
      split
      · exact ⟨rfl, h.buffer, h.unread,
          fun _ => List.append_ne_nil_of_right_ne_nil _ (List.cons_ne_nil _ _)⟩
      · exact ⟨rfl, h.buffer, h.unread, h.reads⟩
    by_cases hunread : s.unread = []
    · refine ⟨_, v, .more hv (.done v), ?_⟩
      rw [hunread, read_nil]
      exact ⟨hmatches.connection, hmatches.buffer, hmatches.unread.trans hunread,
        fun hne => absurd rfl hne⟩
    · obtain ⟨u', hread, hmatches'⟩ := exists_read
        (hmatches.connection.symm ▸ hc) (hmatches.reads hunread)
      rw [hmatches.connection, hmatches.buffer, hmatches.unread] at hmatches'
      exact ⟨_, u', .more hv (.more hread (.done u')), hmatches'⟩

/-- **Sessions are runs of a socket**: each chunk is followed by `readable`, and a read that no
authentication holds up comes at once. -/
theorem exists_socket_run {options : VncOptions} {xs : List VncInput} {s : VncSession}
    (run : inputs.Run (new options) xs s) :
    ∃ ls u, VncSocket.events.Run (.new options) ls u ∧ Matches s u := by
  have hrun : ∀ {s s' : VncSession} {u : VncSocket} {xs : List VncInput}, inputs.Run s xs s' →
      Calm s → Matches s u → ∃ ls u', VncSocket.events.Run u ls u' ∧ Matches s' u' := by
    intro s s' u xs run
    induction run generalizing u with
    | done => exact fun _ hmatches => ⟨[], u, .done u, hmatches⟩
    | more hnext _ ih =>
      intro hcalm hmatches
      obtain ⟨ls, v, hfirst, hv⟩ := exists_socket_next hcalm hmatches hnext
      obtain ⟨ls', u', hrest, hu'⟩ := ih (calm_next hcalm hnext) hv
      exact ⟨ls ++ ls', u', hfirst.append hrest, hu'⟩
  exact hrun run (calm_new options) ⟨rfl, rfl, rfl, fun hne => absurd rfl hne⟩

end VncSession

end DeviceHub
