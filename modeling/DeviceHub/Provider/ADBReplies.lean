import DeviceHub.Provider.ADBRequests
import Mathlib.Data.List.Induction

/-!
# The replies to the requests of `units/provider/ADBObserver.ts`

The handler of the event `data` reads its buffer from the start whenever more bytes have come.

## Main definitions

* `utf8` : the text that bytes stand for.
* `ADBRequests.onChunk` : the handler of the event `data`.
* `ADBRequests.Decodes` : the request is settled when its reply has come, and not before.

## Main results

* `ADBRequests.decodes_reply` : the replies are decoded, however they are cut.
-/

namespace DeviceHub

/-! ### Text -/

/-- The bits of a character that its first byte has, and the ranges of the other bytes. -/
def utf8First (b : UInt8) : Option (Nat × List (UInt8 × UInt8)) :=
  if b ≤ 0x7F then some (b.toNat, [])
  else if 0xC2 ≤ b ∧ b ≤ 0xDF then some (b.toNat - 0xC0, [(0x80, 0xBF)])
  else if b = 0xE0 then some (0x0, [(0xA0, 0xBF), (0x80, 0xBF)])
  else if b = 0xED then some (0xD, [(0x80, 0x9F), (0x80, 0xBF)])
  else if 0xE1 ≤ b ∧ b ≤ 0xEF then some (b.toNat - 0xE0, [(0x80, 0xBF), (0x80, 0xBF)])
  else if b = 0xF0 then some (0x0, [(0x90, 0xBF), (0x80, 0xBF), (0x80, 0xBF)])
  else if 0xF1 ≤ b ∧ b ≤ 0xF3 then
    some (b.toNat - 0xF0, [(0x80, 0xBF), (0x80, 0xBF), (0x80, 0xBF)])
  else if b = 0xF4 then some (0x4, [(0x80, 0x8F), (0x80, 0xBF), (0x80, 0xBF)])
  else none

/-- The other bytes of a character, as long as they are in their ranges, and what comes after. -/
def utf8Others (value : Nat) : List (UInt8 × UInt8) → Bytes → Option Nat × Bytes
  | [], bytes => (some value, bytes)
  | _ :: _, [] => (none, [])
  | (low, high) :: ranges, b :: bytes =>
    if low ≤ b ∧ b ≤ high then utf8Others (value * 64 + (b.toNat - 0x80)) ranges bytes
    else (none, b :: bytes)

/-- `�`, which stands for bytes that are no character. -/
def replacement : Char := Char.ofNat 0xFFFD

/-- So many characters at most. -/
def utf8Chars : Nat → Bytes → List Char
  | 0, _ => []
  | _, [] => []
  | n + 1, b :: bytes =>
    match utf8First b with
    | none => replacement :: utf8Chars n bytes
    | some (value, ranges) =>
      let (char, bytes) := utf8Others value ranges bytes
      char.elim replacement Char.ofNat :: utf8Chars n bytes

/-- `buffer.toString('utf-8')` -/
def utf8 (buffer : Bytes) : String := String.ofList (utf8Chars buffer.length buffer)

theorem utf8_eq_empty {buffer : Bytes} : utf8 buffer = "" ↔ buffer = [] := by
  constructor
  · intro h
    cases buffer with
    | nil => rfl
    | cons b bytes =>
      have hnil : utf8Chars (bytes.length + 1) (b :: bytes) = [] := by
        simpa [utf8] using congrArg String.toList h
      unfold utf8Chars at hnil
      split at hnil <;> cases hnil
  · rintro rfl
    rfl

namespace ADBRequests

/-! ### The handler -/

/-- The event `data` of a connection: what has not been read, and the new bytes. -/
def onChunk (received : ADBRequests × Bytes) (data : Bytes) : ADBRequests × Bytes :=
  received.1.processADBResponses (received.2 ++ data)

theorem onData_eq (s : ADBRequests) (i n : Nat) (c : ADBSocket) : s.onData i n c =
    let received := onChunk
      (s.modifySocket i (fun c => { c with pending := c.pending.drop n }), c.responseBuffer)
      (c.pending.take n)
    received.1.setBuffer i received.2 := rfl

/-- How a promise is settled. -/
inductive Settlement where
  | resolve (value : String)
  | reject (message : String)
  deriving DecidableEq

/-- `errorMessage || 'ADB command failed'` -/
def errorMessage (message : Bytes) : String :=
  if utf8 message = "" then "ADB command failed" else utf8 message

/-- An error of the observer has another text. -/
def settlement : ADBOutcome → Option Settlement
  | .resolve data => some (.resolve (utf8 data))
  | .fail message => some (.reject (errorMessage message))
  | .error => none

/-- The requests that wait, without their timers. -/
def waiting (queue : List ADBRequest) : List (ADBCall × RequestKind) :=
  queue.map fun request => (request.call, request.kind)

/-- The first request is settled once: the promise of its call is settled, or, when a transport was
asked for and is there, the command for the device is queued. -/
def SettledOnce (message : Bytes → String) (s s' : ADBRequests) (request : ADBRequest)
    (others : List ADBRequest) (answer : ADBAnswer) : Prop :=
  match request.kind, answer with
  | .transport, .okay _ => s'.settled = s.settled ∧
      waiting s'.requestQueue = waiting others ++ [(request.call, .device)]
  | _, .okay data => waiting s'.requestQueue = waiting others ∧ ∃ outcome,
      s'.settled = s.settled ++ [(request.call, outcome)] ∧
        settlement outcome = some (.resolve (utf8 data))
  | _, .fail text => waiting s'.requestQueue = waiting others ∧ ∃ outcome,
      s'.settled = s.settled ++ [(request.call, outcome)] ∧
        settlement outcome = some (.reject (message text))

/-- **The reply is decoded**, however it is cut: nothing happens before its last byte, and then the
request is settled and what comes after the reply is kept. -/
structure Decodes (message : Bytes → String) (s : ADBRequests) (request : ADBRequest)
    (others : List ADBRequest) (answer : ADBAnswer) (reply : Bytes) : Prop where
  before : ∀ chunks : List Bytes, chunks.flatten <+: reply → chunks.flatten ≠ reply →
    chunks.foldl onChunk (s, []) = (s, chunks.flatten)
  after : ∀ (chunks : List Bytes) (last rest : Bytes), chunks.flatten <+: reply →
    chunks.flatten ≠ reply → chunks.flatten ++ last = reply ++ rest →
    ∃ s', (chunks ++ [last]).foldl onChunk (s, []) = (s', rest) ∧
      SettledOnce message s s' request others answer

variable {s : ADBRequests} {request : ADBRequest} {others : List ADBRequest} {answer : ADBAnswer}
  {reply : Bytes}

theorem settled_processNextRequest : s.processNextRequest.settled = s.settled := by
  rcases processNextRequest_cases s with heq | ⟨request, others, i, -, -, -, heq⟩
  · rw [heq]
  · rw [heq]
    rfl

theorem waiting_processNextRequest :
    waiting s.processNextRequest.requestQueue = waiting s.requestQueue := by
  rcases processNextRequest_cases s with heq | ⟨request, others, i, hqueue, -, -, heq⟩
  · rw [heq]
  · rw [heq, hqueue]
    rfl

theorem onChunk_of_incomplete (hqueue : s.requestQueue = request :: others)
    (hraw : request.rawStreamBuffer = none) (hreply : ADBReply request.kind answer reply)
    {buffer data : Bytes} (hp : buffer ++ data <+: reply) (hne : buffer ++ data ≠ reply) :
    onChunk (s, buffer) data = (s, buffer ++ data) := by
  unfold onChunk processADBResponses
  dsimp only
  rw [hqueue]
  dsimp only
  rw [hraw]
  dsimp only
  unfold processAnswer
  rw [readResponse_of_incomplete hreply hp hne]

theorem settledOnce_fail (hqueue : s.requestQueue = request :: others) (message : Bytes) :
    SettledOnce errorMessage s (s.shift.settle request.call (.fail message)).processNextRequest
      request others (.fail message) := by
  have hwaiting : waiting (s.shift.settle request.call (.fail message)).processNextRequest.requestQueue
      = waiting others := by
    rw [waiting_processNextRequest]
    exact congrArg waiting (tail_eq hqueue)
  unfold SettledOnce
  cases request.kind <;> exact ⟨hwaiting, .fail message, settled_processNextRequest, rfl⟩

/-- The reply has come. -/
theorem onChunk_reply (hqueue : s.requestQueue = request :: others)
    (hraw : request.rawStreamBuffer = none) (hreply : ADBReply request.kind answer reply)
    {buffer data rest : Bytes} (hall : buffer ++ data = reply ++ rest) :
    ∃ s', onChunk (s, buffer) data = (s', rest) ∧
      SettledOnce errorMessage s s' request others answer := by
  have htail : s.shift.requestQueue = others := tail_eq hqueue
  have hchunk : onChunk (s, buffer) data = s.processAnswer request others (buffer ++ data) := by
    unfold onChunk processADBResponses
    dsimp only
    rw [hqueue]
    dsimp only
    rw [hraw]
  rw [hchunk, processAnswer, hall, readResponse_reply hreply]
  obtain ⟨call, kind, timer, raw⟩ := request
  cases hreply with
  | @data digits payload hdigits =>
    refine ⟨(s.shift.settle call (.resolve payload)).processNextRequest, rfl, ?_, .resolve payload,
      settled_processNextRequest, rfl⟩
    rw [waiting_processNextRequest]
    exact congrArg waiting htail
  | okay =>
    refine ⟨(s.shift.push call .device).processNextRequest.processNextRequest, rfl,
      settled_processNextRequest.trans settled_processNextRequest, ?_⟩
    rw [waiting_processNextRequest, waiting_processNextRequest, push, htail]
    simp [waiting]
  | fail hdigits =>
    refine ⟨_, ?_, settledOnce_fail hqueue _⟩
    cases kind <;> rfl

/-- **The replies are decoded**, however they are cut; a failure without a message has the message
`ADB command failed`. -/
theorem decodes_reply (hqueue : s.requestQueue = request :: others)
    (hraw : request.rawStreamBuffer = none) (hreply : ADBReply request.kind answer reply) :
    Decodes errorMessage s request others answer reply := by
  have hbefore : ∀ chunks : List Bytes, chunks.flatten <+: reply → chunks.flatten ≠ reply →
      chunks.foldl onChunk (s, []) = (s, chunks.flatten) := by
    intro chunks
    induction chunks using List.reverseRec with
    | nil => exact fun _ _ => rfl
    | append_singleton chunks chunk ih =>
      intro hp hne
      rw [List.flatten_concat] at hp hne ⊢
      have hp' : chunks.flatten <+: reply := (List.prefix_append _ _).trans hp
      have hne' : chunks.flatten ≠ reply := fun hall => hne (by
        obtain rfl : chunk = [] := by
          have hlength := hp.length_le
          rw [hall, List.length_append] at hlength
          exact List.length_eq_zero_iff.1 (by omega)
        rw [List.append_nil, hall])
      rw [List.foldl_append, ih hp' hne']
      exact onChunk_of_incomplete hqueue hraw hreply hp hne
  refine ⟨hbefore, fun chunks last rest hp hne hall => ?_⟩
  rw [List.foldl_append, hbefore chunks hp hne]
  exact onChunk_reply hqueue hraw hreply hall

/-- A request for the version of the server is in flight. -/
def version : ADBRequests :=
  { ADBRequests.new with
    calls := 1
    requestQueue := [⟨⟨0, "host:version", none⟩, .host, some 0, none⟩]
    connection := some 0
    sockets := [⟨[⟨⟨0, "host:version", none⟩, .host⟩], [], [], [], false, false, false⟩] }

theorem decodes_version : Decodes errorMessage version
    ⟨⟨0, "host:version", none⟩, .host, some 0, none⟩ [] (.okay [48, 48, 50, 57])
    (OKAY ++ ([48, 48, 48, 52] ++ [48, 48, 50, 57])) :=
  decodes_reply rfl rfl (.data (by decide))

/-- **A failure without a message**: the call is rejected with another message. -/
theorem not_decodes_of_empty : ADBReply .host (.fail []) (FAIL ++ ([48, 48, 48, 48] ++ [])) ∧
    ¬ Decodes utf8 version ⟨⟨0, "host:version", none⟩, .host, some 0, none⟩ [] (.fail [])
      (FAIL ++ ([48, 48, 48, 48] ++ [])) := by
  have hreply : ADBReply .host (.fail []) (FAIL ++ ([48, 48, 48, 48] ++ [])) := .fail (by decide)
  refine ⟨hreply, fun h => ?_⟩
  obtain ⟨s', heq, hsettled⟩ := h.after [] (FAIL ++ ([48, 48, 48, 48] ++ [])) []
    (List.nil_prefix) (by decide) (by decide)
  have hall : [] ++ (FAIL ++ ([48, 48, 48, 48] ++ [])) = FAIL ++ ([48, 48, 48, 48] ++ []) ++ [] := by
    decide
  obtain ⟨s'', heq', hsettled'⟩ := onChunk_reply (s := version) rfl rfl hreply hall
  obtain rfl : s' = s'' := congrArg Prod.fst (heq.symm.trans heq')
  obtain ⟨-, outcome, hone, htext⟩ := hsettled
  obtain ⟨-, outcome', hone', htext'⟩ := hsettled'
  obtain rfl : outcome = outcome' := by
    have hlast := List.append_cancel_left (hone.symm.trans hone')
    exact congrArg Prod.snd (List.head_eq_of_cons_eq hlast)
  exact absurd (htext.symm.trans htext') (by decide)

end ADBRequests

end DeviceHub
