import DeviceHub.Bytes.Encoding

/-!
# The answers of an ADB server

A server answers a command with a status, and, unless it only says that all is well, with a length
of four hexadecimal digits and so many bytes, or with a stream that has no length.  `ADBObserver`
reads the bytes of an answer as they come.

## Main definitions

* `ADBAnswer`, `ADBAnswer.encode` : the answer to a command of one of the three kinds, and its
  bytes.
* `HexLength`, `ADBReply` : four digits with a value, and the well-formed replies to a request.
* `readResponse` : what the observer reads in the bytes that have come.

## Main results

* `parseInt_hexLength` : the length of an answer is read back.
* `readResponse_reply`, `readResponse_of_incomplete` : a reply is read when all of it has come.
* `readResponse_host`, `readResponse_fail`, `readResponse_transport`, `readResponse_stream` : of the
  bytes of an answer the observer reads the answer when they have all come, and nothing before.
-/

namespace DeviceHub

/-- How the answer to a command is read: with a length (`needData`), as a mere status, or as a raw
stream (`isRawStream`). -/
inductive RequestKind where
  | host
  | transport
  | device
  deriving DecidableEq

/-- What the observer gives to who has asked. -/
inductive ADBAnswer where
  | okay (data : Bytes)
  | fail (message : Bytes)
  deriving DecidableEq

/-- The bytes of `OKAY`. -/
def OKAY : Bytes := [79, 75, 65, 89]

/-- The bytes of `FAIL`. -/
def FAIL : Bytes := [70, 65, 73, 76]

/-! ### Lengths -/

/-- The character of a digit. -/
def hexDigit (n : Nat) : UInt8 := if n < 10 then .ofNat (48 + n) else .ofNat (87 + n)

/-- `n.toString(16).padStart(4, '0')`, for numbers of four digits. -/
def hexLength (n : Nat) : Bytes :=
  [hexDigit (n / 4096 % 16), hexDigit (n / 256 % 16), hexDigit (n / 16 % 16), hexDigit (n % 16)]

/-- The value of a digit. -/
def hexValue (b : UInt8) : Option Nat :=
  if 48 ≤ b ∧ b ≤ 57 then some (b.toNat - 48)
  else if 97 ≤ b ∧ b ≤ 102 then some (b.toNat - 87)
  else if 65 ≤ b ∧ b ≤ 70 then some (b.toNat - 55)
  else none

/-- `parseInt(digits, 16)`, the number of the digits at the beginning; `none` is `NaN`.  The white
space, the sign and the `0x` that JavaScript also takes before the digits are left out: a server
writes the length with four digits. -/
def parseInt (digits : Bytes) (value : Option Nat) : Option Nat :=
  match digits with
  | [] => value
  | b :: rest =>
    match hexValue b with
    | none => value
    | some digit => parseInt rest (some (value.getD 0 * 16 + digit))

theorem hexValue_hexDigit : ∀ n < 16, hexValue (hexDigit n) = some n := by decide

@[simp] theorem length_hexLength (n : Nat) : (hexLength n).length = 4 := rfl

/-- Four hexadecimal digits with the value `n`. -/
structure HexLength (digits : Bytes) (n : Nat) : Prop where
  length : digits.length = 4
  hex : ∀ b ∈ digits, (hexValue b).isSome
  value : digits.foldl (fun value b => value * 16 + (hexValue b).getD 0) 0 = n

instance (digits : Bytes) (n : Nat) : Decidable (HexLength digits n) :=
  decidable_of_iff (digits.length = 4 ∧ digits.all (fun b => (hexValue b).isSome) ∧
      digits.foldl (fun value b => value * 16 + (hexValue b).getD 0) 0 = n)
    ⟨fun ⟨h, h', h''⟩ => ⟨h, List.all_eq_true.1 h', h''⟩,
      fun ⟨h, h', h''⟩ => ⟨h, List.all_eq_true.2 h', h''⟩⟩

theorem parseInt_eq_foldl {digits : Bytes} (h : ∀ b ∈ digits, (hexValue b).isSome) (value : Nat) :
    parseInt digits (some value) =
      some (digits.foldl (fun value b => value * 16 + (hexValue b).getD 0) value) := by
  induction digits generalizing value with
  | nil => rfl
  | cons b digits ih =>
    obtain ⟨digit, hdigit⟩ := Option.isSome_iff_exists.1 (h b List.mem_cons_self)
    rw [parseInt, hdigit, List.foldl_cons, hdigit]
    exact ih (fun b' hb' => h b' (List.mem_cons_of_mem _ hb')) _

theorem HexLength.parseInt {digits : Bytes} {n : Nat} (h : HexLength digits n) :
    parseInt digits none = some n := by
  obtain ⟨hlength, hdigits, rfl⟩ := h
  cases digits with
  | nil => cases hlength
  | cons b digits =>
    obtain ⟨digit, hdigit⟩ := Option.isSome_iff_exists.1 (hdigits b List.mem_cons_self)
    rw [DeviceHub.parseInt, hdigit, List.foldl_cons, hdigit]
    exact parseInt_eq_foldl (fun b' hb' => hdigits b' (List.mem_cons_of_mem _ hb')) _

theorem HexLength.hexLength {n : Nat} (h : n < 65536) : HexLength (hexLength n) n := by
  have hdigit : ∀ k, hexValue (hexDigit (k % 16)) = some (k % 16) := fun k =>
    hexValue_hexDigit _ (Nat.mod_lt _ (by decide))
  refine ⟨rfl, fun b hb => ?_, ?_⟩
  · simp only [DeviceHub.hexLength, List.mem_cons, List.not_mem_nil, or_false] at hb
    rcases hb with rfl | rfl | rfl | rfl <;> simp [hdigit]
  · simp only [DeviceHub.hexLength, List.foldl_cons, List.foldl_nil, hdigit, Option.getD_some]
    omega

/-- **The length of an answer is read back.** -/
theorem parseInt_hexLength {n : Nat} (h : n < 65536) : parseInt (hexLength n) none = some n :=
  (HexLength.hexLength h).parseInt

/-! ### Answers -/

namespace ADBAnswer

/-- The bytes of an answer with a length. -/
def framed (status data : Bytes) : Bytes := status ++ hexLength data.length ++ data

/-- The bytes of the answer to a command. -/
def encode : RequestKind → ADBAnswer → Bytes
  | _, .fail message => framed FAIL message
  | .host, .okay data => framed OKAY data
  | .transport, .okay _ => OKAY
  | .device, .okay data => OKAY ++ data

/-- A length has four digits, and a mere status has no data. -/
def Fits : RequestKind → ADBAnswer → Prop
  | _, .fail message => message.length < 65536
  | .host, .okay data => data.length < 65536
  | .transport, .okay data => data = []
  | .device, .okay _ => True

instance (kind : RequestKind) (answer : ADBAnswer) : Decidable (answer.Fits kind) := by
  unfold Fits
  split <;> infer_instance

end ADBAnswer

/-! ### Reading -/

/-- What is read in the bytes that have come: nothing as yet, or an answer with the bytes that are
left over, or the beginning of a raw stream. -/
inductive ADBReading where
  | more
  | fail (message rest : Bytes)
  | data (data rest : Bytes)
  | okay (rest : Bytes)
  | stream (data : Bytes)
  deriving DecidableEq

/-- The data after a status, by its length, when all of it has come.  When the length is no number
the slices are empty, and nothing is consumed. -/
def readFrame (buffer : Bytes) : Option (Bytes × Bytes) :=
  if buffer.length < 8 then none
  else
    match parseInt ((buffer.drop 4).take 4) none with
    | none => some ([], buffer)
    | some dataLength =>
      if buffer.length < 8 + dataLength then none
      else some ((buffer.drop 8).take dataLength, buffer.drop (8 + dataLength))

/-- The first answer in the buffer, for a request that has not begun to read a raw stream. -/
def readResponse (kind : RequestKind) (buffer : Bytes) : ADBReading :=
  if buffer.length < 4 then .more
  else if buffer.take 4 = FAIL then (readFrame buffer).elim .more fun e => .fail e.1 e.2
  else if buffer.take 4 = OKAY then
    match kind with
    | .device => .stream (buffer.drop 4)
    | .host => (readFrame buffer).elim .more fun e => .data e.1 e.2
    | .transport => .okay (buffer.drop 4)
  else .more

/-- The reading of a whole reply. -/
def ADBReading.ofAnswer (kind : RequestKind) (rest : Bytes) : ADBAnswer → ADBReading
  | .fail message => .fail message rest
  | .okay payload =>
    match kind with
    | .transport => .okay rest
    | _ => .data payload rest

theorem readResponse_of_length_lt {kind : RequestKind} {buffer : Bytes} (h : buffer.length < 4) :
    readResponse kind buffer = .more := if_pos h

/-- **The data of a reply** is read when all of it has come. -/
theorem readFrame_reply {status digits data : Bytes} (hstatus : status.length = 4)
    (hdigits : HexLength digits data.length) (rest : Bytes) :
    readFrame (status ++ (digits ++ data) ++ rest) = some (data, rest) := by
  have hlength := hdigits.length
  have hlong : (status ++ (digits ++ data) ++ rest).length = 8 + data.length + rest.length := by
    simp only [List.length_append]
    omega
  have hdrop : (status ++ (digits ++ data) ++ rest).drop 4 = digits ++ (data ++ rest) := by
    rw [List.append_assoc, List.drop_left' hstatus, List.append_assoc]
  have hdrop' : (status ++ (digits ++ data) ++ rest).drop 8 = data ++ rest := by
    rw [show 8 = 4 + 4 from rfl, ← List.drop_drop, hdrop, List.drop_left' hlength]
  unfold readFrame
  rw [if_neg (by omega), hdrop, List.take_left' hlength, hdigits.parseInt]
  dsimp only
  rw [if_neg (by omega), ← List.drop_drop, hdrop', List.take_left, List.drop_left]

/-- Nothing is read before. -/
theorem readFrame_of_incomplete {status digits data p : Bytes} (hstatus : status.length = 4)
    (hdigits : HexLength digits data.length) (hp : p <+: status ++ (digits ++ data))
    (hne : p ≠ status ++ (digits ++ data)) : readFrame p = none := by
  obtain ⟨rest, hrest⟩ := hp
  have hlength := hdigits.length
  have hall : p.length + rest.length = 8 + data.length := by
    rw [← List.length_append, hrest]
    simp only [List.length_append]
    omega
  have hpos : 0 < rest.length := List.length_pos_iff.2 fun hnil => hne (by rw [← hrest, hnil,
    List.append_nil])
  unfold readFrame
  by_cases hshort : p.length < 8
  · rw [if_pos hshort]
  · have htake : (p.drop 4).take 4 = digits := by
      have hwhole : ((p ++ rest).drop 4).take 4 = digits := by
        rw [hrest, List.drop_left' hstatus, List.take_left' hlength]
      rwa [List.drop_append_of_le_length (by omega),
        List.take_append_of_le_length (by rw [List.length_drop]; omega)] at hwhole
    rw [if_neg hshort, htake, hdigits.parseInt]
    exact if_pos (by omega)

theorem take_of_incomplete {status rest p : Bytes} (hstatus : status.length = 4)
    (hp : p <+: status ++ rest) (hlong : ¬p.length < 4) : p.take 4 = status := by
  obtain ⟨q, hq⟩ := hp
  have htake : (p ++ q).take 4 = status := by
    rw [hq]
    exact List.take_left' hstatus
  rwa [List.take_append_of_le_length (by omega)] at htake

/-! ### Replies -/

/-- The well-formed replies to a request, with the answers that they give. -/
inductive ADBReply : RequestKind → ADBAnswer → Bytes → Prop
  | data {digits data : Bytes} : HexLength digits data.length →
      ADBReply .host (.okay data) (OKAY ++ (digits ++ data))
  | okay : ADBReply .transport (.okay []) OKAY
  | fail {kind : RequestKind} {digits message : Bytes} : HexLength digits message.length →
      ADBReply kind (.fail message) (FAIL ++ (digits ++ message))

theorem take_status {status : Bytes} (hstatus : status.length = 4) (bytes rest : Bytes) :
    (status ++ bytes ++ rest).take 4 = status := by
  rw [List.append_assoc]
  exact List.take_left' hstatus

/-- **A reply** is read, with what comes after it. -/
theorem readResponse_reply {kind : RequestKind} {answer : ADBAnswer} {reply : Bytes}
    (h : ADBReply kind answer reply) (rest : Bytes) :
    readResponse kind (reply ++ rest) = .ofAnswer kind rest answer := by
  unfold readResponse
  cases h with
  | data hdigits =>
    rw [if_neg (by simp [OKAY]), take_status rfl, if_neg (by decide), if_pos rfl,
      readFrame_reply rfl hdigits]
    rfl
  | okay => rfl
  | fail hdigits =>
    rw [if_neg (by simp [FAIL]), take_status rfl, if_pos rfl, readFrame_reply rfl hdigits]
    cases kind <;> rfl

/-- **A part of a reply** is not read. -/
theorem readResponse_of_incomplete {kind : RequestKind} {answer : ADBAnswer} {reply p : Bytes}
    (h : ADBReply kind answer reply) (hp : p <+: reply) (hne : p ≠ reply) :
    readResponse kind p = .more := by
  by_cases hshort : p.length < 4
  · exact readResponse_of_length_lt hshort
  unfold readResponse
  rw [if_neg hshort]
  cases h with
  | data hdigits =>
    rw [take_of_incomplete rfl hp hshort, if_neg (by decide), if_pos rfl,
      readFrame_of_incomplete rfl hdigits hp hne]
    rfl
  | okay => exact absurd (hp.eq_of_length_le (Nat.le_of_not_lt hshort)) hne
  | fail hdigits =>
    rw [take_of_incomplete rfl hp hshort, if_pos rfl, readFrame_of_incomplete rfl hdigits hp hne]
    rfl

/-- The bytes of an answer are a reply, unless they are a stream. -/
theorem ADBReply.framed {kind : RequestKind} {message : Bytes} (h : message.length < 65536) :
    ADBReply kind (.fail message) (ADBAnswer.framed FAIL message) := by
  rw [ADBAnswer.framed, List.append_assoc]
  exact .fail (.hexLength h)

theorem ADBReply.framed_data {data : Bytes} (h : data.length < 65536) :
    ADBReply .host (.okay data) (ADBAnswer.framed OKAY data) := by
  rw [ADBAnswer.framed, List.append_assoc]
  exact .data (.hexLength h)

theorem ADBReply.readResponse {kind : RequestKind} {answer : ADBAnswer} {reply p : Bytes}
    (h : ADBReply kind answer reply) (hp : p <+: reply) :
    readResponse kind p = if p = reply then .ofAnswer kind [] answer else .more := by
  by_cases hwhole : p = reply
  · rw [if_pos hwhole, hwhole]
    simpa using readResponse_reply h []
  · rw [if_neg hwhole, readResponse_of_incomplete h hp hwhole]

/-- **A failure** is read when its message has come. -/
theorem readResponse_fail {kind : RequestKind} {message p : Bytes}
    (hmessage : message.length < 65536) (hp : p <+: ADBAnswer.framed FAIL message) :
    readResponse kind p = if p = ADBAnswer.framed FAIL message then .fail message [] else .more :=
  (ADBReply.framed hmessage).readResponse hp

/-- **Data with a length** is read when it has come. -/
theorem readResponse_host {data p : Bytes} (hdata : data.length < 65536)
    (hp : p <+: ADBAnswer.framed OKAY data) : readResponse .host p =
      if p = ADBAnswer.framed OKAY data then .data data [] else .more :=
  (ADBReply.framed_data hdata).readResponse hp

/-- **A mere status** is read when it has come. -/
theorem readResponse_transport {p : Bytes} (hp : p <+: OKAY) : readResponse .transport p =
    if p = OKAY then .okay [] else .more :=
  ADBReply.okay.readResponse hp

/-- **A raw stream** begins when the status has come. -/
theorem readResponse_stream {data p : Bytes} (hp : p <+: OKAY ++ data) : readResponse .device p =
    if p.length < 4 then .more else .stream (p.drop 4) := by
  by_cases hshort : p.length < 4
  · rw [readResponse_of_length_lt hshort, if_pos hshort]
  · unfold readResponse
    rw [if_neg hshort, take_of_incomplete rfl hp hshort, if_neg (by decide), if_pos rfl, if_neg hshort]

end DeviceHub
