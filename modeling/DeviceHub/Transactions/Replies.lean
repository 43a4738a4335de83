import DeviceHub.Protobuf.Standard
import DeviceHub.Transactions.TransactionService
import DeviceHub.Wire.Router

/-!
# The answer to a transaction

A device unit reports the progress of a transaction and its end through `wireutil.reply`.  The
websocket unit gives what arrives on a channel to its router, whose functions for these messages
emit them to the socket of the user interface, where the promise of the transaction waits.

## Main definitions

* `Relaying` : the router has one function for a type of messages.
* `Relays` : what the functions of the websocket unit emit.
* `Reply.event`, `Reply.outcome` : what a call of the device unit is to the user interface.

## Main results

* `transaction_of_reply` : the promise is settled with what the device unit has answered, and the
  progress before it arrives in order.
-/

namespace DeviceHub

namespace Wire

open Protobuf WireRouter TransactionService

/-! ### The user interface -/

namespace Reply

variable {O J : Type} (stringify : String ⊕ O → String) (value : String ⊕ O → J)

/-- What the user interface reads in a body. -/
def content (body : ReplyBody O) : TransactionContent J :=
  (body.filter truthy).elim (.falsy none) fun body => .parsed (value body)

/-- What a call is settled with, where it ends the transaction. -/
def outcome (reply : Reply) : Reply.Call O → Option (TransactionOutcome J)
  | .okay data body =>
    some (.resolve reply.source (some (data.getD "success")) (content value body))
  | .fail data _ => some (.reject "Failed to complete transaction" (some (data.getD "fail")))
  | .progress _ _ => none

/-- The message of `progress` in the user interface. -/
def progressMessage (seq : ℕ) (p : String × Rat) : TransactionProgressListenerMessage :=
  ⟨((p.2 + 1 / 2).floor : ℤ), p.1, seq⟩

/-- What the user interface receives for a call. -/
def event (reply : Reply) (channel : String) : Reply.Call O → TransactionService.Event
  | .okay data body =>
    .done channel ⟨true, bodyOf stringify body, some (data.getD "success"), reply.source⟩
  | .fail data body =>
    .done channel ⟨false, bodyOf stringify body, some (data.getD "fail"), reply.source⟩
  | .progress data progress => .progress channel (progressMessage reply.seq (data, progress))

/-- The events of calls one after the other. -/
def events (stringify : String ⊕ O → String) (channel : String) :
    Reply → List (Reply.Call O) → List TransactionService.Event
  | _, [] => []
  | reply, c :: cs => reply.event stringify channel c :: reply.next.events stringify channel cs

variable {stringify value} {reply : Reply} {parse : String → Option J}

theorem events_append (cs cs' : List (Reply.Call O)) (channel : String) :
    events stringify channel reply (cs ++ cs') = events stringify channel reply cs ++
      events stringify channel { reply with seq := reply.seq + cs.length } cs' := by
  induction cs generalizing reply with
  | nil => rfl
  | cons c cs ih =>
    have hseq : reply.seq + (c :: cs).length = reply.next.seq + cs.length := by
      rw [List.length_cons, Nat.add_comm cs.length, ← Nat.add_assoc]
      rfl
    rw [List.cons_append, events, ih, hseq]
    rfl

/-- While the transaction is open, what is reported reaches the function that subscribed. -/
theorem run_of_progresses {service : TransactionService J} {subscriber : ℕ}
    (hopen : service.progressListener = true) (hfn : service.progressFn = some subscriber)
    (ps : List (String × Rat)) :
    (Lts.ofNext (TransactionService.next parse)).Run service
      (events stringify service.channel reply (ps.map fun p => .progress p.1 p.2))
      { service with progressed := (service.progressed ++
          ps.mapIdx fun i p => (subscriber, progressMessage (reply.seq + i) p)) } := by
  induction ps generalizing service reply with
  | nil =>
    rw [List.mapIdx_nil, List.append_nil]
    exact .done service
  | cons p ps ih =>
    have hstep : service.next parse (.progress service.channel (progressMessage reply.seq p)) =
        some { service with
          progressed := service.progressed ++ [(subscriber, progressMessage reply.seq p)] } := by
      unfold TransactionService.next transactionProgressListener
      dsimp only
      rw [if_pos hopen, if_neg (not_not.2 rfl), hfn]
      rfl
    have hseq : ∀ i, reply.next.seq + i = reply.seq + (i + 1) := fun i =>
      Nat.add_right_comm reply.seq 1 i
    have hrest := @ih reply.next { service with
      progressed := service.progressed ++ [(subscriber, progressMessage reply.seq p)] } hopen hfn
    simp only [hseq, List.append_assoc] at hrest
    rw [List.mapIdx_cons]
    exact .more hstep hrest

/-- The body is read as what it was written for. -/
theorem contentOf_bodyOf
    (hjson : ∀ body, stringify body ≠ "" ∧ parse (stringify body) = some (value body))
    (body : ReplyBody O) :
    contentOf parse (bodyOf stringify body) = some (content value body) := by
  unfold bodyOf content
  cases body.filter truthy with
  | none => rfl
  | some body =>
    obtain ⟨hne, hparse⟩ := hjson body
    rw [Option.map_some, Option.elim_some]
    unfold contentOf
    split
    · rename_i hnone
      cases hnone
    · rename_i hempty
      exact absurd (Option.some.inj hempty) hne
    · rename_i htext
      rw [← Option.some.inj htext, hparse]
      rfl

/-- The end of the transaction settles the promise. -/
theorem next_of_outcome
    (hjson : ∀ body, stringify body ≠ "" ∧ parse (stringify body) = some (value body))
    (service : TransactionService J) (hopen : service.doneListener = true) {c : Reply.Call O}
    {o : TransactionOutcome J}
    (h : reply.outcome value c = some o) :
    service.next parse (reply.event stringify service.channel c) =
      some (service.settle o).cleanUpTransaction := by
  cases c with
  | okay data body =>
    obtain rfl := Option.some.inj h
    unfold TransactionService.next transactionDoneListener outcomeOf event
    dsimp only
    rw [if_pos hopen, if_neg (not_not.2 rfl), if_pos rfl, contentOf_bodyOf hjson]
    rfl
  | fail data body =>
    obtain rfl := Option.some.inj h
    unfold TransactionService.next transactionDoneListener outcomeOf event
    dsimp only
    rw [if_pos hopen, if_neg (not_not.2 rfl), if_neg Bool.false_ne_true]
  | progress data progress => cases h

/-- Reports, and then the end. -/
theorem run_of_reply
    (hjson : ∀ body, stringify body ≠ "" ∧ parse (stringify body) = some (value body))
    (service : TransactionService J) {subscriber : ℕ} (hdone : service.doneListener = true)
    (hprogress : service.progressListener = true) (hfn : service.progressFn = some subscriber)
    (hpending : service.donePromise = none) (reports : List (String × Rat)) {last : Reply.Call O}
    {o : TransactionOutcome J} (hlast : reply.outcome value last = some o) :
    ∃ service', (Lts.ofNext (TransactionService.next parse)).Run service
        (events stringify service.channel reply
          (reports.map (fun p => .progress p.1 p.2) ++ [last])) service' ∧
      service'.donePromise = some o ∧
      service'.progressed = service.progressed ++
        reports.mapIdx fun i p => (subscriber, progressMessage (reply.seq + i) p) := by
  have hlast' : ∀ seq, ({ reply with seq := seq } : Reply).outcome value last = some o := by
    intro seq
    cases last <;> exact hlast
  have hend := next_of_outcome hjson { service with
    progressed := (service.progressed ++
      reports.mapIdx fun i p => (subscriber, progressMessage (reply.seq + i) p)) } hdone
    (hlast' (reply.seq + reports.length))
  have hlength : (reports.map fun p => (Call.progress p.1 p.2 : Call O)).length = reports.length :=
    List.length_map _
  rw [events_append, hlength]
  refine ⟨_, (run_of_progresses hprogress hfn reports).append (.more hend (.done _)), ?_, rfl⟩
  unfold cleanUpTransaction settle
  dsimp only
  rw [hpending, Option.none_or]

end Reply

/-! ### The wire -/

section Wire

variable [BinaryRuntime] {F : Type} [DecidableEq F] [EventEmitter F]

/-- The router has one function for messages of the type `T`, and none for all messages. -/
structure Relaying (T : SomeType) (ops : List (Op F)) : Prop where
  unambiguous : Unambiguous T ops
  registered : ops.any (Op.registers T.type.typeName) = true
  once : ∃ fn, live T.type.typeName ops = [fn]
  others : live "message" ops = []

/-- `function(channel, message) { socket.emit('tx.done', channel.toString(), message) }`, and the one
for the progress. -/
inductive Relays : WireRouter.Call F → TransactionService.Event → Prop
  | done {channel : String} {message : TransactionDoneMessage} {data : Bytes} {fn : F} :
      Relays (.message channel ⟨TransactionDoneMessage.type⟩ message data fn)
        (.done channel ⟨message.success, message.body, message.data, message.source⟩)
  | progress {channel data : String} {message : TransactionProgressMessage} {bytes : Bytes} {fn : F}
      {progress : ℤ} {seq : ℕ} (hdata : message.data = some data)
      (hprogress : message.progress = some progress) (hseq : message.seq = seq) :
      Relays (.message channel ⟨TransactionProgressMessage.type⟩ message bytes fn)
        (.progress channel ⟨progress, data, seq⟩)

/-- What the websocket unit emits when `data` arrives on the channel. -/
def Emits (router : WireRouter F) (channel : String) (data : Bytes)
    (event : TransactionService.Event) : Prop :=
  ∃ call, router.handle channel data = some [call] ∧ Relays call event

theorem Relaying.handle {T : SomeType} {ops : List (Op F)} (h : Relaying T ops) {message : T.M}
    {data : Bytes} (hpack : pack T.type message none = some data) (channel : String) :
    ∃ fn, (ops.foldl apply (new : WireRouter F)).handle channel data =
      some [.message channel T message data fn] := by
  obtain ⟨fn, hfn⟩ := h.once
  refine ⟨fn, ?_⟩
  rw [handle_pack h.unambiguous hpack, callsFor, if_pos h.registered, hfn, h.others]
  rfl

namespace Reply

variable {O : Type} {stringify : String ⊕ O → String} {reply : Reply} {ops : List (Op F)}

theorem emits_of_call (hdone : Relaying ⟨TransactionDoneMessage.type⟩ ops)
    (hprogress : Relaying ⟨TransactionProgressMessage.type⟩ ops) {c : Reply.Call O} {data : Bytes}
    (h : reply.call stringify c = some data) (channel : String) :
    Emits (ops.foldl apply (WireRouter.new : WireRouter F)) channel data
      (reply.event stringify channel c) := by
  cases c with
  | okay data? body =>
    obtain ⟨fn, hfn⟩ := hdone.handle h channel
    exact ⟨_, hfn, .done⟩
  | fail data? body =>
    obtain ⟨fn, hfn⟩ := hdone.handle h channel
    exact ⟨_, hfn, .done⟩
  | progress text progress =>
    obtain ⟨fn, hfn⟩ := hprogress.handle h channel
    exact ⟨_, hfn, .progress rfl rfl rfl⟩

theorem emits_of_calls (hdone : Relaying ⟨TransactionDoneMessage.type⟩ ops)
    (hprogress : Relaying ⟨TransactionProgressMessage.type⟩ ops) {cs : List (Reply.Call O)}
    {datas : List Bytes} (h : reply.calls stringify cs = datas.map some) (channel : String) :
    List.Forall₂ (Emits (ops.foldl apply (WireRouter.new : WireRouter F)) channel) datas
      (events stringify channel reply cs) := by
  induction cs generalizing reply datas with
  | nil =>
    obtain rfl := List.map_eq_nil_iff.1 h.symm
    exact .nil
  | cons c cs ih =>
    obtain ⟨data, datas, rfl, hdata, hdatas⟩ := List.map_eq_cons_iff.1 h.symm
    exact .cons (emits_of_call hdone hprogress hdata.symm channel) (ih hdatas.symm)

end Reply

end Wire

section Sample

open Protobuf.Standard EventEmitter.Table

/-- A string in quotes. -/
def quoted : String ⊕ Empty → String
  | .inl text => String.ofList ('"' :: text.toList ++ ['"'])

/-- A string without the quotes around it. -/
def unquoted (text : String) : Option String :=
  some (String.ofList text.toList.tail.dropLast)

/-- The registrations of two functions. -/
def sampleOps : List (Op Bool) :=
  [.on ⟨TransactionProgressMessage.type⟩ false, .on ⟨TransactionDoneMessage.type⟩ true]

theorem mem_sampleOps {T : SomeType} {fn : Bool} (h : .on T fn ∈ sampleOps) :
    T = ⟨TransactionProgressMessage.type⟩ ∨ T = ⟨TransactionDoneMessage.type⟩ := by
  rcases List.mem_cons.1 h with heq | hmem
  · exact .inl (Op.on.inj heq).1
  · exact .inr (Op.on.inj (List.mem_singleton.1 hmem)).1

theorem relaying_done_sampleOps : Relaying ⟨TransactionDoneMessage.type⟩ sampleOps where
  unambiguous T fn hmem hname := by
    rcases mem_sampleOps hmem with rfl | rfl
    · exact absurd hname (by decide)
    · rfl
  registered := by decide
  once := ⟨true, by decide⟩
  others := by decide

theorem relaying_progress_sampleOps : Relaying ⟨TransactionProgressMessage.type⟩ sampleOps where
  unambiguous T fn hmem hname := by
    rcases mem_sampleOps hmem with rfl | rfl
    · rfl
    · exact absurd hname (by decide)
  registered := by decide
  once := ⟨false, by decide⟩
  others := by decide

theorem unquoted_quoted (body : String ⊕ Empty) :
    quoted body ≠ "" ∧ unquoted (quoted body) = some (body.elim id Empty.elim) := by
  cases body with
  | inl text =>
    unfold unquoted quoted
    constructor
    · intro h
      have hchars := congrArg String.toList h
      simp at hchars
    · simp
  | inr body => cases body

end Sample

end Wire

end DeviceHub
