import DeviceHub.Async.Lts

/-!
# `services/core/transaction-service/transaction-service.ts`

A transaction of the user interface.  An answer and an abort settle the promise before or after the
cleanup; the timeout only cleans up.

## Main definitions

* `TransactionService` : a service whose transaction was initialized.
* `TransactionService.Event`, `TransactionService.next` : what the socket, the caller and the timer do.
* `Transacted` : a transaction in the course of time.
* `Transacted.Settles` : what is expected of the promise.
* `Transacted.Answered` : the condition on the steps.

## Main results

* `TransactionService.Paired` : the listeners and the timer go together.
* `Transacted.settles_iff` : the runs with a promise that settles are the ones whose steps meet the
  condition.
-/

namespace DeviceHub

/-- The message that ends a transaction. -/
structure TransactionDoneListenerMessage where
  success : Bool
  body : Option String
  data : Option String
  source : String
  deriving DecidableEq

/-- The message that tells how far a transaction is. -/
structure TransactionProgressListenerMessage where
  progress : Rat
  data : String
  seq : Nat
  deriving DecidableEq

/-- `body && JSON.parse(body)`, with the type `J` of what is parsed. -/
inductive TransactionContent (J : Type) where
  | falsy (body : Option String)
  | parsed (value : J)
  deriving DecidableEq

/-- How the promise was settled; an error has its message and its cause. -/
inductive TransactionOutcome (J : Type) where
  | resolve (source : String) (data : Option String) (content : TransactionContent J)
  | reject (message : String) (cause : Option String)
  deriving DecidableEq

/-- The functions that subscribe to the progress have numbers. -/
structure TransactionService (J : Type) where
  channel : String
  /-- The listeners for `tx.done` and `tx.progress` are registered. -/
  doneListener : Bool
  progressListener : Bool
  /-- The timer is set. -/
  timeoutId : Bool
  aborted : Bool
  donePromise : Option (TransactionOutcome J)
  progressFn : Option Nat
  /-- The calls of these functions. -/
  progressed : List (Nat × TransactionProgressListenerMessage)
  /-- The channels of the `tx.cleanup` events. -/
  emitted : List String
  deriving DecidableEq

namespace TransactionService

variable {J : Type}

/-- The service when `initializeTransaction` returns. -/
def initializeTransaction (channel : String) : TransactionService J where
  channel
  doneListener := true
  progressListener := true
  timeoutId := true
  aborted := false
  donePromise := none
  progressFn := none
  progressed := []
  emitted := []

/-- `cleanUpTransaction` -/
def cleanUpTransaction (service : TransactionService J) : TransactionService J :=
  { service with
    progressFn := none
    timeoutId := false
    doneListener := false
    progressListener := false
    emitted := service.emitted ++ [service.channel] }

/-- `resolve` and `reject`; a promise is settled once. -/
def settle (service : TransactionService J) (outcome : TransactionOutcome J) :
    TransactionService J :=
  { service with donePromise := service.donePromise.or (some outcome) }

/-- `transactionProgressListener` -/
def transactionProgressListener (service : TransactionService J) (incomingChannel : String)
    (message : TransactionProgressListenerMessage) : TransactionService J :=
  if incomingChannel ≠ service.channel then service
  else { service with
    progressed := service.progressed ++ service.progressFn.toList.map fun fn => (fn, message) }

variable (parse : String → Option J)

/-- `none` when `JSON.parse` throws. -/
def contentOf (body : Option String) : Option (TransactionContent J) :=
  match body with
  | none | some "" => some (.falsy body)
  | some text => (parse text).map .parsed

/-- What a message settles the promise with. -/
def outcomeOf (message : TransactionDoneListenerMessage) : Option (TransactionOutcome J) :=
  if message.success then (contentOf parse message.body).map (.resolve message.source message.data)
  else some (.reject "Failed to complete transaction" message.data)

/-- An exception leaves the listener before the promise is settled. -/
def transactionDoneListener (service : TransactionService J) (incomingChannel : String)
    (message : TransactionDoneListenerMessage) : TransactionService J :=
  if incomingChannel ≠ service.channel then service
  else
    match outcomeOf parse message with
    | some outcome => (service.settle outcome).cleanUpTransaction
    | none => service

/-- The listener of the signal is called once. -/
def abort (service : TransactionService J) (reason : Option String) : TransactionService J :=
  if service.aborted then service
  else
    ({ service with aborted := true }).cleanUpTransaction.settle (.reject "Transaction aborted" reason)

/-! ### Events -/

/-- A message is one that the socket receives. -/
inductive Event where
  | done (incomingChannel : String) (message : TransactionDoneListenerMessage)
  | progress (incomingChannel : String) (message : TransactionProgressListenerMessage)
  | abort (reason : Option String)
  | timeout
  | subscribe (progressFn : Nat)
  | unsubscribe
  deriving DecidableEq

/-- The event is the arrival of a message. -/
def Event.isMessage : Event → Bool
  | .done _ _ | .progress _ _ => true
  | _ => false

/-- What an event does. -/
def next (service : TransactionService J) : Event → Option (TransactionService J)
  | .done incomingChannel message =>
    some (if service.doneListener then service.transactionDoneListener parse incomingChannel message
      else service)
  | .progress incomingChannel message =>
    some (if service.progressListener then
      service.transactionProgressListener incomingChannel message else service)
  | .abort reason => some (service.abort reason)
  | .timeout => if service.timeoutId then some service.cleanUpTransaction else none
  | .subscribe progressFn => some { service with progressFn := some progressFn }
  | .unsubscribe => some { service with progressFn := none }

/-- The events that end a transaction. -/
def ends (service : TransactionService J) : Event → Bool
  | .done incomingChannel _ => incomingChannel = service.channel
  | .abort _ | .timeout => true
  | _ => false

/-- What the events settle the promise with. -/
def expected : Event → Option (TransactionOutcome J)
  | .done _ message => outcomeOf parse message
  | .abort reason => some (.reject "Transaction aborted" reason)
  | _ => none

/-! ### Listeners -/

/-- The listeners and the timer go together, and while they are there the promise is pending. -/
structure Paired (service : TransactionService J) : Prop where
  progressListener : service.progressListener = service.doneListener
  timeoutId : service.timeoutId = service.doneListener
  aborted : service.doneListener = true → service.aborted = false
  pending : service.doneListener = true → service.donePromise = none

theorem paired_initializeTransaction (channel : String) :
    (initializeTransaction channel : TransactionService J).Paired :=
  ⟨rfl, rfl, fun _ => rfl, fun _ => rfl⟩

variable {parse} {service service' : TransactionService J} {event : Event}

theorem paired_cleanUpTransaction (service : TransactionService J) :
    service.cleanUpTransaction.Paired :=
  ⟨rfl, rfl, nofun, nofun⟩

theorem Paired.next (h : service.Paired) (hnext : service.next parse event = some service') :
    service'.Paired := by
  cases event with
  | done incomingChannel message =>
    obtain rfl := Option.some.inj hnext
    split
    · unfold transactionDoneListener
      split
      · exact h
      · split
        · exact paired_cleanUpTransaction _
        · exact h
    · exact h
  | progress incomingChannel message =>
    obtain rfl := Option.some.inj hnext
    split
    · unfold transactionProgressListener
      split
      · exact h
      · exact ⟨h.progressListener, h.timeoutId, h.aborted, h.pending⟩
    · exact h
  | abort reason =>
    obtain rfl := Option.some.inj hnext
    unfold abort
    split
    · exact h
    · exact ⟨rfl, rfl, nofun, nofun⟩
  | timeout =>
    obtain ⟨-, hnext⟩ := Option.ite_none_right_eq_some.1 hnext
    obtain rfl := Option.some.inj hnext
    exact paired_cleanUpTransaction service
  | subscribe progressFn | unsubscribe =>
    obtain rfl := Option.some.inj hnext
    exact ⟨h.progressListener, h.timeoutId, h.aborted, h.pending⟩

theorem frame_of_progress {incomingChannel : String} {message : TransactionProgressListenerMessage}
    (hnext : service.next parse (.progress incomingChannel message) = some service') :
    service'.donePromise = service.donePromise ∧ service'.doneListener = service.doneListener := by
  obtain rfl := Option.some.inj hnext
  unfold transactionProgressListener
  split
  · split <;> exact ⟨rfl, rfl⟩
  · exact ⟨rfl, rfl⟩

/-- An event that ends an open transaction settles the promise with what is expected, and another one
does not; the listeners stay with the latter only, and with an exception. -/
theorem next_of_open (h : service.Paired) (hopen : service.doneListener = true)
    (hnext : service.next parse event = some service') :
    service'.donePromise = (if service.ends event then expected parse event else none) ∧
      (service'.doneListener = true ↔
        service.ends event = false ∨ event ≠ .timeout ∧ expected parse event = none) := by
  have hpending := h.pending hopen
  cases event with
  | done incomingChannel message =>
    simp only [TransactionService.next, hopen, if_true, Option.some.injEq] at hnext
    by_cases hown : incomingChannel = service.channel
    · cases houtcome : outcomeOf parse message <;>
        simp [transactionDoneListener, hown, houtcome, settle, cleanUpTransaction, hpending] at hnext <;>
        simp [ends, expected, hown, houtcome, ← hnext, hopen, hpending]
    · simp [transactionDoneListener, hown] at hnext
      simp [ends, hown, ← hnext, hopen, hpending]
  | progress incomingChannel message =>
    obtain ⟨hpromise, hlistener⟩ := frame_of_progress hnext
    simp [ends, hpromise, hlistener, hpending, hopen]
  | abort reason =>
    simp only [TransactionService.next, abort, h.aborted hopen, Option.some.injEq] at hnext
    simp [← hnext, settle, cleanUpTransaction, ends, expected, hpending]
  | timeout =>
    simp only [TransactionService.next, h.timeoutId, hopen, if_true, Option.some.injEq] at hnext
    simp [← hnext, cleanUpTransaction, ends, expected, hpending]
  | subscribe progressFn | unsubscribe =>
    obtain rfl := Option.some.inj hnext
    simp [ends, hpending, hopen]

theorem next_message_of_closed (h : service.Paired) (hclosed : service.doneListener = false)
    (hmessage : event.isMessage = true) : service.next parse event = some service := by
  cases event with
  | done incomingChannel message => simp [TransactionService.next, hclosed]
  | progress incomingChannel message => simp [TransactionService.next, h.progressListener, hclosed]
  | abort _ | timeout | subscribe _ | unsubscribe => simp [Event.isMessage] at hmessage

/-- A promise is settled once. -/
theorem next_of_settled {outcome : TransactionOutcome J} (h : service.donePromise = some outcome)
    (hnext : service.next parse event = some service') : service'.donePromise = some outcome := by
  cases event with
  | done incomingChannel message =>
    obtain rfl := Option.some.inj hnext
    split
    · unfold transactionDoneListener
      split
      · exact h
      · split
        · simp [settle, cleanUpTransaction, h]
        · exact h
    · exact h
  | progress incomingChannel message => exact (frame_of_progress hnext).1.trans h
  | abort reason =>
    obtain rfl := Option.some.inj hnext
    unfold abort
    split
    · exact h
    · simp [settle, cleanUpTransaction, h]
  | timeout =>
    obtain ⟨-, hnext⟩ := Option.ite_none_right_eq_some.1 hnext
    obtain rfl := Option.some.inj hnext
    exact h
  | subscribe progressFn | unsubscribe =>
    obtain rfl := Option.some.inj hnext
    exact h

end TransactionService

/-- The first event that has ended the transaction, and the one that has settled the promise. -/
structure Transacted (J : Type) where
  service : TransactionService J
  first : Option TransactionService.Event
  settledBy : Option TransactionService.Event
  deriving DecidableEq

namespace Transacted

open TransactionService (Event)

variable {J : Type} (parse : String → Option J)

/-- A transaction that has just begun. -/
def initial (channel : String) : Transacted J := ⟨.initializeTransaction channel, none, none⟩

/-- What an event does, and whether it settles the transaction. -/
def next (s : Transacted J) (event : Event) : Option (Transacted J) :=
  (s.service.next parse event).map fun service =>
    { service
      first := s.first.or (if s.service.ends event then some event else none)
      settledBy := s.settledBy.or (if service.donePromise.isSome then some event else none) }

/-- Messages, calls and the timer, in any order. -/
def system : Lts (Transacted J) Event := .ofNext (next parse)

/-- **The promise settles**: when the listeners are removed it is settled, by the first event that
ends the transaction, with what is expected, and nothing changes it; later messages change nothing
at all. -/
structure Settles (s : Transacted J) : Prop where
  removed : s.service.doneListener = false ∨ s.service.progressListener = false →
    s.service.donePromise.isSome
  first : s.settledBy = s.first
  outcome : ∀ event ∈ s.settledBy, ∀ outcome ∈ TransactionService.expected parse event,
    s.service.donePromise = some outcome
  once : ∀ outcome ∈ s.service.donePromise, ∀ event service,
    s.service.next parse event = some service → service.donePromise = some outcome
  later : s.service.donePromise.isSome → ∀ event, event.isMessage →
    s.service.next parse event = some s.service

/-- The condition on a step: an open transaction does not expire, and an answer to it can be read. -/
def Answered (s : Transacted J) : Event → Prop
  | .timeout => False
  | .done incomingChannel message =>
    s.service.doneListener = true → incomingChannel = s.service.channel →
      (TransactionService.outcomeOf parse message).isSome
  | _ => True

variable {parse} {s s' : Transacted J} {event : Event}

/-- What holds in every state. -/
structure Sound (s : Transacted J) : Prop where
  paired : s.service.Paired
  settledBy : s.settledBy.isSome = s.service.donePromise.isSome

theorem sound_initial (channel : String) : (initial channel : Transacted J).Sound :=
  ⟨TransactionService.paired_initializeTransaction channel, rfl⟩

theorem Sound.next (h : s.Sound) (hnext : s.next parse event = some s') : s'.Sound := by
  obtain ⟨service, hservice, rfl⟩ := Option.map_eq_some_iff.1 hnext
  refine ⟨h.paired.next hservice, ?_⟩
  cases hpromise : s.service.donePromise with
  | none =>
    have hsettledBy : s.settledBy = none := by simpa [hpromise] using h.settledBy
    cases service.donePromise <;> simp [hsettledBy]
  | some outcome =>
    simp [TransactionService.next_of_settled hpromise hservice]

theorem answered_iff (h : s.Sound) (hnext : s.next parse event = some s') :
    Answered parse s event ↔ (s.service.doneListener = true → s.service.ends event = true →
      (TransactionService.expected parse event).isSome) := by
  obtain ⟨service, hservice, -⟩ := Option.map_eq_some_iff.1 hnext
  cases event with
  | done incomingChannel message =>
    simp [Answered, TransactionService.ends, TransactionService.expected]
  | timeout =>
    obtain ⟨harmed, -⟩ := Option.ite_none_right_eq_some.1 hservice
    rw [h.paired.timeoutId] at harmed
    simp [Answered, TransactionService.ends, TransactionService.expected, harmed]
  | progress _ _ | abort _ | subscribe _ | unsubscribe =>
    simp [Answered, TransactionService.ends, TransactionService.expected]

/-- A settled promise stays so in every state. -/
theorem Sound.settles (h : s.Sound)
    (hremoved : s.service.doneListener = false → s.service.donePromise.isSome)
    (hfirst : s.settledBy = s.first)
    (houtcome : ∀ event ∈ s.settledBy, ∀ outcome ∈ TransactionService.expected parse event,
      s.service.donePromise = some outcome) : Settles parse s where
  removed hoff := hremoved (hoff.elim id fun hoff => h.paired.progressListener ▸ hoff)
  first := hfirst
  outcome := houtcome
  once outcome hsettled event service hservice :=
    TransactionService.next_of_settled hsettled hservice
  later hsettled event hmessage := by
    refine TransactionService.next_message_of_closed h.paired ?_ hmessage
    cases hlistener : s.service.doneListener with
    | false => rfl
    | true =>
      rw [h.paired.pending hlistener] at hsettled
      cases hsettled

theorem settles_initial (channel : String) : Settles parse (initial channel) :=
  (sound_initial channel).settles nofun rfl nofun

/-- **The event decides**: an open transaction is settled by what ends it, or it never is. -/
theorem settles_next_of_open (h : s.Sound) (hsettles : Settles parse s)
    (hopen : s.service.doneListener = true) (hnext : s.next parse event = some s') :
    Settles parse s' ↔
      (s.service.ends event = true → (TransactionService.expected parse event).isSome) := by
  have hsound := h.next hnext
  obtain ⟨service, hservice, rfl⟩ := Option.map_eq_some_iff.1 hnext
  obtain ⟨hpromise, hlistener⟩ := TransactionService.next_of_open h.paired hopen hservice
  have hsettledBy : s.settledBy = none := by
    simpa [h.paired.pending hopen] using h.settledBy
  have hfirst : s.first = none := hsettles.first ▸ hsettledBy
  simp only [hsettledBy, hfirst, Option.none_or] at hsound ⊢
  cases hends : s.service.ends event with
  | false =>
    rw [hends] at hsound
    have hstays : service.doneListener = true := hlistener.2 (.inl hends)
    refine iff_of_true (hsound.settles ?_ ?_ ?_) nofun
    · simp [hstays]
    · simp [hpromise, hends]
    · simp [hpromise, hends]
  | true =>
    cases hexpected : TransactionService.expected parse event with
    | some outcome =>
      rw [hends] at hsound
      refine iff_of_true (hsound.settles ?_ ?_ ?_) fun _ => rfl
      · simp [hpromise, hends, hexpected]
      · simp [hpromise, hends, hexpected]
      · simp [hpromise, hends, hexpected]
    | none =>
      refine iff_of_false (fun hsettles' => ?_) (by simp)
      have hfirst' := hsettles'.first
      simp [hpromise, hends, hexpected] at hfirst'

theorem settles_next_of_closed (h : s.Sound) (hsettles : Settles parse s)
    (hclosed : s.service.doneListener = false) (hnext : s.next parse event = some s') :
    Settles parse s' := by
  have hsound := h.next hnext
  obtain ⟨service, hservice, rfl⟩ := Option.map_eq_some_iff.1 hnext
  obtain ⟨outcome, hpromise⟩ := Option.isSome_iff_exists.1 (hsettles.removed (.inl hclosed))
  have hpromise' := TransactionService.next_of_settled hpromise hservice
  have hsome : s.settledBy.isSome := by rw [h.settledBy, hpromise]; rfl
  obtain ⟨ending, hsettledBy⟩ := Option.isSome_iff_exists.1 hsome
  have hfirst : s.first = some ending := hsettles.first ▸ hsettledBy
  simp only [hsettledBy, hfirst, Option.some_or] at hsound ⊢
  refine hsound.settles (fun _ => ?_) rfl fun event hevent outcome' houtcome => ?_
  · rw [hpromise']
    rfl
  · rw [hpromise', ← hpromise]
    exact hsettles.outcome event (hsettledBy ▸ hevent) outcome' houtcome

/-- **A transaction settles** in exactly the runs in which it does not expire while it is open, and in
which no answer to it has a body that cannot be parsed. -/
theorem settles_iff (channel : String) {s' : Transacted J} {events : List Event} :
    (system parse).Along (Settles parse) (initial channel) events s' ↔
      ((system parse).restrict (Answered parse)).Run (initial channel) events s' := by
  refine Lts.along_iff_restrict (fun s event s' h hnext => h.next hnext)
    (fun s event s' h hsettles hnext => ?_) (sound_initial channel) (settles_initial channel)
  rw [answered_iff h hnext]
  cases hlistener : s.service.doneListener with
  | true => simpa using settles_next_of_open h hsettles hlistener hnext
  | false => exact iff_of_true (settles_next_of_closed h hsettles hlistener hnext) nofun

/-- The timeout expires: the listeners are removed, and the promise stays pending. -/
theorem not_settles_of_timeout :
    ∃ s' : Transacted Nat, (system fun _ => none).Run (initial "tx.1") [.timeout] s' ∧
      s'.service.doneListener = false ∧ s'.service.donePromise = none ∧
      ¬ Settles (fun _ => none) s' := by
  refine ⟨_, .more rfl (.done _), rfl, rfl, fun h => ?_⟩
  have hsettled := h.removed (.inl rfl)
  cases hsettled

end Transacted

end DeviceHub
