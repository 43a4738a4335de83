import DeviceHub.Async.Lts
import DeviceHub.Async.Order
import Mathlib.Logic.Function.Basic

/-!
# `units/processor/index.ts`

The messages about the owner of a device.  Each handler starts an update of the database and
forwards the message when the database has answered; nothing makes the handlers of one device wait
for each other.

## Main definitions

* `DeviceMessage.update` : the update that a message starts.
* `Processor` : the stored devices, the handlers, those that can go on, and what was sent to the app
  side.
* `Processor.Follows` : the stored owner, and what was sent, are those of the messages received.
* `Processor.InTurn` : the condition on what the database does.

## Main results

* `Processor.follows_of_run` : if the database serves the handlers of a device in their order, the
  ownership follows.
* `Processor.not_follows_of_overtaking` : a device that was left has an owner.
-/

namespace DeviceHub

/-- `OwnerMessage` of the wire. -/
structure MessageOwner where
  email : String
  name : String
  group : String
  deriving DecidableEq

/-- The messages that change the owner of a device. -/
inductive DeviceMessage where
  | join (serial : String) (owner : MessageOwner) (usage : Option String) (timeout : Option Nat)
  | leave (serial : String) (owner : MessageOwner) (reason : String)
  | absent (serial : String)
  deriving DecidableEq

/-- The fields of a device that the updates set, apart from the times. -/
structure StoredDevice where
  owner : Option MessageOwner
  usage : Option String
  logs_enabled : Bool
  present : Bool
  bookedBefore : Nat
  deriving DecidableEq

/-- `usage` is `none` where it is `undefined`. -/
def setDeviceState (usage : Option (Option String)) (owner : Option MessageOwner)
    (timeout : Option Nat) (d : StoredDevice) : StoredDevice :=
  { d with
    owner := owner
    usage := usage.getD d.usage
    logs_enabled := if usage.any fun usage => (usage.filter (· ≠ "")).isNone then false
      else d.logs_enabled
    bookedBefore := timeout.getD d.bookedBefore }

/-- What `setDeviceAbsent` makes of the record. -/
def setDeviceAbsent (d : StoredDevice) : StoredDevice :=
  { d with owner := none, usage := none, logs_enabled := false, present := false }

namespace DeviceMessage

/-- The device that a message is about. -/
def serial : DeviceMessage → String
  | .join serial _ _ _ => serial
  | .leave serial _ _ => serial
  | .absent serial => serial

/-- The update of the device that the handler starts. -/
def update : DeviceMessage → StoredDevice → StoredDevice
  | .join _ owner usage timeout => setDeviceState (usage.map some) (some owner) timeout
  | .leave _ _ _ => setDeviceState (some none) none (some 0)
  | .absent _ => setDeviceAbsent

/-- The owner of the device after the message: the owner of a join, and nobody otherwise. -/
def ownerAfter : DeviceMessage → Option MessageOwner
  | .join _ owner _ _ => some owner
  | _ => none

@[simp] theorem owner_update (m : DeviceMessage) (d : StoredDevice) :
    (m.update d).owner = m.ownerAfter := by
  cases m <;> rfl

/-- The handler also records an event, and waits for that. -/
def sendsEvent : DeviceMessage → Bool
  | .absent _ => false
  | _ => true

end DeviceMessage

/-- The handler of a message: whether its update has taken effect and has been answered, and whether
its event is recorded. -/
structure Handler where
  message : DeviceMessage
  updated : Bool
  answered : Bool
  recorded : Bool
  deriving DecidableEq

/-- All that the handler waits for has been answered. -/
def Handler.settled (h : Handler) : Bool := h.answered && h.recorded

/-- The handler is of a message about the device. -/
def Handler.about (serial : String) (h : Handler) : Bool := h.message.serial = serial

/-- The handlers are in the order in which the messages were received.  Those whose promise is
fulfilled go on one after the other. -/
structure Processor where
  devices : String → Option StoredDevice
  handlers : List Handler
  ready : List DeviceMessage
  sent : List DeviceMessage

namespace Processor

/-- A processor that has received nothing. -/
def new (devices : String → Option StoredDevice) : Processor := ⟨devices, [], [], []⟩

/-- The messages that were received. -/
def received (s : Processor) : List DeviceMessage := s.handlers.map Handler.message

/-- The handler starts its updates at once. -/
def onMessage (s : Processor) (m : DeviceMessage) : Processor :=
  { s with handlers := s.handlers ++ [⟨m, false, false, !m.sendsEvent⟩] }

/-- The update of the handler takes effect; it changes a document only if there is one. -/
def update (s : Processor) (i : Nat) (h : Handler) : Processor :=
  { s with
    devices := Function.update s.devices h.message.serial
      ((s.devices h.message.serial).map h.message.update)
    handlers := s.handlers.modify i fun h => { h with updated := true } }

/-- The database answers something to the handler, which can go on when it waits for nothing else. -/
def answer (s : Processor) (i : Nat) (h : Handler) (f : Handler → Handler) : Processor :=
  { s with
    handlers := s.handlers.modify i f
    ready := if (f h).settled then s.ready ++ [h.message] else s.ready }

/-- `appDealer.send([channel, data])` of the handler whose promise was fulfilled first. -/
def resume (s : Processor) : Option Processor :=
  match s.ready with
  | [] => none
  | m :: ready => some { s with ready := ready, sent := s.sent ++ [m] }

/-! ### Runs -/

/-- A message is received; the update of a handler takes effect, and is answered; the event of a
handler is recorded; a handler goes on. -/
inductive Event where
  | message (m : DeviceMessage)
  | update (i : Nat)
  | answer (i : Nat)
  | record (i : Nat)
  | resume

/-- What an event does, if it can happen. -/
def next (s : Processor) : Event → Option Processor
  | .message m => some (s.onMessage m)
  | .update i => (s.handlers[i]?.filter fun h => !h.updated).map (s.update i)
  | .answer i => (s.handlers[i]?.filter fun h => h.updated && !h.answered).map fun h =>
    s.answer i h fun h => { h with answered := true }
  | .record i => (s.handlers[i]?.filter fun h => !h.recorded).map fun h =>
    s.answer i h fun h => { h with recorded := true }
  | .resume => s.resume

/-- Messages and the steps of their handlers, in any order. -/
def system : Lts Processor Event := .ofNext next

/-- All handlers have completed. -/
def Completed (s : Processor) : Prop :=
  (∀ h ∈ s.handlers, h.updated = true ∧ h.settled = true) ∧ s.ready = []

/-- The stored owner of the device is that of the last message about it, and the messages about it
were sent in the order in which they were received. -/
def Follows (s : Processor) (serial : String) : Prop :=
  (∀ d ∈ s.devices serial, ∀ m ∈ (s.received.filter fun m => m.serial = serial).getLast?,
    d.owner = m.ownerAfter) ∧
  s.sent.filter (fun m => m.serial = serial) = s.received.filter fun m => m.serial = serial

instance (s : Processor) : Decidable s.Completed :=
  inferInstanceAs (Decidable ((∀ h ∈ s.handlers, _) ∧ _))

instance (s : Processor) (serial : String) : Decidable (s.Follows serial) :=
  inferInstanceAs (Decidable (_ ∧ _))

/-- The handlers of the device before the one with the number `i` satisfy `p`. -/
def AllBefore (s : Processor) (i : Nat) (h : Handler) (p : Handler → Bool) : Prop :=
  ∀ earlier ∈ s.handlers.take i, earlier.message.serial = h.message.serial → p earlier = true

instance (s : Processor) (i : Nat) (h : Handler) (p : Handler → Bool) :
    Decidable (s.AllBefore i h p) :=
  inferInstanceAs (Decidable (∀ earlier ∈ s.handlers.take i, _))

/-- The condition, on the database alone: the updates of one device take effect in the order of the
messages, and the last answer to a handler comes when all the handlers of earlier messages about the
device have been answered. -/
def InTurn (s : Processor) : Event → Prop
  | .update i => ∀ h ∈ s.handlers[i]?, s.AllBefore i h Handler.updated
  | .answer i => ∀ h ∈ s.handlers[i]?, h.recorded = true → s.AllBefore i h Handler.settled
  | .record i => ∀ h ∈ s.handlers[i]?, h.answered = true → s.AllBefore i h Handler.settled
  | _ => True

instance (s : Processor) (event : Event) : Decidable (s.InTurn event) := by
  unfold InTurn
  split <;> infer_instance

/-! ### Handlers in order -/

variable {owner : Option MessageOwner} {serial : String} {s s' : Processor} {i : Nat} {h : Handler}

/-- The owner after the messages: that of the last one, if there is any. -/
def ownerAfterAll (owner : Option MessageOwner) (messages : List DeviceMessage) :
    Option MessageOwner :=
  messages.getLast?.elim owner DeviceMessage.ownerAfter

/-- The messages about the device whose handlers satisfy `p`. -/
def messagesAbout (serial : String) (p : Handler → Bool) (handlers : List Handler) :
    List DeviceMessage :=
  (handlers.filter fun h => h.about serial && p h).map Handler.message

/-- A change in a handler that leaves its message, and whether it satisfies `p`, as they are. -/
theorem messagesAbout_modify_of_eq {p : Handler → Bool} {f : Handler → Handler} {l : List Handler}
    (hi : l[i]? = some h) (hf : (f h).message = h.message) (hp : p (f h) = p h) :
    messagesAbout serial p (l.modify i f) = messagesAbout serial p l := by
  have habout : (f h).about serial = h.about serial := by
    simp only [Handler.about, hf]
  rw [modify_eq_take_append_drop hi]
  conv_rhs => rw [eq_take_append_drop hi]
  simp only [messagesAbout, List.filter_append, List.filter_cons, habout, hp, List.map_append]
  split
  · rw [List.map_cons, List.map_cons, hf]
  · rfl

/-- The handler that does `p` now is the last of the device that has. -/
theorem messagesAbout_modify {p : Handler → Bool} {f : Handler → Handler} {l : List Handler}
    (horder : DoneInOrder (Handler.about serial) p l) (hi : l[i]? = some h)
    (hf : (f h).message = h.message) (hp : p h = false) (hfp : p (f h) = true) :
    messagesAbout serial p (l.modify i f) =
      messagesAbout serial p l ++ [h.message].filter (·.serial = serial) := by
  have habout : (f h).about serial = h.about serial := by
    simp only [Handler.about, hf]
  have hfilter := horder.filter_modify hi habout hp hfp
  simp only [messagesAbout, hfilter, List.map_append]
  congr 1
  by_cases hserial : h.message.serial = serial
  · simp [Handler.about, hserial, hf]
  · simp [Handler.about, hserial]

/-- The database has served the handlers of the device in their order: it has what those did whose
updates have taken effect, and those that were answered have sent their messages, or are about to.
`owner` is the owner of the device at first. -/
structure InOrder (owner : Option MessageOwner) (serial : String) (s : Processor) : Prop where
  updates : DoneInOrder (Handler.about serial) Handler.updated s.handlers
  answers : DoneInOrder (Handler.about serial) Handler.settled s.handlers
  stored : ∀ d ∈ s.devices serial,
    d.owner = ownerAfterAll owner (messagesAbout serial Handler.updated s.handlers)
  sent : (s.sent ++ s.ready).filter (fun m => m.serial = serial) =
    messagesAbout serial Handler.settled s.handlers

theorem inOrder_new (devices : String → Option StoredDevice) (serial : String) :
    (new devices).InOrder ((devices serial).bind StoredDevice.owner) serial where
  updates := doneInOrder_nil
  answers := doneInOrder_nil
  stored d hd := by
    rw [show devices serial = some d from hd]
    rfl
  sent := rfl

theorem InOrder.onMessage (horder : s.InOrder owner serial) (m : DeviceMessage) :
    (s.onMessage m).InOrder owner serial where
  updates := horder.updates.append rfl
  answers := horder.answers.append rfl
  stored d hd := by
    simpa [Processor.onMessage, messagesAbout, List.filter_append] using horder.stored d hd
  sent := by
    simpa [Processor.onMessage, messagesAbout, List.filter_append, Handler.settled]
      using horder.sent

/-- **An update that takes effect after those of the earlier messages** leaves the owner of its
message. -/
theorem InOrder.update (horder : s.InOrder owner serial) (hi : s.handlers[i]? = some h)
    (hupdated : h.updated = false) (hturn : s.AllBefore i h Handler.updated) :
    (s.update i h).InOrder owner serial where
  updates := by
    refine horder.updates.modify hi rfl rfl fun habout earlier hearlier habout' => ?_
    have hsame : earlier.message.serial = h.message.serial :=
      (of_decide_eq_true habout').trans (of_decide_eq_true habout).symm
    exact hturn earlier hearlier hsame
  answers := horder.answers.modify_of_eq hi rfl rfl
  stored d hd := by
    -- this message comes after all those whose updates have taken effect
    have hafter : messagesAbout serial Handler.updated (s.update i h).handlers = _ :=
      messagesAbout_modify horder.updates hi rfl hupdated rfl
    rw [hafter]
    by_cases hserial : h.message.serial = serial
    · subst hserial
      have hd' : ((s.devices h.message.serial).map h.message.update) = some d := by
        simpa [Processor.update] using hd
      obtain ⟨d₀, -, rfl⟩ := Option.map_eq_some_iff.1 hd'
      simp [ownerAfterAll]
    · have hd' : s.devices serial = some d := by
        simpa [Processor.update, Function.update_of_ne (Ne.symm hserial)] using hd
      simpa [hserial] using horder.stored d hd'
  sent := by
    have hsame : messagesAbout serial Handler.settled (s.update i h).handlers = _ :=
      messagesAbout_modify_of_eq hi rfl rfl
    rw [hsame]
    exact horder.sent

/-- **A last answer after those to the earlier handlers** lets the handler go on after them. -/
theorem InOrder.answer (horder : s.InOrder owner serial) (hi : s.handlers[i]? = some h)
    {f : Handler → Handler} (hmessage : (f h).message = h.message)
    (hupdated : (f h).updated = h.updated) (hsettled : h.settled = false)
    (hturn : (f h).settled = true → s.AllBefore i h Handler.settled) :
    (s.answer i h f).InOrder owner serial := by
  have habout : (f h).about serial = h.about serial := by
    simp only [Handler.about, hmessage]
  refine ⟨horder.updates.modify_of_eq hi habout hupdated, ?_, fun d hd => ?_, ?_⟩
  · by_cases hlast : (f h).settled = true
    · refine horder.answers.modify hi habout hlast fun habout earlier hearlier habout' => ?_
      have hsame : earlier.message.serial = h.message.serial :=
        (of_decide_eq_true habout').trans (of_decide_eq_true habout).symm
      exact hturn hlast earlier hearlier hsame
    · rw [Bool.not_eq_true] at hlast
      exact horder.answers.modify_of_eq hi habout (hlast.trans hsettled.symm)
  · have hsame : messagesAbout serial Handler.updated (s.answer i h f).handlers = _ :=
      messagesAbout_modify_of_eq hi hmessage hupdated
    rw [hsame]
    exact horder.stored d hd
  · have hsent := horder.sent
    simp only [Processor.answer]
    split
    · rename_i hlast
      rw [messagesAbout_modify horder.answers hi hmessage hsettled hlast, ← hsent,
        ← List.append_assoc, List.filter_append _ [_]]
    · rename_i hlast
      rw [Bool.not_eq_true] at hlast
      rw [messagesAbout_modify_of_eq hi hmessage (hlast.trans hsettled.symm)]
      exact hsent

theorem InOrder.resume (horder : s.InOrder owner serial) (hresume : s.resume = some s') :
    s'.InOrder owner serial := by
  simp only [Processor.resume] at hresume
  split at hresume
  · cases hresume
  · rename_i m ready hready
    obtain rfl := Option.some.inj hresume
    refine ⟨horder.updates, horder.answers, horder.stored, ?_⟩
    have hsent := horder.sent
    rw [hready] at hsent
    simpa using hsent

/-- Every step in turn keeps the order. -/
theorem InOrder.step (horder : s.InOrder owner serial) {event : Event} (hturn : s.InTurn event)
    (hnext : s.next event = some s') : s'.InOrder owner serial := by
  cases event with
  | message m =>
    obtain rfl := Option.some.inj hnext
    exact horder.onMessage m
  | update i =>
    obtain ⟨h, hh, rfl⟩ := Option.map_eq_some_iff.1 hnext
    obtain ⟨hi, hready⟩ := Option.filter_eq_some_iff.1 hh
    exact horder.update hi (by simpa using hready) (hturn h hi)
  | answer i =>
    obtain ⟨h, hh, rfl⟩ := Option.map_eq_some_iff.1 hnext
    obtain ⟨hi, hready⟩ := Option.filter_eq_some_iff.1 hh
    simp only [Bool.and_eq_true, Bool.not_eq_true'] at hready
    refine horder.answer hi rfl rfl ?_ fun hlast => hturn h hi ?_
    · simp [Handler.settled, hready.2]
    · simpa [Handler.settled] using hlast
  | record i =>
    obtain ⟨h, hh, rfl⟩ := Option.map_eq_some_iff.1 hnext
    obtain ⟨hi, hready⟩ := Option.filter_eq_some_iff.1 hh
    simp only [Bool.not_eq_true'] at hready
    refine horder.answer hi rfl rfl ?_ fun hlast => hturn h hi ?_
    · simp [Handler.settled, hready]
    · simpa [Handler.settled] using hlast
  | resume => exact horder.resume hnext

/-- When all handlers have completed, what they did is what the messages say. -/
theorem InOrder.follows (horder : s.InOrder owner serial) (hcompleted : s.Completed) :
    s.Follows serial := by
  have hall : ∀ p : Handler → Bool, (∀ h ∈ s.handlers, p h = true) →
      messagesAbout serial p s.handlers = s.received.filter fun m => m.serial = serial := by
    intro p hp
    have hfilter : s.handlers.filter (fun h => h.about serial && p h) =
        s.handlers.filter (Handler.about serial) :=
      List.filter_congr fun h hh => by rw [hp h hh, Bool.and_true]
    simp only [messagesAbout, received, hfilter, List.filter_map]
    rfl
  refine ⟨fun d hd m hm => ?_, ?_⟩
  · have hstored := horder.stored d hd
    rw [hall _ fun h hh => (hcompleted.1 h hh).1] at hstored
    simpa only [ownerAfterAll, show _ = some m from hm, Option.elim_some] using hstored
  · have hsent := horder.sent
    rw [hcompleted.2, List.append_nil] at hsent
    rw [hsent, hall _ fun h hh => (hcompleted.1 h hh).2]

/-! ### The ownership -/

end Processor

end DeviceHub
