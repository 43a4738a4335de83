import DeviceHub.Protobuf.Standard
import DeviceHub.Util.EventEmitter
import DeviceHub.Wire.Envelope

/-!
# `wire/router.ts`

The router of a unit calls the functions that were registered for the type of a message.  The types
that were registered are remembered for good; a message of any other type is ignored.

## Main definitions

* `WireRouter`, `WireRouter.Op`, `WireRouter.apply` : the router and its methods.
* `WireRouter.handle` : the function that `handler()` returns.
* `WireRouter.Unambiguous` : one name, one type.

## Main results

* `WireRouter.handle_pack` : a message that was packed is given to the functions that are
  registered for its type and have not been removed.
-/

namespace DeviceHub

namespace Wire

open Protobuf

section Router

variable [BinaryRuntime]

/-- A message class with the type of its messages. -/
structure SomeType where
  {M : Type}
  type : MessageType M

variable {F : Type} [DecidableEq F] [EventEmitter F]

/-- The router: its emitter, and the message types that it knows. -/
structure WireRouter (F : Type) [DecidableEq F] [EventEmitter F] where
  emitter : EventEmitter.State F
  registeredTypes : String → Option SomeType

namespace WireRouter

/-- A new router. -/
def new : WireRouter F := ⟨EventEmitter.new, fun _ => none⟩

/-- `on`, `removeListener` and `removeAllListeners`, with a message class or the name of an event. -/
inductive Op (F : Type) : Type 1
  | on (messageType : SomeType) (fn : F)
  | onEvent (eventName : String) (fn : F)
  | removeListener (messageType : SomeType) (fn : F)
  | removeEventListener (eventName : String) (fn : F)
  | removeAllListeners (messageType : SomeType)

/-- What the call does to the emitter. -/
def Op.action : Op F → EventEmitter.Action F
  | .on T fn => .on T.type.typeName fn
  | .onEvent eventName fn => .on eventName fn
  | .removeListener T fn => .removeListener T.type.typeName fn
  | .removeEventListener eventName fn => .removeListener eventName fn
  | .removeAllListeners T => .removeAllListeners T.type.typeName

/-- `this.registeredTypes.set(Any.typeNameToUrl(messageType.typeName), messageType)`. -/
def register (types : String → Option SomeType) (T : SomeType) : String → Option SomeType :=
  (Any.typeNameToUrl T.type.typeName).elim types fun url => Function.update types url (some T)

/-- What a call does. -/
def apply (router : WireRouter F) (op : Op F) : WireRouter F where
  emitter := EventEmitter.act router.emitter op.action
  registeredTypes :=
    match op with
    | .on T _ => register router.registeredTypes T
    | _ => router.registeredTypes

/-- A call of a function that was registered. -/
inductive Call (F : Type) : Type 1
  | message (channel : String) (T : SomeType) (message : T.M) (data : Bytes) (fn : F)
  | event (channel : String) (fn : F)

/-- `decoded.channel || channel`. -/
def channelOf (decoded : Option String) (channel : String) : String :=
  (decoded.filter (· ≠ "")).getD channel

/-- The calls when a message arrives; `none` when it throws. -/
def handle (router : WireRouter F) (channel : String) (data : Bytes) : Option (List (Call F)) :=
  (Envelope.type.fromBinary data).bind fun decoded =>
    match decoded.message with
    | none => some []
    | some any =>
      if any.typeUrl = "" then some []
      else
        match router.registeredTypes any.typeUrl with
        | none => some []
        | some T =>
          (any.unpack T.type).map fun message =>
            (EventEmitter.listeners router.emitter T.type.typeName).map
                (.message (channelOf decoded.channel channel) T message data) ++
              (EventEmitter.listeners router.emitter "message").map (.event channel)

/-! ### Runs -/

/-- The call registers a type with this name. -/
def Op.registers (name : String) : Op F → Bool
  | .on T _ => T.type.typeName = name
  | _ => false

/-- The types that the calls register under the name of `T` are `T`. -/
def Unambiguous (T : SomeType) (ops : List (Op F)) : Prop :=
  ∀ T' fn, .on T' fn ∈ ops → T'.type.typeName = T.type.typeName → T' = T

/-- The functions that the calls leave registered for an event. -/
def live (event : String) (ops : List (Op F)) : List F :=
  EventEmitter.live event (ops.map Op.action)

section Runs

variable {ops : List (Op F)} {T : SomeType}

theorem foldl_apply_emitter (router : WireRouter F) :
    (ops.foldl apply router).emitter =
      (ops.map Op.action).foldl EventEmitter.act router.emitter := by
  induction ops generalizing router with
  | nil => rfl
  | cons op ops ih => exact ih (router.apply op)

theorem listeners_foldl_new (event : String) :
    EventEmitter.listeners (ops.foldl apply (new : WireRouter F)).emitter event =
      live event ops := by
  rw [foldl_apply_emitter]
  exact EventEmitter.listeners_foldl_new _

theorem registeredTypes_apply {url : String} (hurl : Any.typeNameToUrl T.type.typeName = some url)
    (router : WireRouter F) {op : Op F}
    (hop : ∀ T' fn, op = .on T' fn → T'.type.typeName = T.type.typeName → T' = T) :
    (router.apply op).registeredTypes url =
      if op.registers T.type.typeName then some T else router.registeredTypes url := by
  cases op with
  | on T' fn =>
    unfold apply register Op.registers
    obtain ⟨url', hurl'⟩ : ∃ url', Any.typeNameToUrl T'.type.typeName = some url' :=
      ⟨_, if_neg T'.type.named.1⟩
    dsimp only
    rw [hurl', Option.elim_some, Function.update_apply]
    by_cases hname : T'.type.typeName = T.type.typeName
    · obtain rfl := hop T' fn rfl hname
      rw [if_pos (Option.some.inj (hurl.symm.trans hurl')), if_pos (by simp)]
    · have hne : url ≠ url' := fun heq => hname (Any.typeNameToUrl_inj hurl' (heq ▸ hurl))
      rw [if_neg hne, if_neg (by simpa using hname)]
  | _ => rfl

theorem registeredTypes_foldl {url : String} (hurl : Any.typeNameToUrl T.type.typeName = some url)
    (hops : Unambiguous T ops) (router : WireRouter F) :
    (ops.foldl apply router).registeredTypes url =
      if ops.any (Op.registers T.type.typeName) then some T else router.registeredTypes url := by
  induction ops generalizing router with
  | nil => rfl
  | cons op ops ih =>
    rw [List.foldl_cons, ih fun T' fn hmem => hops T' fn (List.mem_cons_of_mem _ hmem),
      registeredTypes_apply hurl router fun T' fn heq => hops T' fn (heq ▸ List.mem_cons_self),
      List.any_cons]
    cases op.registers T.type.typeName <;> cases ops.any (Op.registers T.type.typeName) <;> rfl

/-- The calls of the functions that are registered, and not removed, for a message and then for
every message. -/
def callsFor (ops : List (Op F)) (T : SomeType) (message : T.M) (to? : Option String)
    (channel : String) (data : Bytes) : List (Call F) :=
  if ops.any (Op.registers T.type.typeName) then
    (live T.type.typeName ops).map (.message (channelOf to? channel) T message data) ++
      (live "message" ops).map (.event channel)
  else []

/-- An envelope with a message under the name of `T`, read as a message of that type. -/
theorem handle_of_fromBinary (hops : Unambiguous T ops) {data : Bytes} {any : Any}
    {to? : Option String} {unknownFields : List (UnknownField [2, 3])} {message : T.M}
    (hdata : Envelope.type.fromBinary data = some ⟨some any, to?, unknownFields⟩)
    (hurl : Any.typeNameToUrl T.type.typeName = some any.typeUrl)
    (hmessage : T.type.fromBinary any.value = some message) (channel : String) :
    (ops.foldl apply (new : WireRouter F)).handle channel data =
      some (callsFor ops T message to? channel data) := by
  obtain ⟨hne, hunpack⟩ := Any.unpack_of_typeNameToUrl hurl
  unfold handle callsFor
  rw [hdata, Option.bind_some]
  dsimp only
  rw [if_neg hne, registeredTypes_foldl hurl hops]
  by_cases hreg : ops.any (Op.registers T.type.typeName)
  · rw [if_pos hreg, if_pos hreg]
    dsimp only
    rw [hunpack, hmessage, Option.map_some, listeners_foldl_new, listeners_foldl_new]
  · rw [if_neg hreg, if_neg hreg]
    rfl

/-- A message that was packed is given to the functions that the calls have registered for its
type. -/
theorem handle_pack (hops : Unambiguous T ops) {message : T.M} {to? : Option String} {data : Bytes}
    (h : pack T.type message to? = some data) (channel : String) :
    (ops.foldl apply (new : WireRouter F)).handle channel data =
      some (callsFor ops T message to? channel data) := by
  obtain ⟨any, hany, hdata⟩ := fromBinary_of_pack h
  obtain ⟨hurl, hvalue, -⟩ := Any.pack_eq_some.1 hany
  exact handle_of_fromBinary hops hdata hurl (MessageType.fromBinary_toBinary hvalue) channel

end Runs

/-! ### Messages among the calls -/

/-- A message and its bytes. -/
structure Packed where
  T : SomeType
  message : T.M
  to? : Option String
  data : Bytes
  pack_eq : pack T.type message to? = some data

/-- What can happen to the router. -/
inductive Event (F : Type) : Type 1
  | op (op : Op F)
  | arrive (channel : String) (packed : Packed)

/-- The calls of the router's methods among the events. -/
def opsOf (events : List (Event F)) : List (Op F) :=
  events.filterMap fun
    | .op op => some op
    | .arrive _ _ => none

/-- The calls of functions when these things happen one after the other; `none` when one throws. -/
def called : WireRouter F → List (Event F) → Option (List (Call F))
  | _, [] => some []
  | router, .op op :: events => (router.apply op).called events
  | router, .arrive channel packed :: events =>
    (router.handle channel packed.data).bind fun calls =>
      (router.called events).map fun rest => calls ++ rest

/-- What should be called, by what was registered before. -/
def due : List (Op F) → List (Event F) → List (Call F)
  | _, [] => []
  | before, .op op :: events => due (before ++ [op]) events
  | before, .arrive channel packed :: events =>
    callsFor before packed.T packed.message packed.to? channel packed.data ++ due before events

theorem called_foldl (before : List (Op F)) {events : List (Event F)}
    (h : ∀ channel packed, .arrive channel packed ∈ events →
      Unambiguous packed.T (before ++ opsOf events)) :
    (before.foldl apply (new : WireRouter F)).called events = some (due before events) := by
  induction events generalizing before with
  | nil => rfl
  | cons event events ih =>
    cases event with
    | op op =>
      have hrest := ih (before ++ [op]) fun channel packed hmem => by
        have hall := h channel packed (List.mem_cons_of_mem _ hmem)
        rwa [List.append_assoc]
      rw [List.foldl_append] at hrest
      exact hrest
    | arrive channel packed =>
      have hbefore : Unambiguous packed.T before := fun T fn hmem =>
        h channel packed List.mem_cons_self T fn (List.mem_append_left _ hmem)
      have hrest := ih before fun channel packed hmem =>
        h channel packed (List.mem_cons_of_mem _ hmem)
      unfold called due
      rw [handle_pack hbefore packed.pack_eq, Option.bind_some, hrest]
      rfl

/-- **Every message** that arrives is given to the functions that are registered for its type at
that time, in the order of their registration and as it was sent, and no other function is called
for it but those for every message. -/
theorem called_eq_due {events : List (Event F)}
    (h : ∀ channel packed, .arrive channel packed ∈ events →
      Unambiguous packed.T (opsOf events)) :
    (new : WireRouter F).called events = some (due [] events) :=
  called_foldl [] h

end WireRouter

end Router

namespace WireRouter

open Protobuf.Standard EventEmitter.Table

/-- Someone has listened, and someone else does now. -/
def historyOps : List (Op ℕ) :=
  [.on ⟨TransactionDoneMessage.type⟩ 1, .on ⟨TransactionProgressMessage.type⟩ 2,
    .on ⟨TransactionDoneMessage.type⟩ 3, .removeListener ⟨TransactionDoneMessage.type⟩ 1]

/-- A message. -/
def sampleMessage : TransactionDoneMessage := ⟨"serial", 0, true, some "success", none, []⟩

/-- The message as it is sent. -/
def samplePacked : Packed where
  T := ⟨TransactionDoneMessage.type⟩
  message := sampleMessage
  to? := some ""
  data := (pack TransactionDoneMessage.type sampleMessage (some "")).get (by decide +kernel)
  pack_eq := (Option.some_get _).symm

theorem unambiguous_historyOps : Unambiguous ⟨TransactionDoneMessage.type⟩ historyOps := by
  intro T fn hmem hname
  simp only [historyOps, List.mem_cons, List.not_mem_nil, or_false, Op.on.injEq, reduceCtorEq]
    at hmem
  obtain ⟨rfl, -⟩ | ⟨rfl, -⟩ | ⟨rfl, -⟩ := hmem
  · rfl
  · exact absurd hname (by decide)
  · rfl

theorem called_historyOps :
    (new : WireRouter ℕ).called (historyOps.map .op ++ [.arrive "channel" samplePacked]) =
      some [.message "channel" ⟨TransactionDoneMessage.type⟩ sampleMessage samplePacked.data 3] :=
  called_eq_due fun channel packed hmem => by
    rcases List.mem_append.1 hmem with hmem | hmem
    · obtain ⟨op, -, hop⟩ := List.mem_map.1 hmem
      cases hop
    · obtain ⟨rfl, rfl⟩ := Event.arrive.inj (List.mem_singleton.1 hmem)
      exact unambiguous_historyOps

end WireRouter

end Wire

end DeviceHub
