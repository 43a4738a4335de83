import DeviceHub.Protobuf.Fields

/-!
# `wire/wire.ts`, `wire/google/protobuf/any.ts`, `wire/util.ts`

The messages that units send each other travel inside an envelope, packed into an `Any` with the
name of their type.

## Main definitions

* `Any`, `Envelope` : the generated classes around every message.
* `TransactionDoneMessage`, `TransactionProgressMessage` : the ones for the results of transactions.
* `pack`, `tr` : the functions of `wireutil` that make the bytes of an envelope.
* `Reply`, `Reply.okay`, `Reply.fail`, `Reply.progress` : `wireutil.reply`.

## Main results

* `Any.unpack_of_typeNameToUrl`, `fromBinary_of_pack` : what was packed is unpacked again.
-/

namespace DeviceHub

namespace Wire

open Protobuf

/-! ### Any -/

namespace Any

/-- `none` when it throws. -/
def typeNameToUrl (name : String) : Option String :=
  if name = "" then none else some ("type.googleapis.com/" ++ name)

theorem typeNameToUrl_inj {name name' url : String} (h : typeNameToUrl name = some url)
    (h' : typeNameToUrl name' = some url) : name = name' := by
  unfold typeNameToUrl at h h'
  split at h
  · cases h
  · split at h'
    · cases h'
    · exact String.append_right_inj _ |>.1 ((Option.some.inj h).trans (Option.some.inj h').symm)

/-- The characters after the last slash. -/
def afterSlash (url : List Char) : List Char := (url.reverse.takeWhile (· ≠ '/')).reverse

/-- `url.lastIndexOf("/") > 0`. -/
def hasSlash (url : List Char) : Bool := (afterSlash url).length + 1 < url.length

/-- `none` when it throws. -/
def typeUrlToName (url : String) : Option String :=
  if url = "" then none
  else
    let name := if hasSlash url.toList then String.ofList (afterSlash url.toList) else url
    if name = "" then none else some name

theorem afterSlash_append (url : List Char) {name : List Char} (h : '/' ∉ name) :
    afterSlash (url ++ '/' :: name) = name := by
  have hstop : ∀ c ∈ name.reverse, decide (c ≠ '/') = true := fun c hc =>
    decide_eq_true fun heq => h (heq ▸ List.mem_reverse.1 hc)
  unfold afterSlash
  rw [List.reverse_append, List.reverse_cons, List.append_assoc,
    List.takeWhile_append_of_pos hstop, List.singleton_append, List.takeWhile_cons_of_neg (by simp),
    List.append_nil, List.reverse_reverse]

/-- The name of a type is found in its URL. -/
theorem typeUrlToName_of_typeNameToUrl {name url : String} (hslash : '/' ∉ name.toList)
    (h : typeNameToUrl name = some url) : url ≠ "" ∧ typeUrlToName url = some name := by
  unfold typeNameToUrl at h
  split at h
  · cases h
  · rename_i hne
    obtain rfl := Option.some.inj h
    have hchars : ("type.googleapis.com/" ++ name).toList =
        "type.googleapis.com".toList ++ '/' :: name.toList := by
      rw [String.toList_append]
      rfl
    have hafter := afterSlash_append "type.googleapis.com".toList hslash
    have hurl : "type.googleapis.com/" ++ name ≠ "" := fun heq => by
      have hnil := congrArg String.toList heq
      rw [hchars] at hnil
      exact absurd hnil (by simp)
    have hlong : hasSlash ("type.googleapis.com".toList ++ '/' :: name.toList) = true := by
      unfold hasSlash
      rw [hafter]
      simp
    refine ⟨hurl, ?_⟩
    unfold typeUrlToName
    rw [if_neg hurl, hchars, hlong, hafter]
    dsimp only
    rw [if_pos rfl, String.ofList_toList, if_neg hne]

end Any

variable [BinaryRuntime]

/-- A message of any type, with the name of the type. -/
structure Any where
  typeUrl : String
  value : Bytes
  unknownFields : List (UnknownField [1, 2])

namespace Any

/-- `Any$Type`. -/
def type : MessageType Any where
  typeName := "google.protobuf.Any"
  named := by decide
  schema := .field 1 (.scalar string "") (.field 2 (.scalar bytes []) .nil)
  nodup := (by decide : [1, 2].Nodup)
  parts :=
    { toFun := fun m => ((m.typeUrl, m.value, ()), m.unknownFields)
      invFun := fun x => ⟨x.1.1, x.1.2.1, x.2⟩
      left_inv := fun _ => rfl
      right_inv := fun _ => rfl }

variable {M : Type}

/-- `Any.pack` -/
def pack (message : M) (T : MessageType M) : Option Any :=
  (typeNameToUrl T.typeName).bind fun typeUrl =>
    (T.toBinary message).map fun value => ⟨typeUrl, value, []⟩

/-- `none` when it throws. -/
def contains (any : Any) (T : MessageType M) : Option Bool :=
  if any.typeUrl = "" then some false
  else (typeUrlToName any.typeUrl).map fun has => T.typeName = has

/-- `none` when it throws. -/
def unpack (any : Any) (T : MessageType M) : Option M :=
  if any.contains T = some true then T.fromBinary any.value else none

theorem unpack_of_typeNameToUrl {T : MessageType M} {any : Any}
    (h : typeNameToUrl T.typeName = some any.typeUrl) :
    any.typeUrl ≠ "" ∧ any.unpack T = T.fromBinary any.value := by
  obtain ⟨hne, hname⟩ := typeUrlToName_of_typeNameToUrl T.named.2 h
  refine ⟨hne, ?_⟩
  unfold unpack contains
  rw [if_neg hne, hname, if_pos (by simp)]

theorem pack_eq_some {message : M} {T : MessageType M} {any : Any} :
    pack message T = some any ↔ typeNameToUrl T.typeName = some any.typeUrl ∧
      T.toBinary message = some any.value ∧ any.unknownFields = [] := by
  constructor
  · intro h
    obtain ⟨url, hurl, h⟩ := Option.bind_eq_some_iff.1 h
    obtain ⟨value, hvalue, rfl⟩ := Option.map_eq_some_iff.1 h
    exact ⟨hurl, hvalue, rfl⟩
  · obtain ⟨url, value, fields⟩ := any
    rintro ⟨hurl, hvalue, rfl⟩
    unfold pack
    rw [hurl, hvalue]
    rfl

end Any

/-! ### Envelopes -/

/-- What is sent: a message, and the channel for replies. -/
structure Envelope where
  message : Option Any
  channel : Option String
  unknownFields : List (UnknownField [2, 3])

/-- `Envelope$Type`. -/
def Envelope.type : MessageType Envelope where
  typeName := "Envelope"
  named := by decide
  schema := .field 2 (.message Any.type) (.field 3 (.optional string) .nil)
  nodup := (by decide : [2, 3].Nodup)
  parts :=
    { toFun := fun m => ((m.message, m.channel, ()), m.unknownFields)
      invFun := fun x => ⟨x.1.1, x.1.2.1, x.2⟩
      left_inv := fun _ => rfl
      right_inv := fun _ => rfl }

section Pack

variable {M : Type}

/-- `wireutil.pack`; `none` when it throws. -/
def pack (T : MessageType M) (message : M) (channel : Option String) : Option Bytes :=
  (Any.pack message T).bind fun any => Envelope.type.toBinary ⟨some any, channel, []⟩

/-- `wireutil.tr`. -/
def tr (channel : String) (T : MessageType M) (message : M) : Option Bytes :=
  pack T message (some channel)

theorem fromBinary_of_pack {T : MessageType M} {message : M} {channel : Option String} {data : Bytes}
    (h : pack T message channel = some data) :
    ∃ any, Any.pack message T = some any ∧
      Envelope.type.fromBinary data = some ⟨some any, channel, []⟩ := by
  obtain ⟨any, hany, h⟩ := Option.bind_eq_some_iff.1 h
  exact ⟨any, hany, MessageType.fromBinary_toBinary h⟩

end Pack

/-! ### Results of transactions -/

/-- The message that ends a transaction. -/
structure TransactionDoneMessage where
  source : String
  seq : ℤ
  success : Bool
  data : Option String
  body : Option String
  unknownFields : List (UnknownField [1, 2, 3, 4, 5])

/-- `TransactionDoneMessage$Type`. -/
def TransactionDoneMessage.type : MessageType TransactionDoneMessage where
  typeName := "TransactionDoneMessage"
  named := by decide
  schema := .field 1 (.scalar string "") (.field 2 (.scalar uint32 0) (.field 3 (.scalar bool false)
    (.field 4 (.optional string) (.field 5 (.optional string) .nil))))
  nodup := (by decide : [1, 2, 3, 4, 5].Nodup)
  parts :=
    { toFun := fun m => ((m.source, m.seq, m.success, m.data, m.body, ()), m.unknownFields)
      invFun := fun x =>
        ⟨x.1.1, x.1.2.1, x.1.2.2.1, x.1.2.2.2.1, x.1.2.2.2.2.1, x.2⟩
      left_inv := fun _ => rfl
      right_inv := fun _ => rfl }

/-- The message that tells how far a transaction is. -/
structure TransactionProgressMessage where
  source : String
  seq : ℤ
  data : Option String
  progress : Option ℤ
  unknownFields : List (UnknownField [1, 2, 3, 4])

/-- `TransactionProgressMessage$Type`. -/
def TransactionProgressMessage.type : MessageType TransactionProgressMessage where
  typeName := "TransactionProgressMessage"
  named := by decide
  schema := .field 1 (.scalar string "") (.field 2 (.scalar uint32 0) (.field 3 (.optional string)
    (.field 4 (.optional uint32) .nil)))
  nodup := (by decide : [1, 2, 3, 4].Nodup)
  parts :=
    { toFun := fun m => ((m.source, m.seq, m.data, m.progress, ()), m.unknownFields)
      invFun := fun x => ⟨x.1.1, x.1.2.1, x.1.2.2.1, x.1.2.2.2.1, x.2⟩
      left_inv := fun _ => rfl
      right_inv := fun _ => rfl }

/-- What a caller of `reply` passes as the body: a string or an object. -/
abbrev ReplyBody (O : Type) := Option (String ⊕ O)

/-- `wireutil.reply(source)`: the source, and the number of the next message. -/
structure Reply where
  source : String
  seq : ℕ

namespace Reply

variable {O : Type} (stringify : String ⊕ O → String)

/-- A new reply, whose next number is 0. -/
def new (source : String) : Reply := ⟨source, 0⟩

/-- An object is truthy, and a string is if it is not empty. -/
def truthy : String ⊕ O → Bool
  | .inl text => text ≠ ""
  | .inr _ => true

/-- `body ? JSON.stringify(body) : undefined`. -/
def bodyOf (body : ReplyBody O) : Option String := (body.filter truthy).map stringify

/-- The message of `okay` and `fail`. -/
def done (reply : Reply) (success : Bool) (data : String) (body : ReplyBody O) :
    TransactionDoneMessage where
  source := reply.source
  seq := reply.seq
  success
  data := some data
  body := bodyOf stringify body
  unknownFields := []

/-- The message of `progress`; `Math.round` leaves an integer as it is. -/
def progressed (reply : Reply) (data : String) (progress : Rat) : TransactionProgressMessage where
  source := reply.source
  seq := reply.seq
  data := some data
  progress := some (progress + 1 / 2).floor
  unknownFields := []

/-- `seq++`. -/
def next (reply : Reply) : Reply := { reply with seq := reply.seq + 1 }

/-- A call of one of the methods. -/
inductive Call (O : Type)
  | okay (data : Option String) (body : ReplyBody O)
  | fail (data : Option String) (body : ReplyBody O)
  | progress (data : String) (progress : Rat)

/-- `okay`, `fail` and `progress` : the bytes to send. -/
def call (reply : Reply) : Call O → Option Bytes
  | .okay data body =>
    pack TransactionDoneMessage.type (reply.done stringify true (data.getD "success") body) none
  | .fail data body =>
    pack TransactionDoneMessage.type (reply.done stringify false (data.getD "fail") body) none
  | .progress data progress =>
    pack TransactionProgressMessage.type (reply.progressed data progress) none

/-- Calls one after the other; each takes the next number. -/
def calls : Reply → List (Call O) → List (Option Bytes)
  | _, [] => []
  | reply, c :: cs => reply.call stringify c :: reply.next.calls cs

end Reply

end Wire

end DeviceHub
