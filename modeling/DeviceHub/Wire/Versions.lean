import DeviceHub.Protobuf.Evolution
import DeviceHub.Wire.Router

/-!
# Units of different versions

The units of a deployment are updated one after the other, so that a router can have an earlier
version of a message class than the unit that sends a message.

## Main results

* `WireRouter.handle_of_later` : the earlier version reads the fields that it knows, and passes on
  the others.
-/

namespace DeviceHub

namespace Wire

namespace WireRouter

open Protobuf

section Versions

variable [BinaryRuntime] {F : Type} [DecidableEq F] [EventEmitter F]

/-- **A message of a later version** reaches the functions that are registered for the earlier one,
with the fields that they know.  When a unit with the earlier version packs that message again,
those with the later version receive it as it was. -/
theorem handle_of_later (T T' : SomeType) {f : T'.type.Fields → T.type.Fields}
    (hold : Older T.type.schema T'.type.schema f) (hname : T.type.typeName = T'.type.typeName)
    {message : T'.M} {to? : Option String} {data : Bytes}
    (h : pack T'.type message to? = some data) :
    ∃ m : T.M, (T.type.parts m).1 = f (T'.type.parts message).1 ∧
      (∀ (ops : List (Op F)) channel, Unambiguous T ops →
        (ops.foldl apply (new : WireRouter F)).handle channel data =
          some (callsFor ops T m to? channel data)) ∧
      ∀ (ops : List (Op F)) channel data', Unambiguous T' ops →
        pack T.type m to? = some data' →
        (ops.foldl apply (new : WireRouter F)).handle channel data' =
          some (callsFor ops T' message to? channel data') := by
  obtain ⟨any, hany, hdata⟩ := fromBinary_of_pack h
  obtain ⟨hurl, hvalue, -⟩ := Any.pack_eq_some.1 hany
  obtain ⟨m, hm, hfields, bs, hbs, hback⟩ := MessageType.fromBinary_of_older hold hvalue
  refine ⟨m, hfields, fun ops channel hops => ?_, fun ops channel data' hops hagain => ?_⟩
  · exact handle_of_fromBinary hops hdata (hname ▸ hurl) hm channel
  · obtain ⟨any', hany', hdata'⟩ := fromBinary_of_pack hagain
    obtain ⟨hurl', hvalue', -⟩ := Any.pack_eq_some.1 hany'
    obtain rfl := Option.some.inj (hbs.symm.trans hvalue')
    exact handle_of_fromBinary hops hdata' (hname ▸ hurl') hback channel

/-- A version of `TransactionDoneMessage` without its last field. -/
structure EarlierDoneMessage where
  source : String
  seq : ℤ
  success : Bool
  data : Option String
  unknownFields : List (UnknownField [1, 2, 3, 4])

omit [BinaryRuntime] in
theorem EarlierDoneMessage.named :
    "TransactionDoneMessage" ≠ "" ∧ '/' ∉ "TransactionDoneMessage".toList := by
  decide

omit [BinaryRuntime] in
theorem EarlierDoneMessage.nodup : [1, 2, 3, 4].Nodup := by decide

/-- The message as it was before it had a body. -/
def EarlierDoneMessage.type : MessageType EarlierDoneMessage where
  typeName := "TransactionDoneMessage"
  named := EarlierDoneMessage.named
  schema := .field 1 (.scalar string "") (.field 2 (.scalar uint32 0) (.field 3 (.scalar bool false)
    (.field 4 (.optional string) .nil)))
  nodup := EarlierDoneMessage.nodup
  parts :=
    { toFun := fun m => ((m.source, m.seq, m.success, m.data, ()), m.unknownFields)
      invFun := fun x => ⟨x.1.1, x.1.2.1, x.1.2.2.1, x.1.2.2.2.1, x.2⟩
      left_inv := fun _ => rfl
      right_inv := fun _ => rfl }

end Versions

open Protobuf.Standard EventEmitter.Table

/-- The body of the answer is unknown to the earlier version, which passes it on. -/
theorem handle_of_earlierDoneMessage :
    ∃ (data : Bytes) (m : EarlierDoneMessage),
      pack TransactionDoneMessage.type ⟨"serial", 1, true, none, some "1", []⟩ none = some data ∧
      (m.source, m.seq, m.success, m.data) = ("serial", 1, true, none) ∧
      ([Op.on ⟨EarlierDoneMessage.type⟩ 5].foldl apply (new : WireRouter ℕ)).handle "c" data =
        some [.message "c" ⟨EarlierDoneMessage.type⟩ m data 5] := by
  obtain ⟨data, hpack⟩ := Option.isSome_iff_exists.1 (show (pack TransactionDoneMessage.type
    ⟨"serial", 1, true, none, some "1", []⟩ none).isSome = true by decide +kernel)
  obtain ⟨m, hfields, hhandle, -⟩ := handle_of_later (F := ℕ) ⟨EarlierDoneMessage.type⟩
    ⟨TransactionDoneMessage.type⟩ (.keep 1 _ (.keep 2 _ (.keep 3 _ (.keep 4 _ (.new 5 _ .nil))))) rfl
    hpack
  have hops : Unambiguous ⟨EarlierDoneMessage.type⟩ [Op.on ⟨EarlierDoneMessage.type⟩ 5] :=
    fun T fn hmem _ => (Op.on.inj (List.mem_singleton.1 hmem)).1
  have hnames : (m.source, m.seq, m.success, m.data, ()) =
      (("serial", 1, true, none, ()) : String × ℤ × Bool × Option String × Unit) := hfields
  refine ⟨data, m, hpack, ?_, hhandle _ "c" hops⟩
  simpa using hnames

end WireRouter

end Wire

end DeviceHub
