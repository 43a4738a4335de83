import DeviceHub.Protobuf.MessageType

/-!
# The kinds of fields

The fields of a message class have a scalar, which is not written when it is the default, a scalar
that may be missing, a message, or a list of scalars or messages.

## Main definitions

* `FieldType.scalar`, `FieldType.optional`, `FieldType.repeated` : fields with scalars.
* `FieldType.message`, `FieldType.repeatedMessage` : fields with messages.

## Main results

* `MessageType.fromBinary_toBinary` : a message that was written is read again.
-/

namespace DeviceHub

namespace Protobuf

variable {A : Type}

theorem Codec.read_map_length {B : Type} (codec : Codec A) {f : A → B} {b : B} {bs rest : Bytes}
    (h : (codec.read bs).map (Prod.map f id) = some (b, rest)) :
    rest.length ≤ bs.length := by
  obtain ⟨⟨a, rest'⟩, hread, heq⟩ := Option.map_eq_some_iff.1 h
  obtain ⟨-, rfl⟩ := Prod.mk.inj heq
  exact Nat.le_of_lt (codec.read_length hread)

theorem exists_of_mem_mapM {B : Type} {f : A → Option B} {as : List A} {bs : List B} {b : B}
    (h : as.mapM f = some bs) (hb : b ∈ bs) : ∃ a ∈ as, f a = some b := by
  induction as generalizing bs with
  | nil =>
    obtain rfl : [] = bs := Option.some.inj h
    exact absurd hb List.not_mem_nil
  | cons a as ih =>
    rw [List.mapM_cons] at h
    obtain ⟨c, hc, h⟩ := Option.bind_eq_some_iff.1 h
    obtain ⟨cs, hcs, h⟩ := Option.bind_eq_some_iff.1 h
    obtain rfl : c :: cs = bs := Option.some.inj h
    rcases List.mem_cons.1 hb with rfl | hb
    · exact ⟨a, List.mem_cons_self, hc⟩
    · obtain ⟨a', ha', hf⟩ := ih hcs hb
      exact ⟨a', List.mem_cons_of_mem _ ha', hf⟩

/-- Payloads that each add what they were written for. -/
theorem Merges.of_mapM {write : A → Option Bytes} {merge : List A → Bytes → Option (List A × Bytes)}
    (hmerge : ∀ as a p rest, write a = some p → merge as (p ++ rest) = some (as ++ [a], rest))
    {as before : List A} {ps : List Bytes} (h : as.mapM write = some ps) :
    Merges merge before ps (before ++ as) := by
  induction as generalizing before ps with
  | nil =>
    obtain rfl : [] = ps := Option.some.inj h
    rw [List.append_nil]
    exact .nil _
  | cons a as ih =>
    rw [List.mapM_cons] at h
    obtain ⟨p, hp, h⟩ := Option.bind_eq_some_iff.1 h
    obtain ⟨qs, hqs, h⟩ := Option.bind_eq_some_iff.1 h
    obtain rfl : p :: qs = ps := Option.some.inj h
    have hrest := @ih (before ++ [a]) qs hqs
    rw [List.append_assoc, List.singleton_append] at hrest
    exact .cons (fun rest => hmerge before a p rest hp) hrest

variable [BinaryRuntime]

/-! ### Scalars -/

section Scalars

variable {wireType : WireType}

theorem Scalar.read_map_write {B : Type} (codec : Scalar skip wireType A) {a : A} {bs : Bytes}
    (h : codec.write a = some bs) (f : A → B) (rest : Bytes) :
    (codec.read (bs ++ rest)).map (Prod.map f id) = some (f a, rest) := by
  rw [codec.read_write h]
  rfl

/-- A field that is not written when its value is the default. -/
def FieldType.scalar [DecidableEq A] (codec : Scalar skip wireType A) (default : A) :
    FieldType A where
  wireType := wireType
  initial := default
  payloads a := if a = default then some [] else (codec.write a).map fun p => [p]
  merge _ reader := codec.read reader
  merges {a ps} h := by
    split at h
    · rename_i ha
      obtain rfl := Option.some.inj h
      exact ha ▸ .nil a
    · obtain ⟨p, hp, rfl⟩ := Option.map_eq_some_iff.1 h
      exact .cons (codec.read_write hp) (.nil _)
  skips {a ps} h p hp := by
    split at h
    · obtain rfl := Option.some.inj h
      exact absurd hp List.not_mem_nil
    · obtain ⟨q, hq, rfl⟩ := Option.map_eq_some_iff.1 h
      obtain rfl := List.mem_singleton.1 hp
      exact codec.skips hq
  merge_length h := Nat.le_of_lt (codec.read_length h)

/-- `optional`. -/
def FieldType.optional (codec : Scalar skip wireType A) : FieldType (Option A) where
  wireType := wireType
  initial := none
  payloads a := a.elim (some []) fun a => (codec.write a).map fun p => [p]
  merge _ reader := (codec.read reader).map (Prod.map some id)
  merges {a ps} h := by
    cases a with
    | none =>
      obtain rfl := Option.some.inj h
      exact .nil _
    | some a =>
      obtain ⟨p, hp, rfl⟩ := Option.map_eq_some_iff.1 h
      exact .cons (codec.read_map_write hp some) (.nil _)
  skips {a ps} h p hp := by
    cases a with
    | none =>
      obtain rfl := Option.some.inj h
      exact absurd hp List.not_mem_nil
    | some a =>
      obtain ⟨q, hq, rfl⟩ := Option.map_eq_some_iff.1 h
      obtain rfl := List.mem_singleton.1 hp
      exact codec.skips hq
  merge_length h := codec.toCodec.read_map_length h

/-- `repeated`, not packed. -/
def FieldType.repeated (codec : Scalar skip wireType A) : FieldType (List A) where
  wireType := wireType
  initial := []
  payloads as := as.mapM codec.write
  merge as reader := (codec.read reader).map (Prod.map (fun a => as ++ [a]) id)
  merges h := Merges.of_mapM (fun as a p rest hp => codec.read_map_write hp _ rest) h
  skips {as ps} h p hp := by
    obtain ⟨a, -, ha⟩ := exists_of_mem_mapM h hp
    exact codec.skips ha
  merge_length h := codec.toCodec.read_map_length h

end Scalars

/-! ### Messages -/

/-- `join()` : the length of the bytes, and the bytes. -/
def join (body : Bytes) : Option Bytes := (uint32.write body.length).map fun length => length ++ body

namespace MessageType

variable {M : Type} (T : MessageType M)

/-- `T.internalBinaryWrite(message, writer.tag(..).fork(), options).join()` after the tag. -/
def writeJoined (message : M) : Option Bytes := (T.internalBinaryWrite message).bind join

/-- `T.internalBinaryRead(reader, reader.uint32(), options, target)`. -/
def readJoined (target : M) (reader : Bytes) : Option (M × Bytes) :=
  (uint32.read reader).bind fun (length, reader) => T.internalBinaryRead reader length.toNat target

variable {T} {message target : M} {p reader rest : Bytes}

theorem writeJoined_eq_some : T.writeJoined message = some p ↔
    ∃ body length, T.internalBinaryWrite message = some body ∧
      uint32.write body.length = some length ∧ length ++ body = p := by
  simp only [writeJoined, join, Option.bind_eq_some_iff, Option.map_eq_some_iff]
  constructor
  · rintro ⟨body, hbody, length, hlength, rfl⟩
    exact ⟨body, length, hbody, hlength, rfl⟩
  · rintro ⟨body, length, hbody, hlength, rfl⟩
    exact ⟨body, hbody, length, hlength, rfl⟩

theorem readJoined_write (h : T.writeJoined message = some p) (rest : Bytes) :
    T.readJoined T.create (p ++ rest) = some (message, rest) := by
  obtain ⟨body, length, hbody, hlength, rfl⟩ := writeJoined_eq_some.1 h
  unfold readJoined
  rw [List.append_assoc, uint32.read_write hlength]
  exact T.internalBinaryRead_write hbody rest

theorem skips_of_writeJoined (h : T.writeJoined message = some p) :
    Skips skip .lengthDelimited p := by
  obtain ⟨body, length, -, hlength, rfl⟩ := writeJoined_eq_some.1 h
  exact BinaryRuntime.skips_join hlength

theorem internalBinaryRead_length {length : ℕ}
    (h : T.internalBinaryRead reader length target = some (message, rest)) :
    rest.length ≤ reader.length := by
  obtain ⟨⟨x, reader'⟩, hread, heq⟩ := Option.map_eq_some_iff.1 h
  obtain ⟨-, rfl⟩ := Prod.mk.inj heq
  exact Schema.readRecords_length hread

theorem readJoined_length (h : T.readJoined target reader = some (message, rest)) :
    rest.length ≤ reader.length := by
  obtain ⟨⟨length, reader'⟩, hlength, hread⟩ := Option.bind_eq_some_iff.1 h
  exact (internalBinaryRead_length hread).trans (Nat.le_of_lt (uint32.read_length hlength))

theorem fromBinary_of_read
    (h : ∀ rest, T.internalBinaryRead (p ++ rest) p.length T.create = some (message, rest)) :
    T.fromBinary p = some message := by
  have hread := h []
  rw [List.append_nil] at hread
  unfold fromBinary
  rw [hread]
  rfl

theorem fromBinary_toBinary (h : T.toBinary message = some p) : T.fromBinary p = some message :=
  fromBinary_of_read (T.internalBinaryRead_write h)

end MessageType

/-- A field with a message, which is not written when there is none. -/
def FieldType.message {M : Type} (T : MessageType M) : FieldType (Option M) where
  wireType := .lengthDelimited
  initial := none
  payloads m := m.elim (some []) fun m => (T.writeJoined m).map fun p => [p]
  merge m reader := (T.readJoined (m.getD T.create) reader).map (Prod.map some id)
  merges {m ps} h := by
    cases m with
    | none =>
      obtain rfl := Option.some.inj h
      exact .nil _
    | some m =>
      obtain ⟨p, hp, rfl⟩ := Option.map_eq_some_iff.1 h
      refine .cons (fun rest => ?_) (.nil _)
      rw [Option.getD_none, T.readJoined_write hp]
      rfl
  skips {m ps} h p hp := by
    cases m with
    | none =>
      obtain rfl := Option.some.inj h
      exact absurd hp List.not_mem_nil
    | some m =>
      obtain ⟨q, hq, rfl⟩ := Option.map_eq_some_iff.1 h
      obtain rfl := List.mem_singleton.1 hp
      exact T.skips_of_writeJoined hq
  merge_length h := by
    obtain ⟨⟨m, reader'⟩, hread, heq⟩ := Option.map_eq_some_iff.1 h
    obtain ⟨-, rfl⟩ := Prod.mk.inj heq
    exact T.readJoined_length hread

/-- A field with a list of messages. -/
def FieldType.repeatedMessage {M : Type} (T : MessageType M) : FieldType (List M) where
  wireType := .lengthDelimited
  initial := []
  payloads ms := ms.mapM T.writeJoined
  merge ms reader := (T.readJoined T.create reader).map (Prod.map (fun m => ms ++ [m]) id)
  merges h := by
    refine Merges.of_mapM (fun ms m p rest hp => ?_) h
    rw [T.readJoined_write hp]
    rfl
  skips {ms ps} h p hp := by
    obtain ⟨m, -, hm⟩ := exists_of_mem_mapM h hp
    exact T.skips_of_writeJoined hm
  merge_length h := by
    obtain ⟨⟨m, reader'⟩, hread, heq⟩ := Option.map_eq_some_iff.1 h
    obtain ⟨-, rfl⟩ := Prod.mk.inj heq
    exact T.readJoined_length hread

end Protobuf

end DeviceHub
