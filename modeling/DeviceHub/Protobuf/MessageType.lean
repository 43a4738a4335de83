import DeviceHub.Protobuf.Runtime
import Mathlib.Logic.Equiv.Defs

/-!
# Messages as records

A generated message class writes the fields of a message in the order of its schema, each as the
records for its value, and then the records that it did not know when it read the message.  It reads
records in any order: a record with a number of the schema changes the value of that field, and any
other one is kept.

## Main definitions

* `FieldType` : how the values of a field are written as payloads, and what a payload does to them.
* `Schema` : the fields of a message class.
* `UnknownField` : a record that was kept.
* `MessageType` : a message class; `toBinary`, `fromBinary` : its methods.

## Main results

* `Schema.readRecords_encode` : what a list of records does to a message.
* `MessageType.internalBinaryRead_write` : a message that was written is read again.
-/

namespace DeviceHub

namespace Protobuf

/-- A field as it stands in the data: its number, its wire type and the bytes after the tag. -/
structure Record where
  no : ℕ
  wireType : WireType
  payload : Bytes
  deriving DecidableEq

/-- The payloads of the records with a number. -/
def payloadsOf (no : ℕ) (rs : List Record) : List Bytes :=
  (rs.filter fun r => r.no = no).map Record.payload

/-- The payloads change the value one after the other, whatever comes after them. -/
inductive Merges {A : Type} (merge : A → Bytes → Option (A × Bytes)) : A → List Bytes → A → Prop
  | nil (a : A) : Merges merge a [] a
  | cons {a b c : A} {p : Bytes} {ps : List Bytes} :
      (∀ rest, merge a (p ++ rest) = some (b, rest)) → Merges merge b ps c →
      Merges merge a (p :: ps) c

section Payloads

variable {A : Type} {merge : A → Bytes → Option (A × Bytes)} {a b : A} {no : ℕ} {r : Record}
  {rs rs' : List Record}

theorem payloadsOf_append : payloadsOf no (rs ++ rs') = payloadsOf no rs ++ payloadsOf no rs' := by
  simp [payloadsOf]

theorem payloadsOf_cons :
    payloadsOf no (r :: rs) = if r.no = no then r.payload :: payloadsOf no rs else payloadsOf no rs := by
  unfold payloadsOf
  split <;> simp_all

theorem payloadsOf_eq_nil (h : ∀ r ∈ rs, r.no ≠ no) : payloadsOf no rs = [] := by
  unfold payloadsOf
  rw [List.filter_eq_nil_iff.2 (by simpa using h), List.map_nil]

theorem payloadsOf_mk (wireType : WireType) (ps : List Bytes) :
    payloadsOf no (ps.map (Record.mk no wireType)) = ps := by
  induction ps with
  | nil => rfl
  | cons p ps ih => simpa [payloadsOf_cons] using ih

theorem Merges.eq_of_nil (h : Merges merge a [] b) : b = a := by
  cases h
  rfl

theorem Merges.append {ps qs : List Bytes} {c : A} (h : Merges merge a ps b)
    (h' : Merges merge b qs c) : Merges merge a (ps ++ qs) c := by
  induction h with
  | nil => exact h'
  | cons hp _ ih => exact .cons hp (ih h')

end Payloads

variable [BinaryRuntime]

/-- How a field with values in `A` is written and read. -/
structure FieldType (A : Type) where
  wireType : WireType
  /-- The value in a message that has just been created. -/
  initial : A
  /-- The payloads that a value is written as. -/
  payloads : A → Option (List Bytes)
  /-- A payload is read into a value. -/
  merge : A → Bytes → Option (A × Bytes)
  merges : ∀ {a ps}, payloads a = some ps → Merges merge initial ps a
  skips : ∀ {a ps}, payloads a = some ps → ∀ p ∈ ps, Skips skip wireType p
  merge_length : ∀ {a b bs rest}, merge a bs = some (b, rest) → rest.length ≤ bs.length

/-- The fields of a message class with their numbers. -/
inductive Schema : Type → Type 1
  | nil : Schema Unit
  | field {A B : Type} (no : ℕ) (type : FieldType A) (rest : Schema B) : Schema (A × B)

/-- `writer.tag(no, wireType)` and the payload. -/
def Record.encode (r : Record) : Option Bytes :=
  (tag.write (r.no, r.wireType)).map fun t => t ++ r.payload

/-- The records one after the other. -/
def encode (rs : List Record) : Option Bytes := (rs.mapM Record.encode).map List.flatten

/-- A record whose number is not in the schema, as `UnknownFieldHandler` keeps it. -/
structure UnknownField (nos : List ℕ) where
  no : ℕ
  wireType : WireType
  data : Bytes
  unknown : no ∉ nos
  skips : Skips skip wireType data

namespace UnknownField

variable {nos : List ℕ}

/-- `writer.tag(no, wireType).raw(data)`. -/
def record (u : UnknownField nos) : Record := ⟨u.no, u.wireType, u.data⟩

/-- `reader.skip(wireType)`, and `UnknownFieldHandler.onRead`. -/
def read {no : ℕ} (h : no ∉ nos) (wireType : WireType) (reader : Bytes) :
    Option (UnknownField nos × Bytes) :=
  (skip wireType reader).pmap
    (fun x hx => (⟨no, wireType, x.1, h, (BinaryRuntime.skip_eq hx).2⟩, x.2)) fun _ hx => hx

theorem record_injective : Function.Injective (record : UnknownField nos → Record) := by
  rintro ⟨no, wireType, data, _, _⟩ ⟨no', wireType', data', _, _⟩ h
  obtain ⟨rfl, rfl, rfl⟩ := Record.mk.inj h
  rfl

theorem read_of_skips {no : ℕ} (h : no ∉ nos) {wireType : WireType} {data : Bytes}
    (hskips : Skips skip wireType data) (rest : Bytes) :
    read h wireType (data ++ rest) = some (⟨no, wireType, data, h, hskips⟩, rest) := by
  unfold read
  simp only [hskips rest, Option.pmap_some]

end UnknownField

namespace Schema

variable {B : Type}

/-- The numbers of the fields. -/
def nos {B : Type} : Schema B → List ℕ
  | .nil => []
  | .field no _ rest => no :: rest.nos

/-- The fields of a new message. -/
def create {B : Type} : Schema B → B
  | .nil => ()
  | .field _ type rest => (type.initial, rest.create)

/-- The records that the fields are written as. -/
def records {B : Type} : Schema B → B → Option (List Record)
  | .nil, _ => some []
  | .field no type rest, (a, b) =>
    (type.payloads a).bind fun ps =>
      (rest.records b).map fun rs => ps.map (Record.mk no type.wireType) ++ rs

/-- The case of the `switch` for the number of a field. -/
def readField {B : Type} : Schema B → ℕ → B → Bytes → Option (B × Bytes)
  | .nil, _, _, _ => none
  | .field no type rest, fieldNo, (a, b), reader =>
    if fieldNo = no then (type.merge a reader).map (Prod.map (fun a => (a, b)) id)
    else (rest.readField fieldNo b reader).map (Prod.map (fun b => (a, b)) id)

/-- The values of the fields, and the records that were kept. -/
abbrev State (s : Schema B) : Type := B × List (UnknownField s.nos)

/-- What is done with a record after its tag. -/
def readPayload (s : Schema B) (x : s.State) (fieldNo : ℕ) (wireType : WireType) (reader : Bytes) :
    Option (s.State × Bytes) :=
  if h : fieldNo ∈ s.nos then
    (s.readField fieldNo x.1 reader).map (Prod.map (fun b => (b, x.2)) id)
  else (UnknownField.read h wireType reader).map (Prod.map (fun u => (x.1, x.2 ++ [u])) id)

/-- The body of the loop. -/
def readRecord (s : Schema B) (x : s.State) (reader : Bytes) : Option (s.State × Bytes) :=
  (tag.read reader).bind fun y => s.readPayload x y.1.1 y.1.2 y.2

/-- The loop that reads `length` bytes of what was `start` bytes long when it began. -/
def readRecords (s : Schema B) (start length : ℕ) : ℕ → s.State → Bytes → Option (s.State × Bytes)
  | fuel, x, reader =>
    if start - reader.length < length then
      match fuel with
      | 0 => none
      | fuel + 1 =>
        (s.readRecord x reader).bind fun y => s.readRecords start length fuel y.1 y.2
    else some (x, reader)

end Schema

/-- A message class: its schema, and the fields of its messages with the records that are kept. -/
structure MessageType (M : Type) where
  typeName : String
  /-- A name is made of identifiers with dots in between. -/
  named : typeName ≠ "" ∧ '/' ∉ typeName.toList
  {Fields : Type}
  schema : Schema Fields
  nodup : schema.nos.Nodup
  parts : M ≃ schema.State

namespace MessageType

variable {M : Type} (T : MessageType M)

/-- A new message. -/
def create : M := T.parts.symm (T.schema.create, [])

/-- The records that a message is written as. -/
def records (message : M) : Option (List Record) :=
  (T.schema.records (T.parts message).1).map fun rs =>
    rs ++ (T.parts message).2.map UnknownField.record

/-- `internalBinaryWrite`: the records of the message. -/
def internalBinaryWrite (message : M) : Option Bytes := (T.records message).bind encode

/-- The loop never goes on for longer than there are bytes. -/
def internalBinaryRead (reader : Bytes) (length : ℕ) (target : M) : Option (M × Bytes) :=
  (T.schema.readRecords reader.length length reader.length (T.parts target) reader).map
    (Prod.map T.parts.symm id)

/-- `toBinary` -/
def toBinary (message : M) : Option Bytes := T.internalBinaryWrite message

/-- `fromBinary`: the whole of the data is read. -/
def fromBinary (data : Bytes) : Option M :=
  (T.internalBinaryRead data data.length T.create).map Prod.fst

end MessageType

/-! ### What records do to the fields -/

namespace Schema

variable {B : Type} {s : Schema B}

/-- What the records do to the values of the fields: each field takes the payloads with its number,
in their order. -/
def Merged {B : Type} : Schema B → B → List Record → B → Prop
  | .nil, _, _, _ => True
  | .field no type rest, (a, b), rs, (a', b') =>
    Merges type.merge a (payloadsOf no rs) a' ∧ rest.Merged b rs b'

/-- Only the order of the records with one number matters, and only for the numbers of the
schema. -/
theorem Merged.congr {b b' : B} {rs rs' : List Record} (h : s.Merged b rs b')
    (hrs : ∀ no ∈ s.nos, payloadsOf no rs = payloadsOf no rs') : s.Merged b rs' b' := by
  induction s with
  | nil => trivial
  | field no type rest ih =>
    refine ⟨?_, ih h.2 fun no hno => hrs no (List.mem_cons_of_mem _ hno)⟩
    rw [← hrs no List.mem_cons_self]
    exact h.1

theorem Merged.eq_of_forall {b b' : B} {rs : List Record} (h : s.Merged b rs b')
    (hrs : ∀ r ∈ rs, r.no ∉ s.nos) : b' = b := by
  induction s with
  | nil => rfl
  | field no type rest ih =>
    have hnil : payloadsOf no rs = [] := payloadsOf_eq_nil fun r hr hno =>
      hrs r hr (hno ▸ List.mem_cons_self)
    have hfield := h.1
    rw [hnil] at hfield
    exact Prod.ext hfield.eq_of_nil (ih h.2 fun r hr hno => hrs r hr (List.mem_cons_of_mem _ hno))

/-- The first record, and those after it. -/
theorem Merged.cons_iff {b c : B} {r : Record} {rs : List Record} :
    s.Merged b (r :: rs) c ↔ ∃ b', s.Merged b [r] b' ∧ s.Merged b' rs c := by
  induction s with
  | nil => exact ⟨fun _ => ⟨(), trivial, trivial⟩, fun _ => trivial⟩
  | field no type rest ih =>
    obtain ⟨a, b⟩ := b
    obtain ⟨a₂, c⟩ := c
    simp only [Merged, ih, payloadsOf_cons, Prod.exists]
    constructor
    · rintro ⟨hfield, b', hfirst, hrest⟩
      by_cases hno : r.no = no
      · rw [if_pos hno] at hfield ⊢
        obtain _ | ⟨hp, hps⟩ := hfield
        exact ⟨_, b', ⟨.cons hp (.nil _), hfirst⟩, hps, hrest⟩
      · rw [if_neg hno] at hfield ⊢
        exact ⟨a, b', ⟨.nil _, hfirst⟩, hfield, hrest⟩
    · rintro ⟨a', b', ⟨hfield, hfirst⟩, hfield', hrest⟩
      refine ⟨?_, b', hfirst, hrest⟩
      by_cases hno : r.no = no
      · rw [if_pos hno] at hfield ⊢
        exact hfield.append hfield'
      · rw [if_neg hno] at hfield ⊢
        obtain rfl := hfield.eq_of_nil
        exact hfield'

/-- The `switch` does with one record what `Merged` says. -/
theorem Merged.readField {b b' : B} {r : Record} (h : s.Merged b [r] b') (hnodup : s.nos.Nodup)
    (hno : r.no ∈ s.nos) (rest : Bytes) :
    s.readField r.no b (r.payload ++ rest) = some (b', rest) := by
  induction s with
  | nil => exact absurd hno List.not_mem_nil
  | @field A B no type s ih =>
    obtain ⟨a, b⟩ := b
    obtain ⟨a', b'⟩ := b'
    obtain ⟨hnotin, hnodup⟩ := List.nodup_cons.1 hnodup
    obtain ⟨hfield, hrest⟩ := h
    unfold Schema.readField
    rw [payloadsOf_cons] at hfield
    by_cases hr : r.no = no
    · rw [if_pos hr] at hfield ⊢
      obtain rfl : b' = b := hrest.eq_of_forall fun r' hr' hmem => by
        obtain rfl := List.mem_singleton.1 hr'
        exact hnotin (hr ▸ hmem)
      obtain _ | ⟨hp, hps⟩ := hfield
      obtain rfl := Merges.eq_of_nil hps
      rw [hp rest]
      rfl
    · rw [if_neg hr] at hfield ⊢
      obtain rfl := hfield.eq_of_nil
      rw [ih hrest hnodup ((List.mem_cons.1 hno).resolve_left hr)]
      rfl

end Schema

/-! ### Reading what was written -/

section Encode

variable {r : Record} {rs : List Record} {bs : Bytes}

theorem encode_cons_eq_some : encode (r :: rs) = some bs ↔
    ∃ b c, r.encode = some b ∧ encode rs = some c ∧ bs = b ++ c := by
  simp only [encode, List.mapM_cons, Option.map_eq_some_iff, Option.bind_eq_bind,
    Option.bind_eq_some_iff, Option.pure_def, Option.some.injEq]
  constructor
  · rintro ⟨_, ⟨b, hb, cs, hcs, rfl⟩, rfl⟩
    exact ⟨b, cs.flatten, hb, ⟨cs, hcs, rfl⟩, rfl⟩
  · rintro ⟨b, _, hb, ⟨cs, hcs, rfl⟩, rfl⟩
    exact ⟨b :: cs, ⟨b, hb, cs, hcs, rfl⟩, rfl⟩

theorem Record.encode_eq_some : r.encode = some bs ↔
    ∃ t, tag.write (r.no, r.wireType) = some t ∧ t ++ r.payload = bs :=
  Option.map_eq_some_iff

theorem Record.encode_length (h : r.encode = some bs) : 0 < bs.length := by
  obtain ⟨t, ht, rfl⟩ := Record.encode_eq_some.1 h
  have hpos := List.length_pos_iff.2 (tag_ne_nil ht)
  rw [List.length_append]
  omega

end Encode

namespace Schema

variable {B : Type} {s : Schema B} {b b' : B} {r : Record} {rs : List Record} {bs : Bytes}

/-- The records that are kept, as the message keeps them. -/
def Kept (s : Schema B) (rs : List Record) (us : List (UnknownField s.nos)) : Prop :=
  us.map UnknownField.record = rs.filter fun r => r.no ∉ s.nos

theorem readRecord_encode (hnodup : s.nos.Nodup) (h : s.Merged b [r] b')
    (hskips : r.no ∉ s.nos → Skips skip r.wireType r.payload) (he : r.encode = some bs) :
    ∃ us, s.Kept [r] us ∧ ∀ us₀ rest,
      s.readRecord (b, us₀) (bs ++ rest) = some ((b', us₀ ++ us), rest) := by
  obtain ⟨t, ht, rfl⟩ := Record.encode_eq_some.1 he
  by_cases hno : r.no ∈ s.nos
  · refine ⟨[], by simp [Kept, hno], fun us₀ rest => ?_⟩
    unfold readRecord
    rw [List.append_assoc, tag.read_write ht]
    simp only [Option.bind_some, readPayload, dif_pos hno, h.readField hnodup hno, Option.map_some,
      List.append_nil, Prod.map, id]
  · refine ⟨[⟨r.no, r.wireType, r.payload, hno, hskips hno⟩],
      by simp [Kept, hno, UnknownField.record], fun us₀ rest => ?_⟩
    obtain rfl : b' = b := h.eq_of_forall fun r' hr' => by
      obtain rfl := List.mem_singleton.1 hr'
      exact hno
    unfold readRecord
    rw [List.append_assoc, tag.read_write ht]
    simp only [Option.bind_some, readPayload, dif_neg hno, Option.map_some,
      UnknownField.read_of_skips hno (hskips hno), Prod.map, id]

/-- The loop reads the records that were written, `read` bytes after it began. -/
theorem readRecords_encode (hnodup : s.nos.Nodup) (h : s.Merged b rs b')
    (hskips : ∀ r ∈ rs, r.no ∉ s.nos → Skips skip r.wireType r.payload)
    (he : encode rs = some bs) :
    ∃ us, s.Kept rs us ∧ ∀ read fuel us₀ rest, bs.length ≤ fuel →
      s.readRecords (read + (bs.length + rest.length)) (read + bs.length) fuel (b, us₀)
        (bs ++ rest) = some ((b', us₀ ++ us), rest) := by
  induction rs generalizing b bs with
  | nil =>
    obtain rfl : [] = bs := Option.some.inj he
    obtain rfl : b' = b := h.eq_of_forall fun _ hr => absurd hr List.not_mem_nil
    refine ⟨[], rfl, fun read fuel us₀ rest _ => ?_⟩
    unfold readRecords
    rw [if_neg (by simp), List.append_nil, List.nil_append]
  | cons r rs ih =>
    obtain ⟨c, cs, hr, hrs, rfl⟩ := encode_cons_eq_some.1 he
    obtain ⟨b₁, hfirst, hmerged⟩ := Merged.cons_iff.1 h
    obtain ⟨us, hus, hread⟩ :=
      readRecord_encode hnodup hfirst (hskips r List.mem_cons_self) hr
    obtain ⟨us', hus', hloop⟩ :=
      ih hmerged (fun r hr => hskips r (List.mem_cons_of_mem _ hr)) hrs
    have hpos := Record.encode_length hr
    refine ⟨us ++ us', ?_, fun read fuel us₀ rest hfuel => ?_⟩
    · unfold Kept at *
      rw [List.map_append, hus, hus', ← List.filter_append, List.singleton_append]
    · rw [List.length_append] at hfuel ⊢
      obtain ⟨fuel, rfl⟩ : ∃ n, fuel = n + 1 := ⟨fuel - 1, by omega⟩
      have hgo : read + (c.length + cs.length + rest.length) - (c ++ (cs ++ rest)).length <
          read + (c.length + cs.length) := by
        simp only [List.length_append]
        omega
      have hrest := hloop (read + c.length) fuel (us₀ ++ us) rest (by omega)
      rw [Nat.add_assoc, Nat.add_assoc, ← Nat.add_assoc c.length, List.append_assoc] at hrest
      unfold readRecords
      rw [List.append_assoc, if_pos hgo, hread]
      exact hrest

theorem readField_length {no : ℕ} {reader rest : Bytes}
    (h : s.readField no b reader = some (b', rest)) : rest.length ≤ reader.length := by
  induction s with
  | nil => cases h
  | field fieldNo type s ih =>
    obtain ⟨a, b⟩ := b
    unfold readField at h
    split at h
    · obtain ⟨⟨a', reader'⟩, hmerge, heq⟩ := Option.map_eq_some_iff.1 h
      obtain ⟨-, rfl⟩ := Prod.mk.inj heq
      exact type.merge_length hmerge
    · obtain ⟨⟨c, reader'⟩, hrest, heq⟩ := Option.map_eq_some_iff.1 h
      obtain ⟨-, rfl⟩ := Prod.mk.inj heq
      exact ih hrest

theorem readRecord_length {x y : s.State} {reader rest : Bytes}
    (h : s.readRecord x reader = some (y, rest)) : rest.length < reader.length := by
  obtain ⟨⟨⟨no, wireType⟩, reader'⟩, htag, h⟩ := Option.bind_eq_some_iff.1 h
  refine Nat.lt_of_le_of_lt ?_ (tag.read_length htag)
  dsimp only [readPayload] at h
  split at h
  · obtain ⟨⟨c, reader''⟩, hfield, heq⟩ := Option.map_eq_some_iff.1 h
    obtain ⟨-, rfl⟩ := Prod.mk.inj heq
    exact readField_length hfield
  · obtain ⟨⟨u, reader''⟩, hread, heq⟩ := Option.map_eq_some_iff.1 h
    obtain ⟨-, rfl⟩ := Prod.mk.inj heq
    obtain ⟨⟨data, reader'''⟩, _, hskip, heq⟩ := Option.pmap_eq_some_iff.1 hread
    obtain ⟨-, rfl⟩ := Prod.mk.inj heq
    exact skip_length hskip

theorem readRecords_length {start length fuel : ℕ} {x y : s.State} {reader rest : Bytes}
    (h : s.readRecords start length fuel x reader = some (y, rest)) :
    rest.length ≤ reader.length := by
  induction fuel generalizing x reader with
  | zero =>
    unfold readRecords at h
    split at h
    · cases h
    · obtain ⟨-, rfl⟩ := Prod.mk.inj (Option.some.inj h)
      exact le_rfl
  | succ fuel ih =>
    unfold readRecords at h
    split at h
    · obtain ⟨⟨z, reader'⟩, hread, h⟩ := Option.bind_eq_some_iff.1 h
      exact (ih h).trans (Nat.le_of_lt (readRecord_length hread))
    · obtain ⟨-, rfl⟩ := Prod.mk.inj (Option.some.inj h)
      exact le_rfl

/-- The loop does not run out of fuel: it does with as much as there are bytes what it does with
more. -/
theorem readRecords_succ (start length : ℕ) {fuel : ℕ} {x : s.State} {reader : Bytes}
    (h : reader.length ≤ fuel) : s.readRecords start length (fuel + 1) x reader =
      s.readRecords start length fuel x reader := by
  induction fuel generalizing x reader with
  | zero =>
    obtain rfl := List.length_eq_zero_iff.1 (Nat.le_zero.1 h)
    have hnone : s.readRecord x [] = none := by
      by_contra hsome
      obtain ⟨⟨y, rest⟩, hy⟩ := Option.ne_none_iff_exists'.1 hsome
      exact Nat.not_lt_zero _ (readRecord_length hy)
    unfold readRecords
    rw [hnone]
    rfl
  | succ fuel ih =>
    unfold readRecords
    split
    · refine Option.bind_congr fun y hy => ?_
      exact ih (Nat.le_of_lt_succ (Nat.lt_of_lt_of_le (readRecord_length hy) h))
    · rfl

theorem no_mem_of_records (h : s.records b = some rs) : ∀ r ∈ rs, r.no ∈ s.nos := by
  induction s generalizing rs with
  | nil =>
    obtain rfl := Option.some.inj h
    exact fun r hr => absurd hr List.not_mem_nil
  | field no type s ih =>
    obtain ⟨ps, hps, h⟩ := Option.bind_eq_some_iff.1 h
    obtain ⟨rs', hrs', rfl⟩ := Option.map_eq_some_iff.1 h
    intro r hr
    rcases List.mem_append.1 hr with hr | hr
    · obtain ⟨p, _, rfl⟩ := List.mem_map.1 hr
      exact List.mem_cons_self
    · exact List.mem_cons_of_mem _ (ih hrs' r hr)

theorem skips_of_records (h : s.records b = some rs) :
    ∀ r ∈ rs, Skips skip r.wireType r.payload := by
  induction s generalizing rs with
  | nil =>
    obtain rfl := Option.some.inj h
    exact fun r hr => absurd hr List.not_mem_nil
  | field no type s ih =>
    obtain ⟨ps, hps, h⟩ := Option.bind_eq_some_iff.1 h
    obtain ⟨rs', hrs', rfl⟩ := Option.map_eq_some_iff.1 h
    intro r hr
    rcases List.mem_append.1 hr with hr | hr
    · obtain ⟨p, hp, rfl⟩ := List.mem_map.1 hr
      exact type.skips hps p hp
    · exact ih hrs' r hr

/-- The records that a message was written as give its fields again. -/
theorem merged_of_records (hnodup : s.nos.Nodup) (h : s.records b = some rs) :
    s.Merged s.create rs b := by
  induction s generalizing rs with
  | nil => trivial
  | field no type s ih =>
    obtain ⟨a, b⟩ := b
    obtain ⟨hno, hnodup⟩ := List.nodup_cons.1 hnodup
    obtain ⟨ps, hps, h⟩ := Option.bind_eq_some_iff.1 h
    obtain ⟨rs', hrs', rfl⟩ := Option.map_eq_some_iff.1 h
    have hother : ∀ r ∈ rs', r.no ≠ no := fun r hr hr' =>
      hno (hr' ▸ no_mem_of_records hrs' r hr)
    refine ⟨?_, (ih hnodup hrs').congr fun no' hno' => ?_⟩
    · rw [payloadsOf_append, payloadsOf_mk, payloadsOf_eq_nil hother, List.append_nil]
      exact type.merges hps
    · have hne : ∀ r ∈ ps.map (Record.mk no type.wireType), r.no ≠ no' := by
        intro r hr hr'
        obtain ⟨p, _, rfl⟩ := List.mem_map.1 hr
        obtain rfl : no = no' := hr'
        exact hno hno'
      rw [payloadsOf_append, payloadsOf_eq_nil hne, List.nil_append]

end Schema

namespace UnknownField

variable {nos : List ℕ} {us us' : List (UnknownField nos)}

theorem map_record_injective (h : us.map record = us'.map record) : us = us' :=
  List.map_injective_iff.2 record_injective h

theorem filter_record : (us.map record).filter (fun r => r.no ∉ nos) = us.map record := by
  refine List.filter_eq_self.2 fun r hr => ?_
  obtain ⟨u, _, rfl⟩ := List.mem_map.1 hr
  exact decide_eq_true u.unknown

theorem payloadsOf_record {no : ℕ} (hno : no ∈ nos) : payloadsOf no (us.map record) = [] := by
  refine payloadsOf_eq_nil fun r hr hr' => ?_
  obtain ⟨u, _, rfl⟩ := List.mem_map.1 hr
  obtain rfl : u.no = no := hr'
  exact u.unknown hno

end UnknownField

namespace MessageType

variable {M : Type} (T : MessageType M) {message : M} {bs : Bytes}

/-- Records that make up a message are read as that message; those that the schema does not have are
kept in their order. -/
theorem internalBinaryRead_encode {rs : List Record} {b : T.Fields}
    (h : T.schema.Merged T.schema.create rs b)
    (hskips : ∀ r ∈ rs, Skips skip r.wireType r.payload) (he : encode rs = some bs) :
    ∃ us, T.schema.Kept rs us ∧ ∀ rest,
      T.internalBinaryRead (bs ++ rest) bs.length T.create = some (T.parts.symm (b, us), rest) := by
  obtain ⟨us, hus, hread⟩ :=
    Schema.readRecords_encode T.nodup h (fun r hr _ => hskips r hr) he
  refine ⟨us, hus, fun rest => ?_⟩
  have hloop := hread 0 (bs ++ rest).length [] rest (by simp)
  rw [Nat.zero_add, Nat.zero_add, List.nil_append, ← List.length_append] at hloop
  unfold internalBinaryRead create
  rw [Equiv.apply_symm_apply, hloop]
  rfl

section Records

variable {T} {all : List Record}

theorem merged_of_records (h : T.records message = some all) :
    T.schema.Merged T.schema.create all (T.parts message).1 := by
  obtain ⟨rs, hrs, rfl⟩ := Option.map_eq_some_iff.1 h
  refine (Schema.merged_of_records T.nodup hrs).congr fun no hno => ?_
  rw [payloadsOf_append, UnknownField.payloadsOf_record hno, List.append_nil]

theorem skips_of_records (h : T.records message = some all) :
    ∀ r ∈ all, Skips skip r.wireType r.payload := by
  obtain ⟨rs, hrs, rfl⟩ := Option.map_eq_some_iff.1 h
  intro r hr
  rcases List.mem_append.1 hr with hr | hr
  · exact Schema.skips_of_records hrs r hr
  · obtain ⟨u, _, rfl⟩ := List.mem_map.1 hr
    exact u.skips

theorem kept_of_records (h : T.records message = some all) :
    T.schema.Kept all (T.parts message).2 := by
  obtain ⟨rs, hrs, rfl⟩ := Option.map_eq_some_iff.1 h
  have hknown : rs.filter (fun r => r.no ∉ T.schema.nos) = [] :=
    List.filter_eq_nil_iff.2 fun r hr => by simpa using Schema.no_mem_of_records hrs r hr
  unfold Schema.Kept
  rw [List.filter_append, hknown, List.nil_append, UnknownField.filter_record]

end Records

theorem internalBinaryRead_of_records {rs : List Record}
    (h : T.schema.Merged T.schema.create rs (T.parts message).1)
    (hskips : ∀ r ∈ rs, Skips skip r.wireType r.payload)
    (hkept : T.schema.Kept rs (T.parts message).2) (he : encode rs = some bs) (rest : Bytes) :
    T.internalBinaryRead (bs ++ rest) bs.length T.create = some (message, rest) := by
  obtain ⟨us, hus, hread⟩ := T.internalBinaryRead_encode h hskips he
  have hsame : us = (T.parts message).2 :=
    UnknownField.map_record_injective (hus.trans hkept.symm)
  rw [hread, hsame, Prod.mk.eta, Equiv.symm_apply_apply]

theorem internalBinaryRead_write (h : T.internalBinaryWrite message = some bs) (rest : Bytes) :
    T.internalBinaryRead (bs ++ rest) bs.length T.create = some (message, rest) := by
  obtain ⟨all, hall, he⟩ := Option.bind_eq_some_iff.1 h
  exact T.internalBinaryRead_of_records (merged_of_records hall) (skips_of_records hall)
    (kept_of_records hall) he rest

end MessageType

end Protobuf

end DeviceHub
