import DeviceHub.Protobuf.Runtime

/-!
# The documented encoding

Numbers are written seven bits a byte, the tag of a record as one number with the wire type in its
lowest three bits, and strings and bytes after their length.

## Main definitions

* `readVarint`, `readDelimited` : readers for what `varint` and a length say.
* `Local` : what a reader does is decided by the bytes that it takes.
* `Standard.runtime` : the runtime library with these.
-/

namespace DeviceHub

namespace Protobuf

variable {A B : Type}

/-- A reader takes a beginning of the bytes, and does not look further. -/
def Local (read : Bytes → Option (A × Bytes)) : Prop :=
  ∀ bs a rest, read bs = some (a, rest) →
    ∃ taken, bs = taken ++ rest ∧ ∀ rest', read (taken ++ rest') = some (a, rest')

/-- The bytes that a reader takes. -/
def skipBy (read : Bytes → Option (A × Bytes)) (bs : Bytes) : Option (Bytes × Bytes) :=
  (read bs).map fun x => (bs.take (bs.length - x.2.length), x.2)

theorem skipBy_of_read {read : Bytes → Option (A × Bytes)} {a : A} {taken rest : Bytes}
    (h : read (taken ++ rest) = some (a, rest)) :
    skipBy read (taken ++ rest) = some (taken, rest) := by
  unfold skipBy
  rw [h, Option.map_some, List.length_append, Nat.add_sub_cancel, List.take_left]

theorem Local.skipBy_eq {read : Bytes → Option (A × Bytes)} (h : Local read)
    {bs data rest : Bytes} (hskip : skipBy read bs = some (data, rest)) :
    bs = data ++ rest ∧ ∀ rest', skipBy read (data ++ rest') = some (data, rest') := by
  obtain ⟨⟨a, rest'⟩, hread, heq⟩ := Option.map_eq_some_iff.1 hskip
  obtain ⟨hdata, rfl⟩ := Prod.mk.inj heq
  obtain ⟨taken, rfl, hlocal⟩ := h _ _ _ hread
  obtain rfl : taken = data := by simpa using hdata
  exact ⟨rfl, fun rest' => skipBy_of_read (hlocal rest')⟩

theorem Local.bind {f : Bytes → Option (A × Bytes)} {g : A → Bytes → Option (B × Bytes)}
    (hf : Local f) (hg : ∀ a, Local (g a)) :
    Local fun bs => (f bs).bind fun x => g x.1 x.2 := by
  intro bs b rest h
  obtain ⟨⟨a, rest'⟩, hread, hrest⟩ := Option.bind_eq_some_iff.1 h
  obtain ⟨taken, rfl, hlocal⟩ := hf _ _ _ hread
  obtain ⟨taken', rfl, hlocal'⟩ := hg a _ _ _ hrest
  refine ⟨taken ++ taken', by rw [List.append_assoc], fun rest'' => ?_⟩
  dsimp only
  rw [List.append_assoc, hlocal, Option.bind_some, hlocal']

/-! ### Numbers -/

/-- A number in groups of seven bits, the low ones first. -/
def readVarint : Bytes → Option (ℕ × Bytes)
  | [] => none
  | b :: bs =>
    if b.toNat < 128 then some (b.toNat, bs)
    else (readVarint bs).map (Prod.map (fun n => b.toNat - 128 + n * 128) id)

theorem readVarint_varint (n : ℕ) (rest : Bytes) : readVarint (varint n ++ rest) = some (n, rest) := by
  induction n using Nat.strongRecOn with
  | ind n ih =>
    by_cases hn : n < 128
    · have hbyte : (UInt8.ofNat n).toNat = n := by
        rw [UInt8.toNat_ofNat']
        omega
      rw [varint_of_lt hn, List.singleton_append, readVarint, hbyte, if_pos hn]
    · have hbyte : (UInt8.ofNat (128 + n % 128)).toNat = 128 + n % 128 := by
        rw [UInt8.toNat_ofNat']
        omega
      rw [varint_of_le (Nat.not_lt.1 hn), List.cons_append, readVarint, hbyte,
        if_neg (by omega), ih (n / 128) (by omega)]
      simp only [Option.map_some, Prod.map, id]
      congr 2
      omega

theorem readVarint_local : Local readVarint := by
  intro bs n rest h
  induction bs generalizing n with
  | nil => cases h
  | cons b bs ih =>
    unfold readVarint at h
    split at h
    · rename_i hb
      obtain ⟨rfl, rfl⟩ := Prod.mk.inj (Option.some.inj h)
      refine ⟨[b], rfl, fun rest' => ?_⟩
      rw [List.singleton_append, readVarint, if_pos hb]
    · rename_i hb
      obtain ⟨⟨m, rest'⟩, hread, heq⟩ := Option.map_eq_some_iff.1 h
      obtain ⟨rfl, rfl⟩ := Prod.mk.inj heq
      obtain ⟨taken, rfl, hlocal⟩ := ih m hread
      refine ⟨b :: taken, rfl, fun rest'' => ?_⟩
      rw [List.cons_append, readVarint, if_neg hb, hlocal]
      rfl

theorem readVarint_length {n : ℕ} {bs rest : Bytes} (h : readVarint bs = some (n, rest)) :
    rest.length < bs.length := by
  induction bs generalizing n with
  | nil => cases h
  | cons b bs ih =>
    unfold readVarint at h
    split at h
    · obtain ⟨-, rfl⟩ := Prod.mk.inj (Option.some.inj h)
      exact Nat.lt_succ_self _
    · obtain ⟨⟨m, rest'⟩, hread, heq⟩ := Option.map_eq_some_iff.1 h
      obtain ⟨-, rfl⟩ := Prod.mk.inj heq
      exact (ih hread).trans (Nat.lt_succ_self _)

/-! ### Bytes after their length -/

/-- So many bytes. -/
def readN (n : ℕ) (bs : Bytes) : Option (Bytes × Bytes) :=
  if n ≤ bs.length then some (bs.take n, bs.drop n) else none

theorem readN_eq_some {n : ℕ} {bs data rest : Bytes} :
    readN n bs = some (data, rest) ↔ data.length = n ∧ bs = data ++ rest := by
  unfold readN
  constructor
  · intro h
    split at h
    · obtain ⟨rfl, rfl⟩ := Prod.mk.inj (Option.some.inj h)
      exact ⟨List.length_take_of_le ‹_›, (List.take_append_drop n bs).symm⟩
    · cases h
  · rintro ⟨rfl, rfl⟩
    rw [if_pos (by simp), List.take_left, List.drop_left]

theorem readN_local (n : ℕ) : Local (readN n) := by
  intro bs data rest h
  obtain ⟨hlength, rfl⟩ := readN_eq_some.1 h
  exact ⟨data, rfl, fun rest' => readN_eq_some.2 ⟨hlength, rfl⟩⟩

/-- Bytes after their number. -/
def readDelimited (bs : Bytes) : Option (Bytes × Bytes) :=
  (readVarint bs).bind fun x => readN x.1 x.2

theorem readDelimited_append (data rest : Bytes) :
    readDelimited (varint data.length ++ data ++ rest) = some (data, rest) := by
  unfold readDelimited
  rw [List.append_assoc, readVarint_varint, Option.bind_some]
  exact readN_eq_some.2 ⟨rfl, rfl⟩

theorem readDelimited_length {bs data rest : Bytes} (h : readDelimited bs = some (data, rest)) :
    rest.length < bs.length := by
  obtain ⟨⟨n, bs'⟩, hlength, h⟩ := Option.bind_eq_some_iff.1 h
  obtain ⟨-, hbs⟩ := readN_eq_some.1 h
  have hlt := readVarint_length hlength
  rw [show bs' = data ++ rest from hbs, List.length_append] at hlt
  omega

/-! ### The runtime library -/

namespace WireType

/-- The number of a wire type in a tag. -/
def toNat : WireType → ℕ
  | varint => 0
  | bit64 => 1
  | lengthDelimited => 2
  | startGroup => 3
  | endGroup => 4
  | bit32 => 5

/-- The wire type with this number. -/
def ofNat? : ℕ → Option WireType
  | 0 => some varint
  | 1 => some bit64
  | 2 => some lengthDelimited
  | 3 => some startGroup
  | 4 => some endGroup
  | 5 => some bit32
  | _ => none

theorem ofNat?_toNat (w : WireType) : ofNat? w.toNat = some w := by cases w <;> rfl

theorem toNat_lt (w : WireType) : w.toNat < 8 := by cases w <;> decide

end WireType

namespace Standard

/-- Groups, which the generated classes do not write, are not skipped. -/
def skip : WireType → Bytes → Option (Bytes × Bytes)
  | .varint => skipBy readVarint
  | .bit64 => skipBy (readN 8)
  | .lengthDelimited => skipBy readDelimited
  | .bit32 => skipBy (readN 4)
  | .startGroup | .endGroup => fun _ => none

theorem skip_eq {wireType : WireType} {bs data rest : Bytes}
    (h : skip wireType bs = some (data, rest)) :
    bs = data ++ rest ∧ Skips skip wireType data := by
  cases wireType with
  | varint => exact readVarint_local.skipBy_eq h
  | bit64 => exact (readN_local 8).skipBy_eq h
  | lengthDelimited => exact (readVarint_local.bind readN_local).skipBy_eq h
  | startGroup => cases h
  | endGroup => cases h
  | bit32 => exact (readN_local 4).skipBy_eq h

theorem skips_delimited (data : Bytes) :
    Skips skip .lengthDelimited (varint data.length ++ data) := fun rest =>
  skipBy_of_read (readDelimited_append data rest)

/-- A number that stands for a value, read again by `value`. -/
def scalar (number : A → Option ℕ) (value : ℕ → A)
    (h : ∀ {a n}, number a = some n → value n = a) : Scalar skip .varint A where
  write a := (number a).map varint
  read bs := (readVarint bs).map (Prod.map value id)
  read_write {a bs} hwrite rest := by
    obtain ⟨n, hn, rfl⟩ := Option.map_eq_some_iff.1 hwrite
    rw [readVarint_varint, Option.map_some, Prod.map, h hn]
    rfl
  read_length {a bs rest} hread := by
    obtain ⟨⟨n, rest'⟩, hn, heq⟩ := Option.map_eq_some_iff.1 hread
    obtain ⟨-, rfl⟩ := Prod.mk.inj heq
    exact readVarint_length hn
  skips {a bs} hwrite rest := by
    obtain ⟨n, hn, rfl⟩ := Option.map_eq_some_iff.1 hwrite
    exact skipBy_of_read (readVarint_varint n rest)

/-- Bytes that stand for a value, read again by `value`. -/
def delimited (data : A → Bytes) (value : Bytes → Option A) (h : ∀ a, value (data a) = some a) :
    Scalar skip .lengthDelimited A where
  write a := if (data a).length < 2 ^ 32 then some (varint (data a).length ++ data a) else none
  read bs := (readDelimited bs).bind fun x => (value x.1).map fun a => (a, x.2)
  read_write {a bs} hwrite rest := by
    split at hwrite
    · obtain rfl := Option.some.inj hwrite
      rw [readDelimited_append, Option.bind_some, h a]
      rfl
    · cases hwrite
  read_length {a bs rest} hread := by
    obtain ⟨⟨body, rest'⟩, hbody, hvalue⟩ := Option.bind_eq_some_iff.1 hread
    obtain ⟨a', -, heq⟩ := Option.map_eq_some_iff.1 hvalue
    obtain ⟨-, rfl⟩ := Prod.mk.inj heq
    exact readDelimited_length hbody
  skips {a bs} hwrite := by
    split at hwrite
    · obtain rfl := Option.some.inj hwrite
      exact skips_delimited (data a)
    · cases hwrite

/-- The number of a field has 29 bits, and is not zero. -/
def tag : Codec (ℕ × WireType) where
  write t := if 0 < t.1 ∧ t.1 < 2 ^ 29 then some (varint (t.1 * 8 + t.2.toNat)) else none
  read bs := (readVarint bs).bind fun x =>
    if 0 < x.1 / 8 then (WireType.ofNat? (x.1 % 8)).map fun w => ((x.1 / 8, w), x.2) else none
  read_write {t bs} hwrite rest := by
    obtain ⟨no, w⟩ := t
    have hw := w.toNat_lt
    split at hwrite
    · rename_i hno
      obtain rfl := Option.some.inj hwrite
      have hdiv : (no * 8 + w.toNat) / 8 = no := by omega
      have hmod : (no * 8 + w.toNat) % 8 = w.toNat := by omega
      rw [readVarint_varint, Option.bind_some, hdiv, hmod, if_pos hno.1, WireType.ofNat?_toNat]
      rfl
    · cases hwrite
  read_length {t bs rest} hread := by
    obtain ⟨⟨n, rest'⟩, hn, h⟩ := Option.bind_eq_some_iff.1 hread
    split at h
    · obtain ⟨w, -, heq⟩ := Option.map_eq_some_iff.1 h
      obtain ⟨-, rfl⟩ := Prod.mk.inj heq
      exact readVarint_length hn
    · cases h

/-- `uint32` -/
def uint32 : Scalar skip .varint ℤ :=
  scalar (fun a => if 0 ≤ a ∧ a < 2 ^ 32 then some a.toNat else none) (fun n => n) fun h => by
    split at h
    · obtain rfl := Option.some.inj h
      omega
    · cases h

/-- A negative number is written as one of 64 bits. -/
def int32 : Scalar skip .varint ℤ :=
  scalar (fun a => if -2 ^ 31 ≤ a ∧ a < 2 ^ 31 then some (a % 2 ^ 64).toNat else none)
    (fun n => ((n : ℤ) + 2 ^ 31) % 2 ^ 32 - 2 ^ 31) fun h => by
    split at h
    · obtain rfl := Option.some.inj h
      omega
    · cases h

/-- `bool` -/
def bool : Scalar skip .varint Bool :=
  scalar (fun a => some a.toNat) (fun n => n ≠ 0) fun {a n} h => by
    obtain rfl := Option.some.inj h
    cases a <;> rfl

/-- `bytes` -/
def bytes : Scalar skip .lengthDelimited Bytes := delimited id some fun _ => rfl

/-- A string is written in UTF-8. -/
def string : Scalar skip .lengthDelimited String :=
  delimited (fun s => s.toByteArray.data.toList) (fun bs => String.fromUTF8? bs.toByteArray)
    fun s => by
      have hbytes : s.toByteArray.data.toList.toByteArray = s.toByteArray := by
        apply ByteArray.ext
        rw [List.data_toByteArray]
      rw [hbytes]
      exact dif_pos s.isValidUTF8

theorem uint32_eq_some {a : ℤ} {bs : Bytes} (h : uint32.write a = some bs) :
    ∃ n : ℕ, a = n ∧ varint n = bs := by
  obtain ⟨n, hn, hbs⟩ := Option.map_eq_some_iff.1 h
  dsimp only at hn
  split at hn
  · obtain rfl := Option.some.inj hn
    exact ⟨a.toNat, by omega, hbs⟩
  · cases hn

theorem skips_join {body length : Bytes} (h : uint32.write body.length = some length) :
    Skips skip .lengthDelimited (length ++ body) := by
  obtain ⟨n, hn, rfl⟩ := uint32_eq_some h
  obtain rfl : body.length = n := Int.ofNat.inj hn
  exact skips_delimited body

/-- The documented encoding. -/
scoped instance runtime : BinaryRuntime where
  tag := tag
  skip := skip
  skip_eq := skip_eq
  string := string
  bytes := bytes
  uint32 := uint32
  int32 := int32
  bool := bool
  skips_join := skips_join

end Standard

end Protobuf

end DeviceHub
