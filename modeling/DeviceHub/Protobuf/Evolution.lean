import DeviceHub.Protobuf.Fields
import Mathlib.Data.Prod.Basic

/-!
# Versions of a message class

A later version of a message class has more fields.  A reader that has the earlier version keeps the
records of the fields that it does not know, and writes them after those that it knows.

## Main definitions

* `Older` : the fields of one schema are among those of another one.

## Main results

* `MessageType.fromBinary_of_older` : a message loses nothing on its way through the earlier
  version, which has the fields that it knows.
-/

namespace DeviceHub

namespace Protobuf

/-- Records that are sorted by whether their number is in a list keep their order where it
matters. -/
theorem payloadsOf_partition {no : ℕ} (nos : List ℕ) (rs : List Record) :
    payloadsOf no (rs.filter (fun r => r.no ∈ nos) ++ rs.filter fun r => r.no ∉ nos) =
      payloadsOf no rs := by
  rw [payloadsOf_append]
  induction rs with
  | nil => rfl
  | cons r rs ih =>
    by_cases hr : r.no ∈ nos
    · rw [List.filter_cons_of_pos (by simpa using hr), List.filter_cons_of_neg (by simpa using hr),
        payloadsOf_cons, payloadsOf_cons, ← ih]
      split <;> rfl
    · rw [List.filter_cons_of_neg (by simpa using hr), List.filter_cons_of_pos (by simpa using hr),
        payloadsOf_cons, payloadsOf_cons, ← ih]
      split
      · rename_i hno
        have hnone : payloadsOf no (rs.filter fun r => r.no ∈ nos) = [] :=
          payloadsOf_eq_nil fun r' hr' hno' => by
            have hmem := of_decide_eq_true (List.mem_filter.1 hr').2
            exact hr (hno ▸ hno' ▸ hmem)
        rw [hnone]
        rfl
      · rfl

variable [BinaryRuntime]

/-- The second schema has the fields of the first one, in their order, and more; the function
forgets the values of those. -/
inductive Older : {B C : Type} → Schema B → Schema C → (C → B) → Prop
  | nil : Older .nil .nil id
  | keep {A B C : Type} {s : Schema B} {s' : Schema C} {f : C → B} (no : ℕ) (type : FieldType A) :
      Older s s' f → Older (.field no type s) (.field no type s') (Prod.map id f)
  | new {A B C : Type} {s : Schema B} {s' : Schema C} {f : C → B} (no : ℕ) (type : FieldType A) :
      Older s s' f → Older s (.field no type s') (f ∘ Prod.snd)

namespace Older

variable {B C : Type} {s : Schema B} {s' : Schema C} {f : C → B}

theorem nos_subset (h : Older s s' f) : s.nos ⊆ s'.nos := by
  induction h with
  | nil => exact fun _ hno => hno
  | keep no type _ ih => exact List.cons_subset_cons no ih
  | new no type _ ih => exact fun _ hno => List.mem_cons_of_mem _ (ih hno)

theorem create_eq (h : Older s s' f) : f s'.create = s.create := by
  induction h with
  | nil => rfl
  | keep no type _ ih => exact congrArg (Prod.mk type.initial) ih
  | new no type _ ih => exact ih

theorem merged (h : Older s s' f) {b c : C} {rs : List Record} (hmerged : s'.Merged b rs c) :
    s.Merged (f b) rs (f c) := by
  induction h with
  | nil => trivial
  | keep no type _ ih => exact ⟨hmerged.1, ih hmerged.2⟩
  | new no type _ ih => exact ih hmerged.2

/-- The earlier version writes those of the records that it has the numbers of. -/
theorem records (h : Older s s' f) (hnodup : s'.nos.Nodup) {c : C} {rs : List Record}
    (hrs : s'.records c = some rs) :
    s.records (f c) = some (rs.filter fun r => r.no ∈ s.nos) := by
  induction h generalizing rs with
  | nil =>
    obtain rfl : [] = rs := Option.some.inj hrs
    rfl
  | @keep _ _ _ s s' f no type h ih =>
    obtain ⟨a, c⟩ := c
    obtain ⟨hno, hnodup⟩ := List.nodup_cons.1 hnodup
    obtain ⟨ps, hps, hrs⟩ := Option.bind_eq_some_iff.1 hrs
    obtain ⟨tail, htail, rfl⟩ := Option.map_eq_some_iff.1 hrs
    have hown : (ps.map (Record.mk no type.wireType)).filter (fun r => r.no ∈ no :: s.nos) =
        ps.map (Record.mk no type.wireType) := List.filter_eq_self.2 fun r hr => by
      obtain ⟨p, _, rfl⟩ := List.mem_map.1 hr
      simp
    have hrest : tail.filter (fun r => r.no ∈ no :: s.nos) = tail.filter fun r => r.no ∈ s.nos :=
      List.filter_congr fun r hr => by
        have hne : r.no ≠ no := fun hr' => hno (hr' ▸ Schema.no_mem_of_records htail r hr)
        simp [hne]
    simp only [Schema.records, Prod.map, id, hps, ih hnodup htail, Option.bind_some,
      Option.map_some, List.filter_append]
    exact congrArg some (congrArg₂ _ hown.symm hrest.symm)
  | @new _ _ _ s s' f no type h ih =>
    obtain ⟨a, c⟩ := c
    obtain ⟨hno, hnodup⟩ := List.nodup_cons.1 hnodup
    obtain ⟨ps, hps, hrs⟩ := Option.bind_eq_some_iff.1 hrs
    obtain ⟨tail, htail, rfl⟩ := Option.map_eq_some_iff.1 hrs
    have hown : (ps.map (Record.mk no type.wireType)).filter (fun r => r.no ∈ s.nos) = [] :=
      List.filter_eq_nil_iff.2 fun r hr => by
        obtain ⟨p, _, rfl⟩ := List.mem_map.1 hr
        simpa using fun hmem => hno (h.nos_subset hmem)
    rw [List.filter_append, hown, List.nil_append]
    exact ih hnodup htail

end Older

theorem encode_of_forall {rs : List Record} (h : ∀ r ∈ rs, ∃ bs, r.encode = some bs) :
    ∃ bs, encode rs = some bs := by
  induction rs with
  | nil => exact ⟨[], rfl⟩
  | cons r rs ih =>
    obtain ⟨b, hb⟩ := h r List.mem_cons_self
    obtain ⟨bs, hbs⟩ := ih fun r hr => h r (List.mem_cons_of_mem _ hr)
    exact ⟨b ++ bs, encode_cons_eq_some.2 ⟨b, bs, hb, hbs, rfl⟩⟩

theorem exists_encode_of_mem {rs : List Record} {bs : Bytes} (h : encode rs = some bs) :
    ∀ r ∈ rs, ∃ b, r.encode = some b := by
  induction rs generalizing bs with
  | nil => exact fun r hr => absurd hr List.not_mem_nil
  | cons r rs ih =>
    obtain ⟨b, c, hb, hc, -⟩ := encode_cons_eq_some.1 h
    intro r' hr'
    rcases List.mem_cons.1 hr' with rfl | hr'
    · exact ⟨b, hb⟩
    · exact ih hc r' hr'

namespace MessageType

variable {M N : Type} {T : MessageType M} {T' : MessageType N} {f : T'.Fields → T.Fields}
  {message : N} {m : M} {all : List Record} {bs : Bytes}

theorem records_of_older (hold : Older T.schema T'.schema f) (hall : T'.records message = some all)
    (hfields : (T.parts m).1 = f (T'.parts message).1) (hkept : T.schema.Kept all (T.parts m).2) :
    T.records m = some
      (all.filter (fun r => r.no ∈ T.schema.nos) ++ all.filter fun r => r.no ∉ T.schema.nos) := by
  unfold records
  obtain ⟨rs, hrs, rfl⟩ := Option.map_eq_some_iff.1 hall
  have hunknown : ((T'.parts message).2.map UnknownField.record).filter
      (fun r => r.no ∈ T.schema.nos) = [] := List.filter_eq_nil_iff.2 fun r hr => by
    obtain ⟨u, _, rfl⟩ := List.mem_map.1 hr
    exact fun hmem => u.unknown (hold.nos_subset (of_decide_eq_true hmem))
  rw [hfields, hold.records T'.nodup hrs, List.filter_append, hunknown, List.append_nil, ← hkept]
  rfl

theorem kept_partition {us : List (UnknownField T'.schema.nos)} (hold : Older T.schema T'.schema f)
    (h : T'.schema.Kept all us) : T'.schema.Kept
      (all.filter (fun r => r.no ∈ T.schema.nos) ++ all.filter fun r => r.no ∉ T.schema.nos) us := by
  have hold' : ∀ r : Record, r.no ∈ T.schema.nos → r.no ∈ T'.schema.nos := fun r hr =>
    hold.nos_subset hr
  unfold Schema.Kept at *
  rw [h, List.filter_append, List.filter_filter, List.filter_filter]
  have hnone : all.filter (fun r => decide (r.no ∉ T'.schema.nos) && decide (r.no ∈ T.schema.nos)) =
      [] := List.filter_eq_nil_iff.2 fun r _ => by simpa using fun hno hmem => hno (hold' r hmem)
  have hsame : all.filter (fun r => decide (r.no ∉ T'.schema.nos) && decide (r.no ∉ T.schema.nos)) =
      all.filter fun r => r.no ∉ T'.schema.nos := List.filter_congr fun r _ => by
    simpa using fun hno hmem => hno (hold' r hmem)
  rw [hnone, hsame, List.nil_append]

/-- A message that a reader with the earlier version takes up and passes on loses nothing. -/
theorem fromBinary_of_older (hold : Older T.schema T'.schema f)
    (h : T'.toBinary message = some bs) :
    ∃ m, T.fromBinary bs = some m ∧ (T.parts m).1 = f (T'.parts message).1 ∧
      ∃ bs', T.toBinary m = some bs' ∧ T'.fromBinary bs' = some message := by
  obtain ⟨all, hall, he⟩ := Option.bind_eq_some_iff.1 h
  have hmerged := merged_of_records hall
  have hskips := skips_of_records hall
  have hearlier := hold.merged hmerged
  rw [hold.create_eq] at hearlier
  obtain ⟨us, hkept, hread⟩ := T.internalBinaryRead_encode hearlier hskips he
  have hrecords := records_of_older (m := T.parts.symm (f (T'.parts message).1, us)) hold hall
    (by rw [Equiv.apply_symm_apply]) (by rwa [Equiv.apply_symm_apply])
  have hmem : ∀ r ∈ all.filter (fun r => r.no ∈ T.schema.nos) ++
      all.filter fun r => r.no ∉ T.schema.nos, r ∈ all := by
    intro r hr
    rcases List.mem_append.1 hr with hr | hr
    · exact (List.mem_filter.1 hr).1
    · exact (List.mem_filter.1 hr).1
  obtain ⟨bs', he'⟩ := encode_of_forall fun r hr => exists_encode_of_mem he r (hmem r hr)
  refine ⟨_, fromBinary_of_read hread, by rw [Equiv.apply_symm_apply], bs', ?_, ?_⟩
  · exact Option.bind_eq_some_iff.2 ⟨_, hrecords, he'⟩
  · exact fromBinary_of_read (T'.internalBinaryRead_of_records
      (hmerged.congr fun no _ => (payloadsOf_partition T.schema.nos all).symm)
      (fun r hr => hskips r (hmem r hr)) (kept_partition hold (kept_of_records hall)) he')

end MessageType

end Protobuf

end DeviceHub
