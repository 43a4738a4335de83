import Mathlib.Algebra.BigOperators.Group.List.Basic
import Mathlib.Data.List.Nodup
import Mathlib.Tactic.Abel

/-!
# Collections of documents with a unique key

A document store keeps the documents of a collection in an order of its own and has a unique
index on their primary key.  `Collection α` is a list of documents carrying the proof that no
two of them have the same key, so that a lookup by key has at most one answer; an `Update α`
carries the proof that it leaves the key alone.

## Main definitions

* `Keyed`, `Collection`, `Update` : documents, collections and updates.
* `CollOp` : the atomic calls on a collection, with their answers `CollOp.Res` and their
  effect `CollOp.exec`; the updates are written in a language with a meaning (`Updates`).
* `Collection.sumBy` : a quantity summed over the documents; `sumBy_update`, `sumBy_insert`,
  `sumBy_delete` say how the calls change it.
-/

namespace DeviceHub

/-- Documents `α` with a primary key in `κ`. -/
class Keyed (α : Type) (κ : outParam Type) where
  /-- The primary key. -/
  key : α → κ

export Keyed (key)

/-- A collection: its documents, of which no two have the same key. -/
@[ext] structure Collection (α : Type) {κ : Type} [Keyed α κ] where
  /-- The documents in the order in which a scan finds them. -/
  docs : List α
  /-- The unique index on the key. -/
  nodup : (docs.map key).Nodup

/-- A change of a document that keeps its key. -/
structure Update (α : Type) {κ : Type} [Keyed α κ] where
  /-- The changed document. -/
  apply : α → α
  /-- The key is not changed. -/
  key_apply : ∀ a, key (apply a) = key a

variable {α κ : Type} [Keyed α κ]

namespace Collection

theorem nodup_map_update {docs : List α} (h : (docs.map key).Nodup) (q : α → Bool)
    (f : Update α) : ((docs.map fun d => if q d then f.apply d else d).map key).Nodup := by
  have : (docs.map fun d => if q d then f.apply d else d).map key = docs.map key := by
    rw [List.map_map]
    refine List.map_congr_left fun d _ => ?_
    simp only [Function.comp_apply]
    split
    · exact f.key_apply d
    · rfl
  rwa [this]

theorem nodup_append_new {docs : List α} {d : α} (h : (docs.map key).Nodup)
    (hd : key d ∉ docs.map key) : ((docs ++ [d]).map key).Nodup := by
  rw [List.map_append, List.nodup_append]
  refine ⟨h, List.nodup_singleton _, ?_⟩
  rintro a ha b hb rfl
  exact hd (List.mem_singleton.1 hb ▸ ha)

/-- The empty collection. -/
def empty : Collection α := ⟨[], List.nodup_nil⟩

/-- Change every document that satisfies `q`. -/
def updateBy (c : Collection α) (q : α → Bool) (f : Update α) : Collection α :=
  ⟨c.docs.map fun d => if q d then f.apply d else d, nodup_map_update c.nodup q f⟩

variable [DecidableEq κ]

/-- The collection of the documents, if their keys differ. -/
def ofDocs (docs : List α) (h : decide (docs.map key).Nodup = true := by exact .refl true) :
    Collection α :=
  ⟨docs, of_decide_eq_true h⟩

/-- The document with key `k`. -/
def findOne (c : Collection α) (k : κ) : Option α := c.docs.find? fun d => key d = k

/-- Change the document with key `k`. -/
def update (c : Collection α) (k : κ) (f : Update α) : Collection α :=
  c.updateBy (fun d => key d = k) f

/-- Add a document; a document with the same key is kept instead. -/
def insert (c : Collection α) (d : α) : Collection α :=
  if h : key d ∈ c.docs.map key then c else ⟨c.docs ++ [d], nodup_append_new c.nodup h⟩

/-- Remove the document with key `k`. -/
def delete (c : Collection α) (k : κ) : Collection α :=
  ⟨c.docs.filter fun d => key d ≠ k, c.nodup.sublist (List.filter_sublist.map key)⟩

theorem findOne_eq_some {c : Collection α} {k : κ} {d : α} :
    c.findOne k = some d ↔ d ∈ c.docs ∧ key d = k := by
  constructor
  · intro h
    exact ⟨List.mem_of_find?_eq_some h, by simpa using List.find?_some h⟩
  · rintro ⟨hd, rfl⟩
    obtain ⟨docs, hn⟩ := c
    simp only [findOne] at hd ⊢
    induction docs with
    | nil => cases hd
    | cons e docs ih =>
      rw [List.map_cons, List.nodup_cons] at hn
      rcases List.mem_cons.1 hd with rfl | hd'
      · simp
      · have hne : key e ≠ key d := fun he => hn.1 (he ▸ List.mem_map_of_mem hd')
        simpa [hne] using ih hn.2 hd'

theorem findOne_eq_none {c : Collection α} {k : κ} :
    c.findOne k = none ↔ ∀ d ∈ c.docs, key d ≠ k := by
  simp [findOne]

theorem key_of_findOne {c : Collection α} {k : κ} {d : α} (h : c.findOne k = some d) :
    key d = k := (findOne_eq_some.1 h).2

theorem mem_of_findOne {c : Collection α} {k : κ} {d : α} (h : c.findOne k = some d) :
    d ∈ c.docs := (findOne_eq_some.1 h).1

theorem map_findOne_congr {β : Type} {c : Collection α} {k : κ} {f g : α → β}
    (h : ∀ d, key d = k → f d = g d) : (c.findOne k).map f = (c.findOne k).map g :=
  Option.map_congr fun d hd => h d (key_of_findOne hd)

theorem findOne_of_mem {c : Collection α} {d : α} (h : d ∈ c.docs) :
    c.findOne (key d) = some d := findOne_eq_some.2 ⟨h, rfl⟩

theorem eq_of_key_eq {c : Collection α} {d e : α} (hd : d ∈ c.docs) (he : e ∈ c.docs)
    (h : key d = key e) : d = e :=
  Option.some.inj ((findOne_of_mem hd).symm.trans (h ▸ findOne_of_mem he))

/-- The first document with key `k` that satisfies `q`. -/
theorem find?_and_key (c : Collection α) (q : α → Bool) (k : κ) :
    c.docs.find? (fun d => q d && decide (key d = k)) = (c.findOne k).filter q := by
  cases hd : c.findOne k with
  | none =>
    refine List.find?_eq_none.2 fun e he => ?_
    simp [findOne_eq_none.1 hd e he]
  | some d =>
    obtain ⟨hmem, hk⟩ := findOne_eq_some.1 hd
    have honly : ∀ e ∈ c.docs, key e = k → e = d := fun e he hek =>
      eq_of_key_eq he hmem (hek.trans hk.symm)
    by_cases hq : q d = true
    · rw [Option.filter_some_pos hq]
      cases hfind : c.docs.find? fun d => q d && decide (key d = k) with
      | none => simpa [hq, hk] using List.find?_eq_none.1 hfind d hmem
      | some e =>
        have he := List.find?_some hfind
        simp only [Bool.and_eq_true, decide_eq_true_eq] at he
        exact congrArg some (honly e (List.mem_of_find?_eq_some hfind) he.2)
    · rw [Option.filter_some_neg (Bool.eq_false_iff.2 hq)]
      refine List.find?_eq_none.2 fun e he => ?_
      simp only [Bool.and_eq_true, decide_eq_true_eq, not_and]
      intro hqe hek
      exact hq (honly e he hek ▸ hqe)

@[simp] theorem findOne_updateBy (c : Collection α) (q : α → Bool) (f : Update α) (k : κ) :
    (c.updateBy q f).findOne k =
      (c.findOne k).map fun d => if q d then f.apply d else d := by
  obtain ⟨docs, hn⟩ := c
  simp only [findOne, updateBy, List.find?_map]
  congr 2
  funext d
  simp only [Function.comp_apply]
  split <;> simp [f.key_apply]

theorem findOne_update_self {c : Collection α} {k : κ} {d : α} (f : Update α)
    (h : c.findOne k = some d) : (c.update k f).findOne k = some (f.apply d) := by
  simp [update, h, key_of_findOne h]

theorem findOne_update_ne {c : Collection α} {k k' : κ} (f : Update α) (h : k' ≠ k) :
    (c.update k f).findOne k' = c.findOne k' := by
  rw [update, findOne_updateBy]
  cases hd : c.findOne k' with
  | none => rfl
  | some d => simp [key_of_findOne hd, h]

theorem findOne_update (c : Collection α) (k k' : κ) (f : Update α) :
    (c.update k f).findOne k' = if k' = k then (c.findOne k').map f.apply else c.findOne k' := by
  split
  · rename_i h
    subst h
    cases hd : c.findOne k' with
    | none => simp [update, hd]
    | some d => exact findOne_update_self f hd
  · rename_i h
    exact findOne_update_ne f h

theorem exists_findOne_update {c : Collection α} {k k' : κ} {f : Update α} {P : α → Prop} :
    (∃ d ∈ (c.update k f).findOne k', P d) ↔
      k' ≠ k ∧ (∃ d ∈ c.findOne k', P d) ∨ k' = k ∧ ∃ d ∈ c.findOne k, P (f.apply d) := by
  rw [findOne_update]
  split
  · rename_i h
    subst h
    simp
  · rename_i h
    simp [h]

theorem update_of_findOne_none {c : Collection α} {k : κ} (f : Update α)
    (h : c.findOne k = none) : c.update k f = c := by
  ext1
  simp only [update, updateBy]
  conv_rhs => rw [← List.map_id c.docs]
  refine List.map_congr_left fun d hd => ?_
  simp [findOne_eq_none.1 h d hd]

omit [DecidableEq κ] in
theorem mem_updateBy {c : Collection α} {q : α → Bool} {f : Update α} {d : α} :
    d ∈ (c.updateBy q f).docs ↔ ∃ e ∈ c.docs, (if q e then f.apply e else e) = d := by
  simp [updateBy]

theorem mem_update {c : Collection α} {k : κ} {f : Update α} {d : α} :
    d ∈ (c.update k f).docs ↔
      (d ∈ c.docs ∧ key d ≠ k) ∨ ∃ e, c.findOne k = some e ∧ d = f.apply e := by
  rw [update, mem_updateBy]
  constructor
  · rintro ⟨e, he, rfl⟩
    by_cases hk : key e = k
    · exact .inr ⟨e, findOne_eq_some.2 ⟨he, hk⟩, by simp [hk]⟩
    · exact .inl (by simp [hk, he])
  · rintro (⟨hd, hk⟩ | ⟨e, he, rfl⟩)
    · exact ⟨d, hd, by simp [hk]⟩
    · exact ⟨e, mem_of_findOne he, by simp [key_of_findOne he]⟩

theorem insert_of_mem {c : Collection α} {d : α} (h : key d ∈ c.docs.map key) :
    c.insert d = c := dif_pos h

theorem docs_insert {c : Collection α} {d : α} (h : key d ∉ c.docs.map key) :
    (c.insert d).docs = c.docs ++ [d] := by
  rw [insert, dif_neg h]

theorem findOne_eq_none_iff_notMem {c : Collection α} {k : κ} :
    c.findOne k = none ↔ k ∉ c.docs.map key := by
  simp [findOne_eq_none]

theorem findOne_insert_self {c : Collection α} {d : α} (h : c.findOne (key d) = none) :
    (c.insert d).findOne (key d) = some d := by
  refine findOne_eq_some.2 ⟨?_, rfl⟩
  rw [docs_insert (findOne_eq_none_iff_notMem.1 h)]
  exact List.mem_append_right _ (List.mem_singleton_self d)

theorem findOne_insert_ne {c : Collection α} {d : α} {k : κ} (h : k ≠ key d) :
    (c.insert d).findOne k = c.findOne k := by
  rw [insert]
  split
  · rfl
  · simp only [findOne, List.find?_append]
    cases c.docs.find? fun d => decide (key d = k) with
    | none => simp [h.symm]
    | some e => rfl

theorem mem_delete {c : Collection α} {k : κ} {d : α} :
    d ∈ (c.delete k).docs ↔ d ∈ c.docs ∧ key d ≠ k := by
  simp [delete]

@[simp] theorem findOne_delete_self (c : Collection α) (k : κ) :
    (c.delete k).findOne k = none :=
  findOne_eq_none.2 fun _ hd => (mem_delete.1 hd).2

theorem findOne_delete_ne {c : Collection α} {k k' : κ} (h : k' ≠ k) :
    (c.delete k).findOne k' = c.findOne k' := by
  cases hd : c.findOne k' with
  | none => exact findOne_eq_none.2 fun d hd' => findOne_eq_none.1 hd d (mem_delete.1 hd').1
  | some d =>
    have hk := key_of_findOne hd
    exact findOne_eq_some.2 ⟨mem_delete.2 ⟨mem_of_findOne hd, hk ▸ h⟩, hk⟩

theorem delete_of_findOne_none {c : Collection α} {k : κ} (h : c.findOne k = none) :
    c.delete k = c := by
  ext1
  simpa [delete] using findOne_eq_none.1 h

/-! ### The place of a document -/

/-- The documents before and after the one with the key `k`. -/
theorem exists_docs_eq {c : Collection α} {k : κ} {d : α} (h : c.findOne k = some d) :
    ∃ before after, c.docs = before ++ d :: after ∧
      (∀ x ∈ before, key x ≠ k) ∧ ∀ x ∈ after, key x ≠ k := by
  obtain ⟨hd, rfl⟩ := findOne_eq_some.1 h
  obtain ⟨before, after, hdocs⟩ := List.append_of_mem hd
  have hn := c.nodup
  rw [hdocs, List.map_append, List.map_cons, List.nodup_append, List.nodup_cons] at hn
  obtain ⟨-, ⟨hafter, -⟩, hdisjoint⟩ := hn
  refine ⟨before, after, hdocs, fun x hx => ?_, fun x hx he => ?_⟩
  · exact hdisjoint _ (List.mem_map_of_mem hx) _ List.mem_cons_self
  · exact hafter (he ▸ List.mem_map_of_mem hx)

section Place

variable {c : Collection α} {k : κ} {d : α} {before after : List α}

theorem docs_update (hdocs : c.docs = before ++ d :: after) (hd : key d = k)
    (hbefore : ∀ x ∈ before, key x ≠ k) (hafter : ∀ x ∈ after, key x ≠ k) (f : Update α) :
    (c.update k f).docs = before ++ f.apply d :: after := by
  have hsame : ∀ {l : List α}, (∀ x ∈ l, key x ≠ k) →
      l.map (fun x => if key x = k then f.apply x else x) = l := fun {l} hl => by
    conv_rhs => rw [← List.map_id l]
    exact List.map_congr_left fun x hx => if_neg (hl x hx)
  simp only [update, updateBy, hdocs, decide_eq_true_eq]
  rw [List.map_append, List.map_cons, hsame hbefore, hsame hafter, if_pos hd]

theorem docs_delete (hdocs : c.docs = before ++ d :: after) (hd : key d = k)
    (hbefore : ∀ x ∈ before, key x ≠ k) (hafter : ∀ x ∈ after, key x ≠ k) :
    (c.delete k).docs = before ++ after := by
  have hsame : ∀ {l : List α}, (∀ x ∈ l, key x ≠ k) →
      l.filter (fun x => decide (key x ≠ k)) = l := fun hl =>
    List.filter_eq_self.2 fun x hx => decide_eq_true (hl x hx)
  show c.docs.filter _ = _
  rw [hdocs, List.filter_append, List.filter_cons_of_neg (by simp [hd]), hsame hbefore,
    hsame hafter]

end Place

/-! ### Sums over a collection -/

section Sums

variable {G : Type} [AddCommGroup G] (w : α → G)

/-- The sum of `w` over the documents. -/
def sumBy (c : Collection α) : G := (c.docs.map w).sum

theorem sumBy_update {c : Collection α} {k : κ} {d : α} (f : Update α)
    (h : c.findOne k = some d) :
    (c.update k f).sumBy w = c.sumBy w - w d + w (f.apply d) := by
  obtain ⟨before, after, hdocs, hbefore, hafter⟩ := exists_docs_eq h
  rw [sumBy, sumBy, docs_update hdocs (findOne_eq_some.1 h).2 hbefore hafter, hdocs]
  simp only [List.map_append, List.map_cons, List.sum_append, List.sum_cons]
  abel

/-- An update that `w` does not see leaves the sum alone. -/
theorem sumBy_update_of_eq (c : Collection α) (k : κ) {f : Update α}
    (h : ∀ d, w (f.apply d) = w d) : (c.update k f).sumBy w = c.sumBy w := by
  cases hd : c.findOne k with
  | none => rw [update_of_findOne_none f hd]
  | some d =>
    rw [sumBy_update w f hd, h]
    abel

theorem sumBy_insert {c : Collection α} {d : α} (h : c.findOne (key d) = none) :
    (c.insert d).sumBy w = c.sumBy w + w d := by
  rw [sumBy, docs_insert (findOne_eq_none_iff_notMem.1 h)]
  simp [sumBy]

theorem sumBy_delete {c : Collection α} {k : κ} {d : α} (h : c.findOne k = some d) :
    (c.delete k).sumBy w = c.sumBy w - w d := by
  obtain ⟨before, after, hdocs, hbefore, hafter⟩ := exists_docs_eq h
  rw [sumBy, sumBy, docs_delete hdocs (findOne_eq_some.1 h).2 hbefore hafter, hdocs]
  simp only [List.map_append, List.map_cons, List.sum_append, List.sum_cons]
  abel

end Sums

end Collection

/-! ### The calls on a collection -/

/-- A language `υ` of updates of documents `α`. -/
class Updates (υ : Type) (α : outParam Type) {κ : outParam Type} [Keyed α κ] where
  /-- What an update of the language does. -/
  effect : υ → Update α

export Updates (effect)

/-- The atomic calls on a collection of documents `α` with keys `κ`, updates being written in
`υ`. -/
inductive CollOp (α υ κ : Type) : Type where
  /-- Look a document up by its key. -/
  | findOne (k : κ)
  /-- All documents satisfying `q`. -/
  | find (q : α → Bool)
  /-- Change the document with key `k`. -/
  | update (k : κ) (f : υ)
  /-- Change all documents satisfying `q`. -/
  | updateMany (q : α → Bool) (f : υ)
  /-- Add a document. -/
  | insert (d : α)
  /-- Remove the document with key `k`. -/
  | delete (k : κ)

namespace CollOp

variable {υ : Type}

/-- The answers: `update` gives the document before and after the change and `delete` the
removed one, `updateMany` the number of documents matched and `insert` whether the key was
free. -/
@[reducible] def Res : CollOp α υ κ → Type
  | .findOne _ => Option α
  | .find _ => List α
  | .update _ _ => Option (α × α)
  | .updateMany _ _ => Nat
  | .insert _ => Bool
  | .delete _ => Option α

/-- The answer and the effect of a call. -/
def exec [DecidableEq κ] [Updates υ α] :
    (o : CollOp α υ κ) → Collection α → o.Res × Collection α
  | .findOne k, c => (c.findOne k, c)
  | .find q, c => (c.docs.filter q, c)
  | .update k f, c =>
    ((c.findOne k).map fun d => (d, (effect f).apply d), c.update k (effect f))
  | .updateMany q f, c => ((c.docs.filter q).length, c.updateBy q (effect f))
  | .insert d, c => (decide (key d ∉ c.docs.map key), c.insert d)
  | .delete k, c => (c.findOne k, c.delete k)

/-- The calls that change nothing. -/
def IsRead : CollOp α υ κ → Prop
  | .findOne _ => True
  | .find _ => True
  | _ => False

theorem IsRead.exec_snd [DecidableEq κ] [Updates υ α] {o : CollOp α υ κ} (h : o.IsRead)
    (c : Collection α) : (o.exec c).2 = c := by
  cases o <;> first | rfl | exact h.elim

end CollOp

end DeviceHub
