import Mathlib.Data.List.Basic
import Mathlib.Tactic.Common

/-!
# Work that is done in order

A list of tasks in the order in which they were started; `p` says which are done.  Among the tasks
that concern `q` they are done in order when none is done before an earlier one.

## Main definitions

* `DoneInOrder` : no task that concerns `q` is done before an earlier one that does.

## Main results

* `DoneInOrder.modify` : to do the first of the tasks that are not done keeps the order.
* `DoneInOrder.filter_modify` : that task comes after all tasks done before.
* `getElem?_modify_eq_some`, `mem_modify_of_ne`, `forall_mem_middle`, `map_modify_of_eq` : what becomes
  of a list of tasks when one of them changes.
-/

namespace DeviceHub

variable {α β : Type} {p q : α → Bool} {l : List α}

/-! ### Lists of tasks -/

/-- The tasks around the task number `i`. -/
theorem eq_take_append_drop {i : Nat} {a : α} (h : l[i]? = some a) :
    l = l.take i ++ a :: l.drop (i + 1) := by
  obtain ⟨hlt, hget⟩ := List.getElem?_eq_some_iff.1 h
  rw [← hget, List.getElem_cons_drop, List.take_append_drop]

theorem modify_eq_take_append_drop {i : Nat} {a : α} (h : l[i]? = some a) (f : α → α) :
    l.modify i f = l.take i ++ f a :: l.drop (i + 1) := by
  obtain ⟨hlt, hget⟩ := List.getElem?_eq_some_iff.1 h
  rw [List.modify_eq_take_cons_drop hlt, hget]

theorem forall_mem_middle {P : α → Prop} {l' : List α} {a b : α} (h : ∀ c ∈ l ++ a :: l', P c)
    (hb : P b) : ∀ c ∈ l ++ b :: l', P c := by
  rw [List.forall_mem_append, List.forall_mem_cons] at h ⊢
  exact ⟨h.1, hb, h.2.2⟩

theorem getElem?_concat_eq_some {a b : α} {i : Nat} :
    (l ++ [a])[i]? = some b ↔ l[i]? = some b ∨ i = l.length ∧ a = b := by
  rcases Nat.lt_trichotomy i l.length with hlt | rfl | hlt
  · rw [List.getElem?_append_left hlt]
    exact ⟨.inl, fun h => h.resolve_right fun h => absurd h.1 (Nat.ne_of_lt hlt)⟩
  · simp
  · rw [List.getElem?_eq_none (by simpa using Nat.succ_le_of_lt hlt),
      List.getElem?_eq_none (Nat.le_of_lt hlt)]
    exact iff_of_false nofun fun h => h.elim nofun fun h => absurd h.1 (Nat.ne_of_gt hlt)

theorem getElem?_of_prefix {l' : List α} (h : l <+: l') {i : Nat} {a : α} (hi : l[i]? = some a) :
    l'[i]? = some a := by
  obtain ⟨rest, rfl⟩ := h
  rw [List.getElem?_append_left (List.getElem?_eq_some_iff.1 hi).1, hi]

theorem getElem?_modify_of_eq_some {i j : Nat} {a : α} (h : l[j]? = some a) (f : α → α) :
    (l.modify i f)[j]? = some (if i = j then f a else a) := by
  rw [List.getElem?_modify, h]
  rfl

theorem getElem?_modify_self {i : Nat} {a : α} (h : l[i]? = some a) (f : α → α) :
    (l.modify i f)[i]? = some (f a) := by
  rw [getElem?_modify_of_eq_some h, if_pos rfl]

theorem mem_modify_of_ne {i : Nat} {a b : α} (hi : l[i]? = some a) (hb : b ∈ l) (hne : b ≠ a)
    (f : α → α) : b ∈ l.modify i f := by
  obtain ⟨j, hj⟩ := List.mem_iff_getElem?.1 hb
  have hij : i ≠ j := by
    rintro rfl
    exact hne (Option.some.inj (hj.symm.trans hi))
  refine List.mem_of_getElem? (i := j) ?_
  rw [getElem?_modify_of_eq_some hj, if_neg hij]

theorem getElem?_modify_eq_some {i j : Nat} {f : α → α} {b : α} (h : (l.modify i f)[j]? = some b) :
    ∃ a, l[j]? = some a ∧ (i = j ∧ b = f a ∨ i ≠ j ∧ b = a) := by
  rw [List.getElem?_modify] at h
  obtain ⟨a, ha, heq⟩ := Option.map_eq_some_iff.1 h
  refine ⟨a, ha, ?_⟩
  by_cases hij : i = j
  · rw [if_pos hij] at heq
    exact .inl ⟨hij, heq.symm⟩
  · rw [if_neg hij] at heq
    exact .inr ⟨hij, heq.symm⟩

theorem map_modify_of_eq {g : α → β} {f : α → α} (h : ∀ a, g (f a) = g a) (l : List α) (i : Nat) :
    (l.modify i f).map g = l.map g := by
  rcases Option.eq_none_or_eq_some l[i]? with hi | ⟨a, hi⟩
  · rw [List.modify_eq_self (by simpa using hi)]
  · rw [modify_eq_take_append_drop hi]
    conv_rhs => rw [eq_take_append_drop hi]
    rw [List.map_append, List.map_append, List.map_cons, List.map_cons, h]

/-! ### The order -/

/-- No task that concerns `q` is done before an earlier one that does. -/
def DoneInOrder (q p : α → Bool) (l : List α) : Prop :=
  l.Pairwise fun a b => q a = true → q b = true → p b = true → p a = true

theorem doneInOrder_nil : DoneInOrder q p [] := List.Pairwise.nil

theorem DoneInOrder.append (h : DoneInOrder q p l) {a : α} (ha : p a = false) :
    DoneInOrder q p (l ++ [a]) := by
  refine List.pairwise_append.2 ⟨h, List.pairwise_singleton _ _, fun b _ c hc _ _ hdone => ?_⟩
  rw [List.mem_singleton.1 hc, ha] at hdone
  cases hdone

theorem DoneInOrder.not_done (h : DoneInOrder q p l) {i : Nat} {a : α} (hi : l[i]? = some a)
    (hq : q a = true) (ha : p a = false) : ∀ b ∈ l.drop (i + 1), q b = true → p b = false := by
  unfold DoneInOrder at h
  rw [eq_take_append_drop hi, List.pairwise_append, List.pairwise_cons] at h
  intro b hb hqb
  by_contra hdone
  rw [Bool.not_eq_false] at hdone
  have hdone' := h.2.1.1 b hb hq hqb hdone
  rw [ha] at hdone'
  cases hdone'

/-- **A task is done after the tasks that are done already**, if those that it must wait for are. -/
theorem DoneInOrder.filter_modify (h : DoneInOrder q p l) {i : Nat} {a : α} (hi : l[i]? = some a)
    {f : α → α} (hq : q (f a) = q a) (ha : p a = false) (hfa : p (f a) = true) :
    (l.modify i f).filter (fun b => q b && p b) =
      l.filter (fun b => q b && p b) ++ if q a then [f a] else [] := by
  rw [modify_eq_take_append_drop hi]
  conv_rhs => rw [eq_take_append_drop hi]
  have hundone : (a :: l.drop (i + 1)).filter (fun b => q b && p b) =
      (l.drop (i + 1)).filter fun b => q b && p b := List.filter_cons_of_neg (by simp [ha])
  rw [List.filter_append, List.filter_append, hundone]
  by_cases hqa : q a = true
  · have hafter : (l.drop (i + 1)).filter (fun b => q b && p b) = [] := by
      refine List.filter_eq_nil_iff.2 fun b hb hboth => ?_
      obtain ⟨hqb, hpb⟩ := (Bool.and_eq_true _ _).to_iff.1 hboth
      rw [h.not_done hi hqa ha b hb hqb] at hpb
      cases hpb
    rw [List.filter_cons_of_pos (by simp [hq, hqa, hfa]), hafter, List.append_nil, if_pos hqa]
  · rw [List.filter_cons_of_neg (by simp [hq, hqa]), if_neg hqa, List.append_nil]

theorem DoneInOrder.modify (h : DoneInOrder q p l) {i : Nat} {a : α} (hi : l[i]? = some a)
    {f : α → α} (hq : q (f a) = q a) (hfa : p (f a) = true)
    (hfirst : q a = true → ∀ b ∈ l.take i, q b = true → p b = true) :
    DoneInOrder q p (l.modify i f) := by
  unfold DoneInOrder at h ⊢
  rw [eq_take_append_drop hi, List.pairwise_append, List.pairwise_cons] at h
  obtain ⟨hbefore, ⟨-, hafter⟩, hboth⟩ := h
  rw [modify_eq_take_append_drop hi, List.pairwise_append, List.pairwise_cons]
  refine ⟨hbefore, ⟨fun b _ _ _ _ => hfa, hafter⟩, fun b hb c hc hqb hqc hdone => ?_⟩
  rcases List.mem_cons.1 hc with rfl | hc
  · exact hfirst (hq ▸ hqc) b hb hqb
  · exact hboth b hb c (List.mem_cons_of_mem _ hc) hqb hqc hdone

theorem DoneInOrder.modify_of_eq (h : DoneInOrder q p l) {i : Nat} {a : α} (hi : l[i]? = some a)
    {f : α → α} (hq : q (f a) = q a) (hp : p (f a) = p a) : DoneInOrder q p (l.modify i f) := by
  unfold DoneInOrder at h ⊢
  rw [eq_take_append_drop hi, List.pairwise_append, List.pairwise_cons] at h
  rw [modify_eq_take_append_drop hi, List.pairwise_append, List.pairwise_cons]
  obtain ⟨hbefore, ⟨hafter, hrest⟩, hboth⟩ := h
  refine ⟨hbefore, ⟨fun b hb hqa hqb hdone => ?_, hrest⟩, fun b hb c hc hqb hqc hdone => ?_⟩
  · rw [hp]
    exact hafter b hb (hq ▸ hqa) hqb hdone
  · rcases List.mem_cons.1 hc with rfl | hc
    · exact hboth b hb a List.mem_cons_self hqb (hq ▸ hqc) (hp ▸ hdone)
    · exact hboth b hb c (List.mem_cons_of_mem _ hc) hqb hqc hdone

end DeviceHub
