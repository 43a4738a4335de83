import Mathlib.Algebra.BigOperators.Group.List.Basic
import Mathlib.Algebra.GroupWithZero.Nat
import Mathlib.Data.List.Perm.Basic

/-!
# One of several components takes a step

A system of components of the same kind is the list of their states.  `OneOf R l l'` says that one
of them takes a step of `R` and the others stay as they are.

## Main results

* `OneOf.forall_mem` : what every step of a component preserves holds of all of them.
* `OneOf.map_eq` : what no step changes.
* `OneOf.flatMap_perm` : what is collected from all components, when a step adds to it.
* `OneOf.sum_lt` : a measure that every step makes smaller.
-/

namespace DeviceHub

/-- One element changes as `R` says. -/
inductive OneOf {α : Type} (R : α → α → Prop) : List α → List α → Prop
  | here {a a' : α} {l : List α} : R a a' → OneOf R (a :: l) (a' :: l)
  | later {a : α} {l l' : List α} : OneOf R l l' → OneOf R (a :: l) (a :: l')

namespace OneOf

variable {α β : Type} {R : α → α → Prop} {l l' : List α}

theorem of_mem {a a' : α} (h : a ∈ l) (ha : R a a') : ∃ l', OneOf R l l' := by
  induction l with
  | nil => cases h
  | cons b l ih =>
    rcases List.mem_cons.1 h with rfl | h
    · exact ⟨_, .here ha⟩
    · obtain ⟨l', hl'⟩ := ih h
      exact ⟨_, .later hl'⟩

theorem exists_mem (h : OneOf R l l') : ∃ a ∈ l, ∃ a' ∈ l', R a a' := by
  induction h with
  | here ha => exact ⟨_, List.mem_cons_self, _, List.mem_cons_self, ha⟩
  | later _ ih =>
    obtain ⟨a, ha, a', ha', hstep⟩ := ih
    exact ⟨a, List.mem_cons_of_mem _ ha, a', List.mem_cons_of_mem _ ha', hstep⟩

theorem forall_mem {P : α → Prop} (h : OneOf R l l') (hstep : ∀ a a', P a → R a a' → P a')
    (hl : ∀ a ∈ l, P a) : ∀ a ∈ l', P a := by
  induction h with
  | here ha =>
    rw [List.forall_mem_cons] at hl ⊢
    exact ⟨hstep _ _ hl.1 ha, hl.2⟩
  | later _ ih =>
    rw [List.forall_mem_cons] at hl ⊢
    exact ⟨hl.1, ih hl.2⟩

theorem map_eq {f : α → β} (h : OneOf R l l') (hstep : ∀ a a', a ∈ l → R a a' → f a' = f a) :
    l'.map f = l.map f := by
  induction h with
  | here ha => rw [List.map_cons, List.map_cons, hstep _ _ List.mem_cons_self ha]
  | later _ ih =>
    rw [List.map_cons, List.map_cons, ih fun a a' ha => hstep a a' (List.mem_cons_of_mem _ ha)]

theorem flatMap_perm {f : α → List β} {out : List β} (h : OneOf R l l')
    (hstep : ∀ a a', a ∈ l → R a a' → (f a').Perm (f a ++ out)) :
    (l'.flatMap f).Perm (l.flatMap f ++ out) := by
  induction h with
  | @here a a' l ha =>
    have hhead : (f a' ++ l.flatMap f).Perm ((f a ++ out) ++ l.flatMap f) :=
      (hstep _ _ List.mem_cons_self ha).append_right _
    have hmoved : ((f a ++ out) ++ l.flatMap f).Perm ((f a ++ l.flatMap f) ++ out) := by
      rw [List.append_assoc, List.append_assoc]
      exact List.perm_append_comm.append_left _
    exact hhead.trans hmoved
  | later _ ih =>
    rw [List.flatMap_cons, List.flatMap_cons, List.append_assoc]
    exact (ih fun a a' ha => hstep a a' (List.mem_cons_of_mem _ ha)).append_left _

theorem sum_lt {f : α → ℕ} (h : OneOf R l l') (hstep : ∀ a a', R a a' → f a' < f a) :
    (l'.map f).sum < (l.map f).sum := by
  induction h with
  | here ha =>
    have := hstep _ _ ha
    simp only [List.map_cons, List.sum_cons]
    omega
  | later _ ih =>
    simp only [List.map_cons, List.sum_cons]
    omega

end OneOf

end DeviceHub
