import Mathlib.Logic.Relation

/-!
# Readers of a stream

A reader takes from the input that it has not read as much as its state asks for, as soon as there
is that much, and waits otherwise.  How the input arrives makes no difference, as long as the reader
does not stop before it has to wait.

## Main definitions

* `Reader`, `Reader.step` : a reader and what it does with the input.
* `Reader.Steps` : some steps.
* `Reader.norm` : all steps that the input allows.

## Main results

* `Reader.norm_of_steps` : a reader that stops early has the same ahead of it.
* `Reader.norm_push_norm` : the input can be read as it arrives, or when it is there as a whole.
* `Reader.foldl_feed` : the input can be read one by one.
-/

namespace DeviceHub

/-- A reader with states `σ` of a stream of `β`. -/
structure Reader (σ β : Type) where
  /-- How much the state asks for; `none` when it does not read. -/
  need : σ → Option Nat
  /-- The state after what was asked for. -/
  act : σ → List β → σ
  /-- A state that asks for nothing is followed by one that asks for something. -/
  active : ∀ s, need s = some 0 → need (act s []) ≠ some 0

namespace Reader

variable {σ β : Type} (R : Reader σ β)

/-- One step on a state and the input that has not been read; it needs some input, even when it asks
for none. -/
def step (x : σ × List β) : Option (σ × List β) :=
  match R.need x.1 with
  | none => none
  | some n =>
    if x.2 = [] ∨ x.2.length < n then none else some (R.act x.1 (x.2.take n), x.2.drop n)

/-- More input arrives. -/
def push (input : List β) (x : σ × List β) : σ × List β := (x.1, x.2 ++ input)

/-- Some steps. -/
def Steps : σ × List β → σ × List β → Prop := Relation.ReflTransGen fun x y => R.step x = some y

/-- More than the number of steps that the input allows. -/
def fuel (x : σ × List β) : Nat := 2 * x.2.length + if R.need x.1 = some 0 then 1 else 0

/-- So many steps, if the input allows them. -/
def exhaust : Nat → σ × List β → σ × List β
  | 0, x => x
  | n + 1, x =>
    match R.step x with
    | none => x
    | some y => exhaust n y

/-- All steps. -/
def norm (x : σ × List β) : σ × List β := R.exhaust (R.fuel x) x

variable {R} {x y : σ × List β}

theorem step_eq_some : R.step x = some y ↔ ∃ n, R.need x.1 = some n ∧ x.2 ≠ [] ∧ n ≤ x.2.length ∧
    y = (R.act x.1 (x.2.take n), x.2.drop n) := by
  unfold step
  cases hneed : R.need x.1 with
  | none => simp
  | some n =>
    dsimp only
    constructor
    · intro h
      split at h
      · cases h
      · rename_i hgo
        obtain ⟨hne, hle⟩ := not_or.1 hgo
        exact ⟨n, rfl, hne, Nat.not_lt.1 hle, (Option.some.inj h).symm⟩
    · rintro ⟨n', hn, hne, hle, rfl⟩
      obtain rfl := Option.some.inj hn
      exact if_neg (not_or.2 ⟨hne, Nat.not_lt.2 hle⟩)

theorem step_of_need_none (h : R.need x.1 = none) : R.step x = none := by
  rw [step, h]

theorem step_push (h : R.step x = some y) (input : List β) :
    R.step (push input x) = some (push input y) := by
  obtain ⟨n, hneed, hne, hle, rfl⟩ := step_eq_some.1 h
  refine step_eq_some.2 ⟨n, hneed, List.append_ne_nil_of_left_ne_nil hne _, ?_, ?_⟩
  · rw [push, List.length_append]
    omega
  · rw [push, push, List.take_append_of_le_length hle, List.drop_append_of_le_length hle]

theorem fuel_step (h : R.step x = some y) : R.fuel y < R.fuel x := by
  obtain ⟨n, hneed, hne, hle, rfl⟩ := step_eq_some.1 h
  have hpos := List.length_pos_iff.2 hne
  simp only [fuel, List.length_drop, hneed, Option.some.injEq]
  by_cases hzero : n = 0
  · subst hzero
    have hactive : ¬ R.need (R.act x.1 (x.2.take 0)) = some 0 := R.active x.1 hneed
    rw [if_neg hactive, if_pos rfl]
    omega
  · rw [if_neg hzero]
    split <;> omega

/-- More fuel changes nothing. -/
theorem exhaust_of_le {n : Nat} (h : R.fuel x ≤ n) : R.exhaust n x = R.norm x := by
  have hall : ∀ {m n x}, R.fuel x ≤ m → R.fuel x ≤ n → R.exhaust m x = R.exhaust n x := by
    intro m
    induction m with
    | zero =>
      intro n x hm _
      cases hstep : R.step x with
      | none => cases n <;> simp [exhaust, hstep]
      | some y => exact absurd (fuel_step hstep) (by omega)
    | succ m ih =>
      intro n x hm hn
      cases hstep : R.step x with
      | none => cases n <;> simp [exhaust, hstep]
      | some y =>
        have hlt := fuel_step hstep
        obtain ⟨n, rfl⟩ := Nat.exists_eq_add_one_of_ne_zero (by omega : n ≠ 0)
        simp only [exhaust, hstep]
        exact ih (by omega) (by omega)
  exact hall h (Nat.le_refl _)

theorem norm_of_step_none (h : R.step x = none) : R.norm x = x := by
  unfold norm
  cases R.fuel x with
  | zero => rfl
  | succ n => simp [exhaust, h]

theorem norm_of_step (h : R.step x = some y) : R.norm x = R.norm y := by
  have hlt := fuel_step h
  obtain ⟨n, hn⟩ := Nat.exists_eq_add_one_of_ne_zero (by omega : R.fuel x ≠ 0)
  rw [norm, hn, exhaust, h]
  exact exhaust_of_le (by omega)

theorem norm_of_steps (h : R.Steps x y) : R.norm x = R.norm y := by
  induction h with
  | refl => rfl
  | tail _ hstep ih => exact ih.trans (norm_of_step hstep)

theorem steps_norm (x : σ × List β) : R.Steps x (R.norm x) := by
  generalize hn : R.fuel x = n
  induction n using Nat.strongRecOn generalizing x with
  | ind n ih =>
    cases hstep : R.step x with
    | none =>
      rw [norm_of_step_none hstep]
      exact .refl
    | some y =>
      rw [norm_of_step hstep]
      exact .head hstep (ih (R.fuel y) (hn ▸ fuel_step hstep) y rfl)

theorem Steps.push (h : R.Steps x y) (input : List β) :
    R.Steps (push input x) (Reader.push input y) := by
  induction h with
  | refl => exact .refl
  | tail _ hstep ih => exact ih.tail (step_push hstep input)

theorem norm_push_norm (input : List β) (x : σ × List β) :
    R.norm (push input (R.norm x)) = R.norm (push input x) :=
  (norm_of_steps ((steps_norm x).push input)).symm

theorem foldl_feed (input : List β) (x : σ × List β) :
    input.foldl (fun y b => R.norm (push [b] y)) (R.norm x) = R.norm (push input x) := by
  induction input generalizing x with
  | nil =>
    show R.norm x = R.norm (x.1, x.2 ++ [])
    rw [List.append_nil]
  | cons b input ih =>
    rw [List.foldl_cons, norm_push_norm, ih]
    simp only [push, List.append_assoc, List.singleton_append]

end Reader

end DeviceHub
