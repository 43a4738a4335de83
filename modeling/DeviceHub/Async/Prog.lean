import Mathlib.Data.List.Basic

/-!
# Asynchronous programs over a shared store

An asynchronous function that talks to a shared store is, between two awaits, a pure
computation.  `Prog Op Res ε α` is the tree of what such a function can do: perform one
atomic operation `o : Op` and continue with the store's answer `r : Res o`, return a value,
fail with an exception, or leave a choice of order to the run-time (`alt`).

## Main definitions

* `Prog` : the programs, a monad with exceptions (`Prog.tryCatch`).
* `Prog.par`, `Prog.all` : run programs concurrently and wait for all of them.  They are
  derived: every interleaving of the atomic operations is one branch of the tree.
* `Prog.each` : run programs one after the other.
* `Prog.Step` : one atomic operation of a program on a store; other programs may act on
  the store before the next one.
* `Prog.Runs` : a run to completion during which nothing else touches the store.
* `Prog.Total` : the program cannot fail.
* `Prog.Ops` : every operation that the program can perform satisfies a predicate.
-/

namespace DeviceHub

/-- Programs performing atomic operations `Op`, an operation `o` being answered in `Res o`;
they fail with exceptions `ε` or return values `α`. -/
inductive Prog (Op : Type) (Res : Op → Type) (ε α : Type) : Type where
  /-- Return a value. -/
  | ret (a : α)
  /-- Fail with an exception. -/
  | fail (e : ε)
  /-- Perform `o` and continue with its answer. -/
  | act (o : Op) (k : Res o → Prog Op Res ε α)
  /-- Either of two orders of execution. -/
  | alt (p q : Prog Op Res ε α)

namespace Prog

variable {Op : Type} {Res : Op → Type} {ε α β γ σ : Type}

/-- Continue a program with `f` when it returns. -/
def bind : Prog Op Res ε α → (α → Prog Op Res ε β) → Prog Op Res ε β
  | .ret a, f => f a
  | .fail e, _ => .fail e
  | .act o k, f => .act o fun r => (k r).bind f
  | .alt p q, f => .alt (p.bind f) (q.bind f)

/-- Continue a program with `h` when it fails. -/
def tryCatch : Prog Op Res ε α → (ε → Prog Op Res ε α) → Prog Op Res ε α
  | .ret a, _ => .ret a
  | .fail e, h => h e
  | .act o k, h => .act o fun r => (k r).tryCatch h
  | .alt p q, h => .alt (p.tryCatch h) (q.tryCatch h)

instance : Monad (Prog Op Res ε) where
  pure := .ret
  bind := .bind

instance : MonadExceptOf ε (Prog Op Res ε) where
  throw := .fail
  tryCatch := .tryCatch

/-- Perform one operation and return its answer. -/
def perform (o : Op) : Prog Op Res ε (Res o) := .act o .ret

/-- Run a program to its end, whatever its outcome, and then fail with `e`. -/
def finish (e : ε) : Prog Op Res ε α → Prog Op Res ε β
  | .ret _ => .fail e
  | .fail _ => .fail e
  | .act o k => .act o fun r => (k r).finish e
  | .alt p q => .alt (p.finish e) (q.finish e)

/-- The interleavings of a program about to perform `o` (whose continuations are already
interleaved by `ih`) with a second program. -/
def parAct (o : Op) (k : Res o → Prog Op Res ε α)
    (ih : Res o → Prog Op Res ε β → Prog Op Res ε (α × β)) :
    Prog Op Res ε β → Prog Op Res ε (α × β)
  | .ret b => .act o fun r => (k r).bind fun a => .ret (a, b)
  | .fail e => .act o fun r => (k r).finish e
  | .act o' k' => .alt (.act o fun r => ih r (.act o' k')) (.act o' fun r => parAct o k ih (k' r))
  | .alt q₁ q₂ => .alt (parAct o k ih q₁) (parAct o k ih q₂)

/-- Run two programs concurrently and wait for both.  When one of them fails the other one
still runs to its end. -/
def par : Prog Op Res ε α → Prog Op Res ε β → Prog Op Res ε (α × β)
  | .ret a, q => q.bind fun b => .ret (a, b)
  | .fail e, q => q.finish e
  | .act o k, q => parAct o k (fun r => (k r).par) q
  | .alt p₁ p₂, q => .alt (p₁.par q) (p₂.par q)

/-- Run a list of programs concurrently and wait for all of them. -/
def all : List (Prog Op Res ε α) → Prog Op Res ε (List α)
  | [] => .ret []
  | p :: ps => (p.par (all ps)).bind fun r => .ret (r.1 :: r.2)

/-- Run `f` on the elements of a list, one after the other. -/
def each (f : β → Prog Op Res ε α) : List β → Prog Op Res ε (List α)
  | [] => .ret []
  | b :: bs => (f b).bind fun a => (each f bs).bind fun as => .ret (a :: as)

@[simp] theorem pure_eq (a : α) : (pure a : Prog Op Res ε α) = .ret a := rfl

@[simp] theorem bind_eq (p : Prog Op Res ε α) (f : α → Prog Op Res ε β) :
    p >>= f = p.bind f := rfl

@[simp] theorem throw_eq (e : ε) : (throw e : Prog Op Res ε α) = .fail e := rfl

@[simp] theorem tryCatch_eq (p : Prog Op Res ε α) (h : ε → Prog Op Res ε α) :
    tryCatchThe ε p h = p.tryCatch h := rfl

@[simp] theorem ret_bind (a : α) (f : α → Prog Op Res ε β) : (ret a).bind f = f a := rfl

@[simp] theorem fail_bind (e : ε) (f : α → Prog Op Res ε β) :
    (fail e : Prog Op Res ε α).bind f = .fail e := rfl

@[simp] theorem act_bind (o : Op) (k : Res o → Prog Op Res ε α) (f : α → Prog Op Res ε β) :
    (act o k).bind f = .act o fun r => (k r).bind f := rfl

@[simp] theorem perform_bind (o : Op) (f : Res o → Prog Op Res ε β) :
    (perform o).bind f = .act o f := rfl

theorem bind_assoc (p : Prog Op Res ε α) (f : α → Prog Op Res ε β) (g : β → Prog Op Res ε γ) :
    (p.bind f).bind g = p.bind fun a => (f a).bind g := by
  induction p with
  | ret a => rfl
  | fail e => rfl
  | act o k ih =>
    simp only [act_bind]
    congr 1
    funext r
    exact ih r
  | alt p q ihp ihq => simp only [bind, ihp, ihq]

/-! ### Steps and runs -/

variable (exec : (o : Op) → σ → Res o × σ)

/-- `p.Step s o p' s'` : in the store `s` the program `p` can perform `o`, becoming `p'` and
leaving the store `s'`.  An open choice of order is resolved on the way. -/
inductive Step : Prog Op Res ε α → σ → Op → Prog Op Res ε α → σ → Prop
  | act (o : Op) (k : Res o → Prog Op Res ε α) (s : σ) :
      Step (.act o k) s o (k (exec o s).1) (exec o s).2
  | left {p q p' : Prog Op Res ε α} {s s' : σ} {o : Op} :
      Step p s o p' s' → Step (.alt p q) s o p' s'
  | right {p q q' : Prog Op Res ε α} {s s' : σ} {o : Op} :
      Step q s o q' s' → Step (.alt p q) s o q' s'

/-- `p.Runs s r s'` : started alone in the store `s`, the program can end with outcome `r`
in the store `s'`. -/
def Runs : Prog Op Res ε α → σ → Except ε α → σ → Prop
  | .ret a, s, r, s' => r = .ok a ∧ s' = s
  | .fail e, s, r, s' => r = .error e ∧ s' = s
  | .act o k, s, r, s' => (k (exec o s).1).Runs (exec o s).2 r s'
  | .alt p q, s, r, s' => p.Runs s r s' ∨ q.Runs s r s'

/-- The next operation of a program and its continuation, taking the first of two orders. -/
def first : Prog Op Res ε α → Option ((o : Op) × (Res o → Prog Op Res ε α))
  | .ret _ => none
  | .fail _ => none
  | .act o k => some ⟨o, k⟩
  | .alt p _ => p.first

variable {exec}

theorem step_first {p : Prog Op Res ε α} {o : Op} {k : Res o → Prog Op Res ε α}
    (h : p.first = some ⟨o, k⟩) (s : σ) :
    p.Step exec s o (k (exec o s).1) (exec o s).2 := by
  induction p with
  | ret a => cases h
  | fail e => cases h
  | act o k =>
    cases h
    exact .act _ _ _
  | alt p q ihp _ => exact .left (ihp h)

theorem Step.snd_eq {p p' : Prog Op Res ε α} {s s' : σ} {o : Op}
    (h : p.Step exec s o p' s') : s' = (exec o s).2 := by
  induction h with
  | act => rfl
  | left _ ih => exact ih
  | right _ ih => exact ih

@[simp] theorem runs_ret {a : α} {s s' : σ} {r : Except ε α} :
    (ret a : Prog Op Res ε α).Runs exec s r s' ↔ r = .ok a ∧ s' = s := Iff.rfl

@[simp] theorem runs_fail {e : ε} {s s' : σ} {r : Except ε α} :
    (fail e : Prog Op Res ε α).Runs exec s r s' ↔ r = .error e ∧ s' = s := Iff.rfl

@[simp] theorem runs_act {o : Op} {k : Res o → Prog Op Res ε α} {s s' : σ} {r : Except ε α} :
    (act o k).Runs exec s r s' ↔ (k (exec o s).1).Runs exec (exec o s).2 r s' := Iff.rfl

@[simp] theorem runs_alt {p q : Prog Op Res ε α} {s s' : σ} {r : Except ε α} :
    (alt p q).Runs exec s r s' ↔ p.Runs exec s r s' ∨ q.Runs exec s r s' := Iff.rfl

theorem exists_runs (exec : (o : Op) → σ → Res o × σ) (p : Prog Op Res ε α) (s : σ) :
    ∃ r s', p.Runs exec s r s' := by
  induction p generalizing s with
  | ret a => exact ⟨_, _, rfl, rfl⟩
  | fail e => exact ⟨_, _, rfl, rfl⟩
  | act o k ih => exact ih (exec o s).1 (exec o s).2
  | alt p q ihp _ =>
    obtain ⟨r, s', h⟩ := ihp s
    exact ⟨r, s', .inl h⟩

/-- A sequential composition runs its first part to completion and then, if that returned,
the second one. -/
theorem runs_bind {p : Prog Op Res ε α} {f : α → Prog Op Res ε β} {s s' : σ}
    {r : Except ε β} :
    (p.bind f).Runs exec s r s' ↔
      (∃ a t, p.Runs exec s (.ok a) t ∧ (f a).Runs exec t r s') ∨
        ∃ e, p.Runs exec s (.error e) s' ∧ r = .error e := by
  induction p generalizing s with
  | ret a => simp [bind]
  | fail e => simp [bind, and_comm]
  | act o k ih => simpa only [bind, runs_act] using ih _
  | alt p q ihp ihq =>
    simp only [bind, runs_alt, ihp, ihq]
    constructor
    · rintro ((⟨a, t, h, h'⟩ | ⟨e, h, h'⟩) | (⟨a, t, h, h'⟩ | ⟨e, h, h'⟩))
      · exact .inl ⟨a, t, .inl h, h'⟩
      · exact .inr ⟨e, .inl h, h'⟩
      · exact .inl ⟨a, t, .inr h, h'⟩
      · exact .inr ⟨e, .inr h, h'⟩
    · rintro (⟨a, t, h | h, h'⟩ | ⟨e, h | h, h'⟩)
      · exact .inl (.inl ⟨a, t, h, h'⟩)
      · exact .inr (.inl ⟨a, t, h, h'⟩)
      · exact .inl (.inr ⟨e, h, h'⟩)
      · exact .inr (.inr ⟨e, h, h'⟩)

theorem runs_tryCatch {p : Prog Op Res ε α} {h : ε → Prog Op Res ε α} {s s' : σ}
    {r : Except ε α} :
    (p.tryCatch h).Runs exec s r s' ↔
      (∃ a, p.Runs exec s (.ok a) s' ∧ r = .ok a) ∨
        ∃ e t, p.Runs exec s (.error e) t ∧ (h e).Runs exec t r s' := by
  induction p generalizing s with
  | ret a => simp [tryCatch, and_comm]
  | fail e => simp [tryCatch]
  | act o k ih => simpa only [tryCatch, runs_act] using ih _
  | alt p q ihp ihq =>
    simp only [tryCatch, runs_alt, ihp, ihq]
    constructor
    · rintro ((⟨a, h, h'⟩ | ⟨e, t, h, h'⟩) | (⟨a, h, h'⟩ | ⟨e, t, h, h'⟩))
      · exact .inl ⟨a, .inl h, h'⟩
      · exact .inr ⟨e, t, .inl h, h'⟩
      · exact .inl ⟨a, .inr h, h'⟩
      · exact .inr ⟨e, t, .inr h, h'⟩
    · rintro (⟨a, h | h, h'⟩ | ⟨e, t, h | h, h'⟩)
      · exact .inl (.inl ⟨a, h, h'⟩)
      · exact .inr (.inl ⟨a, h, h'⟩)
      · exact .inl (.inr ⟨e, t, h, h'⟩)
      · exact .inr (.inr ⟨e, t, h, h'⟩)

theorem runs_discard {p : Prog Op Res ε α} {f : α → β} {s s' : σ} {r : Except ε β}
    (h : (p.bind fun a => .ret (f a)).Runs exec s r s') : ∃ r', p.Runs exec s r' s' := by
  rcases runs_bind.1 h with ⟨a, t, hp, hret⟩ | ⟨e, hp, -⟩
  · exact ⟨.ok a, hret.2 ▸ hp⟩
  · exact ⟨.error e, hp⟩

theorem runs_rescue {p : Prog Op Res ε α} {a : α} {s s' : σ} {r : Except ε α}
    (h : (p.tryCatch fun _ => .ret a).Runs exec s r s') : ∃ r', p.Runs exec s r' s' := by
  rcases runs_tryCatch.1 h with ⟨a, hp, -⟩ | ⟨e, t, hp, hret⟩
  · exact ⟨.ok a, hp⟩
  · exact ⟨.error e, hret.2 ▸ hp⟩

/-- Run a program alone, taking the first of two orders. -/
def eval (exec : (o : Op) → σ → Res o × σ) : Prog Op Res ε α → σ → Except ε α × σ
  | .ret a, s => (.ok a, s)
  | .fail e, s => (.error e, s)
  | .act o k, s => (k (exec o s).1).eval exec (exec o s).2
  | .alt p _, s => p.eval exec s

theorem runs_eval (exec : (o : Op) → σ → Res o × σ) (p : Prog Op Res ε α) (s : σ) :
    p.Runs exec s (p.eval exec s).1 (p.eval exec s).2 := by
  induction p generalizing s with
  | ret a => exact ⟨rfl, rfl⟩
  | fail e => exact ⟨rfl, rfl⟩
  | act o k ih => exact ih _ _
  | alt p q ihp _ => exact .inl (ihp s)

/-! ### Programs that do not fail, and programs that have ended -/

/-- The outcome of a program that has nothing left to do. -/
def outcome : Prog Op Res ε α → Option (Except ε α)
  | .ret a => some (.ok a)
  | .fail e => some (.error e)
  | _ => none

section Total

variable (exec : (o : Op) → σ → Res o × σ) (I : σ → Prop)

/-- As long as the store satisfies `I`, the program keeps it so and does not fail. -/
def Total : Prog Op Res ε α → Prop
  | .ret _ => True
  | .fail _ => False
  | .act o k => ∀ s, I s → I (exec o s).2 ∧ (k (exec o s).1).Total
  | .alt p q => p.Total ∧ q.Total

variable {exec I}

@[simp] theorem total_ret {a : α} : (ret a : Prog Op Res ε α).Total exec I := trivial

theorem total_perform {o : Op} (h : ∀ s, I s → I (exec o s).2) :
    (perform o : Prog Op Res ε (Res o)).Total exec I :=
  fun s hs => ⟨h s hs, trivial⟩

theorem Total.bind {p : Prog Op Res ε α} {f : α → Prog Op Res ε β} (hp : p.Total exec I)
    (hf : ∀ a, (f a).Total exec I) : (p.bind f).Total exec I := by
  induction p with
  | ret a => exact hf a
  | fail e => exact hp.elim
  | act o k ih => exact fun s hs => ⟨(hp s hs).1, ih _ (hp s hs).2⟩
  | alt p q ihp ihq => exact ⟨ihp hp.1, ihq hp.2⟩

theorem Total.parAct {o : Op} {k : Res o → Prog Op Res ε α}
    {ih : Res o → Prog Op Res ε β → Prog Op Res ε (α × β)}
    (hk : ∀ s, I s → I (exec o s).2 ∧ (k (exec o s).1).Total exec I)
    (hih : ∀ s, I s → ∀ q, q.Total exec I → (ih (exec o s).1 q).Total exec I)
    {q : Prog Op Res ε β} (hq : q.Total exec I) : (parAct o k ih q).Total exec I := by
  induction q with
  | ret b => exact fun s hs => ⟨(hk s hs).1, (hk s hs).2.bind fun _ => trivial⟩
  | fail e => exact hq.elim
  | act o' k' ihq =>
    exact ⟨fun s hs => ⟨(hk s hs).1, hih s hs _ hq⟩,
      fun s hs => ⟨(hq s hs).1, ihq _ (hq s hs).2⟩⟩
  | alt q₁ q₂ ih₁ ih₂ => exact ⟨ih₁ hq.1, ih₂ hq.2⟩

theorem Total.par {p : Prog Op Res ε α} {q : Prog Op Res ε β} (hp : p.Total exec I)
    (hq : q.Total exec I) : (p.par q).Total exec I := by
  induction p generalizing q with
  | ret a => exact hq.bind fun _ => trivial
  | fail e => exact hp.elim
  | act o k ih => exact Total.parAct hp (fun s hs q hq => ih _ (hp s hs).2 hq) hq
  | alt p₁ p₂ ih₁ ih₂ => exact ⟨ih₁ hp.1 hq, ih₂ hp.2 hq⟩

theorem Total.all {ps : List (Prog Op Res ε α)} (h : ∀ p ∈ ps, p.Total exec I) :
    (Prog.all ps).Total exec I := by
  induction ps with
  | nil => trivial
  | cons p ps ih =>
    have hps : (Prog.all ps).Total exec I := ih fun q hq => h q (List.mem_cons_of_mem _ hq)
    exact Total.bind (Total.par (h p List.mem_cons_self) hps) fun _ => trivial

theorem Total.runs {p : Prog Op Res ε α} (hp : p.Total exec I) {s s' : σ} {r : Except ε α}
    (hs : I s) (h : p.Runs exec s r s') : ∃ a, r = .ok a := by
  induction p generalizing s with
  | ret a => exact ⟨a, h.1⟩
  | fail e => exact hp.elim
  | act o k ih => exact ih _ (hp s hs).2 (hp s hs).1 h
  | alt p q ihp ihq => exact h.elim (ihp hp.1 hs) (ihq hp.2 hs)

end Total

/-! ### Predicates on all operations of a program -/

/-- Every operation the program can perform satisfies `P`. -/
def Ops (P : Op → Prop) : Prog Op Res ε α → Prop
  | .ret _ => True
  | .fail _ => True
  | .act o k => P o ∧ ∀ r, (k r).Ops P
  | .alt p q => p.Ops P ∧ q.Ops P

section Ops

variable {P Q : Op → Prop}

@[simp] theorem ops_ret {a : α} : (ret a : Prog Op Res ε α).Ops P := trivial

@[simp] theorem ops_fail {e : ε} : (fail e : Prog Op Res ε α).Ops P := trivial

@[simp] theorem ops_act {o : Op} {k : Res o → Prog Op Res ε α} :
    (act o k).Ops P ↔ P o ∧ ∀ r, (k r).Ops P := Iff.rfl

@[simp] theorem ops_alt {p q : Prog Op Res ε α} : (alt p q).Ops P ↔ p.Ops P ∧ q.Ops P :=
  Iff.rfl

@[simp] theorem ops_perform {o : Op} : (perform o : Prog Op Res ε (Res o)).Ops P ↔ P o := by
  simp [perform]

theorem Ops.mono (hPQ : ∀ o, P o → Q o) {p : Prog Op Res ε α} (h : p.Ops P) : p.Ops Q := by
  induction p with
  | ret a => trivial
  | fail e => trivial
  | act o k ih => exact ⟨hPQ o h.1, fun r => ih r (h.2 r)⟩
  | alt p q ihp ihq => exact ⟨ihp h.1, ihq h.2⟩

theorem Ops.bind {p : Prog Op Res ε α} {f : α → Prog Op Res ε β} (hp : p.Ops P)
    (hf : ∀ a, (f a).Ops P) : (p.bind f).Ops P := by
  induction p with
  | ret a => exact hf a
  | fail e => trivial
  | act o k ih => exact ⟨hp.1, fun r => ih r (hp.2 r)⟩
  | alt p q ihp ihq => exact ⟨ihp hp.1, ihq hp.2⟩

theorem Ops.tryCatch {p : Prog Op Res ε α} {h : ε → Prog Op Res ε α} (hp : p.Ops P)
    (hh : ∀ e, (h e).Ops P) : (p.tryCatch h).Ops P := by
  induction p with
  | ret a => trivial
  | fail e => exact hh e
  | act o k ih => exact ⟨hp.1, fun r => ih r (hp.2 r)⟩
  | alt p q ihp ihq => exact ⟨ihp hp.1, ihq hp.2⟩

theorem Ops.finish {p : Prog Op Res ε α} (e : ε) (hp : p.Ops P) :
    (p.finish e : Prog Op Res ε β).Ops P := by
  induction p with
  | ret a => trivial
  | fail e => trivial
  | act o k ih => exact ⟨hp.1, fun r => ih r (hp.2 r)⟩
  | alt p q ihp ihq => exact ⟨ihp hp.1, ihq hp.2⟩

theorem Ops.parAct {o : Op} {k : Res o → Prog Op Res ε α}
    {ih : Res o → Prog Op Res ε β → Prog Op Res ε (α × β)} (ho : P o)
    (hk : ∀ r, (k r).Ops P) (hih : ∀ r q, q.Ops P → (ih r q).Ops P)
    {q : Prog Op Res ε β} (hq : q.Ops P) : (parAct o k ih q).Ops P := by
  induction q with
  | ret b => exact ⟨ho, fun r => (hk r).bind fun _ => trivial⟩
  | fail e => exact ⟨ho, fun r => (hk r).finish e⟩
  | act o' k' ihq => exact ⟨⟨ho, fun r => hih r _ hq⟩, hq.1, fun r => ihq r (hq.2 r)⟩
  | alt q₁ q₂ ih₁ ih₂ => exact ⟨ih₁ hq.1, ih₂ hq.2⟩

theorem Ops.par {p : Prog Op Res ε α} {q : Prog Op Res ε β} (hp : p.Ops P)
    (hq : q.Ops P) : (p.par q).Ops P := by
  induction p generalizing q with
  | ret a => exact hq.bind fun _ => trivial
  | fail e => exact hq.finish e
  | act o k ih => exact Ops.parAct hp.1 hp.2 (fun r q hq => ih r (hp.2 r) hq) hq
  | alt p₁ p₂ ih₁ ih₂ => exact ⟨ih₁ hp.1 hq, ih₂ hp.2 hq⟩

theorem Ops.all {ps : List (Prog Op Res ε α)} (h : ∀ p ∈ ps, p.Ops P) :
    (Prog.all ps).Ops P := by
  induction ps with
  | nil => trivial
  | cons p ps ih =>
    refine Ops.bind (Ops.par (h p List.mem_cons_self) (ih fun q hq => ?_)) fun _ => trivial
    exact h q (List.mem_cons_of_mem _ hq)

theorem Ops.each {f : β → Prog Op Res ε α} {l : List β} (h : ∀ b ∈ l, (f b).Ops P) :
    (Prog.each f l).Ops P := by
  induction l with
  | nil => trivial
  | cons b l ih =>
    refine (h b List.mem_cons_self).bind fun a => Ops.bind (ih fun c hc => ?_) fun _ => trivial
    exact h c (List.mem_cons_of_mem _ hc)

/-- A run relates its stores by every reflexive and transitive relation that each of the
operations respects. -/
theorem Runs.rel {R : σ → σ → Prop} (hrefl : ∀ s, R s s)
    (htrans : ∀ s t u, R s t → R t u → R s u) (hop : ∀ o s, P o → R s (exec o s).2)
    {p : Prog Op Res ε α} (hp : p.Ops P) {s s' : σ} {r : Except ε α}
    (h : p.Runs exec s r s') : R s s' := by
  induction p generalizing s with
  | ret a => exact h.2 ▸ hrefl s
  | fail e => exact h.2 ▸ hrefl s
  | act o k ih => exact htrans _ _ _ (hop o s hp.1) (ih _ (hp.2 _) h)
  | alt p q ihp ihq => exact h.elim (ihp hp.1) (ihq hp.2)

theorem Runs.frame {τ : Type} {φ : σ → τ} (hop : ∀ o s, P o → φ (exec o s).2 = φ s)
    {p : Prog Op Res ε α} (hp : p.Ops P) {s s' : σ} {r : Except ε α}
    (h : p.Runs exec s r s') : φ s' = φ s :=
  Runs.rel (R := fun s t => φ t = φ s) (fun _ => rfl)
    (fun _ _ _ hst htu => htu.trans hst) hop hp h

theorem runs_finish {p : Prog Op Res ε α} {e : ε} {s s' : σ} {r : Except ε β}
    (h : (p.finish e).Runs exec s r s') : ∃ r', p.Runs exec s r' s' := by
  induction p generalizing s with
  | ret a => exact ⟨.ok a, rfl, h.2⟩
  | fail e => exact ⟨.error e, rfl, h.2⟩
  | act o k ih => exact ih _ h
  | alt p q ihp ihq =>
    rcases h with h | h
    · obtain ⟨r', h⟩ := ihp h
      exact ⟨r', .inl h⟩
    · obtain ⟨r', h⟩ := ihq h
      exact ⟨r', .inr h⟩

/-- A program whose operations leave the store alone does not show in a concurrent
composition. -/
theorem runs_par_of_silent (hP : ∀ o s, P o → (exec o s).2 = s) {p : Prog Op Res ε α}
    {q : Prog Op Res ε β} (hp : p.Ops P) {s s' : σ} {r : Except ε (α × β)}
    (h : (p.par q).Runs exec s r s') : ∃ r', q.Runs exec s r' s' := by
  have hsilent : ∀ {γ : Type} {p : Prog Op Res ε γ}, p.Ops P → ∀ {s s' : σ} {r : Except ε γ},
      p.Runs exec s r s' → s' = s := fun hp _ _ _ h => Runs.frame (φ := id) hP hp h
  induction p generalizing q s with
  | ret a =>
    rcases runs_bind.1 h with ⟨b, t, hq, hret⟩ | ⟨e, hq, -⟩
    · exact ⟨.ok b, hret.2 ▸ hq⟩
    · exact ⟨.error e, hq⟩
  | fail e => exact runs_finish h
  | act o k ih =>
    -- the operations of `q` that come before `o`
    induction q generalizing s with
    | ret b =>
      have hk : s' = (exec o s).2 := hsilent ((hp.2 _).bind fun _ => ops_ret) h
      exact ⟨.ok b, rfl, hk.trans (hP o s hp.1)⟩
    | fail e =>
      have hk : s' = (exec o s).2 := hsilent ((hp.2 _).finish e) h
      exact ⟨.error e, rfl, hk.trans (hP o s hp.1)⟩
    | act o' k' ihq =>
      rcases h with h | h
      · have hrest := ih _ (hp.2 _) h
        rwa [hP o s hp.1] at hrest
      · exact ihq _ h
    | alt q₁ q₂ ih₁ ih₂ =>
      rcases h with h | h
      · obtain ⟨r', h⟩ := ih₁ h
        exact ⟨r', .inl h⟩
      · obtain ⟨r', h⟩ := ih₂ h
        exact ⟨r', .inr h⟩
  | alt p₁ p₂ ih₁ ih₂ => exact h.elim (ih₁ hp.1) (ih₂ hp.2)

end Ops

end Prog

end DeviceHub
