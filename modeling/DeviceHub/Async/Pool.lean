import DeviceHub.Async.Prog
import DeviceHub.Async.Lts
import DeviceHub.Async.Order
import Mathlib.Algebra.Group.Basic

/-!
# Concurrent programs and their invariants

A *pool* is a list of programs acting on one store; a step performs one atomic operation of
one of them.  Every program carries a *view*: what the run remembers of the answers it got so
far.

An invariant of a pool is proved program by program.  The invariant `I m s` speaks of the
store `s` and of a *resource* `m`, the sum of what the programs hold: tokens for work that a
program has begun and not finished.  `Safe v m p Q` says that a program `p` with view `v`
holding `m` keeps the invariant at each of its operations, whatever the others hold and do
between them, and ends in `Q`.  Each operation may be required to meet a condition
`G v o s` on the view, the operation and the store before it.

## Main results

* `Safe.bind`, `Safe.tryCatch`, `Safe.of_ops` : the rules of the logic.
* `PoolSafe.invariant` : in every run of a pool of safe programs whose operations meet the
  condition, the invariant holds in every state.
-/

namespace DeviceHub

/-- How operations act on the store, and what a program's view keeps of their answers. -/
structure Machine (Op : Type) (Res : Op → Type) (σ V : Type) where
  /-- The atomic effect of an operation. -/
  exec : (o : Op) → σ → Res o × σ
  /-- The view after an operation was answered. -/
  log : V → (o : Op) → Res o → V

namespace Machine

variable {Op : Type} {Res : Op → Type} {σ V ε α β : Type} (A : Machine Op Res σ V)

/-- One operation of one program of a pool: which program, its view, the operation and the
store it acts on. -/
structure Move (Op σ V : Type) where
  /-- The position of the program in the pool. -/
  who : Nat
  /-- Its view before the operation. -/
  view : V
  /-- The operation. -/
  op : Op
  /-- The store before the operation. -/
  pre : σ

/-- The pool of programs, with their views, over the store. -/
def pool (ε α : Type) : Lts (List (V × Prog Op Res ε α) × σ) (Move Op σ V) where
  step c mv c' := ∃ l₁ v p l₂ p', c.1 = l₁ ++ (v, p) :: l₂ ∧ mv.who = l₁.length ∧ mv.view = v ∧
    mv.pre = c.2 ∧ p.Step A.exec c.2 mv.op p' c'.2 ∧
    c'.1 = l₁ ++ (A.log v mv.op (A.exec mv.op c.2).1, p') :: l₂

variable {M : Type} [AddCommMonoid M] (I : M → σ → Prop) (G : V → Op → σ → Prop)

/-- `Safe v m p Q` : with view `v` and holding `m`, the program `p` keeps the invariant `I` at
each operation that meets `G`, and ends in `Q`. -/
def Safe : V → M → Prog Op Res ε α → (V → M → Except ε α → Prop) → Prop
  | v, m, .ret a, Q => Q v m (.ok a)
  | v, m, .fail e, Q => Q v m (.error e)
  | v, m, .act o k, Q => ∀ f s, I (m + f) s → G v o s → ∃ m', I (m' + f) (A.exec o s).2 ∧
      Safe (A.log v o (A.exec o s).1) m' (k (A.exec o s).1) Q
  | v, m, .alt p q, Q => Safe v m p Q ∧ Safe v m q Q

variable {A I G}

theorem Safe.mono {v : V} {m : M} {p : Prog Op Res ε α} {Q Q' : V → M → Except ε α → Prop}
    (h : A.Safe I G v m p Q) (hQ : ∀ v m r, Q v m r → Q' v m r) : A.Safe I G v m p Q' := by
  induction p generalizing v m with
  | ret a => exact hQ _ _ _ h
  | fail e => exact hQ _ _ _ h
  | act o k ih =>
    intro f s hs hG
    obtain ⟨m', hm', hk⟩ := h f s hs hG
    exact ⟨m', hm', ih _ hk⟩
  | alt p q ihp ihq => exact ⟨ihp h.1, ihq h.2⟩

theorem Safe.bind {v : V} {m : M} {p : Prog Op Res ε α} {g : α → Prog Op Res ε β}
    {Q : V → M → Except ε β → Prop}
    (h : A.Safe I G v m p fun v m r => match r with
      | .ok a => A.Safe I G v m (g a) Q
      | .error e => Q v m (.error e)) : A.Safe I G v m (p.bind g) Q := by
  induction p generalizing v m with
  | ret a => exact h
  | fail e => exact h
  | act o k ih =>
    intro f s hs hG
    obtain ⟨m', hm', hk⟩ := h f s hs hG
    exact ⟨m', hm', ih _ hk⟩
  | alt p q ihp ihq => exact ⟨ihp h.1, ihq h.2⟩

theorem Safe.tryCatch {v : V} {m : M} {p : Prog Op Res ε α} {g : ε → Prog Op Res ε α}
    {Q : V → M → Except ε α → Prop}
    (h : A.Safe I G v m p fun v m r => match r with
      | .ok a => Q v m (.ok a)
      | .error e => A.Safe I G v m (g e) Q) : A.Safe I G v m (p.tryCatch g) Q := by
  induction p generalizing v m with
  | ret a => exact h
  | fail e => exact h
  | act o k ih =>
    intro f s hs hG
    obtain ⟨m', hm', hk⟩ := h f s hs hG
    exact ⟨m', hm', ih _ hk⟩
  | alt p q ihp ihq => exact ⟨ihp h.1, ihq h.2⟩

/-- A program none of whose operations touches the invariant is safe whatever it holds.  What is
known of its view, `J`, must survive the operations. -/
theorem Safe.of_ops {P : Op → Prop} {J : V → Prop}
    (hop : ∀ o, P o → ∀ v m s, I m s → G v o s → I m (A.exec o s).2)
    (hlog : ∀ o, P o → ∀ v r, J v → J (A.log v o r)) {v : V} (hv : J v) {m : M}
    {p : Prog Op Res ε α} (hp : p.Ops P) {Q : V → M → Except ε α → Prop}
    (hQ : ∀ v r, J v → Q v m r) : A.Safe I G v m p Q := by
  induction p generalizing v with
  | ret a => exact hQ _ _ hv
  | fail e => exact hQ _ _ hv
  | act o k ih =>
    intro f s hs hG
    exact ⟨m, hop o hp.1 v _ _ hs hG, ih _ (hlog o hp.1 v _ hv) (hp.2 _)⟩
  | alt p q ihp ihq => exact ⟨ihp hv hp.1, ihq hv hp.2⟩

/-- The rule of `Safe.of_ops` for programs that do not fail. -/
theorem Safe.of_ops_total {P : Op → Prop} {J : V → Prop}
    (hop : ∀ o, P o → ∀ v m s, I m s → G v o s → I m (A.exec o s).2)
    (hlog : ∀ o, P o → ∀ v r, J v → J (A.log v o r)) {v : V} (hv : J v) {m : M}
    {p : Prog Op Res ε α} (hp : p.Ops P) (ht : p.Total A.exec fun _ => True)
    {Q : V → M → Except ε α → Prop}
    (hQ : ∀ v a, J v → Q v m (.ok a)) : A.Safe I G v m p Q := by
  induction p generalizing v with
  | ret a => exact hQ _ _ hv
  | fail e => exact ht.elim
  | act o k ih =>
    intro f s hs hG
    exact ⟨m, hop o hp.1 v _ _ hs hG, ih _ (hlog o hp.1 v _ hv) (hp.2 _) (ht _ trivial).2⟩
  | alt p q ihp ihq => exact ⟨ihp hv hp.1 ht.1, ihq hv hp.2 ht.2⟩

/-! ### Running in a pool -/

variable (A I G) in
/-- The programs of the list are safe with postcondition `Q` and hold `m` together. -/
def PoolSafe (Q : V → M → Except ε α → Prop) : M → List (V × Prog Op Res ε α) → Prop
  | m, [] => m = 0
  | m, (v, p) :: l => ∃ a b, m = a + b ∧ A.Safe I G v a p Q ∧ PoolSafe Q b l

variable {Q : V → M → Except ε α → Prop}

theorem poolSafe_append {m : M} {l₁ l₂ : List (V × Prog Op Res ε α)} :
    A.PoolSafe I G Q m (l₁ ++ l₂) ↔
      ∃ a b, m = a + b ∧ A.PoolSafe I G Q a l₁ ∧ A.PoolSafe I G Q b l₂ := by
  induction l₁ generalizing m with
  | nil => simp [PoolSafe]
  | cons vp l₁ ih =>
    obtain ⟨v, p⟩ := vp
    simp only [List.cons_append, PoolSafe, ih]
    constructor
    · rintro ⟨a, _, rfl, hp, b, c, rfl, h₁, h₂⟩
      exact ⟨a + b, c, (add_assoc _ _ _).symm, ⟨a, b, rfl, hp, h₁⟩, h₂⟩
    · rintro ⟨_, c, rfl, ⟨a, b, rfl, hp, h₁⟩, h₂⟩
      exact ⟨a, b + c, add_assoc _ _ _, hp, b, c, rfl, h₁, h₂⟩

theorem poolSafe_zero {l : List (V × Prog Op Res ε α)}
    (h : ∀ c ∈ l, A.Safe I G c.1 0 c.2 Q) : A.PoolSafe I G Q 0 l := by
  induction l with
  | nil => rfl
  | cons c l ih =>
    exact ⟨0, 0, (add_zero 0).symm, h c List.mem_cons_self,
      ih fun c' hc' => h c' (List.mem_cons_of_mem _ hc')⟩

theorem Safe.step {v : V} {m f : M} {p p' : Prog Op Res ε α} {s s' : σ} {o : Op}
    (hst : p.Step A.exec s o p' s') (h : A.Safe I G v m p Q) (hs : I (m + f) s)
    (hG : G v o s) :
    ∃ m', I (m' + f) s' ∧ A.Safe I G (A.log v o (A.exec o s).1) m' p' Q := by
  induction hst with
  | act o k s => exact h f s hs hG
  | left _ ih => exact ih h.1 hs hG
  | right _ ih => exact ih h.2 hs hG

theorem PoolSafe.step {m : M} {c c' : List (V × Prog Op Res ε α) × σ} {mv : Move Op σ V}
    (hst : (A.pool ε α).step c mv c') (h : A.PoolSafe I G Q m c.1) (hs : I m c.2)
    (hG : G mv.view mv.op mv.pre) : ∃ m', A.PoolSafe I G Q m' c'.1 ∧ I m' c'.2 := by
  obtain ⟨l₁, v, p, l₂, p', hc, -, rfl, hpre, hp, hc'⟩ := hst
  rw [hc] at h
  rw [hpre] at hG
  obtain ⟨a, _, rfl, h₁, b, d, rfl, hsafe, h₂⟩ := poolSafe_append.1 h
  have hs' : I (b + (a + d)) c.2 := by rwa [add_left_comm]
  obtain ⟨b', hb', hsafe'⟩ := hsafe.step hp hs' hG
  refine ⟨a + (b' + d), ?_, by rwa [add_left_comm]⟩
  rw [hc']
  exact poolSafe_append.2 ⟨a, b' + d, rfl, h₁, b', d, rfl, hsafe', h₂⟩

variable (A G) in
/-- The pool restricted to the operations that meet the condition. -/
abbrev guarded (ε α : Type) : Lts (List (V × Prog Op Res ε α) × σ) (Move Op σ V) :=
  (A.pool ε α).restrict fun _ mv => G mv.view mv.op mv.pre

/-- **The invariant rule for pools.**  In every run of a pool of safe programs whose
operations all meet the condition, the invariant holds at the end. -/
theorem PoolSafe.invariant {m : M} {c c' : List (V × Prog Op Res ε α) × σ}
    {mvs : List (Move Op σ V)} (h : (A.guarded G ε α).Run c mvs c')
    (h₀ : A.PoolSafe I G Q m c.1) (hs : I m c.2) :
    ∃ m', A.PoolSafe I G Q m' c'.1 ∧ I m' c'.2 :=
  h.invariant_of_restrict (I := fun c => ∃ m, A.PoolSafe I G Q m c.1 ∧ I m c.2) ⟨m, h₀, hs⟩
    fun _ _ _ ⟨_, hsafe, hs⟩ hG hst => hsafe.step hst hs hG

theorem PoolSafe.eq_sum {w : V → M} (hQ : ∀ v m r, Q v m r → m = w v) {m : M}
    {l : List (V × Prog Op Res ε α)} (h : A.PoolSafe I G Q m l)
    (hend : ∀ c ∈ l, c.2.outcome.isSome) : m = (l.map fun c => w c.1).sum := by
  induction l generalizing m with
  | nil => exact h
  | cons c l ih =>
    obtain ⟨v, p⟩ := c
    obtain ⟨a, b, rfl, hp, hl⟩ := h
    have hb := ih hl fun c hc => hend c (List.mem_cons_of_mem _ hc)
    have ha : a = w v := by
      have hp' := hend (v, p) List.mem_cons_self
      match p with
      | .ret _ => exact hQ _ _ _ hp
      | .fail _ => exact hQ _ _ _ hp
    simp [ha, hb]

theorem length_of_run {c c' : List (V × Prog Op Res ε α) × σ} {mvs : List (Move Op σ V)}
    (h : (A.pool ε α).Run c mvs c') : c'.1.length = c.1.length := by
  induction h with
  | done => rfl
  | more hst _ ih =>
    obtain ⟨l₁, v, p, l₂, p', hc, -, -, -, -, hc'⟩ := hst
    rw [ih, hc, hc']
    simp

/-! ### Playing a schedule -/

section Play

variable (A G) [∀ v o s, Decidable (G v o s)]

/-- Let the programs at the positions `is` take a step each, in this order; `none` when one of
them has ended or its operation does not meet the condition. -/
def play : List Nat → List (V × Prog Op Res ε α) × σ → Option (List (V × Prog Op Res ε α) × σ)
  | [], c => some c
  | i :: is, c =>
    match c.1[i]? with
    | none => none
    | some (v, p) =>
      match p.first with
      | none => none
      | some ⟨o, k⟩ =>
        if G v o c.2 then
          play is (c.1.set i (A.log v o (A.exec o c.2).1, k (A.exec o c.2).1),
            (A.exec o c.2).2)
        else none

variable {A G}

/-- What a schedule plays is a run. -/
theorem play_run {is : List Nat} {c c' : List (V × Prog Op Res ε α) × σ}
    (h : A.play G is c = some c') : ∃ mvs, (A.guarded G ε α).Run c mvs c' := by
  induction is generalizing c with
  | nil =>
    obtain rfl : c = c' := Option.some.inj h
    exact ⟨[], .done _⟩
  | cons i is ih =>
    simp only [play] at h
    split at h
    · cases h
    · rename_i v p hi
      split at h
      · cases h
      · rename_i o k hp
        split at h
        · rename_i hG
          obtain ⟨mvs, hrun⟩ := ih h
          obtain ⟨hlt, -⟩ := List.getElem?_eq_some_iff.1 hi
          have hsplit : c.1 = c.1.take i ++ (v, p) :: c.1.drop (i + 1) := eq_take_append_drop hi
          have hset : ∀ x, c.1.set i x = c.1.take i ++ x :: c.1.drop (i + 1) := fun x =>
            List.set_eq_take_append_cons_drop.trans (if_pos hlt)
          refine ⟨⟨(c.1.take i).length, v, o, c.2⟩ :: mvs, .more ⟨?_, hG⟩ hrun⟩
          exact ⟨_, v, p, _, _, hsplit, rfl, rfl, rfl, Prog.step_first hp c.2, hset _⟩
        · cases h

/-- A schedule that can be played and ends in a configuration with the property `P` is a run
that does. -/
theorem exists_run_of_play (is : List Nat) (c : List (V × Prog Op Res ε α) × σ)
    (P : List (V × Prog Op Res ε α) × σ → Bool) (h : (A.play G is c).any P = true) :
    ∃ mvs c', (A.guarded G ε α).Run c mvs c' ∧ P c' = true := by
  obtain ⟨c', hc', hP⟩ := (Option.any_eq_true _ _).1 h
  obtain ⟨mvs, hrun⟩ := play_run hc'
  exact ⟨mvs, c', hrun, hP⟩

end Play

end Machine

end DeviceHub
