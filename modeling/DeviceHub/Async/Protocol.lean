import DeviceHub.Async.Pool

/-!
# Programs that follow a protocol

The view of a program in a pool says what the program holds.  `Obeys v p Q` says that a program with
the view `v` performs only operations that the protocol allows with the view that it then has.  If
allowed operations preserve what is to hold of the views of all programs and the store, then it
holds in every run of a pool of such programs.

## Main definitions

* `Machine.Obeys` : the program follows the protocol and ends with a view and an outcome in `Q`.

## Main results

* `Obeys.bind`, `Obeys.tryCatch`, `Obeys.of_ops` : the rules.
* `obeys_invariant` : the invariants of the views and the store.
-/

namespace DeviceHub

namespace Machine

variable {Op : Type} {Res : Op → Type} {σ V ε α β : Type} (A : Machine Op Res σ V)
  (allowed : V → Op → Prop)

/-- With the view `v` the program performs only allowed operations, and ends in `Q`. -/
def Obeys : V → Prog Op Res ε α → (V → Except ε α → Prop) → Prop
  | v, .ret a, Q => Q v (.ok a)
  | v, .fail e, Q => Q v (.error e)
  | v, .act o k, Q => allowed v o ∧
      ∀ s, Obeys (A.log v o (A.exec o s).1) (k (A.exec o s).1) Q
  | v, .alt p q, Q => Obeys v p Q ∧ Obeys v q Q

variable {A allowed} {v : V} {Q : V → Except ε α → Prop}

theorem Obeys.mono {Q' : V → Except ε α → Prop} {p : Prog Op Res ε α}
    (h : A.Obeys allowed v p Q) (hQ : ∀ v r, Q v r → Q' v r) : A.Obeys allowed v p Q' := by
  induction p generalizing v with
  | ret a => exact hQ _ _ h
  | fail e => exact hQ _ _ h
  | act o k ih => exact ⟨h.1, fun s => ih _ (h.2 s)⟩
  | alt p q ihp ihq => exact ⟨ihp h.1, ihq h.2⟩

theorem Obeys.bind {Q' : V → Except ε β → Prop} {p : Prog Op Res ε α} {f : α → Prog Op Res ε β}
    (h : A.Obeys allowed v p Q) (hf : ∀ v a, Q v (.ok a) → A.Obeys allowed v (f a) Q')
    (he : ∀ v e, Q v (.error e) → Q' v (.error e)) : A.Obeys allowed v (p.bind f) Q' := by
  induction p generalizing v with
  | ret a => exact hf _ _ h
  | fail e => exact he _ _ h
  | act o k ih => exact ⟨h.1, fun s => ih _ (h.2 s)⟩
  | alt p q ihp ihq => exact ⟨ihp h.1, ihq h.2⟩

theorem Obeys.tryCatch {Q' : V → Except ε α → Prop} {p : Prog Op Res ε α}
    {g : ε → Prog Op Res ε α} (h : A.Obeys allowed v p Q)
    (hg : ∀ v e, Q v (.error e) → A.Obeys allowed v (g e) Q')
    (ha : ∀ v a, Q v (.ok a) → Q' v (.ok a)) : A.Obeys allowed v (p.tryCatch g) Q' := by
  induction p generalizing v with
  | ret a => exact ha _ _ h
  | fail e => exact hg _ _ h
  | act o k ih => exact ⟨h.1, fun s => ih _ (h.2 s)⟩
  | alt p q ihp ihq => exact ⟨ihp h.1, ihq h.2⟩

theorem Obeys.of_ops {P : Op → Prop} (hop : ∀ o, P o → allowed v o)
    (hlog : ∀ o, P o → ∀ r, A.log v o r = v) {p : Prog Op Res ε α} (hp : p.Ops P) :
    A.Obeys allowed v p fun v' _ => v' = v := by
  induction p with
  | ret a => rfl
  | fail e => rfl
  | act o k ih =>
    refine ⟨hop o hp.1, fun s => ?_⟩
    rw [hlog o hp.1]
    exact ih _ (hp.2 _)
  | alt p q ihp ihq => exact ⟨ihp hp.1, ihq hp.2⟩

theorem Obeys.step {p p' : Prog Op Res ε α} {o : Op} {s s' : σ}
    (hst : p.Step A.exec s o p' s') (h : A.Obeys allowed v p Q) :
    allowed v o ∧ A.Obeys allowed (A.log v o (A.exec o s).1) p' Q := by
  induction hst with
  | act o k s => exact ⟨h.1, h.2 s⟩
  | left _ ih => exact ih h.1
  | right _ ih => exact ih h.2

/-- **The invariants of pools whose programs follow a protocol.**  An operation of one of the
programs that is allowed and meets the condition `G` preserves the invariant of the views of all
programs and the store. -/
theorem obeys_invariant {G : V → Op → σ → Prop} {J : List V → σ → Prop}
    (hJ : ∀ vs v vs' o s, J (vs ++ v :: vs') s → allowed v o → G v o s →
      J (vs ++ A.log v o (A.exec o s).1 :: vs') (A.exec o s).2)
    {c c' : List (V × Prog Op Res ε α) × σ} {mvs : List (Move Op σ V)}
    (h : (A.guarded G ε α).Run c mvs c') (hobeys : ∀ p ∈ c.1, A.Obeys allowed p.1 p.2 Q)
    (hstart : J (c.1.map Prod.fst) c.2) :
    (∀ p ∈ c'.1, A.Obeys allowed p.1 p.2 Q) ∧ J (c'.1.map Prod.fst) c'.2 := by
  refine h.invariant_of_restrict (I := fun c => (∀ p ∈ c.1, A.Obeys allowed p.1 p.2 Q) ∧
    J (c.1.map Prod.fst) c.2) ⟨hobeys, hstart⟩ ?_
  rintro c mv c' ⟨hobeys, hinv⟩ hG ⟨l₁, v, p, l₂, p', hc, -, hview, hpre, hp, hc'⟩
  rw [hc] at hobeys hinv
  rw [hview, hpre] at hG
  obtain ⟨hallowed, hrest⟩ := (hobeys (v, p) (by simp)).step hp
  rw [hc', hp.snd_eq]
  refine ⟨forall_mem_middle hobeys hrest, ?_⟩
  rw [List.map_append, List.map_cons] at hinv ⊢
  exact hJ _ _ _ _ _ hinv hallowed hG

end Machine

end DeviceHub
