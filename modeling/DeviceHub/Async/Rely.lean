import DeviceHub.Async.Prog
import Mathlib.Data.Set.Basic

/-!
# Programs under interference

Programs that are run concurrently interfere: between two operations of one, the others act on
the store.  A `Rely` is a reflexive and transitive relation between stores that says what all of
them may do.  `p.Under exec R Q s` says that the program `p`, started in the store `s`, does only
what `R` allows as long as the others do, and then ends in `Q`.

## Main results

* `Under.bind`, `Under.tryCatch`, `Under.par`, `Under.all` : the rules of the logic; concurrent
  programs may rely on what `R` cannot undo.
* `Under.runs` : what a program leaves behind when it runs alone.
* `Within.bind`, `Within.tryCatch`, `Within.each` : the rules for programs running alone;
  `runs_each` adds their effects up.
* `runs_par_left`, `runs_par_right`, `exists_runs_all` : a concurrent composition can run its parts
  one after the other, in any order.
-/

namespace DeviceHub

namespace Prog

/-- What the programs over a store may do to it. -/
structure Rely (σ : Type) where
  /-- The store may go from one state to another. -/
  may : σ → σ → Prop
  refl : ∀ s, may s s
  trans : ∀ s t u, may s t → may t u → may s u

variable {Op : Type} {Res : Op → Type} {ε α β σ : Type}

section Under

variable (exec : (o : Op) → σ → Res o × σ) (R : Rely σ)

/-- From the store `s` on, the program does what `R` allows, whatever the others do that `R`
allows, and ends in `Q`. -/
def Under (Q : Except ε α → σ → Prop) : Prog Op Res ε α → σ → Prop
  | .ret a, s => Q (.ok a) s
  | .fail e, s => Q (.error e) s
  | .act o k, s => ∀ t, R.may s t →
      R.may t (exec o t).2 ∧ (k (exec o t).1).Under Q (exec o t).2
  | .alt p q, s => p.Under Q s ∧ q.Under Q s

variable {exec R}

theorem Under.stable {Q : Except ε α → σ → Prop} (hQ : ∀ r s t, R.may s t → Q r s → Q r t)
    {p : Prog Op Res ε α} {s t : σ} (h : p.Under exec R Q s) (hst : R.may s t) :
    p.Under exec R Q t := by
  induction p with
  | ret a => exact hQ _ _ _ hst h
  | fail e => exact hQ _ _ _ hst h
  | act o k _ => exact fun u htu => h u (R.trans _ _ _ hst htu)
  | alt p q ihp ihq => exact ⟨ihp h.1, ihq h.2⟩

theorem Under.bind {Q : Except ε α → σ → Prop} {Q' : Except ε β → σ → Prop}
    {p : Prog Op Res ε α} {f : α → Prog Op Res ε β} {s : σ} (h : p.Under exec R Q s)
    (hf : ∀ a t, R.may s t → Q (.ok a) t → (f a).Under exec R Q' t)
    (he : ∀ e t, R.may s t → Q (.error e) t → Q' (.error e) t) :
    (p.bind f).Under exec R Q' s := by
  induction p generalizing s with
  | ret a => exact hf a s (R.refl s) h
  | fail e => exact he e s (R.refl s) h
  | act o k ih =>
    intro t hst
    obtain ⟨hmay, hk⟩ := h t hst
    have hsu := R.trans _ _ _ hst hmay
    exact ⟨hmay, ih _ hk (fun a u htu => hf a u (R.trans _ _ _ hsu htu))
      fun e u htu => he e u (R.trans _ _ _ hsu htu)⟩
  | alt p q ihp ihq => exact ⟨ihp h.1 hf he, ihq h.2 hf he⟩

theorem Under.tryCatch {Q Q' : Except ε α → σ → Prop} {p : Prog Op Res ε α}
    {g : ε → Prog Op Res ε α} {s : σ} (h : p.Under exec R Q s)
    (hg : ∀ e t, R.may s t → Q (.error e) t → (g e).Under exec R Q' t)
    (ha : ∀ a t, R.may s t → Q (.ok a) t → Q' (.ok a) t) :
    (p.tryCatch g).Under exec R Q' s := by
  induction p generalizing s with
  | ret a => exact ha a s (R.refl s) h
  | fail e => exact hg e s (R.refl s) h
  | act o k ih =>
    intro t hst
    obtain ⟨hmay, hk⟩ := h t hst
    have hsu := R.trans _ _ _ hst hmay
    exact ⟨hmay, ih _ hk (fun e u htu => hg e u (R.trans _ _ _ hsu htu))
      fun a u htu => ha a u (R.trans _ _ _ hsu htu)⟩
  | alt p q ihp ihq => exact ⟨ihp h.1 hg ha, ihq h.2 hg ha⟩

theorem Under.finish {Q : Except ε α → σ → Prop} {Q' : Except ε β → σ → Prop}
    {p : Prog Op Res ε α} {e : ε} {s : σ} (h : p.Under exec R Q s)
    (hQ : ∀ r t, R.may s t → Q r t → Q' (.error e) t) : (p.finish e).Under exec R Q' s := by
  induction p generalizing s with
  | ret a => exact hQ _ s (R.refl s) h
  | fail e => exact hQ _ s (R.refl s) h
  | act o k ih =>
    intro t hst
    obtain ⟨hmay, hk⟩ := h t hst
    exact ⟨hmay, ih _ hk fun r u htu => hQ r u (R.trans _ _ _ (R.trans _ _ _ hst hmay) htu)⟩
  | alt p q ihp ihq => exact ⟨ihp h.1 hQ, ihq h.2 hQ⟩

/-- A program each of whose operations `R` allows. -/
theorem Under.of_ops {P : Op → Prop} (hop : ∀ o s, P o → R.may s (exec o s).2)
    {p : Prog Op Res ε α} (hp : p.Ops P) (s : σ) : p.Under exec R (fun _ _ => True) s := by
  induction p generalizing s with
  | ret a => trivial
  | fail e => trivial
  | act o k ih => exact fun t _ => ⟨hop o t hp.1, ih _ (hp.2 _) _⟩
  | alt p q ihp ihq => exact ⟨ihp hp.1 s, ihq hp.2 s⟩

/-- A program each of whose operations `R` allows keeps what `R` cannot undo. -/
theorem Under.of_ops_stable {P : Op → Prop} {Q : σ → Prop}
    (hop : ∀ o s, P o → R.may s (exec o s).2) (hQ : ∀ s t, R.may s t → Q s → Q t)
    {p : Prog Op Res ε α} (hp : p.Ops P) {s : σ} (hs : Q s) :
    p.Under exec R (fun _ => Q) s := by
  induction p generalizing s with
  | ret a => exact hs
  | fail e => exact hs
  | act o k ih =>
    intro t hst
    have hmay := hop o t hp.1
    exact ⟨hmay, ih _ (hp.2 _) (hQ _ _ hmay (hQ _ _ hst hs))⟩
  | alt p q ihp ihq => exact ⟨ihp hp.1 hs, ihq hp.2 hs⟩

/-- Two programs run concurrently: each relies on the other, and both of them end in what `R`
cannot undo. -/
theorem Under.par {Q Q' : σ → Prop} (hQ : ∀ s t, R.may s t → Q s → Q t)
    (hQ' : ∀ s t, R.may s t → Q' s → Q' t) {p : Prog Op Res ε α} {q : Prog Op Res ε β} {s : σ}
    (hp : p.Under exec R (fun _ => Q) s) (hq : q.Under exec R (fun _ => Q') s) :
    (p.par q).Under exec R (fun _ t => Q t ∧ Q' t) s := by
  induction p generalizing q s with
  | ret a =>
    exact hq.bind (fun _ t hst ht => ⟨hQ _ _ hst hp, ht⟩) fun _ t hst ht => ⟨hQ _ _ hst hp, ht⟩
  | fail e => exact hq.finish fun _ t hst ht => ⟨hQ _ _ hst hp, ht⟩
  | act o k ih =>
    -- the operations of `q` that come before `o`
    induction q generalizing s with
    | ret b =>
      intro t hst
      obtain ⟨hmay, hk⟩ := hp t hst
      have hsu := R.trans _ _ _ hst hmay
      exact ⟨hmay, hk.bind (fun _ u huv hu => ⟨hu, hQ' _ _ (R.trans _ _ _ hsu huv) hq⟩)
        fun _ u huv hu => ⟨hu, hQ' _ _ (R.trans _ _ _ hsu huv) hq⟩⟩
    | fail e =>
      intro t hst
      obtain ⟨hmay, hk⟩ := hp t hst
      have hsu := R.trans _ _ _ hst hmay
      exact ⟨hmay, hk.finish fun _ u huv hu => ⟨hu, hQ' _ _ (R.trans _ _ _ hsu huv) hq⟩⟩
    | act o' k' ihq =>
      refine ⟨fun t hst => ?_, fun t hst => ?_⟩
      · obtain ⟨hmay, hk⟩ := hp t hst
        exact ⟨hmay, ih _ hk (hq.stable (fun _ => hQ') (R.trans _ _ _ hst hmay))⟩
      · obtain ⟨hmay, hk'⟩ := hq t hst
        exact ⟨hmay, ihq _ (hp.stable (fun _ => hQ) (R.trans _ _ _ hst hmay)) hk'⟩
    | alt q₁ q₂ ih₁ ih₂ => exact ⟨ih₁ hp hq.1, ih₂ hp hq.2⟩
  | alt p₁ p₂ ih₁ ih₂ => exact ⟨ih₁ hp.1 hq, ih₂ hp.2 hq⟩

/-- The rule of `Under.par` for a list of programs. -/
theorem Under.all {Q : β → σ → Prop} (hQ : ∀ b s t, R.may s t → Q b s → Q b t)
    {f : β → Prog Op Res ε α} {l : List β} {s : σ}
    (h : ∀ b ∈ l, (f b).Under exec R (fun _ => Q b) s) :
    (Prog.all (l.map f)).Under exec R (fun _ t => ∀ b ∈ l, Q b t) s := by
  induction l with
  | nil => exact fun b hb => absurd hb List.not_mem_nil
  | cons b l ih =>
    have hl := ih fun c hc => h c (List.mem_cons_of_mem _ hc)
    have hstable : ∀ s t, R.may s t → (∀ c ∈ l, Q c s) → ∀ c ∈ l, Q c t :=
      fun s t hst hs c hc => hQ c s t hst (hs c hc)
    have hcons : ∀ t, Q b t ∧ (∀ c ∈ l, Q c t) → ∀ c ∈ b :: l, Q c t := by
      rintro t ⟨hb, hl⟩ c hc
      rcases List.mem_cons.1 hc with rfl | hc
      · exact hb
      · exact hl c hc
    exact (Under.par (hQ b) hstable (h b List.mem_cons_self) hl).bind
      (fun _ t _ ht => hcons t ht) fun _ t _ ht => hcons t ht

/-- A program that runs alone does what `R` allows, and ends in `Q`. -/
theorem Under.runs {Q : Except ε α → σ → Prop} {p : Prog Op Res ε α} {s s' : σ}
    {r : Except ε α} (h : p.Under exec R Q s) (hrun : p.Runs exec s r s') :
    R.may s s' ∧ Q r s' := by
  induction p generalizing s with
  | ret a =>
    obtain ⟨rfl, rfl⟩ := hrun
    exact ⟨R.refl _, h⟩
  | fail e =>
    obtain ⟨rfl, rfl⟩ := hrun
    exact ⟨R.refl _, h⟩
  | act o k ih =>
    obtain ⟨hmay, hk⟩ := h s (R.refl s)
    obtain ⟨hrest, hQ⟩ := ih _ hk hrun
    exact ⟨R.trans _ _ _ hmay hrest, hQ⟩
  | alt p q ihp ihq => exact hrun.elim (ihp h.1) (ihq h.2)

end Under

/-! ### Programs running alone -/

section Within

variable (exec : (o : Op) → σ → Res o × σ) (R : Rely σ)

/-- A program that runs alone does what `R` allows. -/
def Within (p : Prog Op Res ε α) : Prop := ∀ s r s', p.Runs exec s r s' → R.may s s'

variable {exec R}

theorem within_ret {a : α} : (ret a : Prog Op Res ε α).Within exec R := by
  rintro s r s' ⟨-, rfl⟩
  exact R.refl _

theorem within_fail {e : ε} : (fail e : Prog Op Res ε α).Within exec R := by
  rintro s r s' ⟨-, rfl⟩
  exact R.refl _

theorem Within.of_ops {P : Op → Prop} (hop : ∀ o s, P o → R.may s (exec o s).2)
    {p : Prog Op Res ε α} (hp : p.Ops P) : p.Within exec R :=
  fun _ _ _ h => Runs.rel R.refl R.trans hop hp h

theorem Within.bind {p : Prog Op Res ε α} {f : α → Prog Op Res ε β} (hp : p.Within exec R)
    (hf : ∀ a, (f a).Within exec R) : (p.bind f).Within exec R := by
  intro s r s' h
  rcases runs_bind.1 h with ⟨a, t, hrun, hrest⟩ | ⟨e, hrun, -⟩
  · exact R.trans _ _ _ (hp _ _ _ hrun) (hf a _ _ _ hrest)
  · exact hp _ _ _ hrun

theorem Within.tryCatch {p : Prog Op Res ε α} {g : ε → Prog Op Res ε α} (hp : p.Within exec R)
    (hg : ∀ e, (g e).Within exec R) : (p.tryCatch g).Within exec R := by
  intro s r s' h
  rcases runs_tryCatch.1 h with ⟨a, hrun, -⟩ | ⟨e, t, hrun, hrest⟩
  · exact hp _ _ _ hrun
  · exact R.trans _ _ _ (hp _ _ _ hrun) (hg e _ _ _ hrest)

theorem Within.each {f : β → Prog Op Res ε α} (hf : ∀ b, (f b).Within exec R) (l : List β) :
    (Prog.each f l).Within exec R := by
  induction l with
  | nil => exact within_ret
  | cons b l ih => exact (hf b).bind fun a => ih.bind fun as => within_ret

omit R in
/-- Programs run one after the other, each of which returns and has an effect as long as the store
satisfies `I`: the effects add up. -/
theorem runs_each {γ : Type} {I : σ → Prop} {E : Set γ → σ → σ → Prop} (hnone : ∀ s, E ∅ s s)
    (hadd : ∀ {P P' : Set γ} {s t u : σ}, E P s t → E P' t u → E (P ∪ P') s u)
    (hkeep : ∀ {P : Set γ} {s t : σ}, I s → E P s t → I t)
    {f : β → Prog Op Res ε α} {w : β → Set γ}
    (hf : ∀ b s r s', I s → (f b).Runs exec s r s' → (∃ a, r = .ok a) ∧ E (w b) s s')
    {l : List β} {s s' : σ} {r : Except ε (List α)} (hs : I s)
    (h : (Prog.each f l).Runs exec s r s') :
    (∃ as, r = .ok as) ∧ E {x | ∃ b ∈ l, x ∈ w b} s s' := by
  induction l generalizing s r with
  | nil =>
    obtain ⟨rfl, rfl⟩ := h
    have hempty : {x | ∃ b ∈ ([] : List β), x ∈ w b} = (∅ : Set γ) := by
      ext x
      simp
    rw [hempty]
    exact ⟨⟨_, rfl⟩, hnone _⟩
  | cons b l ih =>
    have hcons : {x | ∃ c ∈ b :: l, x ∈ w c} = w b ∪ {x | ∃ c ∈ l, x ∈ w c} := by
      ext x
      simp
    rw [hcons]
    rcases runs_bind.1 h with ⟨a, t, hb, hrest⟩ | ⟨e, hb, -⟩
    · have heffect := (hf b _ _ _ hs hb).2
      have ht := hkeep hs heffect
      rcases runs_bind.1 hrest with ⟨as, u, hl, hret⟩ | ⟨e, hl, -⟩
      · obtain ⟨rfl, rfl⟩ := hret
        exact ⟨⟨_, rfl⟩, hadd heffect (ih ht hl).2⟩
      · obtain ⟨⟨as, has⟩, -⟩ := ih ht hl
        cases has
    · obtain ⟨⟨a, ha⟩, -⟩ := hf b _ _ _ hs hb
      cases ha

omit R in
theorem runs_return {E : σ → σ → Prop} {p : Prog Op Res ε α} {b : β} {s s' : σ} {r : Except ε β}
    (hp : ∀ r s', p.Runs exec s r s' → (∃ a, r = .ok a) ∧ E s s')
    (h : (p.bind fun _ => .ret b).Runs exec s r s') : r = .ok b ∧ E s s' := by
  rcases runs_bind.1 h with ⟨a, t, hrun, rfl, rfl⟩ | ⟨e, hrun, -⟩
  · exact ⟨rfl, (hp _ _ hrun).2⟩
  · obtain ⟨⟨a, ha⟩, -⟩ := hp _ _ hrun
    cases ha

end Within

/-! ### One part after the other -/

variable {exec : (o : Op) → σ → Res o × σ}

theorem Runs.discard {p : Prog Op Res ε α} {f : α → β} {s s' : σ} {r : Except ε α}
    (h : p.Runs exec s r s') : ∃ r', (p.bind fun a => .ret (f a)).Runs exec s r' s' := by
  cases r with
  | ok a => exact ⟨.ok (f a), runs_bind.2 (.inl ⟨a, s', h, rfl, rfl⟩)⟩
  | error e => exact ⟨.error e, runs_bind.2 (.inr ⟨e, h, rfl⟩)⟩

theorem Runs.finish {p : Prog Op Res ε α} {e : ε} {s s' : σ} {r : Except ε α}
    (h : p.Runs exec s r s') : (p.finish e : Prog Op Res ε β).Runs exec s (.error e) s' := by
  induction p generalizing s with
  | ret a => exact ⟨rfl, h.2⟩
  | fail e => exact ⟨rfl, h.2⟩
  | act o k ih => exact ih _ h
  | alt p q ihp ihq => exact h.imp ihp ihq

/-- The first program runs to its end before the second one begins. -/
theorem runs_par_left {p : Prog Op Res ε α} {q : Prog Op Res ε β} {s t s' : σ}
    {r : Except ε α} {r' : Except ε β} (hp : p.Runs exec s r t) (hq : q.Runs exec t r' s') :
    ∃ r'', (p.par q).Runs exec s r'' s' := by
  induction p generalizing q s with
  | ret a =>
    obtain ⟨-, rfl⟩ := hp
    exact hq.discard
  | fail e =>
    obtain ⟨-, rfl⟩ := hp
    exact ⟨_, hq.finish⟩
  | act o k ih =>
    induction q with
    | ret b =>
      obtain ⟨-, rfl⟩ := hq
      exact Runs.discard (p := k (exec o s).1) hp
    | fail e =>
      obtain ⟨-, rfl⟩ := hq
      exact ⟨_, Runs.finish (p := k (exec o s).1) hp⟩
    | act o' k' _ =>
      obtain ⟨r'', h⟩ := ih _ hp hq
      exact ⟨r'', .inl h⟩
    | alt q₁ q₂ ih₁ ih₂ =>
      rcases hq with hq | hq
      · obtain ⟨r'', h⟩ := ih₁ hq
        exact ⟨r'', .inl h⟩
      · obtain ⟨r'', h⟩ := ih₂ hq
        exact ⟨r'', .inr h⟩
  | alt p₁ p₂ ih₁ ih₂ =>
    rcases hp with hp | hp
    · obtain ⟨r'', h⟩ := ih₁ hp hq
      exact ⟨r'', .inl h⟩
    · obtain ⟨r'', h⟩ := ih₂ hp hq
      exact ⟨r'', .inr h⟩

/-- The second program runs to its end before the first one begins. -/
theorem runs_par_right {p : Prog Op Res ε α} {q : Prog Op Res ε β} {s t s' : σ}
    {r : Except ε α} {r' : Except ε β} (hq : q.Runs exec s r' t) (hp : p.Runs exec t r s') :
    ∃ r'', (p.par q).Runs exec s r'' s' := by
  induction p with
  | ret a =>
    obtain ⟨-, rfl⟩ := hp
    exact hq.discard
  | fail e =>
    obtain ⟨-, rfl⟩ := hp
    exact ⟨_, hq.finish⟩
  | act o k ihp =>
    clear ihp
    induction q generalizing s with
    | ret b =>
      obtain ⟨-, rfl⟩ := hq
      exact Runs.discard (p := k (exec o t).1) hp
    | fail e =>
      obtain ⟨-, rfl⟩ := hq
      exact ⟨_, Runs.finish (p := k (exec o t).1) hp⟩
    | act o' k' ih =>
      obtain ⟨r'', h⟩ := ih _ hq
      exact ⟨r'', .inr h⟩
    | alt q₁ q₂ ih₁ ih₂ =>
      rcases hq with hq | hq
      · obtain ⟨r'', h⟩ := ih₁ hq
        exact ⟨r'', .inl h⟩
      · obtain ⟨r'', h⟩ := ih₂ hq
        exact ⟨r'', .inr h⟩
  | alt p₁ p₂ ih₁ ih₂ =>
    rcases hp with hp | hp
    · obtain ⟨r'', h⟩ := ih₁ hp
      exact ⟨r'', .inl h⟩
    · obtain ⟨r'', h⟩ := ih₂ hp
      exact ⟨r'', .inr h⟩

/-- Any one program of a concurrent composition can run to its end before the others begin; the
others then do what `R` allows. -/
theorem exists_runs_all {R : Rely σ} {P : Op → Prop} (hop : ∀ o s, P o → R.may s (exec o s).2)
    {ps : List (Prog Op Res ε α)} (hps : ∀ q ∈ ps, q.Ops P) {p : Prog Op Res ε α} (hp : p ∈ ps)
    {s t : σ} {r : Except ε α} (hrun : p.Runs exec s r t) :
    ∃ r' s', (Prog.all ps).Runs exec s r' s' ∧ R.may t s' := by
  induction ps with
  | nil => cases hp
  | cons q ps ih =>
    have hrest : ∀ q ∈ ps, q.Ops P := fun q hq => hps q (List.mem_cons_of_mem _ hq)
    rcases List.mem_cons.1 hp with rfl | hmem
    · have hall := runs_eval exec (Prog.all ps) t
      obtain ⟨r', hpar⟩ := runs_par_left hrun hall
      obtain ⟨r'', h⟩ := hpar.discard
      exact ⟨r'', _, h, Runs.rel R.refl R.trans hop (Ops.all hrest) hall⟩
    · obtain ⟨r', u, hall, hmay⟩ := ih hrest hmem
      have hq := runs_eval exec q u
      obtain ⟨r₁, hpar⟩ := runs_par_right hall hq
      obtain ⟨r₂, h⟩ := hpar.discard
      exact ⟨r₂, _, h, R.trans _ _ _ hmay
        (Runs.rel R.refl R.trans hop (hps q List.mem_cons_self) hq)⟩

theorem Runs.exists_bind {R : Rely σ} {p : Prog Op Res ε α} {f : α → Prog Op Res ε β} {s t : σ}
    {r : Except ε α} (h : p.Runs exec s r t) (hf : ∀ a, (f a).Within exec R) :
    ∃ r' s', (p.bind f).Runs exec s r' s' ∧ R.may t s' := by
  cases r with
  | ok a =>
    have hrest := runs_eval exec (f a) t
    exact ⟨_, _, runs_bind.2 (.inl ⟨a, t, h, hrest⟩), hf a _ _ _ hrest⟩
  | error e => exact ⟨_, t, runs_bind.2 (.inr ⟨e, h, rfl⟩), R.refl t⟩

theorem Runs.exists_tryCatch {R : Rely σ} {p : Prog Op Res ε α} {g : ε → Prog Op Res ε α}
    {s t : σ} {r : Except ε α} (h : p.Runs exec s r t) (hg : ∀ e, (g e).Within exec R) :
    ∃ r' s', (p.tryCatch g).Runs exec s r' s' ∧ R.may t s' := by
  cases r with
  | ok a => exact ⟨_, t, runs_tryCatch.2 (.inl ⟨a, h, rfl⟩), R.refl t⟩
  | error e =>
    have hrest := runs_eval exec (g e) t
    exact ⟨_, _, runs_tryCatch.2 (.inr ⟨e, t, h, hrest⟩), hg e _ _ _ hrest⟩

end Prog

end DeviceHub
