/-!
# Runs of labelled transition systems

The event-driven parts of the model (pools of requests, the groups scheduler) are given as
*labelled transition systems*.  The runs whose steps all meet a condition are the runs of the system
restricted to that condition (`Lts.restrict`).

## Main definitions

* `Lts S L` : a transition relation `S → L → S → Prop`.
* `Lts.Run s ls s'` : performing the labels `ls` in order leads from `s` to `s'`.
* `Lts.restrict G` : the steps `s --l--> s'` with `G s l`.
* `Lts.Along P s ls s'` : a run all of whose states, the first and the last included,
  satisfy `P`.
* `Lts.ofNext`, `Lts.play` : the system of a partial function, and its runs as a function.
-/

namespace DeviceHub

/-- A labelled transition system with states `S` and labels `L`. -/
structure Lts (S : Type) (L : Type) where
  /-- `step s l s'` : in the state `s` the event `l` can happen and leads to `s'`. -/
  step : S → L → S → Prop

namespace Lts

variable {S L : Type} {A : Lts S L}

/-- The runs of the system. -/
inductive Run (A : Lts S L) : S → List L → S → Prop
  | done (s : S) : Run A s [] s
  | more {s t s' : S} {l : L} {ls : List L} : A.step s l t → Run A t ls s' → Run A s (l :: ls) s'

/-- The steps that meet the condition `G` on the state they leave and their label. -/
def restrict (A : Lts S L) (G : S → L → Prop) : Lts S L where
  step s l s' := A.step s l s' ∧ G s l

/-- The runs that visit only states satisfying `P`. -/
inductive Along (A : Lts S L) (P : S → Prop) : S → List L → S → Prop
  | done {s : S} : P s → Along A P s [] s
  | more {s t s' : S} {l : L} {ls : List L} :
      P s → A.step s l t → Along A P t ls s' → Along A P s (l :: ls) s'

theorem Run.append {s t u : S} {ls ls' : List L} (h : A.Run s ls t) (h' : A.Run t ls' u) :
    A.Run s (ls ++ ls') u := by
  induction h with
  | done => exact h'
  | more hst _ ih => exact .more hst (ih h')

/-- A predicate that holds at the start and is preserved by every step holds at the end of
every run. -/
theorem Run.invariant {I : S → Prop} {s s' : S} {ls : List L} (h : A.Run s ls s') (h₀ : I s)
    (hstep : ∀ s l s', I s → A.step s l s' → I s') : I s' := by
  induction h with
  | done => exact h₀
  | more hst _ ih => exact ih (hstep _ _ _ h₀ hst)

/-- The rule of `Run.invariant` for the runs whose steps all meet a condition. -/
theorem Run.invariant_of_restrict {G : S → L → Prop} {I : S → Prop} {s s' : S} {ls : List L}
    (h : (A.restrict G).Run s ls s') (h₀ : I s)
    (hstep : ∀ s l s', I s → G s l → A.step s l s' → I s') : I s' :=
  h.invariant h₀ fun s l s' hs hst => hstep s l s' hs hst.2 hst.1

theorem Run.restrict {G : S → L → Prop} (hG : ∀ s l, G s l) {s s' : S} {ls : List L}
    (h : A.Run s ls s') : (A.restrict G).Run s ls s' := by
  induction h with
  | done s => exact .done s
  | more hst _ ih => exact .more ⟨hst, hG _ _⟩ ih

theorem Run.of_restrict {G : S → L → Prop} {s s' : S} {ls : List L}
    (h : (A.restrict G).Run s ls s') : A.Run s ls s' := by
  induction h with
  | done s => exact .done s
  | more hst _ ih => exact .more hst.1 ih

theorem Run.exists_of_restrict {G : S → L → Prop} {s s' : S} {ls : List L}
    (h : (A.restrict G).Run s ls s') : ∀ l ∈ ls, ∃ t, G t l := by
  induction h with
  | done => exact fun l hl => absurd hl List.not_mem_nil
  | @more s t s' l ls hst _ ih =>
    intro l' hl'
    rcases List.mem_cons.1 hl' with rfl | hl'
    · exact ⟨s, hst.2⟩
    · exact ih l' hl'

/-- Where a condition `G` on the steps decides whether `P` survives them, the runs that stay
inside `P` are exactly the runs whose steps all meet `G`. -/
theorem along_iff_restrict {G : S → L → Prop} {I P : S → Prop}
    (hI : ∀ s l s', I s → A.step s l s' → I s')
    (hG : ∀ s l s', I s → P s → A.step s l s' → (P s' ↔ G s l))
    {s s' : S} {ls : List L} (h₀ : I s) (hP : P s) :
    A.Along P s ls s' ↔ (A.restrict G).Run s ls s' := by
  constructor
  · intro h
    induction h with
    | done => exact .done _
    | @more s t s' l ls hs hst hrest ih =>
      have ht : P t := by cases hrest <;> assumption
      exact .more ⟨hst, (hG _ _ _ h₀ hs hst).1 ht⟩ (ih (hI _ _ _ h₀ hst) ht)
  · intro h
    induction h with
    | done => exact .done hP
    | more hst _ ih =>
      exact .more hP hst.1 (ih (hI _ _ _ h₀ hst.1) ((hG _ _ _ h₀ hP hst.1).2 hst.2))

/-! ### Systems given by a function -/

section OfNext

variable {f : S → L → Option S}

/-- The system in which `f s l` is the state after the event `l`; the event cannot happen where
there is none. -/
def ofNext (f : S → L → Option S) : Lts S L where
  step s l s' := f s l = some s'

/-- The state after a list of events; `none` when one of them cannot happen or does not meet the
condition. -/
def play (f : S → L → Option S) (G : S → L → Prop) [∀ s l, Decidable (G s l)] :
    S → List L → Option S
  | s, [] => some s
  | s, l :: ls => if G s l then (f s l).bind fun t => play f G t ls else none

theorem run_of_play {G : S → L → Prop} [∀ s l, Decidable (G s l)] {s s' : S} {ls : List L}
    (h : play f G s ls = some s') : ((ofNext f).restrict G).Run s ls s' := by
  induction ls generalizing s with
  | nil =>
    obtain rfl := Option.some.inj h
    exact .done _
  | cons l ls ih =>
    simp only [play] at h
    split at h
    · rename_i hG
      obtain ⟨t, ht, hrest⟩ := Option.bind_eq_some_iff.1 h
      exact .more ⟨ht, hG⟩ (ih hrest)
    · cases h

/-- Events that can be played and lead to a state with the property `P` are a run that does. -/
theorem exists_run_of_play {G : S → L → Prop} [∀ s l, Decidable (G s l)] (s : S)
    (ls : List L) (P : S → Bool) (h : (play f G s ls).any P = true) :
    ∃ s', ((ofNext f).restrict G).Run s ls s' ∧ P s' = true := by
  obtain ⟨s', hs', hP⟩ := (Option.any_eq_true _ _).1 h
  exact ⟨s', run_of_play hs', hP⟩

end OfNext

/-! ### Scripts -/

section Script

variable {C : Type} (next : S → C → Option (L × S)) (G : S → L → Prop) [∀ s l, Decidable (G s l)]

/-- The state after a list of choices, each of which determines an event; `none` when one of the
events cannot happen or does not meet the condition. -/
def script : S → List C → Option S
  | s, [] => some s
  | s, c :: cs => (next s c).bind fun e => if G s e.1 then script e.2 cs else none

variable {next G}

theorem run_of_script (hnext : ∀ s c l t, next s c = some (l, t) → A.step s l t) {s s' : S}
    {cs : List C} (h : script next G s cs = some s') : ∃ ls, (A.restrict G).Run s ls s' := by
  induction cs generalizing s with
  | nil =>
    obtain rfl := Option.some.inj h
    exact ⟨[], .done _⟩
  | cons c cs ih =>
    obtain ⟨⟨l, t⟩, ht, hrest⟩ := Option.bind_eq_some_iff.1 h
    dsimp only at hrest
    split at hrest
    · rename_i hG
      obtain ⟨ls, hrun⟩ := ih hrest
      exact ⟨l :: ls, .more ⟨hnext _ _ _ _ ht, hG⟩ hrun⟩
    · cases hrest

/-- A script that can be followed to a state with the property `P` is a run that leads there. -/
theorem exists_run_of_script (hnext : ∀ s c l t, next s c = some (l, t) → A.step s l t) (s : S)
    (cs : List C) (P : S → Bool) (h : (script next G s cs).any P = true) :
    ∃ ls s', (A.restrict G).Run s ls s' ∧ P s' = true := by
  obtain ⟨s', hs', hP⟩ := (Option.any_eq_true _ _).1 h
  obtain ⟨ls, hrun⟩ := run_of_script hnext hs'
  exact ⟨ls, s', hrun, hP⟩

end Script

end Lts

end DeviceHub
