import DeviceHub.Async.Prog

/-!
# Programs on a part of a store

A store is often a part of a larger one, whose programs call those of the part.  `Part` says how the
operations on the part are carried out on the whole, and `Part.lift` turns a program on the part
into one on the whole, with other exceptions if need be.

## Main results

* `Part.runs_lift` : a lifted program does to the part what the program does, and nothing else.
* `Part.runs_lift_bind` : the same of a lifted program that is continued.
-/

namespace DeviceHub

namespace Prog

variable {Op Op' : Type} {Res : Op → Type} {Res' : Op' → Type} {σ τ ε ε' α β : Type}

/-- A part of a store: the operations on it, as operations on the whole store. -/
structure Part (exec : (o : Op) → σ → Res o × σ) (exec' : (o : Op') → τ → Res' o × τ) where
  op : Op → Op'
  answer : (o : Op) → Res' (op o) → Res o
  get : τ → σ
  set : σ → τ → τ
  get_set : ∀ s t, get (set s t) = s
  set_get : ∀ t, set (get t) t = t
  set_set : ∀ s s' t, set s' (set s t) = set s' t
  exec_op : ∀ o t, (exec' (op o) t).2 = set (exec o (get t)).2 t
  answer_op : ∀ o t, answer o (exec' (op o) t).1 = (exec o (get t)).1

namespace Part

variable {exec : (o : Op) → σ → Res o × σ} {exec' : (o : Op') → τ → Res' o × τ}

attribute [simp] get_set set_get set_set

/-- A program on the part, as a program on the whole store. -/
def lift (P : Part exec exec') (f : ε → ε') : Prog Op Res ε α → Prog Op' Res' ε' α
  | .ret a => .ret a
  | .fail e => .fail (f e)
  | .act o k => .act (P.op o) fun r => P.lift f (k (P.answer o r))
  | .alt p q => .alt (P.lift f p) (P.lift f q)

theorem lift_bind (P : Part exec exec') (f : ε → ε') (p : Prog Op Res ε α)
    (k : α → Prog Op Res ε β) :
    P.lift f (p.bind k) = (P.lift f p).bind fun a => P.lift f (k a) := by
  induction p with
  | ret a => rfl
  | fail e => rfl
  | act o k' ih => simp only [bind, lift, ih]
  | alt p q ihp ihq => simp only [bind, lift, ihp, ihq]

theorem lift_each (P : Part exec exec') (f : ε → ε') (p : β → Prog Op Res ε α) (l : List β) :
    P.lift f (Prog.each p l) = Prog.each (fun b => P.lift f (p b)) l := by
  induction l with
  | nil => rfl
  | cons b l ih => simp only [Prog.each, lift_bind, ih, lift]

/-- The whole store after the part has changed: the same outcome, the exception translated. -/
theorem runs_lift (P : Part exec exec') {f : ε → ε'} {p : Prog Op Res ε α} {t t' : τ}
    {r : Except ε' α} : (P.lift f p).Runs exec' t r t' ↔
      ∃ r' s', p.Runs exec (P.get t) r' s' ∧ r = r'.mapError f ∧ t' = P.set s' t := by
  induction p generalizing t with
  | ret a => simp [lift, Except.mapError, and_assoc]
  | fail e => simp [lift, Except.mapError, and_assoc]
  | act o k ih =>
    show (P.lift f (k (P.answer o (exec' (P.op o) t).1))).Runs exec' (exec' (P.op o) t).2 r t' ↔ _
    rw [ih, P.answer_op, P.exec_op, P.get_set]
    simp
  | alt p q ihp ihq =>
    show (P.lift f p).Runs exec' t r t' ∨ (P.lift f q).Runs exec' t r t' ↔ _
    rw [ihp, ihq]
    constructor
    · rintro (⟨r', s', h, h'⟩ | ⟨r', s', h, h'⟩)
      · exact ⟨r', s', .inl h, h'⟩
      · exact ⟨r', s', .inr h, h'⟩
    · rintro ⟨r', s', h | h, h'⟩
      · exact .inl ⟨r', s', h, h'⟩
      · exact .inr ⟨r', s', h, h'⟩

/-- A lifted program that is continued when it returns. -/
theorem runs_lift_bind (P : Part exec exec') {f : ε → ε'} {p : Prog Op Res ε α}
    {k : α → Prog Op' Res' ε' β} {t t' : τ} {r : Except ε' β} :
    ((P.lift f p).bind k).Runs exec' t r t' ↔
      (∃ a s', p.Runs exec (P.get t) (.ok a) s' ∧ (k a).Runs exec' (P.set s' t) r t') ∨
        ∃ e s', p.Runs exec (P.get t) (.error e) s' ∧ r = .error (f e) ∧ t' = P.set s' t := by
  rw [runs_bind]
  simp only [P.runs_lift]
  constructor
  · rintro (⟨a, u, ⟨r', s', h, ha, rfl⟩, hk⟩ | ⟨e, ⟨r', s', h, he, rfl⟩, rfl⟩)
    · cases r' with
      | error e => cases ha
      | ok a' =>
        obtain rfl := Except.ok.inj ha
        exact .inl ⟨a, s', h, hk⟩
    · cases r' with
      | error e' =>
        obtain rfl := Except.error.inj he
        exact .inr ⟨e', s', h, rfl, rfl⟩
      | ok a => cases he
  · rintro (⟨a, s', h, hk⟩ | ⟨e, s', h, rfl, rfl⟩)
    · exact .inl ⟨a, _, ⟨_, s', h, rfl, rfl⟩, hk⟩
    · exact .inr ⟨f e, ⟨_, s', h, rfl, rfl⟩, rfl⟩

end Part

end Prog

end DeviceHub
