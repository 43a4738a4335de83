import DeviceHub.Async.Lts
import Mathlib.Data.List.Basic

/-!
# Promises chained by `then`

A chain of promises, each made by `then` from the one before with a task as its callback.  A task
starts when the promise before it is fulfilled: it makes a call and its promise waits for the
result, or it throws and its promise is rejected.  When the promise before it is rejected, the task
never runs and its promise is rejected as well.

## Main definitions

* `Chained`, `Chain` : the promises, in the order in which they were made, and the calls made so
  far.
* `Chain.Reacts`, `Chain.Settles` : what can happen next.
* `Chain.system` : the steps, in any order; which calls fail is a parameter.
* `Chain.passed` : the calls of tasks up to the first failure.

## Main results

* `Chain.called_of_run` : the calls that a finished chain has made.
* `Chain.passed_eq_iff` : all tasks make their calls exactly when none but the last fails.
* `Chain.exists_finished` : the promises can always settle.
-/

namespace DeviceHub

/-- How far a promise of the chain is. -/
inductive PromiseState where
  /-- The promise before it is not settled, or its callback has not run yet. -/
  | waiting
  /-- The call of its task is under way. -/
  | running
  | fulfilled
  | rejected
  deriving DecidableEq

/-- A promise made by `then`, and the task it is for. -/
structure Chained (α : Type) where
  task : α
  state : PromiseState
  deriving DecidableEq

/-- The promises of a chain, and the calls that the tasks have made. -/
structure Chain (α β : Type) where
  promises : List (Chained α)
  called : List β
  deriving DecidableEq

namespace Chain

variable {α β : Type} {start : α → Option β} {fails : Nat → Bool}

/-- No promise is made, the first one will follow a promise that is fulfilled. -/
def empty : Chain α β := ⟨[], []⟩

/-- The next promise reacts to the one before, whose state is `before`: the task makes the call,
throws, or is left out. -/
inductive Reacts (start : α → Option β) :
    PromiseState → List (Chained α) → List (Chained α) → Option β → Prop
  | call {a : α} {b : β} {q : List (Chained α)} : start a = some b →
      Reacts start .fulfilled (⟨a, .waiting⟩ :: q) (⟨a, .running⟩ :: q) (some b)
  | throw {a : α} {q : List (Chained α)} : start a = none →
      Reacts start .fulfilled (⟨a, .waiting⟩ :: q) (⟨a, .rejected⟩ :: q) none
  | skip {a : α} {q : List (Chained α)} :
      Reacts start .rejected (⟨a, .waiting⟩ :: q) (⟨a, .rejected⟩ :: q) none
  | later {before : PromiseState} {p : Chained α} {q q' : List (Chained α)} {out : Option β} :
      Reacts start p.state q q' out → Reacts start before (p :: q) (p :: q') out

/-- A call under way ends; `i` is the number of the first promise. -/
inductive Settles (fails : Nat → Bool) : Nat → List (Chained α) → List (Chained α) → Prop
  | here {i : Nat} {a : α} {q : List (Chained α)} :
      Settles fails i (⟨a, .running⟩ :: q)
        (⟨a, if fails i then .rejected else .fulfilled⟩ :: q)
  | later {i : Nat} {p : Chained α} {q q' : List (Chained α)} :
      Settles fails (i + 1) q q' → Settles fails i (p :: q) (p :: q')

/-- What happens to the chain. -/
inductive Event (α : Type) where
  /-- A promise is made for the task. -/
  | chain (task : α)
  | react
  | settle

/-- The chain, where the calls fail that `fails` says. -/
def system (start : α → Option β) (fails : Nat → Bool) : Lts (Chain α β) (Event α) where
  step c event c' :=
    match event with
    | .chain task => c' = { c with promises := c.promises ++ [⟨task, .waiting⟩] }
    | .react => ∃ out, Reacts start .fulfilled c.promises c'.promises out ∧
        c'.called = c.called ++ out.toList
    | .settle => Settles fails 0 c.promises c'.promises ∧ c'.called = c.called

/-- The tasks of the events. -/
def tasks : List (Event α) → List α :=
  List.filterMap fun
    | .chain task => some task
    | _ => none

/-- Every promise is settled. -/
def Finished (c : Chain α β) : Prop :=
  ∀ p ∈ c.promises, p.state = .fulfilled ∨ p.state = .rejected

instance (c : Chain α β) : Decidable c.Finished :=
  inferInstanceAs (Decidable (∀ p ∈ c.promises, _))

/-- The calls of the tasks, from number `i` on, up to the first one that fails. -/
def passed (start : α → Option β) (fails : Nat → Bool) : Nat → List α → List β
  | _, [] => []
  | i, a :: l =>
    match start a with
    | some b => b :: if fails i then [] else passed start fails (i + 1) l
    | none => []

/-! ### What the promises look like -/

/-- All promises wait. -/
def Waiting (q : List (Chained α)) : Prop := ∀ p ∈ q, p.state = .waiting

/-- The promises behind one that is rejected: the first ones are rejected, the others still wait. -/
inductive Broken : List (Chained α) → Prop
  | waiting {q : List (Chained α)} : Waiting q → Broken q
  | rejected {a : α} {q : List (Chained α)} : Broken q → Broken (⟨a, .rejected⟩ :: q)

/-- The states of the promises, from number `i` on, whose tasks have made the calls: a part that is
fulfilled, at most one call under way or failed, and behind it only promises that wait or have been
left out. -/
inductive Progress (start : α → Option β) (fails : Nat → Bool) :
    Nat → List (Chained α) → List β → Prop
  | waiting {i : Nat} {q : List (Chained α)} : Waiting q → Progress start fails i q []
  | fulfilled {i : Nat} {a : α} {b : β} {q : List (Chained α)} {called : List β} :
      start a = some b → fails i = false → Progress start fails (i + 1) q called →
        Progress start fails i (⟨a, .fulfilled⟩ :: q) (b :: called)
  | running {i : Nat} {a : α} {b : β} {q : List (Chained α)} : start a = some b → Waiting q →
      Progress start fails i (⟨a, .running⟩ :: q) [b]
  | failed {i : Nat} {a : α} {b : β} {q : List (Chained α)} : start a = some b →
      fails i = true → Broken q → Progress start fails i (⟨a, .rejected⟩ :: q) [b]
  | thrown {i : Nat} {a : α} {q : List (Chained α)} : start a = none → Broken q →
      Progress start fails i (⟨a, .rejected⟩ :: q) []

theorem not_reacts_waiting {before : PromiseState} {q q' : List (Chained α)} {out : Option β}
    (hq : Waiting q) (hbefore : before = .waiting ∨ before = .running) :
    ¬ Reacts start before q q' out := by
  intro h
  induction h with
  | call => simp at hbefore
  | throw => simp at hbefore
  | skip => simp at hbefore
  | later _ ih =>
    exact ih (fun p hp => hq p (List.mem_cons_of_mem _ hp)) (.inl (hq _ List.mem_cons_self))

theorem Broken.react {before : PromiseState} {q q' : List (Chained α)} {out : Option β}
    (hq : Broken q) (h : Reacts start before q q' out) (hbefore : before ≠ .fulfilled) :
    Broken q' ∧ out = none := by
  induction hq generalizing before q' with
  | waiting hq =>
    cases h with
    | call => exact absurd rfl hbefore
    | throw => exact absurd rfl hbefore
    | skip => exact ⟨.rejected (.waiting fun p hp => hq p (List.mem_cons_of_mem _ hp)), rfl⟩
    | later h =>
      exact absurd h (not_reacts_waiting (fun p hp => hq p (List.mem_cons_of_mem _ hp))
        (.inl (hq _ List.mem_cons_self)))
  | rejected _ ih =>
    cases h with
    | later h =>
      obtain ⟨hbroken, hout⟩ := ih h (by simp)
      exact ⟨.rejected hbroken, hout⟩

theorem Waiting.not_settles {i : Nat} {q q' : List (Chained α)} (hq : Waiting q) :
    ¬ Settles fails i q q' := by
  intro h
  induction h with
  | here => exact absurd (hq _ List.mem_cons_self) (by simp)
  | later _ ih => exact ih fun p hp => hq p (List.mem_cons_of_mem _ hp)

theorem Broken.not_settles {i : Nat} {q q' : List (Chained α)} (hq : Broken q) :
    ¬ Settles fails i q q' := by
  intro h
  induction hq generalizing i q' with
  | waiting hq => exact hq.not_settles h
  | rejected _ ih =>
    cases h with
    | later h => exact ih h

theorem Broken.settled {q before after : List (Chained α)} {p : Chained α} (hbroken : Broken q)
    (hq : q = before ++ p :: after) (hp : p.state = .fulfilled ∨ p.state = .rejected) :
    ∀ p' ∈ before, p'.state = .fulfilled ∨ p'.state = .rejected := by
  induction hbroken generalizing before with
  | waiting hall =>
    subst hq
    rw [hall p (List.mem_append_right _ List.mem_cons_self)] at hp
    simp at hp
  | rejected _ ih =>
    cases before with
    | nil => simp
    | cons p₁ before =>
      obtain ⟨rfl, hrest⟩ := List.cons.inj hq
      exact List.forall_mem_cons.2 ⟨.inr rfl, ih hrest⟩

theorem Progress.react {i : Nat} {q q' : List (Chained α)} {called : List β} {out : Option β}
    (h : Progress start fails i q called) (hstep : Reacts start .fulfilled q q' out) :
    Progress start fails i q' (called ++ out.toList) := by
  induction h generalizing q' with
  | waiting hq =>
    cases hstep with
    | call ha => exact .running ha fun p hp => hq p (List.mem_cons_of_mem _ hp)
    | throw ha => exact .thrown ha (.waiting fun p hp => hq p (List.mem_cons_of_mem _ hp))
    | later h =>
      exact absurd h (not_reacts_waiting (fun p hp => hq p (List.mem_cons_of_mem _ hp))
        (.inl (hq _ List.mem_cons_self)))
  | fulfilled ha hok _ ih =>
    cases hstep with
    | later h => exact .fulfilled ha hok (ih h)
  | running ha hq =>
    cases hstep with
    | later h => exact absurd h (not_reacts_waiting hq (.inr rfl))
  | failed ha hfails hq =>
    cases hstep with
    | later h =>
      obtain ⟨hbroken, rfl⟩ := hq.react h (by simp)
      exact .failed ha hfails hbroken
  | thrown ha hq =>
    cases hstep with
    | later h =>
      obtain ⟨hbroken, rfl⟩ := hq.react h (by simp)
      exact .thrown ha hbroken

theorem Progress.settle {i : Nat} {q q' : List (Chained α)} {called : List β}
    (h : Progress start fails i q called) (hstep : Settles fails i q q') :
    Progress start fails i q' called := by
  induction h generalizing q' with
  | waiting hq => exact absurd hstep hq.not_settles
  | fulfilled ha hok _ ih =>
    cases hstep with
    | later h => exact .fulfilled ha hok (ih h)
  | @running i a b q ha hq =>
    cases hstep with
    | here =>
      cases hfails : fails i with
      | true => exact .failed ha hfails (.waiting hq)
      | false => exact .fulfilled ha hfails (.waiting hq)
    | later h => exact absurd h hq.not_settles
  | failed ha hfails hq =>
    cases hstep with
    | later h => exact absurd h hq.not_settles
  | thrown ha hq =>
    cases hstep with
    | later h => exact absurd h hq.not_settles

theorem Progress.chain {i : Nat} {q : List (Chained α)} {called : List β} (task : α)
    (h : Progress start fails i q called) :
    Progress start fails i (q ++ [⟨task, .waiting⟩]) called := by
  have hwaiting : ∀ {q : List (Chained α)}, Waiting q → Waiting (q ++ [⟨task, .waiting⟩]) := by
    intro q hq p hp
    rcases List.mem_append.1 hp with hp | hp
    · exact hq p hp
    · rw [List.mem_singleton.1 hp]
  have hbroken : ∀ {q : List (Chained α)}, Broken q → Broken (q ++ [⟨task, .waiting⟩]) := by
    intro q hq
    induction hq with
    | waiting hq => exact .waiting (hwaiting hq)
    | rejected _ ih => exact .rejected ih
  induction h with
  | waiting hq => exact .waiting (hwaiting hq)
  | fulfilled ha hok _ ih => exact .fulfilled ha hok ih
  | running ha hq => exact .running ha (hwaiting hq)
  | failed ha hfails hq => exact .failed ha hfails (hbroken hq)
  | thrown ha hq => exact .thrown ha (hbroken hq)

/-- The calls of a chain that is finished. -/
theorem Progress.called {i : Nat} {q : List (Chained α)} {called : List β}
    (h : Progress start fails i q called)
    (hfinished : ∀ p ∈ q, p.state = .fulfilled ∨ p.state = .rejected) :
    called = passed start fails i (q.map Chained.task) := by
  induction h with
  | @waiting i q hq =>
    cases q with
    | nil => rfl
    | cons p q =>
      have hp := hfinished p List.mem_cons_self
      rw [hq p List.mem_cons_self] at hp
      simp at hp
  | fulfilled ha hok _ ih =>
    have hrest := ih fun p hp => hfinished p (List.mem_cons_of_mem _ hp)
    simp [passed, ha, hok, hrest]
  | running ha hq => exact absurd (hfinished _ List.mem_cons_self) (by simp)
  | failed ha hfails hq => simp [passed, ha, hfails]
  | thrown ha hq => simp [passed, ha]

/-- When a promise is settled, so are those before it. -/
theorem Progress.settled {i : Nat} {q before after : List (Chained α)} {called : List β}
    {p : Chained α} (h : Progress start fails i q called) (hq : q = before ++ p :: after)
    (hp : p.state = .fulfilled ∨ p.state = .rejected) :
    ∀ p' ∈ before, p'.state = .fulfilled ∨ p'.state = .rejected := by
  have hwaiting : ∀ {q : List (Chained α)}, Waiting q → p ∉ q := by
    intro q hall hmem
    rw [hall p hmem] at hp
    simp at hp
  induction h generalizing before with
  | waiting hall =>
    subst hq
    exact absurd (List.mem_append_right _ List.mem_cons_self) (hwaiting hall)
  | fulfilled _ _ _ ih =>
    cases before with
    | nil => simp
    | cons p₁ before =>
      obtain ⟨rfl, hrest⟩ := List.cons.inj hq
      exact List.forall_mem_cons.2 ⟨.inl rfl, ih hrest⟩
  | running _ hall =>
    cases before with
    | nil => simp
    | cons p₁ before =>
      obtain ⟨rfl, rfl⟩ := List.cons.inj hq
      exact absurd (List.mem_append_right _ List.mem_cons_self) (hwaiting hall)
  | failed _ _ hbroken =>
    cases before with
    | nil => simp
    | cons p₁ before =>
      obtain ⟨rfl, hrest⟩ := List.cons.inj hq
      exact List.forall_mem_cons.2 ⟨.inr rfl, hbroken.settled hrest hp⟩
  | thrown _ hbroken =>
    cases before with
    | nil => simp
    | cons p₁ before =>
      obtain ⟨rfl, hrest⟩ := List.cons.inj hq
      exact List.forall_mem_cons.2 ⟨.inr rfl, hbroken.settled hrest hp⟩

/-! ### Runs -/

theorem tasks_react {q q' : List (Chained α)} {before : PromiseState} {out : Option β}
    (h : Reacts start before q q' out) : q'.map Chained.task = q.map Chained.task := by
  induction h with
  | later _ ih => rw [List.map_cons, List.map_cons, ih]
  | _ => rfl

theorem tasks_settle {q q' : List (Chained α)} {i : Nat} (h : Settles fails i q q') :
    q'.map Chained.task = q.map Chained.task := by
  induction h with
  | here => rfl
  | later _ ih => rw [List.map_cons, List.map_cons, ih]

theorem progress_of_run {c c' : Chain α β} {events : List (Event α)}
    (h : Progress start fails 0 c.promises c.called)
    (hrun : (system start fails).Run c events c') :
    Progress start fails 0 c'.promises c'.called ∧
      c'.promises.map Chained.task = c.promises.map Chained.task ++ tasks events := by
  induction hrun with
  | done => exact ⟨h, (List.append_nil _).symm⟩
  | @more c t c' event events hstep _ ih =>
    cases event with
    | chain task =>
      obtain rfl : t = _ := hstep
      obtain ⟨hprogress, htasks⟩ := ih (h.chain task)
      refine ⟨hprogress, htasks.trans ?_⟩
      simp [tasks]
    | react =>
      obtain ⟨out, hreacts, hcalled⟩ := hstep
      obtain ⟨hprogress, htasks⟩ := ih (by rw [hcalled]; exact h.react hreacts)
      exact ⟨hprogress, htasks.trans (by rw [tasks_react hreacts]; rfl)⟩
    | settle =>
      obtain ⟨hsettles, hcalled⟩ := hstep
      obtain ⟨hprogress, htasks⟩ := ih (by rw [hcalled]; exact h.settle hsettles)
      exact ⟨hprogress, htasks.trans (by rw [tasks_settle hsettles]; rfl)⟩

theorem called_of_run {c : Chain α β} {events : List (Event α)}
    (hrun : (system start fails).Run empty events c) (hfinished : c.Finished) :
    c.called = passed start fails 0 (tasks events) := by
  obtain ⟨hprogress, htasks⟩ := progress_of_run (.waiting fun p hp => (by cases hp)) hrun
  rw [hprogress.called hfinished, htasks]
  rfl

/-- Every task makes its call exactly when none but the last fails, and none throws. -/
theorem passed_eq_iff {i : Nat} {l : List α} :
    (passed start fails i l).map some = l.map start ↔
      ∀ j (h : j < l.length), (start l[j]).isSome ∧ (j + 1 < l.length → fails (i + j) = false) := by
  induction l generalizing i with
  | nil => simp [passed]
  | cons a l ih =>
    unfold passed
    cases ha : start a with
    | none =>
      simp only [List.map_nil, List.map_cons, ha]
      refine iff_of_false (by simp) fun h => ?_
      have hfirst := (h 0 (by simp)).1
      simp [ha] at hfirst
    | some b =>
      simp only [List.map_cons, ha, List.cons.injEq, true_and]
      constructor
      · intro h j hj
        cases hfails : fails i with
        | true =>
          -- the failure is that of the last task
          rw [hfails] at h
          obtain rfl : l = [] := List.map_eq_nil_iff.1 h.symm
          obtain rfl : j = 0 := by simpa using hj
          simp [ha]
        | false =>
          rw [hfails] at h
          have hrest := ih.1 h
          cases j with
          | zero => simp [ha, hfails]
          | succ j =>
            obtain ⟨hsome, hok⟩ := hrest j (by simpa using hj)
            refine ⟨hsome, fun hlt => ?_⟩
            rw [show i + (j + 1) = i + 1 + j by omega]
            exact hok (by simpa using hlt)
      · intro h
        cases l with
        | nil => simp [passed]
        | cons a' l =>
          have hok := (h 0 (by simp)).2 (by simp)
          rw [Nat.add_zero] at hok
          rw [hok]
          refine ih.2 fun j hj => ?_
          obtain ⟨hsome, hrest⟩ := h (j + 1) (by simpa using hj)
          refine ⟨hsome, fun hlt => ?_⟩
          rw [show i + 1 + j = i + (j + 1) by omega]
          exact hrest (by simpa using hlt)

/-! ### Settling -/

/-- How many steps the promises have before them. -/
def weight : List (Chained α) → Nat
  | [] => 0
  | p :: q => (match p.state with | .waiting => 2 | .running => 1 | _ => 0) + weight q

theorem Reacts.weight_lt {before : PromiseState} {q q' : List (Chained α)} {out : Option β}
    (h : Reacts start before q q' out) : weight q' < weight q := by
  induction h with
  | later _ ih => simpa [weight] using ih
  | _ => simp [weight]

theorem Settles.weight_lt {i : Nat} {q q' : List (Chained α)} (h : Settles fails i q q') :
    weight q' < weight q := by
  induction h with
  | @here i a q => cases hfails : fails i <;> simp [weight]
  | later _ ih => simpa [weight] using ih

theorem Broken.exists_reacts {q : List (Chained α)} (hq : Broken q)
    (hnot : ¬ ∀ p ∈ q, p.state = .fulfilled ∨ p.state = .rejected) :
    ∃ q', Reacts start .rejected q q' none := by
  induction hq with
  | @waiting q hq =>
    cases q with
    | nil => exact absurd (fun p hp => by cases hp) hnot
    | cons p q =>
      obtain ⟨a, state⟩ := p
      obtain rfl : state = .waiting := hq _ List.mem_cons_self
      exact ⟨_, .skip⟩
  | rejected _ ih =>
    obtain ⟨q', hq'⟩ := ih fun hall => hnot fun p hp => by
      rcases List.mem_cons.1 hp with rfl | hp
      · exact .inr rfl
      · exact hall p hp
    exact ⟨_, .later hq'⟩

/-- A chain that is not finished has a step. -/
theorem Progress.exists_step {i : Nat} {q : List (Chained α)} {called : List β}
    (h : Progress start fails i q called)
    (hnot : ¬ ∀ p ∈ q, p.state = .fulfilled ∨ p.state = .rejected) :
    (∃ q' out, Reacts start .fulfilled q q' out) ∨ ∃ q', Settles fails i q q' := by
  induction h with
  | @waiting i q hq =>
    cases q with
    | nil => exact absurd (fun p hp => by cases hp) hnot
    | cons p q =>
      obtain ⟨a, state⟩ := p
      obtain rfl : state = .waiting := hq _ List.mem_cons_self
      cases ha : start a with
      | none => exact .inl ⟨_, _, .throw ha⟩
      | some b => exact .inl ⟨_, _, .call ha⟩
  | fulfilled ha hok _ ih =>
    have hrest := ih fun hall => hnot fun p hp => by
      rcases List.mem_cons.1 hp with rfl | hp
      · exact .inl rfl
      · exact hall p hp
    rcases hrest with ⟨q', out, hstep⟩ | ⟨q', hstep⟩
    · exact .inl ⟨_, _, .later hstep⟩
    · exact .inr ⟨_, .later hstep⟩
  | running ha hq => exact .inr ⟨_, .here⟩
  | failed ha hfails hq =>
    obtain ⟨q', hq'⟩ := hq.exists_reacts fun hall => hnot fun p hp => by
      rcases List.mem_cons.1 hp with rfl | hp
      · exact .inr rfl
      · exact hall p hp
    exact .inl ⟨_, _, .later hq'⟩
  | thrown ha hq =>
    obtain ⟨q', hq'⟩ := hq.exists_reacts fun hall => hnot fun p hp => by
      rcases List.mem_cons.1 hp with rfl | hp
      · exact .inr rfl
      · exact hall p hp
    exact .inl ⟨_, _, .later hq'⟩

theorem exists_finished {c : Chain α β} (h : Progress start fails 0 c.promises c.called) :
    ∃ events c', (system start fails).Run c events c' ∧ tasks events = [] ∧ c'.Finished := by
  induction hn : weight c.promises using Nat.strongRecOn generalizing c with
  | ind n ih =>
    by_cases hfinished : ∀ p ∈ c.promises, p.state = .fulfilled ∨ p.state = .rejected
    · exact ⟨[], c, .done c, rfl, hfinished⟩
    · rcases h.exists_step hfinished with ⟨q', out, hstep⟩ | ⟨q', hstep⟩
      · have hprogress := h.react hstep
        obtain ⟨events, c', hrun, htasks, hdone⟩ := ih (weight q') (hn ▸ hstep.weight_lt)
          (c := ⟨q', c.called ++ out.toList⟩) hprogress rfl
        exact ⟨.react :: events, c', .more ⟨out, hstep, rfl⟩ hrun, htasks, hdone⟩
      · obtain ⟨events, c', hrun, htasks, hdone⟩ := ih (weight q') (hn ▸ hstep.weight_lt)
          (c := ⟨q', c.called⟩) (h.settle hstep) rfl
        exact ⟨.settle :: events, c', .more (t := ⟨q', c.called⟩) ⟨hstep, rfl⟩ hrun, htasks, hdone⟩

end Chain

end DeviceHub
