import DeviceHub.Scheduler.Tasks
import Mathlib.Tactic.Set

/-!
# The queue of the scheduler

What the synchronous functions of the scheduler do to its state, said once for all: `Outcome` lists
what an event can lead to, `taken_scheduleFrom` what becomes of the queue when the next task is
taken from it.

## Main definitions

* `Schedules` : the event calls `scheduleNextTask`.
* `Linked` : the queue has no key twice, its keys have tasks, and the armed timer has left it.
* `Tidy` : no other task is a year away, besides.

## Main results

* `outcome_of_next` : an event leads to one of the outcomes.
* `Tidy.next` : the scheduler stays tidy.
-/

namespace DeviceHub

open apiutil

namespace GroupsScheduler

variable {s s' : State} {e : Event}

/-- The event calls `scheduleNextTask`. -/
def Schedules (s : State) : Event → Prop
  | .schedule => True
  | .finish i => ∃ call ∈ s.calls[i]?, call.timed = true
  | _ => False

instance (s : State) (e : Event) : Decidable (Schedules s e) := by
  unfold Schedules
  split <;> infer_instance

/-- What an event leads to. -/
inductive Outcome (s : State) (e : Event) : State → Prop
  | tick (now : Int) (h : s.now ≤ now) (hno : ¬ Schedules s e) : Outcome s e { s with now := now }
  | reload (groups : List Group) (hno : ¬ Schedules s e) :
    Outcome s e (GroupsScheduler.reload s groups)
  | schedule (passes : Nat) (calls : List Call) (hcalls : ∀ c ∈ calls, c ∈ s.calls)
      (hyes : Schedules s e) :
    Outcome s e (scheduleNextTask { s with passes := passes, calls := calls })
  | fire (timer : Timer) (htimer : s.currentTimeout = some timer) (hdue : timer.notBefore ≤ s.now)
      (hno : ¬ Schedules s e) :
    Outcome s e { s with
      currentTimeout := none
      scheduledTasks := s.scheduledTasks.delete timer.key
      calls := s.calls ++ [⟨timer.key, timer.task, true, false⟩] }
  | start (i : Nat) (call : Call) (hcall : s.calls[i]? = some call) (hno : ¬ Schedules s e) :
    Outcome s e { s with
      calls := s.calls.set i { call with started := true }
      started := s.started ++ [⟨call.key, call.task, s.now⟩] }
  | finish (calls : List Call) (hcalls : ∀ c ∈ calls, c ∈ s.calls) (hno : ¬ Schedules s e) :
    Outcome s e { s with calls := calls }

theorem exists_timer_of_fire (h : s.next .fire = some s') :
    ∃ timer, s.currentTimeout = some timer ∧ timer.notBefore ≤ s.now ∧ s' = { s with
      currentTimeout := none
      scheduledTasks := s.scheduledTasks.delete timer.key
      calls := s.calls ++ [⟨timer.key, timer.task, true, false⟩] } := by
  simp only [State.next] at h
  split at h
  · cases h
  · rename_i timer htimer
    obtain ⟨hdue, h⟩ := Option.ite_none_right_eq_some.1 h
    exact ⟨timer, htimer, hdue, (Option.some.inj h).symm⟩

theorem outcome_of_next (h : s.next e = some s') : Outcome s e s' := by
  cases e with
  | tick now =>
    simp only [State.next] at h
    split at h
    · rename_i hle
      obtain rfl := Option.some.inj h
      exact .tick now hle id
    · cases h
  | reload groups =>
    obtain rfl := Option.some.inj h
    exact .reload groups id
  | schedule =>
    simp only [State.next] at h
    split at h
    · cases h
    · obtain rfl := Option.some.inj h
      exact .schedule (s.passes - 1) s.calls (fun _ => id) trivial
  | fire =>
    obtain ⟨timer, htimer, hdue, rfl⟩ := exists_timer_of_fire h
    exact .fire timer htimer hdue id
  | start i =>
    simp only [State.next] at h
    split at h
    · cases h
    rename_i call hcall
    split at h
    · cases h
    · obtain rfl := Option.some.inj h
      exact .start i call hcall id
  | finish i =>
    simp only [State.next] at h
    split at h
    · cases h
    rename_i call hcall
    -- a call that has ended is the only one that goes
    have hsub : ∀ c ∈ s.calls.eraseIdx i, c ∈ s.calls := fun c => List.mem_of_mem_eraseIdx
    by_cases htimed : call.timed = true
    · rw [if_pos htimed] at h
      obtain rfl := Option.some.inj h
      exact .schedule s.passes _ hsub ⟨call, hcall, htimed⟩
    · rw [if_neg htimed] at h
      obtain rfl := Option.some.inj h
      refine .finish _ hsub ?_
      rintro ⟨call', hcall', htimed'⟩
      obtain rfl := Option.some.inj (hcall.symm.trans hcall')
      exact htimed htimed'

/-! ### Taking the next task -/

/-- What `scheduleNextTask` leaves alone. -/
theorem scheduleFrom_frame (s : State) (queue : List Nat) :
    (scheduleFrom s queue).now = s.now ∧ (scheduleFrom s queue).symbols = s.symbols ∧
      (scheduleFrom s queue).calls = s.calls ∧ (scheduleFrom s queue).started = s.started := by
  induction queue generalizing s with
  | nil => exact ⟨rfl, rfl, rfl, rfl⟩
  | cons key queue ih =>
    unfold scheduleFrom
    split
    · exact ⟨rfl, rfl, rfl, rfl⟩
    split
    · exact ⟨rfl, rfl, rfl, rfl⟩
    dsimp only
    split
    · exact ih _
    · exact ⟨rfl, rfl, rfl, rfl⟩

@[simp] theorem now_scheduleNextTask (s : State) : (scheduleNextTask s).now = s.now :=
  (scheduleFrom_frame _ _).1

@[simp] theorem symbols_scheduleNextTask (s : State) :
    (scheduleNextTask s).symbols = s.symbols := (scheduleFrom_frame _ _).2.1

@[simp] theorem calls_scheduleNextTask (s : State) : (scheduleNextTask s).calls = s.calls :=
  (scheduleFrom_frame _ _).2.2.1

@[simp] theorem started_scheduleNextTask (s : State) :
    (scheduleNextTask s).started = s.started := (scheduleFrom_frame _ _).2.2.2

/-- The task of a key of the queue. -/
def State.taskOf (s : State) (key : Nat) : Option Task :=
  (s.scheduledTasks.findOne key).map ScheduledTask.task

/-- The first task in the queue that is less than a year away. -/
def upcoming (s : State) : Option Task :=
  (s.taskQueue.filterMap s.taskOf).find? fun task => task.time - s.now < ONE_YEAR

/-- How the next task is taken from a queue: tasks that are a year away or more are dropped, and the
timer is armed for the first of the others, if there is one. -/
inductive Taken (s : State) (queue : List Nat) (s' : State) : Prop
  | idle
    (hfar : ∀ k ∈ queue, ∀ e ∈ s.scheduledTasks.findOne k, ONE_YEAR ≤ e.task.time - s.now)
    (htasks : ∀ k, s'.scheduledTasks.findOne k =
      if k ∈ queue then none else s.scheduledTasks.findOne k)
    (hqueue : s'.taskQueue = []) (htimer : s'.currentTimeout = none)
  | armed (skipped rest : List Nat) (k : Nat) (e : ScheduledTask)
    (hsplit : queue = skipped ++ k :: rest)
    (hfar : ∀ k ∈ skipped, ∀ e ∈ s.scheduledTasks.findOne k, ONE_YEAR ≤ e.task.time - s.now)
    (htasks : ∀ k, s'.scheduledTasks.findOne k =
      if k ∈ skipped then none else s.scheduledTasks.findOne k)
    (hfound : s.scheduledTasks.findOne k = some e) (hnear : e.task.time - s.now < ONE_YEAR)
    (hqueue : s'.taskQueue = rest)
    (htimer : s'.currentTimeout =
      some ⟨k, e.task, setTimeout s.now (max 0 (e.task.time - s.now))⟩)

theorem taken_scheduleFrom {queue : List Nat} (hnodup : queue.Nodup)
    (hsched : ∀ k ∈ queue, ∃ e, s.scheduledTasks.findOne k = some e)
    (hidle : s.currentTimeout = none) : Taken s queue (scheduleFrom s queue) := by
  induction queue generalizing s with
  | nil => exact .idle (fun k hk => by cases hk) (fun k => by simp [scheduleFrom]) rfl hidle
  | cons key queue ih =>
    obtain ⟨hkey, hnodup⟩ := List.nodup_cons.1 hnodup
    obtain ⟨e, he⟩ := hsched key List.mem_cons_self
    have hdocs : s.scheduledTasks.docs ≠ [] := List.ne_nil_of_mem (Collection.mem_of_findOne he)
    have hyear : (0 : Int) < ONE_YEAR := by decide
    unfold scheduleFrom
    rw [if_neg hdocs, he]
    dsimp only
    by_cases hfar : max 0 (e.task.time - s.now) ≥ ONE_YEAR
    · rw [if_pos hfar]
      set s₁ : State := { s with scheduledTasks := s.scheduledTasks.delete key } with hs₁
      have hother : ∀ k, k ≠ key → s₁.scheduledTasks.findOne k = s.scheduledTasks.findOne k :=
        fun k hk => Collection.findOne_delete_ne hk
      have hself : s₁.scheduledTasks.findOne key = none := Collection.findOne_delete_self _ _
      have hrest : ∀ k ∈ queue, k ≠ key := fun k hk hne => hkey (hne ▸ hk)
      have hkeyFar : ∀ e' ∈ s.scheduledTasks.findOne key, ONE_YEAR ≤ e'.task.time - s.now := by
        intro e' he'
        obtain rfl := Option.some.inj (he.symm.trans he')
        omega
      -- what is said of the rest of the queue in `s₁` holds of it in `s`
      have hlift : ∀ l, (∀ k ∈ l, k ∈ queue) →
          (∀ k ∈ l, ∀ e ∈ s₁.scheduledTasks.findOne k, ONE_YEAR ≤ e.task.time - s₁.now) →
          ∀ k ∈ key :: l, ∀ e ∈ s.scheduledTasks.findOne k, ONE_YEAR ≤ e.task.time - s.now := by
        intro l hl hfar' k hk e' he'
        rcases List.mem_cons.1 hk with rfl | hk
        · exact hkeyFar e' he'
        · exact hfar' k hk e' (by rw [hother k (hrest k (hl k hk))]; exact he')
      have htasks : ∀ l k, (if k ∈ l then none else s₁.scheduledTasks.findOne k) =
          if k ∈ key :: l then none else s.scheduledTasks.findOne k := by
        intro l k
        by_cases hk : k = key
        · subst hk
          simp [hself]
        · simp [hk, hother k hk]
      rcases ih (s := s₁) hnodup (fun k hk => by
        obtain ⟨e', he'⟩ := hsched k (List.mem_cons_of_mem _ hk)
        exact ⟨e', (hother k (hrest k hk)).trans he'⟩) hidle with
        ⟨hfar', htasks', hqueue, htimer⟩ |
          ⟨skipped, rest, k, e', hsplit, hfar', htasks', hfound, hnear, hqueue, htimer⟩
      · exact .idle (hlift queue (fun _ => id) hfar') (fun k => (htasks' k).trans (htasks _ k))
          hqueue htimer
      · refine .armed (key :: skipped) rest k e' (by rw [hsplit, List.cons_append])
          (hlift skipped (fun k hk => ?_) hfar') (fun k => (htasks' k).trans (htasks _ k)) ?_ hnear
          hqueue htimer
        · rw [hsplit]
          exact List.mem_append_left _ hk
        · rw [← hother k (hrest k (by simp [hsplit]))]
          exact hfound
    · rw [if_neg hfar]
      exact .armed [] queue key e rfl (fun k hk => by cases hk) (fun k => by simp) he (by omega)
        rfl rfl

/-! ### Linked keys -/

theorem mem_insertKey {scheduledTasks : Collection ScheduledTask} {time : Int} {key k : Nat}
    {queue : List Nat} : k ∈ insertKey scheduledTasks time key queue ↔ k = key ∨ k ∈ queue := by
  induction queue with
  | nil => simp [insertKey]
  | cons k' queue ih =>
    unfold insertKey
    split
    · exact List.mem_cons
    · rw [List.mem_cons, ih, List.mem_cons]
      exact or_left_comm

theorem nodup_insertKey {scheduledTasks : Collection ScheduledTask} {time : Int} {key : Nat}
    {queue : List Nat} (hkey : key ∉ queue) (h : queue.Nodup) :
    (insertKey scheduledTasks time key queue).Nodup := by
  induction queue with
  | nil => exact List.nodup_singleton _
  | cons k queue ih =>
    obtain ⟨hk, hqueue⟩ := List.nodup_cons.1 h
    unfold insertKey
    split
    · exact List.nodup_cons.2 ⟨hkey, h⟩
    · refine List.nodup_cons.2 ⟨fun hmem => ?_, ih (fun hmem => hkey (by simp [hmem])) hqueue⟩
      rcases mem_insertKey.1 hmem with rfl | hmem
      · exact hkey List.mem_cons_self
      · exact hk hmem

/-- The tasks of two keys are related. -/
def Related (R : ScheduledTask → ScheduledTask → Prop) (scheduledTasks : Collection ScheduledTask)
    (k k' : Nat) : Prop :=
  ∀ e ∈ scheduledTasks.findOne k, ∀ e' ∈ scheduledTasks.findOne k', R e e'

/-- A transitive relation of the queue holds of a task that is inserted, if it holds of it and the
later tasks, and of the others and it. -/
theorem pairwise_insertKey {R : ScheduledTask → ScheduledTask → Prop}
    {scheduledTasks : Collection ScheduledTask} {new : ScheduledTask} {key : Nat} {queue : List Nat}
    (htrans : ∀ e₁ e₂ e₃, R e₁ e₂ → R e₂ e₃ → R e₁ e₃)
    (hnew : scheduledTasks.findOne key = some new)
    (hqueue : ∀ k ∈ queue, ∃ e, scheduledTasks.findOne k = some e)
    (hlater : ∀ e, e.task.time > new.task.time → R new e)
    (hearlier : ∀ k ∈ queue, ∀ e ∈ scheduledTasks.findOne k, e.task.time ≤ new.task.time → R e new)
    (h : queue.Pairwise (Related R scheduledTasks)) :
    (insertKey scheduledTasks new.task.time key queue).Pairwise (Related R scheduledTasks) := by
  induction queue with
  | nil => exact List.pairwise_singleton _ _
  | cons k queue ih =>
    obtain ⟨hk, hrest⟩ := List.pairwise_cons.1 h
    obtain ⟨⟨e, he⟩, hqueue⟩ := List.forall_mem_cons.1 hqueue
    obtain ⟨hkEarlier, hearlier⟩ := List.forall_mem_cons.1 hearlier
    unfold insertKey
    by_cases htime : e.task.time > new.task.time
    · rw [if_pos (by simp [he, htime])]
      refine List.pairwise_cons.2 ⟨fun k' hk' e₁ he₁ e₂ he₂ => ?_, h⟩
      obtain rfl := Option.some.inj (hnew.symm.trans he₁)
      rcases List.mem_cons.1 hk' with rfl | hk'
      · obtain rfl := Option.some.inj (he.symm.trans he₂)
        exact hlater e htime
      · exact htrans new e e₂ (hlater e htime) (hk k' hk' e he e₂ he₂)
    · rw [if_neg (by simp [he, htime])]
      refine List.pairwise_cons.2 ⟨fun k' hk' => ?_, ih hqueue hearlier hrest⟩
      rcases mem_insertKey.1 hk' with rfl | hk'
      · intro e₁ he₁ e₂ he₂
        obtain rfl := Option.some.inj (he.symm.trans he₁)
        obtain rfl := Option.some.inj (hnew.symm.trans he₂)
        exact hkEarlier e he (Int.not_lt.1 htime)
      · exact hk k' hk'

/-- The queue has no key twice and its keys have tasks; the timer's key has left it. -/
structure Linked (s : State) : Prop where
  nodup : s.taskQueue.Nodup
  scheduled : ∀ k ∈ s.taskQueue, ∃ e, s.scheduledTasks.findOne k = some e
  left : ∀ t ∈ s.currentTimeout, t.key ∉ s.taskQueue
  fresh : ∀ e ∈ s.scheduledTasks.docs, e.key < s.symbols
  freshTimer : ∀ t ∈ s.currentTimeout, t.key < s.symbols

theorem linked_init (now : Int) : Linked (State.init now) where
  nodup := List.nodup_nil
  scheduled k hk := by cases hk
  left t ht := by cases ht
  fresh e he := by cases he
  freshTimer t ht := by cases ht

theorem Taken.mem_docs {queue : List Nat} (h : Taken s queue s') {e : ScheduledTask}
    (he : e ∈ s'.scheduledTasks.docs) : e ∈ s.scheduledTasks.docs := by
  have hfound := Collection.findOne_of_mem he
  cases h with
  | idle hfar htasks hqueue htimer =>
    rw [htasks] at hfound
    split at hfound
    · cases hfound
    · exact Collection.mem_of_findOne hfound
  | armed skipped rest k e' hsplit hfar htasks hfound' hnear hqueue htimer =>
    rw [htasks] at hfound
    split at hfound
    · cases hfound
    · exact Collection.mem_of_findOne hfound

namespace Linked

theorem findOne_symbols (h : Linked s) : s.scheduledTasks.findOne s.symbols = none := by
  refine Collection.findOne_eq_none.2 fun e he heq => ?_
  exact absurd (h.fresh e he) (by rw [← heq]; exact Nat.lt_irrefl _)

theorem ne_symbols (h : Linked s) {k : Nat} (hk : ∃ e, s.scheduledTasks.findOne k = some e) :
    k ≠ s.symbols := by
  rintro rfl
  obtain ⟨e, he⟩ := hk
  rw [h.findOne_symbols] at he
  cases he

theorem findOne_setScheduledTask (h : Linked s) (task : Task) :
    (GroupsScheduler.setScheduledTask s task).scheduledTasks.findOne s.symbols =
        some ⟨s.symbols, task⟩ ∧
      ∀ k, k ≠ s.symbols → (GroupsScheduler.setScheduledTask s task).scheduledTasks.findOne k =
        s.scheduledTasks.findOne k :=
  ⟨Collection.findOne_insert_self h.findOne_symbols, fun _ hk => Collection.findOne_insert_ne hk⟩

theorem docs_setScheduledTask (h : Linked s) (task : Task) :
    (GroupsScheduler.setScheduledTask s task).scheduledTasks.docs =
      s.scheduledTasks.docs ++ [⟨s.symbols, task⟩] :=
  Collection.docs_insert (Collection.findOne_eq_none_iff_notMem.1 h.findOne_symbols)

theorem setScheduledTask (h : Linked s) (task : Task) :
    Linked (GroupsScheduler.setScheduledTask s task) := by
  obtain ⟨hself, hother⟩ := h.findOne_setScheduledTask task
  have hqueue : s.symbols ∉ s.taskQueue := fun hmem => h.ne_symbols (h.scheduled _ hmem) rfl
  refine ⟨nodup_insertKey hqueue h.nodup, fun k hk => ?_, fun t ht hmem => ?_, fun e he => ?_,
    fun t ht => Nat.lt_succ_of_lt (h.freshTimer t ht)⟩
  · rcases mem_insertKey.1 hk with rfl | hk
    · exact ⟨_, hself⟩
    · obtain ⟨e, he⟩ := h.scheduled k hk
      exact ⟨e, (hother k (h.ne_symbols ⟨e, he⟩)).trans he⟩
  · rcases mem_insertKey.1 hmem with hkey | hmem
    · exact absurd (h.freshTimer t ht) (by rw [hkey]; exact Nat.lt_irrefl _)
    · exact h.left t ht hmem
  · rw [h.docs_setScheduledTask] at he
    rcases List.mem_append.1 he with he | he
    · exact Nat.lt_succ_of_lt (h.fresh e he)
    · obtain rfl := List.mem_singleton.1 he
      exact Nat.lt_succ_self _

/-- A relation that the queue has with a new task stays in the queue. -/
theorem pairwise_setScheduledTask {R : ScheduledTask → ScheduledTask → Prop} (h : Linked s)
    (task : Task) (htrans : ∀ e₁ e₂ e₃, R e₁ e₂ → R e₂ e₃ → R e₁ e₃)
    (hlater : ∀ e, e.task.time > task.time → R ⟨s.symbols, task⟩ e)
    (hearlier : ∀ e, e.key < s.symbols → e.task.time ≤ task.time → R e ⟨s.symbols, task⟩)
    (hqueue : s.taskQueue.Pairwise (Related R s.scheduledTasks)) :
    (GroupsScheduler.setScheduledTask s task).taskQueue.Pairwise
      (Related R (GroupsScheduler.setScheduledTask s task).scheduledTasks) := by
  obtain ⟨hself, hother⟩ := h.findOne_setScheduledTask task
  have hfound : ∀ k ∈ s.taskQueue,
      (GroupsScheduler.setScheduledTask s task).scheduledTasks.findOne k =
        s.scheduledTasks.findOne k :=
    fun k hk => hother k (h.ne_symbols (h.scheduled k hk))
  refine pairwise_insertKey htrans hself (fun k hk => ?_) hlater (fun k hk e he => ?_)
    (hqueue.imp_of_mem fun {k k'} hk hk' hR => ?_)
  · obtain ⟨e, he⟩ := h.scheduled k hk
    exact ⟨e, (hfound k hk).trans he⟩
  · exact hearlier e (h.fresh e (Collection.mem_of_findOne ((hfound k hk).symm.trans he)))
  · intro e he e' he'
    exact hR e ((hfound k hk).symm.trans he) e' ((hfound k' hk').symm.trans he')

theorem taken (h : Linked s) (passes : Nat) (calls : List Call) :
    Taken s s.taskQueue (scheduleNextTask { s with passes := passes, calls := calls }) := by
  have htaken := taken_scheduleFrom
    (s := { s with passes := passes, calls := calls, currentTimeout := none })
    h.nodup h.scheduled rfl
  cases htaken with
  | idle hfar htasks hqueue htimer => exact .idle hfar htasks hqueue htimer
  | armed skipped rest k e hsplit hfar htasks hfound hnear hqueue htimer =>
    exact .armed skipped rest k e hsplit hfar htasks hfound hnear hqueue htimer

theorem of_taken (h : Linked s) (htaken : Taken s s.taskQueue s') (hsymbols : s'.symbols = s.symbols) :
    Linked s' := by
  have hfresh : ∀ e ∈ s'.scheduledTasks.docs, e.key < s'.symbols := by
    intro e he
    rw [hsymbols]
    exact h.fresh e (htaken.mem_docs he)
  cases htaken with
  | idle hfar htasks hqueue htimer =>
    exact ⟨by simp [hqueue], by simp [hqueue], by simp [htimer], hfresh, by simp [htimer]⟩
  | armed skipped rest k e hsplit hfar htasks hfound hnear hqueue htimer =>
    have hnodup := h.nodup
    rw [hsplit] at hnodup
    obtain ⟨-, hrest, hdisjoint⟩ := List.nodup_append.1 hnodup
    obtain ⟨hk, hrest⟩ := List.nodup_cons.1 hrest
    refine ⟨hqueue ▸ hrest, fun k' hk' => ?_, fun t ht => ?_, hfresh, fun t ht => ?_⟩
    · rw [hqueue] at hk'
      rw [htasks, if_neg fun hskip => hdisjoint k' hskip k' (List.mem_cons_of_mem _ hk') rfl]
      exact h.scheduled k' (by simp [hsplit, hk'])
    · rw [htimer] at ht
      obtain rfl := Option.some.inj ht
      rw [hqueue]
      exact hk
    · rw [htimer] at ht
      obtain rfl := Option.some.inj ht
      rw [hsymbols]
      have hkey : e.key = k := Collection.key_of_findOne hfound
      exact hkey ▸ h.fresh e (Collection.mem_of_findOne hfound)

theorem fire (h : Linked s) {timer : Timer} (htimer : s.currentTimeout = some timer)
    (calls : List Call) : Linked { s with
      currentTimeout := none
      scheduledTasks := s.scheduledTasks.delete timer.key
      calls := calls } := by
  refine ⟨h.nodup, fun k hk => ?_, nofun, fun e he => ?_, nofun⟩
  · obtain ⟨e, he⟩ := h.scheduled k hk
    refine ⟨e, (Collection.findOne_delete_ne ?_).trans he⟩
    rintro rfl
    exact h.left timer htimer hk
  · exact h.fresh e (Collection.mem_delete.1 he).1

end Linked

/-! ### The scheduler stays tidy -/

/-- The queue has no key twice and its keys have tasks; the timer's key has left it, and so has that
of no task a year away. -/
structure Tidy (s : State) : Prop where
  nodup : s.taskQueue.Nodup
  scheduled : ∀ k ∈ s.taskQueue, ∃ e, s.scheduledTasks.findOne k = some e
  left : ∀ t ∈ s.currentTimeout, t.key ∉ s.taskQueue
  fresh : ∀ e ∈ s.scheduledTasks.docs, e.key < s.symbols
  freshTimer : ∀ t ∈ s.currentTimeout, t.key < s.symbols
  near : ∀ e ∈ s.scheduledTasks.docs, e.key ∉ s.taskQueue → e.task.time - s.now < ONE_YEAR

theorem Tidy.linked (h : Tidy s) : Linked s :=
  ⟨h.nodup, h.scheduled, h.left, h.fresh, h.freshTimer⟩

theorem Linked.tidy (h : Linked s) (hnear : ∀ e ∈ s.scheduledTasks.docs, e.key ∉ s.taskQueue →
    e.task.time - s.now < ONE_YEAR) : Tidy s :=
  ⟨h.nodup, h.scheduled, h.left, h.fresh, h.freshTimer, hnear⟩

theorem tidy_init (now : Int) : Tidy (State.init now) :=
  (linked_init now).tidy fun e he => by cases he

namespace Tidy

theorem setScheduledTask (h : Tidy s) (task : Task) :
    Tidy (GroupsScheduler.setScheduledTask s task) := by
  refine (h.linked.setScheduledTask task).tidy fun e he hout => ?_
  rw [h.linked.docs_setScheduledTask] at he
  rcases List.mem_append.1 he with he | he
  · exact h.near e he fun hmem => hout (mem_insertKey.2 (.inr hmem))
  · obtain rfl := List.mem_singleton.1 he
    exact absurd (mem_insertKey.2 (.inl rfl)) hout

theorem setScheduledTasks (h : Tidy s) (tasks : List Task) :
    Tidy (tasks.foldl GroupsScheduler.setScheduledTask s) := by
  induction tasks generalizing s with
  | nil => exact h
  | cons task tasks ih => exact ih (h.setScheduledTask task)

theorem cleared (h : Tidy s) : Tidy s.cleared where
  nodup := List.nodup_nil
  scheduled k hk := by cases hk
  left t _ hmem := by cases hmem
  fresh e he := by cases he
  freshTimer := h.freshTimer
  near e he := by cases he

theorem reload (h : Tidy s) (groups : List Group) : Tidy (GroupsScheduler.reload s groups) :=
  h.cleared.setScheduledTasks _

theorem taken (h : Tidy s) (passes : Nat) (calls : List Call) :
    Taken s s.taskQueue (scheduleNextTask { s with passes := passes, calls := calls }) :=
  h.linked.taken passes calls

end Tidy

theorem Tidy.of_taken (h : Tidy s) (htaken : Taken s s.taskQueue s') (hnow : s'.now = s.now)
    (hsymbols : s'.symbols = s.symbols) : Tidy s' := by
  refine (h.linked.of_taken htaken hsymbols).tidy fun e' he' hout => ?_
  have hmem := htaken.mem_docs he'
  have hstays := Collection.findOne_of_mem he'
  rw [hnow]
  by_cases hin : e'.key ∈ s.taskQueue
  · cases htaken with
    | idle hfar htasks hqueue htimer =>
      -- a task of the queue was dropped
      rw [htasks, ScheduledTask.key_eq, if_pos hin] at hstays
      cases hstays
    | armed skipped rest k e hsplit hfar htasks hfound hnear hqueue htimer =>
      -- it is neither among the rest nor dropped, so that it is the one that was taken
      rw [hqueue] at hout
      rw [hsplit, List.mem_append, List.mem_cons] at hin
      rcases hin with hin | hin | hin
      · rw [htasks, ScheduledTask.key_eq, if_pos hin] at hstays
        cases hstays
      · have hsame := Collection.findOne_of_mem hmem
        rw [ScheduledTask.key_eq, hin, hfound] at hsame
        obtain rfl := Option.some.inj hsame
        exact hnear
      · exact absurd hin hout
  · exact h.near e' hmem hin

/-- **The scheduler stays tidy.** -/
theorem Tidy.next (h : Tidy s) (hstep : s.next e = some s') : Tidy s' := by
  have houtcome := outcome_of_next hstep
  cases houtcome with
  | tick now hle hno =>
    exact ⟨h.nodup, h.scheduled, h.left, h.fresh, h.freshTimer, fun e he hout => by
      have hnear := h.near e he hout
      show e.task.time - now < ONE_YEAR
      omega⟩
  | reload groups hno => exact h.reload groups
  | schedule passes calls hcalls hyes =>
    exact h.of_taken (h.taken passes calls) (now_scheduleNextTask _) (symbols_scheduleNextTask _)
  | fire timer htimer hdue hno =>
    exact (h.linked.fire htimer _).tidy fun e he hout => h.near e (Collection.mem_delete.1 he).1 hout
  | start i call hcall hno =>
    exact ⟨h.nodup, h.scheduled, h.left, h.fresh, h.freshTimer, h.near⟩
  | finish calls hcalls hno =>
    exact ⟨h.nodup, h.scheduled, h.left, h.fresh, h.freshTimer, h.near⟩

end GroupsScheduler

end DeviceHub
