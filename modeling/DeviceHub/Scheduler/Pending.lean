import DeviceHub.Scheduler.Lossless

/-!
# The queue as the list of pending tasks

`setScheduledTask` and `scheduleNextTask`, called in any order and at any time, from an empty
scheduler.  The queue is in order in all runs; a task is missing from it once the armed timer is
cleared.

## Main definitions

* `Operation`, `State.operate` : the calls, the clock and the timer.
* `IsPending` : a task that is scheduled and not that of the armed timer.
* `Represents` : the queue is the sorted list of the pending tasks, of which the first is taken.
* `Unarmed` : the condition that no timer is cleared.

## Main results

* `Ordered.operate` : every operation keeps the queue in order.
* `represents_run_iff` : the runs in which the queue represents the pending tasks are those that clear
  no timer.
-/

namespace DeviceHub

open apiutil

namespace GroupsScheduler

/-- The two calls, and what happens between them. -/
inductive Operation where
  /-- `Date.now()` has another value. -/
  | clock (now : Int)
  | setScheduledTask (task : Task)
  | scheduleNextTask
  /-- The timer fires. -/
  | fire

/-- What an operation does. -/
def State.operate (s : State) : Operation → Option State
  | .clock now => some { s with now := now }
  | .setScheduledTask task => some (GroupsScheduler.setScheduledTask s task)
  | .scheduleNextTask => some (GroupsScheduler.scheduleNextTask s)
  | .fire => s.next .fire

/-- The runs of the operations. -/
def operations : Lts State Operation := Lts.ofNext State.operate

/-- The task is scheduled, and not that of the armed timer. -/
def IsPending (s : State) (e : ScheduledTask) : Prop :=
  e ∈ s.scheduledTasks.docs ∧ ∀ t ∈ s.currentTimeout, t.key ≠ e.key

/-- The task is earlier, or it is as early and was inserted before. -/
def Before (e e' : ScheduledTask) : Prop :=
  e.task.time < e'.task.time ∨ e.task.time = e'.task.time ∧ e.key < e'.key

/-- **The queue is the sorted list of the pending tasks**, and `scheduleNextTask` takes one of minimal
time, unless all of them are a year away. -/
structure Represents (s : State) : Prop where
  nodup : s.taskQueue.Nodup
  mem : ∀ key, key ∈ s.taskQueue ↔ ∃ e, IsPending s e ∧ e.key = key
  sorted : s.taskQueue.Pairwise (Related Before s.scheduledTasks)
  taken : ∀ t ∈ (scheduleNextTask s).currentTimeout,
    IsPending s ⟨t.key, t.task⟩ ∧ ∀ e, IsPending s e → t.task.time ≤ e.task.time
  idle : (scheduleNextTask s).currentTimeout = none →
    ∀ e, IsPending s e → ONE_YEAR ≤ e.task.time - s.now

/-- The condition on an operation: no timer is cleared. -/
def Unarmed (s : State) : Operation → Prop
  | .scheduleNextTask => s.currentTimeout = none
  | _ => True

variable {s s' : State} {operation : Operation}

/-! ### The queue is in order -/

theorem Before.trans (e₁ e₂ e₃ : ScheduledTask) (h : Before e₁ e₂) (h' : Before e₂ e₃) :
    Before e₁ e₃ := by
  unfold Before at h h' ⊢
  omega

theorem Before.time_le {e e' : ScheduledTask} (h : Before e e') : e.task.time ≤ e'.task.time := by
  unfold Before at h
  omega

/-- What holds in every state: the keys are linked and in order, and the armed timer is that of a
scheduled task. -/
structure Ordered (s : State) : Prop where
  linked : Linked s
  timer : ∀ t ∈ s.currentTimeout, s.scheduledTasks.findOne t.key = some ⟨t.key, t.task⟩
  sorted : s.taskQueue.Pairwise (Related Before s.scheduledTasks)

theorem ordered_init (now : Int) : Ordered (State.init now) :=
  ⟨linked_init now, nofun, List.Pairwise.nil⟩

theorem Ordered.sorted_sublist (h : Ordered s) (hqueue : s'.taskQueue.Sublist s.taskQueue)
    (htasks : ∀ k, ∀ e ∈ s'.scheduledTasks.findOne k, s.scheduledTasks.findOne k = some e) :
    s'.taskQueue.Pairwise (Related Before s'.scheduledTasks) :=
  (h.sorted.sublist hqueue).imp fun hR e he e' he' => hR e (htasks _ e he) e' (htasks _ e' he')

theorem Ordered.setScheduledTask (h : Ordered s) (task : Task) :
    Ordered (GroupsScheduler.setScheduledTask s task) where
  linked := h.linked.setScheduledTask task
  timer t ht := by
    have hother := (h.linked.findOne_setScheduledTask task).2 t.key
    exact (hother (h.linked.ne_symbols ⟨_, h.timer t ht⟩)).trans (h.timer t ht)
  sorted := h.linked.pairwise_setScheduledTask task Before.trans (fun _ hlater => .inl hlater)
    (fun _ hkey hle => (Int.lt_or_eq_of_le hle).imp id fun heq => ⟨heq, hkey⟩) h.sorted

/-- The task that is taken is scheduled, and no pending task is before it. -/
theorem Ordered.scheduleNextTask (h : Ordered s) : Ordered (GroupsScheduler.scheduleNextTask s) := by
  have htaken : Taken s s.taskQueue (GroupsScheduler.scheduleNextTask s) :=
    h.linked.taken s.passes s.calls
  have hlinked := h.linked.of_taken htaken (symbols_scheduleNextTask s)
  cases htaken with
  | idle hfar htasks hqueue htimer =>
    refine ⟨hlinked, by simp [htimer], ?_⟩
    rw [hqueue]
    exact List.Pairwise.nil
  | armed skipped rest k e hsplit hfar htasks hfound hnear hqueue htimer =>
    have hnodup := h.linked.nodup
    rw [hsplit] at hnodup
    have hk : k ∉ skipped := fun hk =>
      (List.nodup_append.1 hnodup).2.2 k hk k List.mem_cons_self rfl
    refine ⟨hlinked, fun t ht => ?_, h.sorted_sublist ?_ fun k' e' he' => ?_⟩
    · rw [htimer] at ht
      obtain rfl := Option.some.inj ht
      have hkey : e.key = k := Collection.key_of_findOne hfound
      rw [htasks, if_neg hk, hfound, ← hkey]
    · rw [hqueue, hsplit]
      exact (List.sublist_cons_self k rest).trans (List.sublist_append_right skipped _)
    · rw [htasks] at he'
      exact (Option.ite_none_left_eq_some.1 he').2

theorem Ordered.fire (h : Ordered s) (hstep : s.next .fire = some s') : Ordered s' := by
  obtain ⟨timer, htimer, -, rfl⟩ := exists_timer_of_fire hstep
  refine ⟨h.linked.fire htimer _, nofun, h.sorted_sublist (List.Sublist.refl _) fun k e he => ?_⟩
  by_cases hk : k = timer.key
  · rw [hk, Option.mem_def, Collection.findOne_delete_self] at he
    cases he
  · exact (Collection.findOne_delete_ne hk).symm.trans he

/-- **Every operation keeps the queue in order.** -/
theorem Ordered.operate (h : Ordered s) (hstep : s.operate operation = some s') : Ordered s' := by
  cases operation with
  | clock now =>
    obtain rfl := Option.some.inj hstep
    exact ⟨⟨h.linked.nodup, h.linked.scheduled, h.linked.left, h.linked.fresh, h.linked.freshTimer⟩,
      h.timer, h.sorted⟩
  | setScheduledTask task =>
    obtain rfl := Option.some.inj hstep
    exact h.setScheduledTask task
  | scheduleNextTask =>
    obtain rfl := Option.some.inj hstep
    exact h.scheduleNextTask
  | fire => exact h.fire hstep

/-! ### The pending tasks -/

theorem Ordered.isPending_of_mem (h : Ordered s) {k : Nat} (hk : k ∈ s.taskQueue) {e : ScheduledTask}
    (he : s.scheduledTasks.findOne k = some e) : IsPending s e := by
  refine ⟨Collection.mem_of_findOne he, fun t ht hkey => ?_⟩
  have hkey' : e.key = k := Collection.key_of_findOne he
  exact h.linked.left t ht (hkey.trans hkey' ▸ hk)

theorem mem_of_isPending (hlisted : AllListed s) {e : ScheduledTask} (he : IsPending s e) :
    e.key ∈ s.taskQueue := by
  rcases hlisted e he.1 with hmem | ⟨t, ht, hkey⟩
  · exact hmem
  · exact absurd hkey (he.2 t ht)

/-- **The first task of the queue is taken**, which is a pending one of minimal time. -/
theorem Ordered.le_of_taken (h : Ordered s) (hlisted : AllListed s) {t : Timer}
    (ht : t ∈ (GroupsScheduler.scheduleNextTask s).currentTimeout) :
    IsPending s ⟨t.key, t.task⟩ ∧ ∀ e, IsPending s e → t.task.time ≤ e.task.time := by
  have htaken : Taken s s.taskQueue (GroupsScheduler.scheduleNextTask s) :=
    h.linked.taken s.passes s.calls
  cases htaken with
  | idle hfar htasks hqueue htimer =>
    rw [htimer] at ht
    cases ht
  | armed skipped rest k e hsplit hfar htasks hfound hnear hqueue htimer =>
    rw [htimer] at ht
    obtain rfl := Option.some.inj ht
    have hkey : e.key = k := Collection.key_of_findOne hfound
    refine ⟨hkey ▸ h.isPending_of_mem (by simp [hsplit]) hfound, fun e' he' => ?_⟩
    have hfound' := Collection.findOne_of_mem he'.1
    have hmem := mem_of_isPending hlisted he'
    have hsorted := h.sorted
    rw [hsplit] at hmem hsorted
    rcases List.mem_append.1 hmem with hskipped | hmem
    · -- what was skipped is a year away, and this is not
      have hyear := hfar e'.key hskipped e' hfound'
      show e.task.time ≤ e'.task.time
      omega
    · rcases List.mem_cons.1 hmem with hsame | hrest
      · rw [ScheduledTask.key_eq, hsame, hfound] at hfound'
        obtain rfl := Option.some.inj hfound'
        exact Int.le_refl _
      · have hpair := (List.pairwise_cons.1 (List.pairwise_append.1 hsorted).2.1).1
        exact (hpair e'.key hrest e hfound e' hfound').time_le

/-- The queue represents the pending tasks when none of them is missing. -/
theorem Ordered.represents_iff (h : Ordered s) : Represents s ↔ AllListed s := by
  constructor
  · intro hrepresents e he
    by_cases harmed : ∃ t ∈ s.currentTimeout, t.key = e.key
    · exact .inr harmed
    · exact .inl ((hrepresents.mem e.key).2 ⟨e, ⟨he, fun t ht hkey => harmed ⟨t, ht, hkey⟩⟩, rfl⟩)
  · intro hlisted
    refine ⟨h.linked.nodup, fun key => ⟨fun hkey => ?_, ?_⟩, h.sorted,
      fun t ht => h.le_of_taken hlisted ht, fun hidle e he => ?_⟩
    · obtain ⟨e, he⟩ := h.linked.scheduled key hkey
      exact ⟨e, h.isPending_of_mem hkey he, Collection.key_of_findOne he⟩
    · rintro ⟨e, he, rfl⟩
      exact mem_of_isPending hlisted he
    · have htaken : Taken s s.taskQueue (GroupsScheduler.scheduleNextTask s) :=
        h.linked.taken s.passes s.calls
      cases htaken with
      | idle hfar htasks hqueue htimer =>
        exact hfar e.key (mem_of_isPending hlisted he) e (Collection.findOne_of_mem he.1)
      | armed skipped rest k e' hsplit hfar htasks hfound hnear hqueue htimer =>
        rw [htimer] at hidle
        cases hidle

/-- **An operation loses a task** exactly when it clears a timer. -/
theorem Ordered.allListed_operate_iff (h : Ordered s) (hlisted : AllListed s)
    (hstep : s.operate operation = some s') : AllListed s' ↔ Unarmed s operation := by
  cases operation with
  | clock now =>
    obtain rfl := Option.some.inj hstep
    exact iff_of_true hlisted trivial
  | setScheduledTask task =>
    obtain rfl := Option.some.inj hstep
    refine iff_of_true (fun e he => ?_) trivial
    rw [h.linked.docs_setScheduledTask] at he
    rcases List.mem_append.1 he with he | he
    · exact (hlisted e he).imp (fun hmem => mem_insertKey.2 (.inr hmem)) id
    · obtain rfl := List.mem_singleton.1 he
      exact .inl (mem_insertKey.2 (.inl rfl))
  | scheduleNextTask =>
    obtain rfl := Option.some.inj hstep
    have htaken : Taken s s.taskQueue (GroupsScheduler.scheduleNextTask s) :=
      h.linked.taken s.passes s.calls
    rw [h.linked.allListed_taken_iff htaken hlisted]
    show _ ↔ s.currentTimeout = none
    cases htimer : s.currentTimeout with
    | none => exact iff_of_true nofun rfl
    | some t =>
      refine iff_of_false (fun hnone => ?_) nofun
      have hfound := h.timer t htimer
      rw [hnone t rfl] at hfound
      cases hfound
  | fire =>
    obtain ⟨timer, htimer, -, rfl⟩ := exists_timer_of_fire hstep
    refine iff_of_true (fun e he => ?_) trivial
    obtain ⟨he, hkey⟩ := Collection.mem_delete.1 he
    rcases hlisted e he with hmem | ⟨t, ht, hkey'⟩
    · exact .inl hmem
    · obtain rfl := Option.some.inj (htimer.symm.trans ht)
      exact absurd hkey'.symm hkey

/-- **The queue represents the pending tasks** in exactly the runs in which `scheduleNextTask` is never
called while the timer is armed. -/
theorem represents_run_iff (now : Int) {ops : List Operation} :
    operations.Along Represents (State.init now) ops s' ↔
      (operations.restrict Unarmed).Run (State.init now) ops s' := by
  refine Lts.along_iff_restrict (fun s op s' h hstep => h.operate hstep)
    (fun s op s' h hrepresents hstep => ?_) (ordered_init now) ?_
  · rw [(h.operate hstep).represents_iff]
    exact h.allListed_operate_iff (h.represents_iff.1 hrepresents) hstep
  · exact (ordered_init now).represents_iff.2 nofun

/-- Two tasks, and `scheduleNextTask` twice: the first task is still scheduled, and neither in the
queue nor that of the armed timer. -/
theorem not_represents_of_second_call :
    let task (time : Int) : Task := ⟨"g", .activateGroup, time, .becomeActive⟩
    ∃ s, operations.Run (State.init 0) [.setScheduledTask (task 3600000),
        .setScheduledTask (task 7200000), .scheduleNextTask, .scheduleNextTask] s ∧
      s.taskQueue = [] ∧ IsPending s ⟨0, task 3600000⟩ ∧ ¬ Represents s := by
  refine ⟨_, .more rfl (.more rfl (.more rfl (.more rfl (.done _)))), ?_⟩
  have hpending : IsPending (GroupsScheduler.scheduleNextTask (GroupsScheduler.scheduleNextTask
      (GroupsScheduler.setScheduledTask (GroupsScheduler.setScheduledTask (State.init 0)
        ⟨"g", .activateGroup, 3600000, .becomeActive⟩)
        ⟨"g", .activateGroup, 7200000, .becomeActive⟩)))
      ⟨0, "g", .activateGroup, 3600000, .becomeActive⟩ := by
    refine ⟨by decide, ?_⟩
    decide
  refine ⟨by decide, hpending, fun h => ?_⟩
  have hmem := (h.mem 0).2 ⟨_, hpending, rfl⟩
  revert hmem
  decide

end GroupsScheduler

end DeviceHub
