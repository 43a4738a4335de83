import DeviceHub.Scheduler.Queue
import DeviceHub.Db.Sample

/-!
# Each job is started once

`setScheduledTask` processes a task that is due at once, and puts it into the queue nevertheless.
A task that is still to come is started by the timer alone.

## Main definitions

* `Numbered` : the keys of the calls and of the started jobs are in use.
* `State.load` : how often the job of a key was started or can still be.
* `AtMostOnce` : until the next pass no job of the pass is started twice.

## Main results

* `load_next` : no event but a pass raises the load of a key.
* `atMostOnce_iff` : the jobs of a pass are started at most once exactly when none of its tasks is
  due when it is scheduled.
-/

namespace DeviceHub

open apiutil

namespace GroupsScheduler

variable {s s' : State} {e : Event} {key : Nat}

/-! ### Keys in use -/

/-- The keys of the calls and of the jobs started so far are in use. -/
structure Numbered (s : State) : Prop where
  calls : ∀ c ∈ s.calls, c.key < s.symbols
  started : ∀ st ∈ s.started, st.key < s.symbols

theorem numbered_init (now : Int) : Numbered (State.init now) where
  calls c hc := by cases hc
  started st hst := by cases hst

theorem Numbered.setScheduledTask (h : Numbered s) (task : Task) :
    Numbered (GroupsScheduler.setScheduledTask s task) := by
  refine ⟨fun c hc => ?_, fun st hst => Nat.lt_succ_of_lt (h.started st hst)⟩
  have hc' : c ∈ if s.now ≥ task.time then s.calls ++ [⟨s.symbols, task, false, false⟩]
    else s.calls := hc
  split at hc'
  · rcases List.mem_append.1 hc' with hold | hnew
    · exact Nat.lt_succ_of_lt (h.calls c hold)
    · obtain rfl := List.mem_singleton.1 hnew
      exact Nat.lt_succ_self _
  · exact Nat.lt_succ_of_lt (h.calls c hc')

theorem Numbered.setScheduledTasks (h : Numbered s) (tasks : List Task) :
    Numbered (tasks.foldl GroupsScheduler.setScheduledTask s) := by
  induction tasks generalizing s with
  | nil => exact h
  | cons task tasks ih => exact ih (h.setScheduledTask task)

/-- A tidy scheduler stays numbered. -/
theorem Numbered.next (h : Numbered s) (htidy : Tidy s) (hstep : s.next e = some s') :
    Numbered s' := by
  have houtcome := outcome_of_next hstep
  cases houtcome with
  | tick now hle hno => exact ⟨h.calls, h.started⟩
  | reload groups hno => exact Numbered.setScheduledTasks (s := s.cleared) ⟨h.calls, h.started⟩ _
  | schedule passes calls hcalls hyes =>
    refine ⟨fun c hc => ?_, fun st hst => ?_⟩
    · rw [calls_scheduleNextTask] at hc
      rw [symbols_scheduleNextTask]
      exact h.calls c (hcalls c hc)
    · rw [started_scheduleNextTask] at hst
      rw [symbols_scheduleNextTask]
      exact h.started st hst
  | fire timer htimer hdue hno =>
    refine ⟨fun c hc => ?_, h.started⟩
    rcases List.mem_append.1 hc with hold | hnew
    · exact h.calls c hold
    · obtain rfl := List.mem_singleton.1 hnew
      exact htidy.freshTimer timer htimer
  | start i call hcall hno =>
    have hkey : call.key < s.symbols := h.calls call (List.mem_of_getElem? hcall)
    refine ⟨fun c hc => ?_, fun st hst => ?_⟩
    · rcases List.mem_or_eq_of_mem_set hc with hold | rfl
      · exact h.calls c hold
      · exact hkey
    · rcases List.mem_append.1 hst with hold | hnew
      · exact h.started st hold
      · obtain rfl := List.mem_singleton.1 hnew
        exact hkey
  | finish calls hcalls hno => exact ⟨fun c hc => h.calls c (hcalls c hc), h.started⟩

/-! ### The load of a key -/

/-- How often the job of a key was started. -/
def State.starts (s : State) (key : Nat) : Nat := s.started.countP fun st => st.key = key

/-- The calls of `processTask` for the key that have not started its job. -/
def State.waiting (s : State) (key : Nat) : Nat :=
  s.calls.countP fun c => c.key = key && !c.started

/-- The timer is armed for the key. -/
def State.armed (s : State) (key : Nat) : Nat := if ∃ t ∈ s.currentTimeout, t.key = key then 1 else 0

/-- The key is in the queue. -/
def State.queued (s : State) (key : Nat) : Nat := if key ∈ s.taskQueue then 1 else 0

/-- How often the job of the key was started or can still be, unless a pass schedules it again. -/
def State.load (s : State) (key : Nat) : Nat :=
  s.starts key + s.waiting key + s.armed key + s.queued key

theorem Taken.armed_add_queued (h : Taken s s.taskQueue s') (hnodup : s.taskQueue.Nodup)
    (key : Nat) : s'.armed key + s'.queued key ≤ s.queued key := by
  cases h with
  | idle hfar htasks hqueue htimer => simp [State.armed, State.queued, hqueue, htimer]
  | armed skipped rest k e hsplit hfar htasks hfound hnear hqueue htimer =>
    rw [hsplit] at hnodup
    obtain ⟨hk, -⟩ := List.nodup_cons.1 (List.nodup_append.1 hnodup).2.1
    have htimer' : s'.armed key = if k = key then 1 else 0 := by simp [State.armed, htimer]
    rw [htimer', State.queued, State.queued, hqueue, hsplit]
    by_cases hkey : k = key
    · subst hkey
      simp [hk]
    · by_cases hrest : key ∈ rest <;> simp [hkey, hrest]

/-- The event is no pass. -/
def NoReload (_ : State) : Event → Prop
  | .reload _ => False
  | _ => True

instance (s : State) (e : Event) : Decidable (NoReload s e) := by
  unfold NoReload
  split <;> infer_instance

theorem load_scheduleNextTask (htidy : Tidy s) (passes : Nat) (calls : List Call) (key : Nat)
    (hcalls : calls.countP (fun c => c.key = key && !c.started) ≤ s.waiting key) :
    (scheduleNextTask { s with passes := passes, calls := calls }).load key ≤ s.load key := by
  have htaken := (htidy.taken passes calls).armed_add_queued htidy.nodup key
  have hstarts : (scheduleNextTask { s with passes := passes, calls := calls }).starts key =
      s.starts key := by
    rw [State.starts, started_scheduleNextTask]
    rfl
  have hwaiting : (scheduleNextTask { s with passes := passes, calls := calls }).waiting key =
      calls.countP fun c => c.key = key && !c.started := by
    rw [State.waiting, calls_scheduleNextTask]
  unfold State.load
  omega

/-- **No event but a pass raises the load of a key.** -/
theorem load_next (htidy : Tidy s) (hno : NoReload s e) (hstep : s.next e = some s') (key : Nat) :
    s'.load key ≤ s.load key := by
  cases e with
  | reload groups => exact hno.elim
  | tick now =>
    simp only [State.next] at hstep
    split at hstep
    · obtain rfl := Option.some.inj hstep
      exact le_rfl
    · cases hstep
  | schedule =>
    simp only [State.next] at hstep
    split at hstep
    · cases hstep
    · obtain rfl := Option.some.inj hstep
      exact load_scheduleNextTask htidy (s.passes - 1) s.calls key le_rfl
  | fire =>
    obtain ⟨timer, htimer, -, rfl⟩ := exists_timer_of_fire hstep
    simp only [State.load, State.starts, State.waiting, State.armed, State.queued, htimer,
      List.countP_append, List.countP_singleton]
    by_cases hkey : timer.key = key
    · simp [hkey]
      omega
    · simp [hkey]
  | start i =>
    simp only [State.next] at hstep
    split at hstep
    · cases hstep
    rename_i call hcall
    split at hstep
    · cases hstep
    rename_i hfresh
    obtain rfl := Option.some.inj hstep
    obtain ⟨hi, hget⟩ := List.getElem?_eq_some_iff.1 hcall
    have hset := List.countP_set (p := fun c : Call => c.key = key && !c.started)
      (a := { call with started := true }) hi
    simp only [State.load, State.starts, State.waiting, State.armed, State.queued, hset,
      List.countP_append, List.countP_singleton, hget]
    by_cases hkey : call.key = key
    · have hpos : 0 < s.calls.countP fun c => c.key = key && !c.started :=
        List.countP_pos_iff.2 ⟨call, List.mem_of_getElem? hcall, by simp [hkey, hfresh]⟩
      simp [hkey, hfresh]
      omega
    · simp [hkey]
  | finish i =>
    simp only [State.next] at hstep
    split at hstep
    · cases hstep
    have hcalls : (s.calls.eraseIdx i).countP (fun c => c.key = key && !c.started) ≤
        s.waiting key := (List.eraseIdx_sublist s.calls i).countP_le
    split at hstep
    · obtain rfl := Option.some.inj hstep
      exact load_scheduleNextTask htidy s.passes _ key hcalls
    · obtain rfl := Option.some.inj hstep
      have hload : ({ s with calls := s.calls.eraseIdx i } : State).load key =
        s.starts key + (s.calls.eraseIdx i).countP (fun c => c.key = key && !c.started) +
          s.armed key + s.queued key := rfl
      rw [hload, State.load]
      omega

/-! ### Passes whose tasks are still to come -/

theorem setScheduledTasks_frame (s : State) (tasks : List Task) :
    (tasks.foldl setScheduledTask s).started = s.started ∧
      (tasks.foldl setScheduledTask s).currentTimeout = s.currentTimeout ∧
      (tasks.foldl setScheduledTask s).now = s.now ∧
      (tasks.foldl setScheduledTask s).passes = s.passes := by
  induction tasks generalizing s with
  | nil => exact ⟨rfl, rfl, rfl, rfl⟩
  | cons task tasks ih => exact ih (setScheduledTask s task)

theorem calls_setScheduledTasks {tasks : List Task} (h : ∀ task ∈ tasks, s.now < task.time) :
    (tasks.foldl setScheduledTask s).calls = s.calls := by
  induction tasks generalizing s with
  | nil => rfl
  | cons task tasks ih =>
    obtain ⟨htask, htasks⟩ := List.forall_mem_cons.1 h
    have hcalls : (setScheduledTask s task).calls = s.calls := if_neg (by omega)
    exact (ih (s := setScheduledTask s task) htasks).trans hcalls

/-- After a pass whose tasks are still to come each of them can be started once. -/
theorem load_reload (htidy : Tidy s) (hnumbered : Numbered s) {groups : List Group}
    (hfuture : ∀ task ∈ groups.flatMap (processGroup s.now), s.now < task.time)
    (hkey : s.symbols ≤ key) : (reload s groups).load key ≤ 1 := by
  obtain ⟨hstarted, htimer, -, -⟩ :=
    setScheduledTasks_frame s.cleared (groups.flatMap (processGroup s.now))
  have hcalls : (reload s groups).calls = s.calls := calls_setScheduledTasks (s := s.cleared) hfuture
  have hstarts : (reload s groups).starts key = 0 := by
    refine List.countP_eq_zero.2 fun st hst => ?_
    have hlt := hnumbered.started st (hstarted ▸ hst)
    simp only [decide_eq_true_eq]
    omega
  have hwaiting : (reload s groups).waiting key = 0 := by
    refine List.countP_eq_zero.2 fun c hc => ?_
    have hlt := hnumbered.calls c (hcalls ▸ hc)
    simp only [Bool.and_eq_true, decide_eq_true_eq, not_and]
    omega
  have harmed : (reload s groups).armed key = 0 := by
    refine if_neg ?_
    rintro ⟨t, ht, hkey'⟩
    have hlt := htidy.freshTimer t ((show (reload s groups).currentTimeout = _ from htimer) ▸ ht)
    omega
  have hqueued : (reload s groups).queued key ≤ 1 := by
    unfold State.queued
    split <;> omega
  unfold State.load
  omega

theorem load_le_of_run {n : Nat} {es : List Event} (htidy : Tidy s) (hload : s.load key ≤ n)
    (hrun : (scheduler.restrict NoReload).Run s es s') : s'.load key ≤ n := by
  have hinv := hrun.invariant_of_restrict (I := fun s => Tidy s ∧ s.load key ≤ n) ⟨htidy, hload⟩
    fun s e s' ⟨htidy, hload⟩ hno hstep =>
      ⟨htidy.next hstep, (load_next htidy hno hstep key).trans hload⟩
  exact hinv.2

/-! ### The queue is sorted -/

/-- The task of `k` is not later than that of `k'`. -/
def NotLater (scheduledTasks : Collection ScheduledTask) (k k' : Nat) : Prop :=
  ∀ e ∈ scheduledTasks.findOne k, ∀ e' ∈ scheduledTasks.findOne k', e.task.time ≤ e'.task.time

/-- The keys of the queue are in the order of their tasks. -/
def Sorted (s : State) : Prop := s.taskQueue.Pairwise (NotLater s.scheduledTasks)

theorem Sorted.setScheduledTask (h : Sorted s) (htidy : Tidy s) (task : Task) :
    Sorted (GroupsScheduler.setScheduledTask s task) :=
  htidy.linked.pairwise_setScheduledTask task (fun _ _ _ => Int.le_trans) (fun _ => Int.le_of_lt)
    (fun _ _ => id) h

theorem Sorted.setScheduledTasks (h : Sorted s) (htidy : Tidy s) (tasks : List Task) :
    Sorted (tasks.foldl GroupsScheduler.setScheduledTask s) := by
  induction tasks generalizing s with
  | nil => exact h
  | cons task tasks ih => exact ih (h.setScheduledTask htidy task) (htidy.setScheduledTask task)

/-! ### Tasks that are due -/

/-- The task is processed by a call that was made at once, and is in the queue as well. -/
structure Doubled (s : State) (key : Nat) (task : Task) : Prop where
  call : ⟨key, task, false, false⟩ ∈ s.calls
  queue : key ∈ s.taskQueue
  scheduled : s.scheduledTasks.findOne key = some ⟨key, task⟩

theorem Doubled.setScheduledTasks {task : Task} (h : Doubled s key task) (htidy : Tidy s)
    (tasks : List Task) : Doubled (tasks.foldl GroupsScheduler.setScheduledTask s) key task := by
  induction tasks generalizing s with
  | nil => exact h
  | cons task' tasks ih =>
    have hkey := htidy.linked.ne_symbols ⟨_, h.scheduled⟩
    refine ih ⟨?_, mem_insertKey.2 (.inr h.queue),
      ((htidy.linked.findOne_setScheduledTask task').2 key hkey).trans h.scheduled⟩
      (htidy.setScheduledTask task')
    show _ ∈ if s.now ≥ task'.time then s.calls ++ [⟨s.symbols, task', false, false⟩] else s.calls
    split
    · exact List.mem_append_left _ h.call
    · exact h.call

/-- **A task that is due when it is scheduled** is processed and put into the queue. -/
theorem exists_doubled (htidy : Tidy s) {tasks : List Task} {task : Task} (htask : task ∈ tasks)
    (hdue : task.time ≤ s.now) :
    ∃ key, s.symbols ≤ key ∧ Doubled (tasks.foldl setScheduledTask s) key task := by
  induction tasks generalizing s with
  | nil => cases htask
  | cons task' tasks ih =>
    rcases List.mem_cons.1 htask with rfl | htask
    · refine ⟨s.symbols, le_rfl, Doubled.setScheduledTasks (s := setScheduledTask s task) ⟨?_,
        mem_insertKey.2 (.inl rfl), (htidy.linked.findOne_setScheduledTask task).1⟩
        (htidy.setScheduledTask task) tasks⟩
      show _ ∈ if s.now ≥ task.time then s.calls ++ [⟨s.symbols, task, false, false⟩] else s.calls
      rw [if_pos hdue]
      exact List.mem_append_right _ (List.mem_singleton_self _)
    · obtain ⟨key, hkey, hdoubled⟩ :=
        ih (s := setScheduledTask s task') (htidy.setScheduledTask task') htask hdue
      exact ⟨key, (Nat.le_succ _).trans hkey, hdoubled⟩

theorem scheduleNextTask_of_due {queue : List Nat} {e : ScheduledTask}
    (hqueue : s.taskQueue = key :: queue) (he : s.scheduledTasks.findOne key = some e)
    (hdue : e.task.time ≤ s.now) : scheduleNextTask s =
      { s with taskQueue := queue, currentTimeout := some ⟨key, e.task, s.now⟩ } := by
  have hdocs : s.scheduledTasks.docs ≠ [] := List.ne_nil_of_mem (Collection.mem_of_findOne he)
  have hdelay : max 0 (e.task.time - s.now) = 0 := by omega
  have hyear : ¬ (0 : Int) ≥ ONE_YEAR := by decide
  have htimeout : setTimeout s.now 0 = s.now := by
    rw [setTimeout, if_neg (by decide), add_zero]
  unfold scheduleNextTask
  rw [hqueue, scheduleFrom, if_neg hdocs, he]
  dsimp only
  rw [hdelay, if_neg hyear, htimeout]

/-- **The timer works off the tasks that are due**, up to any of them. -/
theorem exists_run_to_due {before after : List Nat} {e : ScheduledTask} (htidy : Tidy s)
    (hsorted : Sorted s) (hqueue : s.taskQueue = before ++ key :: after)
    (he : s.scheduledTasks.findOne key = some e) (hdue : e.task.time ≤ s.now) :
    ∃ es s', (scheduler.restrict NoReload).Run (scheduleNextTask s) es s' ∧
      s'.calls = s.calls ++ [⟨key, e.task, true, false⟩] ∧ s'.started = s.started := by
  induction before generalizing s with
  | nil =>
    rw [scheduleNextTask_of_due hqueue he hdue]
    exact ⟨[.fire], _, .more ⟨if_pos (Int.le_refl _), trivial⟩ (.done _), rfl, rfl⟩
  | cons k before ih =>
    have hmem : k ∈ s.taskQueue := by rw [hqueue]; exact List.mem_cons_self
    obtain ⟨e', he'⟩ := htidy.scheduled k hmem
    have hkey : key ≠ k := by
      have hnodup := htidy.nodup
      rw [hqueue, List.cons_append, List.nodup_cons] at hnodup
      rintro rfl
      exact hnodup.1 (List.mem_append_right _ List.mem_cons_self)
    have hle : e'.task.time ≤ e.task.time := by
      unfold Sorted at hsorted
      rw [hqueue, List.cons_append, List.pairwise_cons] at hsorted
      exact hsorted.1 key (List.mem_append_right _ List.mem_cons_self) e' he' e he
    have htaken : scheduleNextTask s =
        { s with taskQueue := before ++ key :: after, currentTimeout := some ⟨k, e'.task, s.now⟩ } :=
      scheduleNextTask_of_due hqueue he' (Int.le_trans hle hdue)
    -- the timer fires, and its call returns
    set s₁ : State := { s with
      taskQueue := before ++ key :: after
      currentTimeout := none
      scheduledTasks := s.scheduledTasks.delete k
      calls := s.calls ++ [⟨k, e'.task, true, false⟩] } with hs₁
    set s₂ : State := { s₁ with calls := s.calls } with hs₂
    have htidyTaken : Tidy (scheduleNextTask s) :=
      htidy.of_taken (htidy.taken s.passes s.calls) (now_scheduleNextTask s)
        (symbols_scheduleNextTask s)
    have hfire : (scheduleNextTask s).next .fire = some s₁ := by
      rw [htaken]
      exact if_pos (Int.le_refl _)
    have hfinish : s₁.next (.finish s.calls.length) = some (scheduleNextTask s₂) := by
      simp [State.next, hs₁, hs₂, List.eraseIdx_append_of_length_le]
    have htidy₁ : Tidy s₁ := htidyTaken.next hfire
    have htidy₂ : Tidy s₂ :=
      ⟨htidy₁.nodup, htidy₁.scheduled, htidy₁.left, htidy₁.fresh, htidy₁.freshTimer, htidy₁.near⟩
    have hsorted₂ : Sorted s₂ := by
      unfold Sorted at hsorted ⊢
      rw [hqueue, List.cons_append, List.pairwise_cons] at hsorted
      refine hsorted.2.imp fun {k₁ k₂} hle e₁ he₁ e₂ he₂ => ?_
      have hfound : ∀ k', ∀ e' ∈ (s.scheduledTasks.delete k).findOne k',
          s.scheduledTasks.findOne k' = some e' := by
        intro k' e' he'
        by_cases hk' : k' = k
        · subst hk'
          rw [Option.mem_def, Collection.findOne_delete_self] at he'
          cases he'
        · rwa [Option.mem_def, Collection.findOne_delete_ne hk'] at he'
      exact hle e₁ (hfound k₁ e₁ he₁) e₂ (hfound k₂ e₂ he₂)
    obtain ⟨es, s', hrun, hcalls, hstarted⟩ := ih htidy₂ hsorted₂ rfl
      ((Collection.findOne_delete_ne hkey).trans he) hdue
    exact ⟨.fire :: .finish s.calls.length :: es, s',
      .more ⟨hfire, trivial⟩ (.more ⟨hfinish, trivial⟩ hrun), hcalls, hstarted⟩

/-- Two calls for the same key can both start its job. -/
theorem exists_run_starts_two {calls : List Call} {c c' : Call} (hcalls : s.calls = calls ++ [c'])
    (hc : c ∈ calls) (hfresh : c.started = false) (hfresh' : c'.started = false)
    (hkey : c.key = key) (hkey' : c'.key = key) :
    ∃ es s', (scheduler.restrict NoReload).Run s es s' ∧ 2 ≤ s'.starts key := by
  obtain ⟨i, hi⟩ := List.getElem?_of_mem hc
  obtain ⟨hlt, -⟩ := List.getElem?_eq_some_iff.1 hi
  have hget : s.calls[i]? = some c := by rw [hcalls, List.getElem?_append_left hlt, hi]
  set s₁ : State := { s with
    calls := s.calls.set i { c with started := true }
    started := s.started ++ [⟨c.key, c.task, s.now⟩] } with hs₁
  have hget' : s₁.calls[calls.length]? = some c' := by
    simp only [hs₁, hcalls]
    rw [List.getElem?_set_ne (by omega), List.getElem?_concat_length]
  have hstart : s.next (.start i) = some s₁ := by simp [State.next, hget, hfresh, hs₁]
  set s₂ : State := { s₁ with
    calls := s₁.calls.set calls.length { c' with started := true }
    started := s₁.started ++ [⟨c'.key, c'.task, s₁.now⟩] } with hs₂
  have hstart' : s₁.next (.start calls.length) = some s₂ := by
    simp [State.next, hget', hfresh', hs₂]
  refine ⟨[.start i, .start calls.length], s₂,
    .more ⟨hstart, trivial⟩ (.more ⟨hstart', trivial⟩ (.done _)), ?_⟩
  simp [State.starts, hs₂, hs₁, hkey, hkey']

/-! ### Until the next pass -/

/-- **Until the next pass** the job of each task that the pass has scheduled is started at most
once. -/
def AtMostOnce (s : State) (groups : List Group) : Prop :=
  ∀ es s', (scheduler.restrict NoReload).Run (reload s groups) es s' →
    ∀ key, s.symbols ≤ key → s'.starts key ≤ 1

/-- **The jobs of a pass are started at most once** exactly when none of its tasks is due. -/
theorem atMostOnce_iff {now : Int} {es : List Event}
    (hrun : scheduler.Run (State.init now) es s) (groups : List Group) :
    AtMostOnce s groups ↔ ∀ task ∈ groups.flatMap (processGroup s.now), s.now < task.time := by
  have hinv := hrun.invariant (I := fun s => Tidy s ∧ Numbered s)
    ⟨tidy_init now, numbered_init now⟩
    fun s e s' ⟨htidy, hnumbered⟩ hstep => ⟨htidy.next hstep, hnumbered.next htidy hstep⟩
  obtain ⟨htidy, hnumbered⟩ := hinv
  have htidyReload : Tidy (reload s groups) := htidy.reload groups
  constructor
  · intro h task htask
    by_contra hdue
    obtain ⟨key, hkey, hcall, hqueue, hscheduled⟩ :=
      exists_doubled htidy.cleared htask (Int.not_lt.1 hdue)
    have hsorted : Sorted (reload s groups) :=
      Sorted.setScheduledTasks (s := s.cleared) List.Pairwise.nil htidy.cleared _
    obtain ⟨-, -, hnow, hpasses⟩ :=
      setScheduledTasks_frame s.cleared (groups.flatMap (processGroup s.now))
    obtain ⟨before, after, hsplit⟩ := List.append_of_mem hqueue
    set r : State := { reload s groups with passes := (reload s groups).passes - 1 } with hr
    have hschedule : (reload s groups).next .schedule = some (scheduleNextTask r) :=
      if_neg (by rw [show (reload s groups).passes = _ from hpasses]; exact Nat.succ_ne_zero _)
    have hdue' : task.time ≤ (reload s groups).now :=
      (show (reload s groups).now = s.now from hnow).symm ▸ Int.not_lt.1 hdue
    obtain ⟨es₁, s₁, hrun₁, hcalls, -⟩ := exists_run_to_due (s := r)
      ⟨htidyReload.nodup, htidyReload.scheduled, htidyReload.left, htidyReload.fresh,
        htidyReload.freshTimer, htidyReload.near⟩ hsorted hsplit hscheduled hdue'
    obtain ⟨es₂, s₂, hrun₂, htwo⟩ : ∃ es s', (scheduler.restrict NoReload).Run s₁ es s' ∧
        2 ≤ s'.starts key := exists_run_starts_two hcalls hcall rfl rfl rfl rfl
    have hone := h _ _ (.more ⟨hschedule, trivial⟩ (hrun₁.append hrun₂)) key hkey
    omega
  · intro hfuture es' s' hrun' key hkey
    have hload := load_le_of_run htidyReload (load_reload htidy hnumbered hfuture hkey) hrun'
    unfold State.load at hload
    omega

theorem atMostOnce_init : AtMostOnce (State.init 0)
      [Sample.booking "g" "u" .once 0 [⟨3600000, 7200000⟩] 3600000 ["d"]] ↔
    ∀ task ∈ [Sample.booking "g" "u" .once 0 [⟨3600000, 7200000⟩] 3600000 ["d"]].flatMap
      (processGroup 0), 0 < task.time :=
  atMostOnce_iff (Lts.Run.done _) _

/-- **A booking that has begun is activated twice**: by the pass that finds it, and by the timer. -/
theorem not_atMostOnce_of_due : ¬ AtMostOnce (State.init 1000000)
    [Sample.booking "g" "u" .once 0 [⟨0, 7200000⟩] 3600000 ["d"]] := by
  intro h
  obtain ⟨s, hrun, hs⟩ := Lts.exists_run_of_play (f := State.next) (G := NoReload)
    (reload (State.init 1000000) [Sample.booking "g" "u" .once 0 [⟨0, 7200000⟩] 3600000 ["d"]])
    [.schedule, .start 0, .fire, .start 1] (fun s => s.starts 0 = 2) (by decide +kernel)
  have hone := h _ _ hrun 0 (Nat.zero_le _)
  simp only [decide_eq_true_eq] at hs
  omega

end GroupsScheduler

end DeviceHub
