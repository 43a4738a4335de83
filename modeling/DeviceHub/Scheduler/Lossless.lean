import DeviceHub.Scheduler.Queue
import DeviceHub.Db.Sample

/-!
# No task is lost

`scheduleNextTask` clears the timer that is armed and takes the next task from the queue, which the
task of the cleared timer has left.  That loses the task, unless a pass has forgotten it.

## Main definitions

* `Lossless` : every scheduled task is in the queue, or the timer is armed for it.
* `TimerIdle` : the condition that no timer is cleared whose task is still scheduled.

## Main results

* `Tidy.lossless_next_iff` : an event loses a task exactly when it clears such a timer.
* `lossless_iff` : so the runs in which no task is ever lost are those that clear none.
-/

namespace DeviceHub

open apiutil

namespace GroupsScheduler

variable {s s' : State} {e : Event}

/-- Every scheduled task less than a year away is in the queue or that of the armed timer. -/
def Lossless (s : State) : Prop :=
  ∀ e ∈ s.scheduledTasks.docs, e.task.time - s.now < ONE_YEAR →
    e.key ∈ s.taskQueue ∨ ∃ t ∈ s.currentTimeout, t.key = e.key

instance (s : State) : Decidable (Lossless s) :=
  inferInstanceAs (Decidable (∀ e ∈ s.scheduledTasks.docs, _ → _ ∨ ∃ t ∈ s.currentTimeout, _))

/-- The event does not call `scheduleNextTask` while the timer is armed for a scheduled task. -/
def TimerIdle (s : State) (e : Event) : Prop :=
  Schedules s e → ∀ t ∈ s.currentTimeout, s.scheduledTasks.findOne t.key = none

instance (s : State) (e : Event) : Decidable (TimerIdle s e) :=
  inferInstanceAs (Decidable (Schedules s e → ∀ t ∈ s.currentTimeout, _))

/-- Every scheduled task is in the queue or that of the armed timer. -/
def AllListed (s : State) : Prop :=
  ∀ e ∈ s.scheduledTasks.docs, e.key ∈ s.taskQueue ∨ ∃ t ∈ s.currentTimeout, t.key = e.key

theorem Tidy.lossless_docs_iff (h : Tidy s) : Lossless s ↔ AllListed s := by
  constructor
  · intro hloss e he
    by_cases hin : e.key ∈ s.taskQueue
    · exact .inl hin
    · exact hloss e he (h.near e he hin)
  · exact fun hall e he _ => hall e he

theorem mem_taskQueue_setScheduledTasks (h : Tidy s) (tasks : List Task)
    (hall : ∀ e ∈ s.scheduledTasks.docs, e.key ∈ s.taskQueue) :
    ∀ e ∈ (tasks.foldl setScheduledTask s).scheduledTasks.docs,
      e.key ∈ (tasks.foldl setScheduledTask s).taskQueue := by
  induction tasks generalizing s with
  | nil => exact hall
  | cons task tasks ih =>
    refine ih (h.setScheduledTask task) fun e he => ?_
    rw [h.linked.docs_setScheduledTask] at he
    rcases List.mem_append.1 he with he | he
    · exact mem_insertKey.2 (.inr (hall e he))
    · obtain rfl := List.mem_singleton.1 he
      exact mem_insertKey.2 (.inl rfl)

/-- Taking the next task loses the task of an armed timer that is still scheduled, and no other. -/
theorem Linked.allListed_taken_iff (h : Linked s) (htaken : Taken s s.taskQueue s')
    (hlisted : AllListed s) :
    AllListed s' ↔ ∀ t ∈ s.currentTimeout, s.scheduledTasks.findOne t.key = none := by
  have hmem := fun e => htaken.mem_docs (e := e)
  constructor
  · intro hlisted' t ht
    have hleft := h.left t ht
    by_contra hsome
    obtain ⟨e, he⟩ := Option.ne_none_iff_exists'.1 hsome
    have hkey : e.key = t.key := Collection.key_of_findOne he
    -- the task stays scheduled, and nothing new is in the queue or in the timer
    cases htaken with
    | idle hfar htasks hqueue htimer =>
      have hstays : s'.scheduledTasks.findOne t.key = some e := by
        rw [htasks, if_neg hleft, he]
      rcases hlisted' e (Collection.mem_of_findOne hstays) with hin | ⟨t', ht', -⟩
      · rw [hqueue] at hin
        cases hin
      · rw [htimer] at ht'
        cases ht'
    | armed skipped rest k e' hsplit hfar htasks hfound hnear hqueue htimer =>
      have hout : t.key ∉ skipped ++ k :: rest := hsplit ▸ hleft
      simp only [List.mem_append, List.mem_cons, not_or] at hout
      have hstays : s'.scheduledTasks.findOne t.key = some e := by
        rw [htasks, if_neg hout.1, he]
      rcases hlisted' e (Collection.mem_of_findOne hstays) with hin | ⟨t', ht', hkey'⟩
      · rw [hqueue, hkey] at hin
        exact hout.2.2 hin
      · rw [htimer] at ht'
        obtain rfl := Option.some.inj ht'
        exact hout.2.1 (hkey ▸ hkey'.symm)
  · intro hidle e he
    have hin : e.key ∈ s.taskQueue := by
      rcases hlisted e (hmem e he) with hin | ⟨t, ht, hkey⟩
      · exact hin
      · have hfound := Collection.findOne_of_mem (hmem e he)
        rw [ScheduledTask.key_eq, ← hkey, hidle t ht] at hfound
        cases hfound
    have hfound := Collection.findOne_of_mem he
    rw [ScheduledTask.key_eq] at hfound
    cases htaken with
    | idle hfar htasks hqueue htimer =>
      rw [htasks, if_pos hin] at hfound
      cases hfound
    | armed skipped rest k e' hsplit hfar htasks hfound' hnear hqueue htimer =>
      rw [hsplit, List.mem_append, List.mem_cons] at hin
      rcases hin with hin | hin | hin
      · rw [htasks, if_pos hin] at hfound
        cases hfound
      · exact .inr ⟨_, htimer, hin.symm⟩
      · exact .inl (hqueue ▸ hin)

theorem Tidy.lossless_taken_iff (h : Tidy s) (htidy : Tidy s') (htaken : Taken s s.taskQueue s')
    (hloss : Lossless s) :
    Lossless s' ↔ ∀ t ∈ s.currentTimeout, s.scheduledTasks.findOne t.key = none := by
  rw [htidy.lossless_docs_iff]
  exact h.linked.allListed_taken_iff htaken (h.lossless_docs_iff.1 hloss)

/-- **An event loses a task exactly when it clears a timer whose task is still scheduled.** -/
theorem Tidy.lossless_next_iff (h : Tidy s) (hloss : Lossless s) (hstep : s.next e = some s') :
    Lossless s' ↔ TimerIdle s e := by
  have htidy := h.next hstep
  have houtcome := outcome_of_next hstep
  cases houtcome with
  | tick now hle hno =>
    refine iff_of_true ?_ fun hyes => absurd hyes hno
    exact htidy.lossless_docs_iff.2 (h.lossless_docs_iff.1 hloss)
  | reload groups hno =>
    refine iff_of_true (htidy.lossless_docs_iff.2 fun e he => .inl ?_) fun hyes => absurd hyes hno
    exact mem_taskQueue_setScheduledTasks h.cleared _ (fun e he => by cases he) e he
  | schedule passes calls hcalls hyes =>
    rw [h.lossless_taken_iff htidy (h.taken passes calls) hloss]
    exact ⟨fun hidle _ => hidle, fun hidle => hidle hyes⟩
  | fire timer htimer hdue hno =>
    refine iff_of_true (htidy.lossless_docs_iff.2 fun e he => .inl ?_) fun hyes => absurd hyes hno
    obtain ⟨he, hkey⟩ := Collection.mem_delete.1 he
    rcases h.lossless_docs_iff.1 hloss e he with hin | ⟨t, ht, hkey'⟩
    · exact hin
    · obtain rfl := Option.some.inj (htimer.symm.trans ht)
      exact absurd hkey'.symm hkey
  | start i call hcall hno => exact iff_of_true hloss fun hyes => absurd hyes hno
  | finish calls hcalls hno => exact iff_of_true hloss fun hyes => absurd hyes hno

theorem lossless_init (now : Int) : Lossless (State.init now) := fun e he => by cases he

/-- **The runs in which no task is ever lost are those that clear no timer of a scheduled task.** -/
theorem lossless_iff {now : Int} {es : List Event} :
    scheduler.Along Lossless (State.init now) es s ↔
      (scheduler.restrict TimerIdle).Run (State.init now) es s :=
  Lts.along_iff_restrict (I := Tidy) (fun _ _ _ h hstep => h.next hstep)
    (fun _ _ _ h hloss hstep => h.lossless_next_iff hloss hstep) (tidy_init now)
    (lossless_init now)

/-- A booking that starts after an hour, and one that starts after two. -/
def hourlyBookings : List Group :=
  [Sample.booking "g" "u" .once 0 [⟨3600000, 7200000⟩] 3600000 ["d"],
    Sample.booking "h" "u" .once 0 [⟨7200000, 10800000⟩] 3600000 ["e"]]

/-- A pass lands while the job that activates the first booking is under way: when the job has
completed, the timer that the pass armed is cleared, and its task is not put back. -/
theorem not_lossless_of_reload : ∃ s, scheduler.Run (State.init 0)
    [.reload hourlyBookings, .schedule, .tick 3600000, .fire, .start 0, .reload hourlyBookings,
      .schedule, .finish 0] s ∧ ¬ Lossless s := by
  obtain ⟨s, hrun, hs⟩ := Lts.exists_run_of_play (f := State.next) (G := fun _ _ => True)
    (State.init 0) [.reload hourlyBookings, .schedule, .tick 3600000, .fire, .start 0,
      .reload hourlyBookings, .schedule, .finish 0] (fun s => ¬ Lossless s) (by decide +kernel)
  exact ⟨s, hrun.of_restrict, by simpa using hs⟩

end GroupsScheduler

end DeviceHub
