import DeviceHub.Scheduler.Queue
import DeviceHub.Db.Sample

/-!
# No job starts early

A job is started by a call of `processTask`, which is made when its task is due or when the timer
that was armed for it fires.  A timer does not fire before its delay, unless the delay exceeds
`TIMEOUT_MAX`.

## Main definitions

* `Timely` : no job was started before the time of its task.
* `InReach` : the condition that the timer is only armed for tasks that it can wait for.

## Main results

* `timely_of_run` : in every run of the scheduler whose steps are in reach no job starts early.
* `not_timely_of_far` : a booking a month ahead is activated after a millisecond.
-/

namespace DeviceHub

open apiutil

namespace GroupsScheduler

variable {s s' : State} {e : Event}

/-- No job was started before the time of its task. -/
def Timely (s : State) : Prop := ∀ st ∈ s.started, st.task.time ≤ st.time

instance (s : State) : Decidable (Timely s) := inferInstanceAs (Decidable (∀ st ∈ s.started, _))

/-- The event does not arm the timer for a task farther away than a timer can wait. -/
def InReach (s : State) (e : Event) : Prop :=
  Schedules s e → ∀ task ∈ upcoming s, task.time - s.now ≤ TIMEOUT_MAX

instance (s : State) (e : Event) : Decidable (InReach s e) :=
  inferInstanceAs (Decidable (Schedules s e → ∀ task ∈ upcoming s, _))

/-- The timer is armed for the task that comes next. -/
theorem Taken.upcoming_eq (h : Taken s s.taskQueue s') {t : Timer} (ht : t ∈ s'.currentTimeout) :
    upcoming s = some t.task ∧
      t.notBefore = setTimeout s.now (max 0 (t.task.time - s.now)) := by
  cases h with
  | idle hfar htasks hqueue htimer =>
    rw [htimer] at ht
    cases ht
  | armed skipped rest k e hsplit hfar htasks hfound hnear hqueue htimer =>
    rw [htimer] at ht
    obtain rfl := Option.some.inj ht
    refine ⟨?_, rfl⟩
    have hskip : (skipped.filterMap s.taskOf).find? (fun task => task.time - s.now < ONE_YEAR) =
        none := by
      refine List.find?_eq_none.2 fun task htask => ?_
      obtain ⟨k', hk', htaskOf⟩ := List.mem_filterMap.1 htask
      obtain ⟨e', he', rfl⟩ := Option.map_eq_some_iff.1 htaskOf
      have hyear := hfar k' hk' e' he'
      simpa using hyear
    have htaskOf : s.taskOf k = some e.task := by
      rw [State.taskOf, hfound, Option.map_some]
    unfold upcoming
    rw [hsplit, List.filterMap_append, List.find?_append, hskip, Option.none_or,
      List.filterMap_cons_some htaskOf, List.find?_cons_of_pos]
    exact decide_eq_true hnear

/-! ### The invariant -/

/-- The calls of `processTask` are due, and the timer will not fire before its task is. -/
structure Punctual (s : State) : Prop where
  tidy : Tidy s
  timely : Timely s
  calls : ∀ c ∈ s.calls, c.task.time ≤ s.now
  timer : ∀ t ∈ s.currentTimeout, t.task.time ≤ t.notBefore

theorem punctual_init (now : Int) : Punctual (State.init now) where
  tidy := tidy_init now
  timely st hst := by cases hst
  calls c hc := by cases hc
  timer t ht := by cases ht

/-- What the tasks of a pass do besides filling the queue: those that are due are processed. -/
theorem setScheduledTasks_spec (s : State) (tasks : List Task) :
    (tasks.foldl setScheduledTask s).now = s.now ∧
      (tasks.foldl setScheduledTask s).currentTimeout = s.currentTimeout ∧
      (tasks.foldl setScheduledTask s).started = s.started ∧
      ∀ c ∈ (tasks.foldl setScheduledTask s).calls, c ∈ s.calls ∨ c.task.time ≤ s.now := by
  induction tasks generalizing s with
  | nil => exact ⟨rfl, rfl, rfl, fun c hc => .inl hc⟩
  | cons task tasks ih =>
    obtain ⟨hnow, htimer, hstarted, hcalls⟩ := ih (setScheduledTask s task)
    refine ⟨hnow, htimer, hstarted, fun c hc => ?_⟩
    rcases hcalls c hc with hc | hdue
    · simp only [setScheduledTask] at hc
      split at hc
      · rename_i hdue
        rcases List.mem_append.1 hc with hc | hc
        · exact .inl hc
        · obtain rfl := List.mem_singleton.1 hc
          exact .inr hdue
      · exact .inl hc
    · exact .inr hdue

theorem Punctual.next (h : Punctual s) (hreach : InReach s e) (hstep : s.next e = some s') :
    Punctual s' := by
  have htidy := h.tidy.next hstep
  have houtcome := outcome_of_next hstep
  cases houtcome with
  | tick now hle hno =>
    exact ⟨htidy, h.timely, fun c hc => Int.le_trans (h.calls c hc) hle, h.timer⟩
  | reload groups hno =>
    obtain ⟨hnow, htimer, hstarted, hcalls⟩ := setScheduledTasks_spec s.cleared
      (groups.flatMap (processGroup s.now))
    refine ⟨htidy, fun st hst => h.timely st (hstarted ▸ hst), fun c hc => ?_,
      fun t ht => h.timer t (htimer ▸ ht)⟩
    show c.task.time ≤ (reload s groups).now
    rw [show (reload s groups).now = s.now from hnow]
    rcases hcalls c hc with hc | hdue
    · exact h.calls c hc
    · exact hdue
  | schedule passes calls hcalls hyes =>
    have htaken := h.tidy.taken passes calls
    refine ⟨htidy, ?_, ?_, fun t ht => ?_⟩
    · unfold Timely
      rw [started_scheduleNextTask]
      exact h.timely
    · rw [calls_scheduleNextTask, now_scheduleNextTask]
      exact fun c hc => h.calls c (hcalls c hc)
    · -- the delay is one that the timer can wait for
      obtain ⟨hup, hnotBefore⟩ := htaken.upcoming_eq ht
      have hle := hreach hyes t.task hup
      have hmax : ¬ max 0 (t.task.time - s.now) > TIMEOUT_MAX := by
        have hpos : (0 : Int) ≤ TIMEOUT_MAX := by decide
        omega
      rw [hnotBefore, setTimeout, if_neg hmax]
      omega
  | fire timer htimer hdue hno =>
    refine ⟨htidy, h.timely, fun c hc => ?_, fun t ht => by cases ht⟩
    rcases List.mem_append.1 hc with hc | hc
    · exact h.calls c hc
    · obtain rfl := List.mem_singleton.1 hc
      exact Int.le_trans (h.timer timer htimer) hdue
  | start i call hcall hno =>
    have hdue := h.calls call (List.mem_of_getElem? hcall)
    refine ⟨htidy, fun st hst => ?_, fun c hc => ?_, h.timer⟩
    · rcases List.mem_append.1 hst with hst | hst
      · exact h.timely st hst
      · obtain rfl := List.mem_singleton.1 hst
        exact hdue
    · rcases List.mem_or_eq_of_mem_set hc with hc | rfl
      · exact h.calls c hc
      · exact hdue
  | finish calls hcalls hno =>
    exact ⟨htidy, h.timely, fun c hc => h.calls c (hcalls c hc), h.timer⟩

/-- **No job starts early** in a run of the scheduler whose timers are all in reach. -/
theorem timely_of_run {now : Int} {es : List Event}
    (hrun : (scheduler.restrict InReach).Run (State.init now) es s) : Timely s := by
  have hpunctual : Punctual s := hrun.invariant_of_restrict (punctual_init now)
    fun _ _ _ h hreach hstep => h.next hreach hstep
  exact hpunctual.timely

/-- A booking that starts after `delay` milliseconds. -/
def bookingIn (delay : Int) : Group :=
  Sample.booking "g" "u" .once 0 [⟨delay, delay + 3600000⟩] 3600000 ["d"]

/-- A booking in 30 days is activated after a millisecond. -/
theorem not_timely_of_far : ∃ s, scheduler.Run (State.init 0)
    [.reload [bookingIn (30 * ONE_DAY)], .schedule, .tick 1, .fire, .start 0] s ∧ ¬ Timely s := by
  obtain ⟨s, hrun, hs⟩ := Lts.exists_run_of_play (f := State.next)
    (G := fun _ _ => True) (State.init 0)
    [.reload [bookingIn (30 * ONE_DAY)], .schedule, .tick 1, .fire, .start 0]
    (fun s => ¬ Timely s) (by decide +kernel)
  exact ⟨s, hrun.of_restrict, by simpa using hs⟩

/-- A booking in 10 days is activated in time. -/
theorem timely_of_run_near : ∃ s, (scheduler.restrict InReach).Run (State.init 0)
    [.reload [bookingIn (10 * ONE_DAY)], .schedule, .tick (10 * ONE_DAY), .fire, .start 0] s ∧
      s.started.length = 1 ∧ Timely s := by
  obtain ⟨s, hrun, hs⟩ := Lts.exists_run_of_play (f := State.next) (G := InReach)
    (State.init 0)
    [.reload [bookingIn (10 * ONE_DAY)], .schedule, .tick (10 * ONE_DAY), .fire, .start 0]
    (fun s => s.started.length = 1) (by decide +kernel)
  exact ⟨s, hrun, by simpa using hs, timely_of_run hrun⟩

end GroupsScheduler

end DeviceHub
