import DeviceHub.Async.Lts
import Mathlib.Data.List.Chain
import Mathlib.Data.Nat.Notation

/-!
# `lib/utils/throttle.util.ts`

A throttled function calls the function behind it at once when it is called for the first time.
Every later call arms a timer again, which calls the function behind it with the arguments of the
last call.

## Main definitions

* `Throttle`, `Throttle.func`, `Throttle.timeout` : the variables of the throttled function, what a
  call of it does, and what the timer does.
* `Throttled`, `Throttled.next` : an object with a throttled method, the clock and the events.
* `Throttled.Idle` : every timer that is due has run.
* `Throttled.Moves` : a throttled method without its times.

## Main results

* `Throttled.Sound.next` : an event keeps the timer due in time and the calls at their distance, and
  does what `Throttled.Moves` says.
* `Throttled.Sound.settled` : when nothing is told for long enough no timer is left.
-/

namespace DeviceHub

/-- The variables of the closure; `lastTime` has a meaning when `inThrottle` is set.  The timer has
the time at which it is due and the arguments. -/
structure Throttle (A : Type) where
  lastTime : ℕ := 0
  inThrottle : Bool := false
  lastFn : Option (ℕ × A) := none

namespace Throttle

variable {A : Type}

section Model

variable (wait now : ℕ) (t : Throttle A)

/-- A call at the time `now`, and the arguments with which `fn` is called at once. -/
def func (args : A) : Throttle A × Option A :=
  if t.inThrottle then
    ({ t with lastFn := some (now + (wait - (now - t.lastTime)), args) }, none)
  else ({ t with lastTime := now, inThrottle := true }, some args)

/-- The timer runs. -/
def timeout : Option (Throttle A × Option A) :=
  (t.lastFn.filter fun timer => timer.1 ≤ now).map fun timer =>
    if wait ≤ now - t.lastTime then ({ t with lastTime := now, lastFn := none }, some timer.2)
    else ({ t with lastFn := none }, none)

end Model

variable {wait now : ℕ} {t t' : Throttle A} {args : A} {called : Option A}

/-- What is true of the variables at the time `now`: the timer is due when `fn` may be called
again, or at once. -/
structure Sound (wait now : ℕ) (t : Throttle A) : Prop where
  lastTime_le : t.lastTime ≤ now
  inThrottle : ∀ timer ∈ t.lastFn, t.inThrottle = true
  allowed : ∀ timer ∈ t.lastFn, t.lastTime + wait ≤ timer.1
  due_le : ∀ timer ∈ t.lastFn, timer.1 ≤ max (t.lastTime + wait) now

theorem sound_new : Sound wait now ({} : Throttle A) :=
  ⟨Nat.zero_le _, fun _ h => absurd h nofun, fun _ h => absurd h nofun, fun _ h => absurd h nofun⟩

theorem Sound.later (h : t.Sound wait now) (d : ℕ) : t.Sound wait (now + d) where
  lastTime_le := Nat.le_add_right_of_le h.lastTime_le
  inThrottle := h.inThrottle
  allowed := h.allowed
  due_le timer htimer := by
    have hdue := h.due_le timer htimer
    omega

theorem Sound.func (h : t.Sound wait now) (args : A) : (t.func wait now args).1.Sound wait now := by
  have hle := h.lastTime_le
  unfold Throttle.func
  split
  · rename_i hin
    refine ⟨hle, fun _ _ => hin, ?_, ?_⟩
    · rintro timer ⟨⟩
      dsimp only
      omega
    · rintro timer ⟨⟩
      dsimp only
      omega
  · rename_i hin
    have hnone : ∀ timer, timer ∉ t.lastFn := fun timer htimer => hin (h.inThrottle timer htimer)
    exact ⟨Nat.le_refl _, fun _ _ => rfl, fun timer htimer => absurd htimer (hnone timer),
      fun timer htimer => absurd htimer (hnone timer)⟩

/-- A timer that is due calls `fn`. -/
theorem Sound.timeout_eq (h : t.Sound wait now) {due : ℕ} (hlast : t.lastFn = some (due, args))
    (hdue : due ≤ now) :
    t.timeout wait now = some ({ t with lastTime := now, lastFn := none }, some args) := by
  have hallowed : t.lastTime + wait ≤ due := h.allowed (due, args) hlast
  unfold Throttle.timeout
  rw [hlast, Option.filter_some, if_pos (by simpa using hdue), Option.map_some,
    if_pos (by omega)]

theorem Sound.timeout_eq_some_iff (h : t.Sound wait now) :
    t.timeout wait now = some (t', called) ↔
      ∃ due args, t.lastFn = some (due, args) ∧ due ≤ now ∧ called = some args ∧
        t' = { t with lastTime := now, lastFn := none } := by
  constructor
  · intro htimeout
    obtain ⟨timer, htimer, -⟩ := Option.map_eq_some_iff.1 htimeout
    obtain ⟨hlast, hdue⟩ := Option.filter_eq_some_iff.1 htimer
    have hdue := of_decide_eq_true hdue
    rw [h.timeout_eq hlast hdue] at htimeout
    cases htimeout
    exact ⟨timer.1, timer.2, hlast, hdue, rfl, rfl⟩
  · rintro ⟨due, args, hlast, hdue, rfl, rfl⟩
    exact h.timeout_eq hlast hdue

/-- `fn` has been called by the timer. -/
theorem sound_run : ({ t with lastTime := now, lastFn := none } : Throttle A).Sound wait now :=
  ⟨Nat.le_refl _, fun _ h => absurd h nofun, fun _ h => absurd h nofun, fun _ h => absurd h nofun⟩

end Throttle

/-! ### An object with a throttled method -/

/-- An object, the variables of its throttled method, the clock, and the times of the calls of the
method behind it. -/
structure Throttled (S A : Type) where
  state : S
  throttle : Throttle A := {}
  now : ℕ := 0
  calls : List ℕ := []

namespace Throttled

variable {S A E : Type}

/-- What can happen: time passes, the timer runs, or the object is told something. -/
inductive Event (E : Type) where
  | tick (d : ℕ)
  | timer
  | told (e : E)

section Model

variable (wait : ℕ) (fn : A → S → S)

/-- `fn` has been called, or not. -/
def conclude (o : Throttled S A) (throttle : Throttle A) : Option A → Throttled S A
  | some args => { o with throttle, state := fn args o.state, calls := o.calls ++ [o.now] }
  | none => { o with throttle }

/-- A call of the throttled method. -/
def invoke (o : Throttled S A) (args : A) : Throttled S A :=
  let r := o.throttle.func wait o.now args
  o.conclude fn r.1 r.2

variable (handle : E → S → S × Option A)

/-- When the object is told something it changes, and may call the throttled method. -/
def tell (o : Throttled S A) (e : E) : Throttled S A :=
  let r := handle e o.state
  let o' := { o with state := r.1 }
  r.2.elim o' (o'.invoke wait fn)

/-- What an event does. -/
def next (o : Throttled S A) : Event E → Option (Throttled S A)
  | .tick d => some { o with now := o.now + d }
  | .timer => (o.throttle.timeout wait o.now).map fun r => o.conclude fn r.1 r.2
  | .told e => some (o.tell wait fn handle e)

/-- The runs of the object. -/
def system : Lts (Throttled S A) (Event E) := .ofNext (next wait fn handle)

end Model

/-- No timer is due. -/
def Idle (o : Throttled S A) : Prop := ∀ timer ∈ o.throttle.lastFn, o.now < timer.1

variable {wait : ℕ} {fn : A → S → S} {handle : E → S → S × Option A} {o o' : Throttled S A}

/-- The timer is set as it should be, and the calls have kept the distance. -/
structure Sound (wait : ℕ) (o : Throttled S A) : Prop where
  throttle : o.throttle.Sound wait o.now
  last : ∀ time ∈ o.calls.getLast?, o.throttle.inThrottle = true ∧ o.throttle.lastTime = time
  spaced : o.calls.IsChain fun time time' => time + wait ≤ time'

theorem sound_new (state : S) : ({ state } : Throttled S A).Sound wait :=
  ⟨Throttle.sound_new, fun _ h => absurd h nofun, .nil⟩

/-! ### What an event does -/

/-- The object, and the arguments that its timer has. -/
def view (o : Throttled S A) : S × Option A := (o.state, o.throttle.lastFn.map Prod.snd)

/-- A throttled method without its times: a call is made at once when the timer is not armed, or it
arms the timer. -/
inductive Moves (fn : A → S → S) (handle : E → S → S × Option A) :
    S × Option A → Event E → S × Option A → Prop
  | tick (s p d) : Moves fn handle (s, p) (.tick d) (s, p)
  | timer (s args) : Moves fn handle (s, some args) .timer (fn args s, none)
  | silent (s p e) : (handle e s).2 = none →
      Moves fn handle (s, p) (.told e) ((handle e s).1, p)
  | call (s e args) : (handle e s).2 = some args →
      Moves fn handle (s, none) (.told e) (fn args (handle e s).1, none)
  | arm (s p e args) : (handle e s).2 = some args →
      Moves fn handle (s, p) (.told e) ((handle e s).1, some args)

section Steps

variable {args : A}

theorem Sound.call (h : o.Sound wait) (state : S) {throttle : Throttle A}
    (hthrottle : throttle.Sound wait o.now) (hin : throttle.inThrottle = true)
    (hlast : throttle.lastTime = o.now)
    (hspaced : ∀ time ∈ o.calls.getLast?, time + wait ≤ o.now) :
    ({ o with state, throttle, calls := o.calls ++ [o.now] } : Throttled S A).Sound wait where
  throttle := hthrottle
  last time htime := by
    rw [List.getLast?_concat] at htime
    cases htime
    exact ⟨hin, hlast⟩
  spaced := List.isChain_append.2 ⟨h.spaced, .singleton _, fun time htime time' htime' => by
    cases htime'
    exact hspaced time htime⟩

/-- Two calls keep the distance, since the timer is not due before. -/
theorem Sound.timer (h : o.Sound wait) (hnext : next wait fn handle o .timer = some o') :
    o'.Sound wait ∧ Moves fn handle o.view .timer o'.view := by
  obtain ⟨⟨throttle, called⟩, htimeout, rfl⟩ := Option.map_eq_some_iff.1 hnext
  obtain ⟨due, args, hlast, hdue, rfl, rfl⟩ := h.throttle.timeout_eq_some_iff.1 htimeout
  constructor
  · refine h.call _ Throttle.sound_run (h.throttle.inThrottle _ hlast) rfl fun time htime => ?_
    have hallowed : o.throttle.lastTime + wait ≤ due := h.throttle.allowed _ hlast
    rw [← (h.last time htime).2]
    omega
  · unfold view conclude
    rw [hlast]
    exact .timer _ _

theorem Sound.invoke (h : o.Sound wait) (args : A) : (o.invoke wait fn args).Sound wait := by
  unfold Throttled.invoke Throttle.func
  have hfunc := h.throttle.func args
  unfold Throttle.func at hfunc
  split
  · rename_i hin
    rw [if_pos hin] at hfunc
    exact ⟨hfunc, h.last, h.spaced⟩
  · rename_i hin
    rw [if_neg hin] at hfunc
    exact h.call _ hfunc rfl rfl fun time htime => absurd (h.last time htime).1 hin

theorem tell_of_none {e : E} (h : (handle e o.state).2 = none) :
    o.tell wait fn handle e = { o with state := (handle e o.state).1 } := by
  unfold Throttled.tell
  dsimp only
  rw [h]
  rfl

theorem tell_of_some {e : E} (h : (handle e o.state).2 = some args) :
    o.tell wait fn handle e =
      ({ o with state := (handle e o.state).1 } : Throttled S A).invoke wait fn args := by
  unfold Throttled.tell
  dsimp only
  rw [h]
  rfl

theorem Sound.tell (h : o.Sound wait) (e : E) : (o.tell wait fn handle e).Sound wait := by
  have hstate : ({ o with state := (handle e o.state).1 } : Throttled S A).Sound wait :=
    ⟨h.throttle, h.last, h.spaced⟩
  cases hargs : (handle e o.state).2 with
  | none => exact tell_of_none hargs ▸ hstate
  | some args => exact tell_of_some hargs ▸ hstate.invoke args

theorem Sound.moves_tell (h : o.Sound wait) (e : E) :
    Moves fn handle o.view (.told e) (o.tell wait fn handle e).view := by
  cases hargs : (handle e o.state).2 with
  | none =>
    rw [tell_of_none hargs]
    exact .silent _ _ _ hargs
  | some args =>
    rw [tell_of_some hargs]
    unfold Throttled.invoke Throttle.func
    dsimp only
    split
    · exact .arm _ _ _ _ hargs
    · rename_i hin
      have hnone : o.throttle.lastFn = none := Option.eq_none_iff_forall_not_mem.2
        fun timer htimer => hin (h.throttle.inThrottle timer htimer)
      unfold view conclude
      dsimp only
      rw [hnone]
      exact .call _ _ _ hargs

theorem Sound.next {e : Event E} (h : o.Sound wait) (hnext : next wait fn handle o e = some o') :
    o'.Sound wait ∧ Moves fn handle o.view e o'.view := by
  cases e with
  | tick d =>
    obtain rfl := Option.some.inj hnext
    exact ⟨⟨h.throttle.later d, h.last, h.spaced⟩, .tick _ _ _⟩
  | timer => exact h.timer hnext
  | told e =>
    obtain rfl := Option.some.inj hnext
    exact ⟨h.tell e, h.moves_tell e⟩

end Steps

/-! ### Runs -/

theorem Sound.run {es : List (Event E)} (h : o.Sound wait)
    (hrun : (system wait fn handle).Run o es o') : o'.Sound wait :=
  hrun.invariant h fun _ _ _ hs hstep => (hs.next hstep).1

/-- When nothing is told to the object for as long as `wait` and no timer is due, none is left. -/
theorem Sound.settled {es : List (Event E)} (h : o.Sound wait)
    (hquiet : ∀ e ∈ es, ∀ x, e ≠ .told x) (hrun : (system wait fn handle).Run o es o')
    (hlong : o.now + wait ≤ o'.now) (hidle : o'.Idle) : o'.throttle.lastFn = none := by
  have hdue : ∀ timer ∈ o.throttle.lastFn, timer.1 ≤ o.now + wait := fun timer htimer => by
    have hle := h.throttle.due_le timer htimer
    have hlast := h.throttle.lastTime_le
    omega
  -- the due time stays, since only a call would arm the timer again
  have hkept : ∀ timer ∈ o'.throttle.lastFn, timer.1 ≤ o.now + wait := by
    clear hlong hidle
    generalize o.now + wait = due at hdue
    induction hrun with
    | done => exact hdue
    | @more s t s' e es hstep _ ih =>
      refine ih (h.next hstep).1 (fun e' he' => hquiet e' (.tail _ he')) ?_
      cases e with
      | tick d =>
        obtain rfl := Option.some.inj hstep
        exact hdue
      | timer =>
        obtain ⟨⟨throttle, called⟩, htimeout, rfl⟩ := Option.map_eq_some_iff.1 hstep
        obtain ⟨_, _, -, -, rfl, rfl⟩ := h.throttle.timeout_eq_some_iff.1 htimeout
        exact fun timer htimer => absurd htimer nofun
      | told e => exact absurd rfl (hquiet _ (.head _) e)
  refine Option.eq_none_iff_forall_not_mem.2 fun timer htimer => ?_
  have hlate := hkept timer htimer
  have hearly := hidle timer htimer
  omega

end Throttled

end DeviceHub
