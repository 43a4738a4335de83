import DeviceHub.Async.Lts
import Mathlib.Algebra.Order.Field.Basic
import Mathlib.Algebra.Order.Ring.Rat
import Mathlib.Data.Rat.Floor
import Mathlib.Tactic.Linarith
import Mathlib.Tactic.NormNum

/-!
# `ios-device/plugins/touch/esp32touch.js`

A mouse that is moved in steps of three sizes.  A worker sends a step every few milliseconds; when
there are several that lead to the target it draws one of them.  The code keeps where the pointer
is by adding up what it has sent since the last reset.

At the other end of the serial port is the board with the program `ESP32Mouse.ino`.  It reads the
commands one after the other, drops them while no phone is connected to it, and prints a line when
its state changes, on which the code forgets where the pointer is.  Positions are exact, a command
moves the pointer by the size that the code has for it, and each line comes as a chunk of its own.

## Main definitions

* `Esp32Touch` : the controller.
* `Esp32Touch.commands` : the steps that the worker draws from.
* `Esp32Board`, `Esp32Board.handleCommand` : the board, and what it does on a command.
* `Esp32Port`, `Esp32Port.system` : both ends of the port, and what can happen to them.

## Main results

* `Esp32Port.tracked_of_run` : the code knows where the pointer will be, unless it is going to be
  told that the board was not connected.
* `Esp32Port.near_of_run` : whatever is drawn, the pointer gets to the target and stays there.
-/

namespace DeviceHub

/-! ### Going toward a point -/

/-- The step `a` does not lead beyond what is left to go. -/
def Toward (d a : ℚ) : Prop := 0 ≤ a ∧ a ≤ d ∨ d ≤ a ∧ a ≤ 0

theorem Toward.abs_sub {d a : ℚ} (h : Toward d a) : |d - a| = |d| - |a| := by
  obtain ⟨ha, hd⟩ | ⟨hd, ha⟩ := h
  · rw [abs_of_nonneg ha, abs_of_nonneg (ha.trans hd), abs_of_nonneg (sub_nonneg.2 hd)]
  · rw [abs_of_nonpos ha, abs_of_nonpos (hd.trans ha), abs_of_nonpos (sub_nonpos.2 hd)]
    ring

/-! ### The controller -/

/-- `Esp32TouchState` -/
inductive Esp32TouchState where
  | paired
  | connected
  | disconnected
  | ready
  | booting
  deriving DecidableEq

/-- A command of the worker, with what it adds to the position. -/
structure Esp32Command where
  dir : String
  addX : ℚ
  addY : ℚ
  deriving DecidableEq

/-- The controller.  The two coordinates of the position are `null` together, and so are those of
the target.  What was written to the port waits there until the board reads it. -/
structure Esp32Touch where
  width : ℚ
  height : ℚ
  state : Option Esp32TouchState := none
  curpos : Option (ℚ × ℚ) := none
  targetPos : Option (ℚ × ℚ) := none
  working : Bool := false
  written : List String := ["-"]
  deriving DecidableEq

namespace Esp32Touch

section Model

/-- The constructor. -/
def create (width height : ℚ) : Esp32Touch := { width, height }

/-- The amount of pixels a single step does. -/
def SINGLE_STEP_SIZE : ℚ := 13 / 3

/-- The amount of pixels a big step does. -/
def BIG_STEP_SIZE : ℚ := 70 / 3

/-- The amount of pixels a huge step does. -/
def HUGE_STEP_SIZE : ℚ := 178 / 3

variable (s : Esp32Touch)

/-- A command is written to the port. -/
def bufferCommand (cmd : String) : Esp32Touch := { s with written := s.written ++ [cmd] }

/-- The new state is kept. -/
def updateState (newState : Esp32TouchState) : Esp32Touch := { s with state := some newState }

/-- The board is told to start again. -/
def reboot : Esp32Touch := (s.bufferCommand "-").updateState .booting

/-- The corner that the pointer is put into, in steps. -/
def origin : ℚ × ℚ := (14 * SINGLE_STEP_SIZE, 0)

/-- The pointer is put into the corner. -/
def reset : Esp32Touch := { s.bufferCommand "0" with curpos := some origin }

/-- What the port says. -/
def stateOf : String → Option Esp32TouchState
  | "P\r\n" => some .paired
  | "C\r\n" => some .connected
  | "D\r\n" => some .disconnected
  | "<R>\r\n" => some .ready
  | "L\r\n" => some .booting
  | _ => none

/-- The listener of `data`. -/
def onData (c : String) : Esp32Touch :=
  (stateOf c).elim s fun newState => ({ s with curpos := none }).updateState newState

/-- The worker is started, with a new target. -/
def move (targetX targetY : ℚ) : Esp32Touch :=
  { s with working := true, targetPos := some (targetX, targetY) }

/-- The commands of one size. -/
def tier (limit step : ℚ) (right left down up : String) (diffX diffY : ℚ) : List Esp32Command :=
  (if diffX > limit then [⟨right, step, 0⟩] else []) ++
  (if diffX < -limit then [⟨left, -step, 0⟩] else []) ++
  (if diffY > limit then [⟨down, 0, step⟩] else []) ++
  (if diffY < -limit then [⟨up, 0, -step⟩] else [])

/-- `commands`, of the largest size that there are any of. -/
def commands (diffX diffY : ℚ) : List Esp32Command :=
  let huge := tier (HUGE_STEP_SIZE * 1.5) HUGE_STEP_SIZE "k" "g" "h" "j" diffX diffY
  let big := tier (BIG_STEP_SIZE * 1.5) BIG_STEP_SIZE "r" "l" "d" "u" diffX diffY
  let single := tier SINGLE_STEP_SIZE SINGLE_STEP_SIZE "R" "L" "D" "U" diffX diffY
  if huge = [] then if big = [] then single else big else huge

/-- `Math.round` -/
def round (x : ℚ) : ℚ := ⌊x + 1 / 2⌋

/-- The target in steps. -/
def targetSteps (target : ℚ × ℚ) : ℚ × ℚ :=
  (round (target.1 * s.width), round (target.2 * s.height))

/-- What is left to go from a position. -/
def diff (target pos : ℚ × ℚ) : ℚ × ℚ :=
  ((s.targetSteps target).1 - pos.1, (s.targetSteps target).2 - pos.2)

/-- The command is sent. -/
def step (pos : ℚ × ℚ) (command : Esp32Command) : Esp32Touch :=
  { s.bufferCommand command.dir with curpos := some (pos.1 + command.addX, pos.2 + command.addY) }

/-- The rest of the worker, where the position is known.  `choice` is what `_.sample` draws; there
is nothing to be drawn from no commands. -/
def approach (choice : ℕ) (target pos : ℚ × ℚ) : Esp32Touch :=
  let drawn := commands (s.diff target pos).1 (s.diff target pos).2
  (drawn[choice % drawn.length]?).elim s (s.step pos)

/-- The position is found out by a reset. -/
def located : Esp32Touch := if s.curpos.isNone then s.reset else s

/-- The worker. -/
def tick (choice : ℕ) : Esp32Touch :=
  s.targetPos.elim s.located fun target =>
    s.located.curpos.elim s.located (s.located.approach choice target)

end Model

/-! ### The steps -/

theorem mem_tier {limit step : ℚ} {right left down up : String} {diffX diffY : ℚ}
    {command : Esp32Command} (hpos : 0 ≤ step) (hle : step ≤ limit)
    (h : command ∈ tier limit step right left down up diffX diffY) :
    Toward diffX command.addX ∧ Toward diffY command.addY ∧
      |command.addX| + |command.addY| = step := by
  unfold tier at h
  simp only [List.mem_append, List.mem_ite_nil_right, List.mem_singleton] at h
  have habs : |step| = step := abs_of_nonneg hpos
  have hstay (d : ℚ) : Toward d 0 :=
    (le_total 0 d).imp (fun hd => ⟨le_rfl, hd⟩) fun hd => ⟨hd, le_rfl⟩
  obtain ((⟨hlimit, rfl⟩ | ⟨hlimit, rfl⟩) | ⟨hlimit, rfl⟩) | ⟨hlimit, rfl⟩ := h
  · exact ⟨.inl ⟨hpos, by linarith⟩, hstay _, by simp [habs]⟩
  · exact ⟨.inr ⟨by linarith, by linarith⟩, hstay _, by simp [habs]⟩
  · exact ⟨hstay _, .inl ⟨hpos, by linarith⟩, by simp [habs]⟩
  · exact ⟨hstay _, .inr ⟨by linarith, by linarith⟩, by simp [habs]⟩

theorem tier_eq_nil_iff {limit step : ℚ} {right left down up : String} {diffX diffY : ℚ} :
    tier limit step right left down up diffX diffY = [] ↔ |diffX| ≤ limit ∧ |diffY| ≤ limit := by
  unfold tier
  simp only [List.append_eq_nil_iff, ite_eq_right_iff, List.cons_ne_nil, imp_false, gt_iff_lt,
    not_lt, abs_le]
  tauto

theorem mem_commands {diffX diffY : ℚ} {command : Esp32Command}
    (h : command ∈ commands diffX diffY) :
    Toward diffX command.addX ∧ Toward diffY command.addY ∧
      SINGLE_STEP_SIZE ≤ |command.addX| + |command.addY| := by
  unfold commands at h
  dsimp only at h
  split at h
  · split at h
    · obtain ⟨hx, hy, hsum⟩ := mem_tier (by norm_num [SINGLE_STEP_SIZE]) le_rfl h
      exact ⟨hx, hy, hsum.ge⟩
    · obtain ⟨hx, hy, hsum⟩ := mem_tier (by norm_num [BIG_STEP_SIZE])
        (by norm_num [BIG_STEP_SIZE]) h
      exact ⟨hx, hy, hsum.ge.trans' (by norm_num [SINGLE_STEP_SIZE, BIG_STEP_SIZE])⟩
  · obtain ⟨hx, hy, hsum⟩ := mem_tier (by norm_num [HUGE_STEP_SIZE])
      (by norm_num [HUGE_STEP_SIZE]) h
    exact ⟨hx, hy, hsum.ge.trans' (by norm_num [SINGLE_STEP_SIZE, HUGE_STEP_SIZE])⟩

/-- There is nothing to be sent exactly when the pointer is as near as a single step. -/
theorem commands_eq_nil_iff {diffX diffY : ℚ} :
    commands diffX diffY = [] ↔ |diffX| ≤ SINGLE_STEP_SIZE ∧ |diffY| ≤ SINGLE_STEP_SIZE := by
  unfold commands
  dsimp only
  have hwide {a b : ℚ} {size limit : ℚ} (hlimit : SINGLE_STEP_SIZE ≤ limit)
      (h : |a| ≤ SINGLE_STEP_SIZE ∧ |b| ≤ SINGLE_STEP_SIZE) (right left down up : String) :
      tier limit size right left down up a b = [] :=
    tier_eq_nil_iff.2 ⟨h.1.trans hlimit, h.2.trans hlimit⟩
  constructor
  · intro h
    split at h
    · split at h
      · exact tier_eq_nil_iff.1 h
      · contradiction
    · contradiction
  · intro h
    rw [if_pos (hwide (by norm_num [SINGLE_STEP_SIZE, HUGE_STEP_SIZE]) h _ _ _ _),
      if_pos (hwide (by norm_num [SINGLE_STEP_SIZE, BIG_STEP_SIZE]) h _ _ _ _)]
    exact hwide le_rfl h _ _ _ _

/-- How the mouse moves the pointer on a command. -/
def displacement : String → ℚ × ℚ
  | "k" => (HUGE_STEP_SIZE, 0)
  | "g" => (-HUGE_STEP_SIZE, 0)
  | "h" => (0, HUGE_STEP_SIZE)
  | "j" => (0, -HUGE_STEP_SIZE)
  | "r" => (BIG_STEP_SIZE, 0)
  | "l" => (-BIG_STEP_SIZE, 0)
  | "d" => (0, BIG_STEP_SIZE)
  | "u" => (0, -BIG_STEP_SIZE)
  | "R" => (SINGLE_STEP_SIZE, 0)
  | "L" => (-SINGLE_STEP_SIZE, 0)
  | "D" => (0, SINGLE_STEP_SIZE)
  | "U" => (0, -SINGLE_STEP_SIZE)
  | _ => (0, 0)

theorem displacement_dir {diffX diffY : ℚ} {command : Esp32Command}
    (h : command ∈ commands diffX diffY) :
    command.dir ≠ "0" ∧ command.dir ≠ "-" ∧
      displacement command.dir = (command.addX, command.addY) := by
  have hcases : command ∈ tier (HUGE_STEP_SIZE * 1.5) HUGE_STEP_SIZE "k" "g" "h" "j" diffX diffY ∨
      command ∈ tier (BIG_STEP_SIZE * 1.5) BIG_STEP_SIZE "r" "l" "d" "u" diffX diffY ∨
      command ∈ tier SINGLE_STEP_SIZE SINGLE_STEP_SIZE "R" "L" "D" "U" diffX diffY := by
    unfold commands at h
    grind
  simp only [tier, List.mem_append, List.mem_ite_nil_right, List.mem_singleton] at hcases
  obtain (((⟨-, rfl⟩ | ⟨-, rfl⟩) | ⟨-, rfl⟩) | ⟨-, rfl⟩) |
    (((⟨-, rfl⟩ | ⟨-, rfl⟩) | ⟨-, rfl⟩) | ⟨-, rfl⟩) |
    (((⟨-, rfl⟩ | ⟨-, rfl⟩) | ⟨-, rfl⟩) | ⟨-, rfl⟩) := hcases
  all_goals exact ⟨by decide, by decide, rfl⟩

/-- Where the worker takes the pointer to be. -/
def position (s : Esp32Touch) : ℚ × ℚ := s.curpos.getD origin

theorem located_curpos (s : Esp32Touch) : s.located.curpos = some s.position := by
  cases hpos : s.curpos <;> simp [located, position, reset, hpos]

theorem approach_cases (s : Esp32Touch) (choice : ℕ) (target pos : ℚ × ℚ) :
    commands (s.diff target pos).1 (s.diff target pos).2 = [] ∧
        s.approach choice target pos = s ∨
      ∃ command ∈ commands (s.diff target pos).1 (s.diff target pos).2,
        s.approach choice target pos = s.step pos command := by
  unfold approach
  dsimp only
  generalize commands (s.diff target pos).1 (s.diff target pos).2 = drawn
  cases hdrawn : drawn[choice % drawn.length]? with
  | none =>
    have hlen : drawn.length ≤ choice % drawn.length := List.getElem?_eq_none_iff.1 hdrawn
    refine .inl ⟨List.eq_nil_of_length_eq_zero ?_, rfl⟩
    by_contra hne
    exact hlen.not_gt (Nat.mod_lt _ (Nat.pos_of_ne_zero hne))
  | some command => exact .inr ⟨command, List.mem_of_getElem? hdrawn, rfl⟩

theorem tick_of_target {s : Esp32Touch} {target : ℚ × ℚ} (htarget : s.targetPos = some target)
    (choice : ℕ) : s.tick choice = s.located.approach choice target s.position := by
  simp [tick, htarget, located_curpos]

/-! ### Getting to the target -/

/-- As near as the mouse gets. -/
def Near (s : Esp32Touch) (target pos : ℚ × ℚ) : Prop :=
  |(s.diff target pos).1| ≤ SINGLE_STEP_SIZE ∧ |(s.diff target pos).2| ≤ SINGLE_STEP_SIZE

/-- What is left to go, from where the worker takes the pointer to be. -/
def remaining (s : Esp32Touch) (target : ℚ × ℚ) : ℚ :=
  |(s.diff target s.position).1| + |(s.diff target s.position).2|

theorem located_diff (s : Esp32Touch) (target pos : ℚ × ℚ) :
    s.located.diff target pos = s.diff target pos := by
  unfold located
  split <;> rfl

theorem located_targetPos (s : Esp32Touch) : s.located.targetPos = s.targetPos := by
  unfold located
  split <;> rfl

theorem located_of_curpos {s : Esp32Touch} {pos : ℚ × ℚ} (hpos : s.curpos = some pos) :
    s.located = s := by
  simp [located, hpos]

/-- After `n` ticks on the way to the target. -/
structure Approached (target : ℚ × ℚ) (n : ℕ) (s s' : Esp32Touch) : Prop where
  aims : s'.targetPos = some target
  known : 0 < n ∨ s.curpos.isSome → s'.curpos.isSome
  closer : s'.Near target s'.position ∨
    s'.remaining target + n * SINGLE_STEP_SIZE ≤ s.remaining target
  stays : s.Near target s.position → s'.Near target s'.position

namespace Approached

variable {target : ℚ × ℚ} {s t s' : Esp32Touch}

theorem refl (htarget : s.targetPos = some target) : Approached target 0 s s where
  aims := htarget
  known := fun h => h.resolve_left (lt_irrefl 0)
  closer := .inr (by simp)
  stays := id

theorem trans {n m : ℕ} (h : Approached target n s t) (h' : Approached target m t s') :
    Approached target (n + m) s s' where
  aims := h'.aims
  known := by
    intro hknown
    by_cases hm : 0 < m
    · exact h'.known (.inl hm)
    · exact h'.known (.inr (h.known (hknown.imp_left (by omega))))
  closer := by
    obtain hnear | hcloser := h.closer
    · exact .inl (h'.stays hnear)
    · refine h'.closer.imp_right fun hcloser' => ?_
      push_cast
      linarith
  stays := h'.stays ∘ h.stays

theorem written (htarget : s.targetPos = some target) (written : List String) :
    Approached target 0 s { s with written } := { refl htarget with aims := htarget }

theorem tick (htarget : s.targetPos = some target) (choice : ℕ) :
    Approached target 1 s (s.tick choice) := by
  rw [tick_of_target htarget]
  have hpos : s.located.position = s.position := by simp [position, located_curpos]
  obtain ⟨hnil, heq⟩ | ⟨command, hmem, heq⟩ :=
    s.located.approach_cases choice target s.position
  · rw [heq]
    have hnear : s.located.Near target s.located.position := by
      rw [hpos]
      exact commands_eq_nil_iff.1 hnil
    exact ⟨s.located_targetPos.trans htarget, fun _ => by simp [located_curpos], .inl hnear,
      fun _ => hnear⟩
  · rw [heq]
    rw [located_diff] at hmem
    obtain ⟨hx, hy, hsize⟩ := mem_commands hmem
    have hstep : (s.located.step s.position command).diff target
          (s.located.step s.position command).position =
        ((s.diff target s.position).1 - command.addX,
          (s.diff target s.position).2 - command.addY) := by
      have hdiff : (s.located.step s.position command).diff target = s.located.diff target := rfl
      rw [hdiff, located_diff]
      simp only [Esp32Touch.step, position, Option.getD_some, diff, Prod.mk.injEq]
      constructor <;> ring
    refine ⟨s.located_targetPos.trans htarget, fun _ => rfl, .inr ?_, fun hnear => ?_⟩
    · unfold remaining
      rw [hstep, hx.abs_sub, hy.abs_sub]
      push_cast
      linarith
    · exact absurd (commands_eq_nil_iff.2 hnear) (List.ne_nil_of_mem hmem)

end Approached


theorem onData_of_none {s : Esp32Touch} {c : String} (h : stateOf c = none) : s.onData c = s := by
  simp only [onData, h, Option.elim_none]

theorem tick_working (s : Esp32Touch) (choice : ℕ) : (s.tick choice).working = s.working := by
  have hlocated : s.located.working = s.working := by
    unfold located
    split <;> rfl
  cases htarget : s.targetPos with
  | none => simpa [tick, htarget] using hlocated
  | some target =>
    rw [tick_of_target htarget, ← hlocated]
    obtain ⟨-, heq⟩ | ⟨command, -, heq⟩ := s.located.approach_cases choice target s.position <;>
      rw [heq]
    rfl

end Esp32Touch

/-! ### The board -/

/-- The board: whether a phone is connected to it, and where the pointer of the phone is, as far as
this is known. -/
structure Esp32Board where
  connected : Bool := false
  pointer : Option (ℚ × ℚ) := none
  deriving DecidableEq

namespace Esp32Board

open Esp32Touch (displacement origin)

/-- A command is read.  `-` restarts the board; all others do something only while a phone is
connected: `0` puts the pointer into the corner, wherever it was. -/
def handleCommand (board : Esp32Board) (cmd : String) : Esp32Board :=
  if cmd = "-" then { board with connected := false }
  else if board.connected then
    if cmd = "0" then { board with pointer := some origin }
    else
      { board with
        pointer := board.pointer.map fun p =>
          (p.1 + (displacement cmd).1, p.2 + (displacement cmd).2) }
  else board

/-- What the board prints on a command. -/
def printed (cmd : String) : List String := if cmd = "-" then ["<R>\r\n"] else []

/-- What happens to the board on its own: a phone connects or disconnects, the pairing has ended, a
new mouse was made under the name that was read, or the memory is used up. -/
inductive Event where
  | onConnect
  | onDisconnect
  | onAuthenticationComplete (success : Bool)
  | named
  | restart
  deriving DecidableEq

/-- The board afterwards, and what it prints.  The pointer of a phone that connects can be
anywhere. -/
def on (board : Esp32Board) : Event → Esp32Board × List String
  | .onConnect => ({ connected := true }, ["C\r\n"])
  | .onDisconnect => ({ board with connected := false }, ["D\r\n"])
  | .onAuthenticationComplete success => (board, [if success then "P\r\n" else "F\r\n"])
  | .named => ({ board with connected := false }, ["K\r\n"])
  | .restart => ({ board with connected := false }, ["L\r\n", "<R>\r\n"])

/-- The board when it has read the commands. -/
def after (board : Esp32Board) (written : List String) : Esp32Board :=
  written.foldl handleCommand board

variable {board : Esp32Board} {cmd : String} {written : List String}

theorem after_append : board.after (written ++ [cmd]) = (board.after written).handleCommand cmd :=
  List.foldl_append

theorem connected_of_handleCommand (h : (board.handleCommand cmd).connected = true) :
    board.connected = true ∧ cmd ≠ "-" := by
  unfold handleCommand at h
  by_cases hcmd : cmd = "-"
  · rw [if_pos hcmd] at h
    cases h
  · rw [if_neg hcmd] at h
    refine ⟨?_, hcmd⟩
    by_contra hconnected
    rw [if_neg hconnected] at h
    exact hconnected h

theorem connected_of_after (h : (board.after written).connected = true) :
    board.connected = true := by
  induction written generalizing board with
  | nil => exact h
  | cons cmd written ih => exact (connected_of_handleCommand (ih h)).1

theorem pointer_handleCommand (hconnected : board.connected = true) (hrestart : cmd ≠ "-")
    (hreset : cmd ≠ "0") : (board.handleCommand cmd).pointer = board.pointer.map fun p =>
      (p.1 + (displacement cmd).1, p.2 + (displacement cmd).2) := by
  rw [handleCommand, if_neg hrestart, if_pos hconnected, if_neg hreset]

theorem pointer_reset (hconnected : board.connected = true) :
    (board.handleCommand "0").pointer = some origin := by
  rw [handleCommand, if_neg (by decide), if_pos hconnected, if_pos rfl]

end Esp32Board

/-! ### The port -/

/-- Both ends of the port, and the lines of the board that have not arrived. -/
structure Esp32Port where
  touch : Esp32Touch
  board : Esp32Board := {}
  lines : List String := []
  deriving DecidableEq

namespace Esp32Port

open Esp32Touch (SINGLE_STEP_SIZE stateOf commands origin commands_eq_nil_iff Approached)

/-- A new controller; the phone has no mouse before the board has started again. -/
def create (width height : ℚ) : Esp32Port := { touch := Esp32Touch.create width height }

/-- What the controller is told to do, and what happens to the port and to the board. -/
inductive Event where
  | move (targetX targetY : ℚ)
  | press
  | release
  | reset
  | reboot
  | tick (choice : ℕ)
  | data
  | read
  | board (event : Esp32Board.Event)

/-- What an event does: a line arrives in its order, and a command is read in its order. -/
def next (s : Esp32Port) : Event → Option Esp32Port
  | .move targetX targetY => some { s with touch := s.touch.move targetX targetY }
  | .press => some { s with touch := s.touch.bufferCommand "P" }
  | .release => some { s with touch := s.touch.bufferCommand "O" }
  | .reset => some { s with touch := s.touch.reset }
  | .reboot => some { s with touch := s.touch.reboot }
  | .tick choice => if s.touch.working then some { s with touch := s.touch.tick choice } else none
  | .data => s.lines.head?.map fun line =>
      { s with touch := s.touch.onData line, lines := s.lines.tail }
  | .read => s.touch.written.head?.map fun cmd =>
      { touch := { s.touch with written := s.touch.written.tail }
        board := s.board.handleCommand cmd
        lines := s.lines ++ Esp32Board.printed cmd }
  | .board event =>
    some { s with board := (s.board.on event).1, lines := s.lines ++ (s.board.on event).2 }

/-- The runs of the port. -/
def system : Lts Esp32Port Event := .ofNext next

/-- The board when it has read what was written. -/
def settled (s : Esp32Port) : Esp32Board := s.board.after s.touch.written

/-- Nothing on its way tells the controller of another state of the board. -/
def Quiet (s : Esp32Port) : Prop := ∀ line ∈ s.lines, stateOf line = none

/-- The code is right about where the pointer will be when everything was read. -/
def Knows (touch : Esp32Touch) (board : Esp32Board) : Prop :=
  (board.after touch.written).connected = true → ∀ pos, touch.curpos = some pos →
    (board.after touch.written).pointer = some pos

/-- The code knows where the pointer is, unless a line that makes it forget this is on its way. -/
def Tracked (s : Esp32Port) : Prop := s.Quiet → Knows s.touch s.board

/-! ### Where the pointer is -/

section Knows

variable {touch : Esp32Touch} {board : Esp32Board}

theorem Knows.bufferCommand (h : Knows touch board) {cmd : String} (hreset : cmd ≠ "0")
    (hstill : Esp32Touch.displacement cmd = (0, 0)) : Knows (touch.bufferCommand cmd) board := by
  unfold Knows Esp32Touch.bufferCommand
  rw [Esp32Board.after_append]
  intro hconnected pos hpos
  obtain ⟨hbefore, hrestart⟩ := Esp32Board.connected_of_handleCommand hconnected
  rw [Esp32Board.pointer_handleCommand hbefore hrestart hreset, h hbefore pos hpos, hstill]
  simp

theorem knows_reset (touch : Esp32Touch) (board : Esp32Board) : Knows touch.reset board := by
  unfold Knows Esp32Touch.reset Esp32Touch.bufferCommand
  rw [Esp32Board.after_append]
  intro hconnected pos hpos
  rw [Esp32Board.pointer_reset (Esp32Board.connected_of_handleCommand hconnected).1]
  exact hpos

theorem Knows.located (h : Knows touch board) : Knows touch.located board := by
  unfold Esp32Touch.located
  split
  · exact knows_reset touch board
  · exact h

theorem Knows.step (h : Knows touch board) {pos : ℚ × ℚ} (hpos : touch.curpos = some pos)
    {diffX diffY : ℚ} {command : Esp32Command} (hmem : command ∈ commands diffX diffY) :
    Knows (touch.step pos command) board := by
  obtain ⟨hreset, hrestart, hmove⟩ := Esp32Touch.displacement_dir hmem
  unfold Knows Esp32Touch.step Esp32Touch.bufferCommand
  rw [Esp32Board.after_append]
  intro hconnected pos' hpos'
  have hbefore := (Esp32Board.connected_of_handleCommand hconnected).1
  rw [Esp32Board.pointer_handleCommand hbefore hrestart hreset, h hbefore pos hpos, hmove]
  exact hpos'

theorem Knows.tick (h : Knows touch board) (choice : ℕ) : Knows (touch.tick choice) board := by
  cases htarget : touch.targetPos with
  | none =>
    have htick : touch.tick choice = touch.located := by
      simp only [Esp32Touch.tick, htarget, Option.elim_none]
    exact htick ▸ h.located
  | some target =>
    rw [Esp32Touch.tick_of_target htarget]
    obtain ⟨-, heq⟩ | ⟨command, hmem, heq⟩ :=
      touch.located.approach_cases choice target touch.position
    · rw [heq]
      exact h.located
    · rw [heq]
      exact h.located.step touch.located_curpos hmem

theorem knows_of_not_connected (h : board.connected = false) : Knows touch board :=
  fun hconnected => absurd (Esp32Board.connected_of_after hconnected) (Bool.eq_false_iff.1 h)

end Knows

variable {s s' : Esp32Port}

theorem Quiet.of_append {lines : List String} {touch : Esp32Touch} {board : Esp32Board}
    (h : Quiet ⟨touch, board, s.lines ++ lines⟩) : s.Quiet :=
  fun line hline => h line (List.mem_append_left _ hline)

theorem not_quiet {touch : Esp32Touch} {board : Esp32Board} {lines : List String} {line : String}
    (hmem : line ∈ lines) (hstate : (stateOf line).isSome) :
    ¬ Quiet ⟨touch, board, s.lines ++ lines⟩ := fun hquiet => by
  rw [hquiet line (List.mem_append_right _ hmem)] at hstate
  cases hstate

theorem Tracked.board (h : s.Tracked) (event : Esp32Board.Event) :
    Tracked { s with board := (s.board.on event).1, lines := s.lines ++ (s.board.on event).2 } := by
  intro hquiet
  cases event with
  | onConnect => exact absurd hquiet (not_quiet (.head _) rfl)
  | onDisconnect => exact absurd hquiet (not_quiet (.head _) rfl)
  | onAuthenticationComplete success => exact h hquiet.of_append
  | named => exact knows_of_not_connected rfl
  | restart => exact absurd hquiet (not_quiet (.head _) rfl)

/-- A line arrives: one that tells no state changes nothing, and on the others the position is
forgotten. -/
theorem Tracked.data (h : s.Tracked) {line : String} (hline : s.lines.head? = some line) :
    Tracked { s with touch := s.touch.onData line, lines := s.lines.tail } := by
  obtain ⟨rest, hlines⟩ := List.head?_eq_some_iff.1 hline
  intro hquiet
  cases hstate : stateOf line with
  | none =>
    have hbefore : s.Quiet := by
      intro line' hline'
      rw [hlines] at hline'
      obtain rfl | hmem := List.mem_cons.1 hline'
      · exact hstate
      · exact hquiet line' (by simpa [hlines] using hmem)
    dsimp only
    rw [Esp32Touch.onData_of_none hstate]
    exact h hbefore
  | some newState =>
    intro _ pos hpos
    simp [Esp32Touch.onData, hstate, Esp32Touch.updateState] at hpos

theorem Tracked.next {event : Event} (h : s.Tracked) (hnext : s.next event = some s') :
    s'.Tracked := by
  cases event with
  | move x y => exact Option.some.inj hnext ▸ h
  | press =>
    obtain rfl := Option.some.inj hnext
    exact fun hquiet => (h hquiet).bufferCommand (by decide) rfl
  | release =>
    obtain rfl := Option.some.inj hnext
    exact fun hquiet => (h hquiet).bufferCommand (by decide) rfl
  | reset =>
    obtain rfl := Option.some.inj hnext
    exact fun _ => knows_reset s.touch s.board
  | reboot =>
    obtain rfl := Option.some.inj hnext
    exact fun hquiet => (h hquiet).bufferCommand (by decide) rfl
  | tick choice =>
    obtain ⟨-, htick⟩ := Option.ite_none_right_eq_some.1 hnext
    obtain rfl := Option.some.inj htick
    exact fun hquiet => (h hquiet).tick choice
  | data =>
    obtain ⟨line, hline, rfl⟩ := Option.map_eq_some_iff.1 hnext
    exact h.data hline
  | read =>
    obtain ⟨cmd, hcmd, rfl⟩ := Option.map_eq_some_iff.1 hnext
    obtain ⟨rest, hwritten⟩ := List.head?_eq_some_iff.1 hcmd
    intro hquiet
    have hknows := h hquiet.of_append
    unfold Knows at hknows ⊢
    rw [hwritten] at hknows ⊢
    exact hknows
  | board event =>
    obtain rfl := Option.some.inj hnext
    exact h.board event

theorem tracked_of_run {width height : ℚ} {events : List Event}
    (hrun : system.Run (create width height) events s) : s.Tracked :=
  hrun.invariant (I := Tracked) (fun _ _ _ hpos => nomatch hpos) fun _ _ _ hs hst => hs.next hst

/-! ### Getting to the target -/

/-- An event that neither changes the target nor the position that the code has, apart from the
steps of the worker. -/
def Steady (s : Esp32Port) : Event → Prop
  | .move _ _ | .reset => False
  | .data => ∀ line ∈ s.lines.head?, stateOf line = none
  | _ => True

/-- The worker runs. -/
def Event.isTick : Event → Bool
  | .tick _ => true
  | _ => false

theorem approached_of_next {target : ℚ × ℚ} {event : Event} (hnext : s.next event = some s')
    (hsteady : s.Steady event) (htarget : s.touch.targetPos = some target) :
    Approached target ([event].countP Event.isTick) s.touch s'.touch := by
  cases event with
  | tick choice =>
    obtain ⟨-, htick⟩ := Option.ite_none_right_eq_some.1 hnext
    exact Option.some.inj htick ▸ .tick htarget choice
  | press => exact Option.some.inj hnext ▸ .written htarget _
  | release => exact Option.some.inj hnext ▸ .written htarget _
  | reboot =>
    obtain rfl := Option.some.inj hnext
    exact { Approached.refl htarget with aims := htarget }
  | data =>
    obtain ⟨line, hline, rfl⟩ := Option.map_eq_some_iff.1 hnext
    dsimp only
    rw [Esp32Touch.onData_of_none (hsteady line hline)]
    exact .refl htarget
  | read =>
    obtain ⟨cmd, -, rfl⟩ := Option.map_eq_some_iff.1 hnext
    exact .written htarget _
  | board event => exact Option.some.inj hnext ▸ .refl htarget
  | move x y => exact hsteady.elim
  | reset => exact hsteady.elim

theorem approached_of_run {target : ℚ × ℚ} {events : List Event}
    (hrun : (system.restrict Steady).Run s events s')
    (htarget : s.touch.targetPos = some target) :
    Approached target (events.countP Event.isTick) s.touch s'.touch := by
  induction hrun with
  | done s => exact .refl htarget
  | @more s t s' event events hst _ ih =>
    have hstep := approached_of_next hst.1 hst.2 htarget
    have hcount : (event :: events).countP Event.isTick =
        [event].countP Event.isTick + events.countP Event.isTick := by
      rw [← List.countP_append, List.singleton_append]
    exact hcount ▸ hstep.trans (ih hstep.aims)

/-- Whatever happened before and whatever is drawn, after enough ticks the code takes the pointer to
be as near to the target as its steps allow, and the worker sends nothing any more.  It is right
when the board is still connected after it has read what was written, and no line on its way tells
of another state. -/
theorem near_of_run {width height : ℚ} {history events : List Event} {target : ℚ × ℚ}
    (hrun : system.Run (create width height) history s)
    (htarget : s.touch.targetPos = some target)
    (hafter : (system.restrict Steady).Run s events s')
    (hticked : 0 < events.countP Event.isTick)
    (henough : s.touch.remaining target ≤ events.countP Event.isTick * SINGLE_STEP_SIZE) :
    (s'.Quiet → s'.settled.connected = true →
        ∃ pos, s'.settled.pointer = some pos ∧ s'.touch.Near target pos) ∧
      ∀ choice, s'.touch.tick choice = s'.touch := by
  have happroached := approached_of_run hafter htarget
  have htracked : s'.Tracked := tracked_of_run (hrun.append hafter.of_restrict)
  obtain ⟨pos, hpos⟩ := Option.isSome_iff_exists.1 (happroached.known (.inl hticked))
  have hposition : s'.touch.position = pos := by simp [Esp32Touch.position, hpos]
  have hnear : s'.touch.Near target pos := by
    obtain hnear | hcloser := happroached.closer
    · exact hposition ▸ hnear
    · have hleft : s'.touch.remaining target ≤ 0 := by linarith
      rw [Esp32Touch.remaining, hposition] at hleft
      have hx := abs_nonneg (s'.touch.diff target pos).1
      have hy := abs_nonneg (s'.touch.diff target pos).2
      constructor <;> norm_num [SINGLE_STEP_SIZE] <;> linarith
  refine ⟨fun hquiet hconnected => ⟨pos, htracked hquiet hconnected pos hpos, hnear⟩,
    fun choice => ?_⟩
  rw [Esp32Touch.tick_of_target happroached.aims, Esp32Touch.located_of_curpos hpos, hposition]
  obtain ⟨-, heq⟩ | ⟨command, hmem, -⟩ := s'.touch.approach_cases choice target pos
  · exact heq
  · exact absurd (commands_eq_nil_iff.2 hnear) (List.ne_nil_of_mem hmem)

/-- A phone has connected to the board, and the mouse is to go to a point of its screen of 100 by
200. -/
def headed : Esp32Port where
  touch := { (Esp32Touch.create 100 200).move 0.5 0.25 with
    state := some .connected, written := [] }
  board := { connected := true }

theorem run_headed :
    system.Run (create 100 200) [.read, .data, .board .named, .board .onConnect, .data, .data,
      .move 0.5 0.25] headed :=
  .more rfl (.more rfl (.more rfl (.more rfl (.more rfl (.more rfl (.more rfl (.done _)))))))

theorem run_ticks (hworking : s.touch.working = true) (choices : List ℕ) :
    (system.restrict Steady).Run s (choices.map .tick)
      { s with touch := choices.foldl Esp32Touch.tick s.touch } := by
  induction choices generalizing s with
  | nil => exact .done s
  | cons choice choices ih =>
    exact .more ⟨if_pos hworking, trivial⟩
      (ih (s := { s with touch := s.touch.tick choice })
        ((s.touch.tick_working choice).trans hworking))

theorem near_of_ticks_headed :
    ∃ pos, (headed.board.after
        ((List.replicate 14 0).foldl Esp32Touch.tick headed.touch).written).pointer = some pos ∧
      ((List.replicate 14 0).foldl Esp32Touch.tick headed.touch).Near (0.5, 0.25) pos :=
  (near_of_run run_headed rfl (run_ticks rfl (List.replicate 14 0)) (by decide)
    (by decide +kernel)).1 (fun _ h => absurd h List.not_mem_nil) (by decide +kernel)

end Esp32Port

end DeviceHub
