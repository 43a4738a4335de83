import Mathlib.Data.List.Basic
import Mathlib.Data.List.Induction
import Mathlib.Data.Nat.Bitwise

/-!
# `plugins/vnc/util/pointertranslator.js`

The pointer events of a VNC client as touches.  An event with another button than the primary one is
ignored, and the next one is compared with the event before it.

## Main definitions

* `PointerTranslator`, `PointerTranslator.push` : the translator and its method.
* `Stroke` : a touch from the first contact to the last.
* `PointerTranslator.WellFormed` : the events that are emitted belong to strokes, one by one.

## Main results

* `PointerTranslator.Follows.push` : what is emitted follows the button.
* `PointerTranslator.wellFormed_pushAll` : the touches are well formed, and one is open exactly when
  the button was pressed last.
-/

namespace DeviceHub

/-- `P` is a coordinate. -/
structure PointerEvent (P : Type) where
  buttonMask : Nat
  xPosition : P
  yPosition : P
  deriving DecidableEq

/-- The primary button is pressed. -/
def PointerEvent.isPressed {P : Type} (event : PointerEvent P) : Bool := event.buttonMask &&& 1 ≠ 0

/-- What the translator emits. -/
inductive PointerTouch (P : Type) where
  | touchdown (contact : Nat) (x y : P)
  | touchmove (contact : Nat) (x y : P)
  | touchup (contact : Nat)
  | touchcommit
  deriving DecidableEq

/-- The translator, with the events that it has emitted. -/
structure PointerTranslator (P : Type) where
  previousEvent : Option (PointerEvent P)
  emitted : List (PointerTouch P)

namespace PointerTranslator

variable {P : Type}

/-- A new translator. -/
def new : PointerTranslator P := ⟨none, []⟩

/-- An event is emitted. -/
def emit (translator : PointerTranslator P) (touch : PointerTouch P) : PointerTranslator P :=
  { translator with emitted := translator.emitted ++ [touch] }

/-- The events of the two buttons: a bit is set where the button is pressed. -/
def push (translator : PointerTranslator P) (event : PointerEvent P) : PointerTranslator P :=
  if event.buttonMask &&& 0xFE ≠ 0 then translator
  else
    let translated :=
      match translator.previousEvent with
      | some previousEvent =>
        let buttonChanges := event.buttonMask ^^^ previousEvent.buttonMask
        if buttonChanges &&& 1 ≠ 0 then
          if event.buttonMask &&& 1 ≠ 0 then
            (translator.emit (.touchdown 1 event.xPosition event.yPosition)).emit .touchcommit
          else (translator.emit (.touchup 1)).emit .touchcommit
        else if event.buttonMask &&& 1 ≠ 0 then
          (translator.emit (.touchmove 1 event.xPosition event.yPosition)).emit .touchcommit
        else translator
      | none =>
        if event.buttonMask &&& 1 ≠ 0 then
          (translator.emit (.touchdown 1 event.xPosition event.yPosition)).emit .touchcommit
        else translator
    { translated with previousEvent := some event }

/-- The events are pushed to a new translator. -/
def pushAll (events : List (PointerEvent P)) : PointerTranslator P := events.foldl push new

/-! ### Strokes -/

/-- A touch: where it begins, and where it moves. -/
structure Stroke (P : Type) where
  down : P × P
  moves : List (P × P)

/-- The events while the stroke lasts. -/
def Stroke.held (stroke : Stroke P) : List (PointerTouch P) :=
  .touchdown 1 stroke.down.1 stroke.down.2 :: stroke.moves.map fun p => .touchmove 1 p.1 p.2

/-- All events of the stroke. -/
def Stroke.touches (stroke : Stroke P) : List (PointerTouch P) := stroke.held ++ [.touchup 1]

/-- Each event is followed by a commit. -/
def committed (touches : List (PointerTouch P)) : List (PointerTouch P) :=
  touches.flatMap fun touch => [touch, .touchcommit]

/-- **The events of strokes**, up to one of them, each with its commit. -/
def WellFormed (emitted : List (PointerTouch P)) : Prop :=
  ∃ (strokes : List (Stroke P)) (touches : List (PointerTouch P)),
    touches <+: strokes.flatMap Stroke.touches ∧ emitted = committed touches

/-- A `touchdown` that no `touchup` has followed. -/
def IsOpen (emitted : List (PointerTouch P)) : Prop :=
  ∃ before contact x y after, emitted = before ++ .touchdown contact x y :: after ∧
    ∀ contact, .touchup contact ∉ after

/-- The last event without another button has the primary button pressed. -/
def LastPressed (events : List (PointerEvent P)) : Prop :=
  ∃ event ∈ (events.filter fun event => event.buttonMask &&& 0xFE = 0).getLast?, event.isPressed

/-! ### What is emitted -/

/-- Complete strokes, and one that is held if there is one. -/
structure Drawn (held : Bool) (touches : List (PointerTouch P)) : Prop where
  idle : held = false → ∃ strokes : List (Stroke P), touches = strokes.flatMap Stroke.touches
  held : held = true → ∃ (strokes : List (Stroke P)) (stroke : Stroke P),
    touches = strokes.flatMap Stroke.touches ++ stroke.held

variable {touches : List (PointerTouch P)} {x y : P}

theorem Drawn.down (h : Drawn false touches) : Drawn true (touches ++ [.touchdown 1 x y]) := by
  obtain ⟨strokes, rfl⟩ := h.idle rfl
  exact ⟨nofun, fun _ => ⟨strokes, ⟨(x, y), []⟩, rfl⟩⟩

theorem Drawn.move (h : Drawn true touches) : Drawn true (touches ++ [.touchmove 1 x y]) := by
  obtain ⟨strokes, stroke, rfl⟩ := h.held rfl
  refine ⟨nofun, fun _ => ⟨strokes, ⟨stroke.down, stroke.moves ++ [(x, y)]⟩, ?_⟩⟩
  simp [Stroke.held]

theorem Drawn.up (h : Drawn true touches) : Drawn false (touches ++ [.touchup 1]) := by
  obtain ⟨strokes, stroke, rfl⟩ := h.held rfl
  refine ⟨fun _ => ⟨strokes ++ [stroke], ?_⟩, nofun⟩
  simp [Stroke.touches]

theorem Drawn.wellFormed {held : Bool} (h : Drawn held touches) : WellFormed (committed touches) := by
  cases held with
  | false =>
    obtain ⟨strokes, rfl⟩ := h.idle rfl
    exact ⟨strokes, _, List.prefix_rfl, rfl⟩
  | true =>
    obtain ⟨strokes, stroke, rfl⟩ := h.held rfl
    refine ⟨strokes ++ [stroke], _, ⟨[.touchup 1], ?_⟩, rfl⟩
    simp [Stroke.touches]

/-- The last event decides whether a touch is open. -/
theorem isOpen_concat (emitted : List (PointerTouch P)) (touch : PointerTouch P) :
    IsOpen (emitted ++ [touch]) ↔
      match touch with
      | .touchdown _ _ _ => True
      | .touchup _ => False
      | .touchmove _ _ _ | .touchcommit => IsOpen emitted := by
  have hsplit (before after : List (PointerTouch P)) (contact : Nat) (x y : P)
      (h : emitted ++ [touch] = before ++ .touchdown contact x y :: after) :
      after = [] ∧ touch = .touchdown contact x y ∨ ∃ after', after = after' ++ [touch] ∧
        emitted = before ++ .touchdown contact x y :: after' := by
    rcases List.eq_nil_or_concat' after with rfl | ⟨after', last, rfl⟩
    · exact .inl ⟨rfl, List.singleton_inj.1 (List.append_inj' h rfl).2⟩
    · rw [← List.cons_append, ← List.append_assoc] at h
      obtain ⟨hemitted, hlast⟩ := List.append_inj' h rfl
      obtain rfl := List.singleton_inj.1 hlast
      exact .inr ⟨after', rfl, hemitted⟩
  have hkept (hup : ∀ contact, touch ≠ .touchup contact) :
      IsOpen emitted → IsOpen (emitted ++ [touch]) := by
    rintro ⟨before, contact, x, y, after, rfl, hafter⟩
    refine ⟨before, contact, x, y, after ++ [touch], by simp, fun contact' hmem => ?_⟩
    rcases List.mem_append.1 hmem with hmem | hmem
    · exact hafter contact' hmem
    · exact hup contact' (List.mem_singleton.1 hmem).symm
  have hbefore (hdown : ∀ contact x y, touch ≠ .touchdown contact x y) :
      IsOpen (emitted ++ [touch]) → IsOpen emitted ∧ ∀ contact, touch ≠ .touchup contact := by
    rintro ⟨before, contact, x, y, after, h, hafter⟩
    rcases hsplit before after contact x y h with ⟨-, htouch⟩ | ⟨after', rfl, hemitted⟩
    · exact absurd htouch (hdown contact x y)
    · refine ⟨⟨before, contact, x, y, after', hemitted, fun contact' hmem =>
        hafter contact' (List.mem_append_left _ hmem)⟩, fun contact' htouch => ?_⟩
      exact hafter contact' (List.mem_append_right _ (List.mem_singleton.2 htouch.symm))
  cases touch with
  | touchdown contact x y => exact iff_of_true ⟨emitted, contact, x, y, [], rfl, by simp⟩ trivial
  | touchup contact => exact iff_of_false (fun h => (hbefore nofun h).2 contact rfl) id
  | touchmove contact x y => exact ⟨fun h => (hbefore nofun h).1, hkept nofun⟩
  | touchcommit => exact ⟨fun h => (hbefore nofun h).1, hkept nofun⟩

/-! ### The translator -/

/-- The button was pressed in the last event that was not ignored. -/
def isPressed (translator : PointerTranslator P) : Bool :=
  translator.previousEvent.any PointerEvent.isPressed

/-- The events for a change of the button, or a move. -/
def changes (wasPressed : Bool) (event : PointerEvent P) : List (PointerTouch P) :=
  match wasPressed, event.isPressed with
  | false, true => [.touchdown 1 event.xPosition event.yPosition]
  | true, true => [.touchmove 1 event.xPosition event.yPosition]
  | true, false => [.touchup 1]
  | false, false => []

theorem and_one_ne_zero_iff (event : PointerEvent P) :
    event.buttonMask &&& 1 ≠ 0 ↔ event.isPressed = true := by
  simp [PointerEvent.isPressed]

theorem xor_and_one_ne_zero_iff (event previousEvent : PointerEvent P) :
    (event.buttonMask ^^^ previousEvent.buttonMask) &&& 1 ≠ 0 ↔
      event.isPressed ≠ previousEvent.isPressed := by
  simp only [PointerEvent.isPressed, Nat.and_one_is_mod, Nat.xor_mod_two_eq]
  rcases Nat.mod_two_eq_zero_or_one event.buttonMask with h | h <;>
    rcases Nat.mod_two_eq_zero_or_one previousEvent.buttonMask with h' | h' <;>
      simp [Nat.add_mod, h, h']

theorem push_eq (translator : PointerTranslator P) (event : PointerEvent P) :
    translator.push event =
      if event.buttonMask &&& 0xFE ≠ 0 then translator
      else ⟨some event, translator.emitted ++ committed (changes translator.isPressed event)⟩ := by
  unfold push
  split
  · rfl
  · simp only [xor_and_one_ne_zero_iff, and_one_ne_zero_iff]
    cases hprevious : translator.previousEvent with
    | none =>
      cases hpressed : event.isPressed <;>
        simp [isPressed, changes, committed, emit, hprevious, hpressed]
    | some previousEvent =>
      cases hpressed : event.isPressed <;> cases hwas : previousEvent.isPressed <;>
        simp [isPressed, changes, committed, emit, hprevious, hpressed, hwas]

/-- What is emitted follows the primary button of the events that are not ignored. -/
structure Follows (events : List (PointerEvent P)) (translator : PointerTranslator P) : Prop where
  previousEvent : translator.previousEvent =
    (events.filter fun event => event.buttonMask &&& 0xFE = 0).getLast?
  touches : ∃ touches, translator.emitted = committed touches ∧ Drawn translator.isPressed touches
  isOpen : IsOpen translator.emitted ↔ translator.isPressed = true

theorem follows_new : (new : PointerTranslator P).Follows [] where
  previousEvent := rfl
  touches := ⟨[], rfl, fun _ => ⟨[], rfl⟩, nofun⟩
  isOpen := by
    refine iff_of_false ?_ nofun
    rintro ⟨before, contact, x, y, after, h, -⟩
    simp [new] at h

theorem Drawn.changes {translator : PointerTranslator P} (h : Drawn translator.isPressed touches)
    (event : PointerEvent P) :
    Drawn event.isPressed (touches ++ changes translator.isPressed event) := by
  cases hwas : translator.isPressed <;> cases hpressed : event.isPressed <;>
    simp only [PointerTranslator.changes, hpressed, List.append_nil] <;> rw [hwas] at h
  · exact h
  · exact h.down
  · exact h.up
  · exact h.move

theorem isOpen_changes {translator : PointerTranslator P}
    (h : IsOpen translator.emitted ↔ translator.isPressed = true) (event : PointerEvent P) :
    IsOpen (translator.emitted ++ committed (changes translator.isPressed event)) ↔
      event.isPressed = true := by
  have hcommit (touch : PointerTouch P) :
      IsOpen (translator.emitted ++ committed [touch]) ↔ IsOpen (translator.emitted ++ [touch]) := by
    rw [show committed [touch] = [touch] ++ [.touchcommit] from rfl, ← List.append_assoc]
    exact isOpen_concat _ .touchcommit
  cases hwas : translator.isPressed <;> cases hpressed : event.isPressed <;>
    simp only [changes, hpressed, hcommit, isOpen_concat] <;> simp [committed, h, hwas]

/-- **The translator follows the primary button** with each event. -/
theorem Follows.push {events : List (PointerEvent P)} {translator : PointerTranslator P}
    (h : translator.Follows events) (event : PointerEvent P) :
    (translator.push event).Follows (events ++ [event]) := by
  rw [push_eq]
  split
  · rename_i hother
    refine ⟨?_, h.touches, h.isOpen⟩
    rw [h.previousEvent, List.filter_append]
    simp [hother]
  · rename_i hprimary
    obtain ⟨touches, hemitted, hdrawn⟩ := h.touches
    constructor
    case previousEvent =>
      rw [List.filter_append]
      simp [not_ne_iff.1 hprimary]
    case touches =>
      refine ⟨touches ++ changes translator.isPressed event, ?_, hdrawn.changes event⟩
      rw [hemitted]
      simp [committed]
    case isOpen => exact isOpen_changes h.isOpen event

theorem follows_pushAll (events : List (PointerEvent P)) : (pushAll events).Follows events := by
  induction events using List.reverseRecOn with
  | nil => exact follows_new
  | append_singleton events event ih =>
    rw [pushAll, List.foldl_append]
    exact ih.push event

/-- **Pointer events become touches**: each is committed and belongs to a stroke of the contact 1, and
a touch is open exactly when the button was pressed in the last event that was not ignored. -/
theorem wellFormed_pushAll (events : List (PointerEvent P)) :
    WellFormed (pushAll events).emitted ∧
      (IsOpen (pushAll events).emitted ↔ LastPressed events) := by
  obtain ⟨hprevious, ⟨touches, hemitted, hdrawn⟩, hopen⟩ := follows_pushAll events
  constructor
  · rw [hemitted]
    exact hdrawn.wellFormed
  · rw [hopen, isPressed, hprevious, Option.any_eq_true]
    rfl

end PointerTranslator

end DeviceHub
