import DeviceHub.Async.Lts
import Mathlib.Data.List.Perm.Basic

/-!
# `services/touch-service/touch-service.ts`

The part of the user interface that turns the fingers on a screen into touch messages.  Each finger
has one of ten slots; the slots that are free form a stack.

## Main definitions

* `TouchService`, `TouchMessage` : the service and the messages that it sends.
* `TouchService.touchStartListener`, `touchMoveListener`, `touchEndListener` : the listeners.
* `Fingers`, `Fingers.events` : the fingers on the screen and the events they cause.
* `Fingers.SlotsKept` : every slot is free or belongs to a finger, and fingers go down and up.

## Main results

* `TouchService.LostZero` : the slot 0 is neither free nor assigned; the listeners keep this.
* `Fingers.slotsKept_iff` : the slots are in order until the first event, and never again.
-/

namespace DeviceHub

/-- A finger on the screen.  Its scaled position and its pressure are floating point numbers, which
nothing depends on. -/
structure Touch (P : Type) where
  identifier : Int
  point : P
  deriving DecidableEq

/-- What the service sends through the `DeviceControlStore`.  The contact of a move is
`slotted[identifier]`, which may be `undefined`. -/
inductive TouchMessage (P : Type)
  | gestureStart (seq : Int)
  | gestureStop (seq : Int)
  | touchDown (seq : Int) (contact : Nat) (point : P)
  | touchMove (seq : Int) (contact : Option Nat) (point : P)
  | touchUp (seq : Int) (contact : Nat)
  | touchCommit (seq : Int)
  | touchReset (seq : Int)
  deriving DecidableEq

/-- What the listeners read of the device. -/
structure TouchDevice where
  width : Nat
  height : Nat
  manufacturer : String

/-- The data of the device query, and whether there is a canvas. -/
structure Screen where
  device : Option TouchDevice
  canvasWrapper : Bool

/-- The device, if its display has a size and there is a canvas. -/
def Screen.known (screen : Screen) : Option TouchDevice :=
  screen.device.filter fun device =>
    device.width ≠ 0 && device.height ≠ 0 && screen.canvasWrapper

/-- `Ran out of multitouch slots`. -/
inductive TouchError
  | ranOutOfSlots
  deriving DecidableEq

/-- The service, with the messages that it has sent. -/
structure TouchService (P : Type) where
  seq : Int
  isTouching : Bool
  /-- The top of the stack is the last slot. -/
  slots : List Nat
  slotted : List (Int × Nat)
  /-- The messages that were sent. -/
  sent : List (TouchMessage P)

namespace TouchService

variable {P : Type}

/-- A new service. -/
def new : TouchService P where
  seq := -1
  isTouching := false
  slots := [9, 8, 7, 6, 5, 4, 3, 2, 1, 0]
  slotted := []
  sent := []

/-- `cycle` -/
def cycle : Int := 100

/-- `nextSeq` -/
def nextSeq (seq : Int) : Int := if seq + 1 ≥ cycle then 0 else seq + 1

/-- A message with the next sequence number is sent. -/
def send (s : TouchService P) (message : Int → TouchMessage P) : TouchService P :=
  { s with seq := nextSeq s.seq, sent := s.sent ++ [message (nextSeq s.seq)] }

/-- `startTouching` -/
def startTouching (s : TouchService P) : TouchService P := s.send .gestureStart

/-- `stopTouching` -/
def stopTouching (s : TouchService P) : TouchService P := s.send .gestureStop

/-- `slots.sort()`, which compares the numbers as strings. -/
def sort (slots : List Nat) : List Nat := slots.mergeSort fun a b => decide (toString a ≤ toString b)

/-- The reset after a `touchend` that was lost: all slots are free. -/
def reset (s : TouchService P) : TouchService P :=
  { s with slots := (sort (s.slots ++ s.slotted.map Prod.snd)).reverse, slotted := [] }.send
    .touchReset

/-- `this.slotted[identifier] = slot`. -/
def assign (s : TouchService P) (identifier : Int) (slot : Nat) : TouchService P :=
  { s with slotted := (identifier, slot) :: s.slotted.filter (·.1 ≠ identifier) }

/-- `delete this.slotted[identifier]`. -/
def unassign (s : TouchService P) (identifier : Int) : TouchService P :=
  { s with slotted := s.slotted.filter (·.1 ≠ identifier) }

/-- The loop of `touchStartListener` and what follows it.  `if (!slot) return` leaves the listener
without a slot, and with the slot 0. -/
def assignSlots (device : TouchDevice) : List (Touch P) → TouchService P → TouchService P
  | [], s => s.send .touchCommit
  | touch :: changedTouches, s =>
    match s.slots.getLast? with
    | none => s
    | some slot =>
      let s := { s with slots := s.slots.dropLast }
      if slot = 0 then s
      else
        let s := s.assign touch.identifier slot
        let s := if device.manufacturer ≠ "Apple" then
            s.send fun seq => .touchDown seq slot touch.point
          else s
        assignSlots device changedTouches s

/-- `touchStartListener` -/
def touchStartListener (screen : Screen) (touches changedTouches : List (Touch P))
    (s : TouchService P) : TouchService P × Option TouchError :=
  let s := { s with isTouching := true }
  match screen.known with
  | none => (s, none)
  | some device =>
    let s := if touches.length = changedTouches.length then s.startTouching else s
    let s := if s.slotted.any fun p => p.1 ∉ touches.map (·.identifier) then s.reset else s
    if s.slots = [] then (s, some .ranOutOfSlots)
    else (assignSlots device changedTouches s, none)

/-- `touchMoveListener` -/
def touchMoveListener (screen : Screen) (changedTouches : List (Touch P)) (s : TouchService P) :
    TouchService P :=
  if s.isTouching = false then s
  else match screen.known with
    | none => s
    | some _ =>
      (changedTouches.foldl (fun s touch =>
        s.send fun seq => .touchMove seq (s.slotted.lookup touch.identifier) touch.point) s).send
          .touchCommit

/-- One turn of the loop of `touchEndListener`, which also says whether a finger was found. -/
def liftFinger (s : TouchService P × Bool) (touch : Touch P) : TouchService P × Bool :=
  match s.1.slotted.lookup touch.identifier with
  | none => s
  | some slot =>
    let s := s.1.unassign touch.identifier
    ({ s with slots := s.slots ++ [slot] }.send fun seq => .touchUp seq slot, true)

/-- `touchEndListener` -/
def touchEndListener (touches changedTouches : List (Touch P)) (s : TouchService P) :
    TouchService P :=
  if s.isTouching = false then s
  else
    let (s, foundAny) := changedTouches.foldl liftFinger ({ s with isTouching := false }, false)
    if foundAny then
      let s := s.send .touchCommit
      if touches = [] then s.stopTouching else s
    else s

/-! ### A slot that is lost -/

/-- The slot 0 is neither free nor assigned. -/
structure LostZero (s : TouchService P) : Prop where
  slots : 0 ∉ s.slots
  slotted : ∀ p ∈ s.slotted, p.2 ≠ 0

namespace LostZero

variable {s : TouchService P}

theorem send (h : LostZero s) (message : Int → TouchMessage P) : LostZero (s.send message) :=
  ⟨h.slots, h.slotted⟩

theorem reset (h : LostZero s) : LostZero s.reset := by
  refine LostZero.send ⟨fun hmem => ?_, fun p hp => absurd hp List.not_mem_nil⟩ _
  simp only [sort, List.mem_reverse, List.mem_mergeSort, List.mem_append, List.mem_map] at hmem
  rcases hmem with hfree | ⟨p, hp, hzero⟩
  · exact h.slots hfree
  · exact h.slotted p hp hzero

theorem assignSlots (h : LostZero s) (device : TouchDevice) (changedTouches : List (Touch P)) :
    LostZero (assignSlots device changedTouches s) := by
  induction changedTouches generalizing s with
  | nil => exact h.send _
  | cons touch changedTouches ih =>
    rw [TouchService.assignSlots]
    split
    · exact h
    rename_i slot hslot
    have hrest : 0 ∉ s.slots.dropLast := fun hmem => h.slots (List.dropLast_subset _ hmem)
    dsimp only
    split
    · exact ⟨hrest, h.slotted⟩
    · rename_i hne
      have hassigned :
          LostZero (assign { s with slots := s.slots.dropLast } touch.identifier slot) := by
        refine ⟨hrest, fun p hp => ?_⟩
        rcases List.mem_cons.1 hp with rfl | hp
        · exact hne
        · exact h.slotted p (List.mem_filter.1 hp).1
      split
      · exact ih (hassigned.send _)
      · exact ih hassigned

theorem touchStartListener (h : LostZero s) (screen : Screen)
    (touches changedTouches : List (Touch P)) :
    LostZero (touchStartListener screen touches changedTouches s).1 := by
  have h₁ : LostZero { s with isTouching := true } := ⟨h.slots, h.slotted⟩
  unfold TouchService.touchStartListener
  dsimp only
  split
  · exact h₁
  rename_i device _
  set s₂ := if touches.length = changedTouches.length then
    TouchService.startTouching { s with isTouching := true } else { s with isTouching := true }
  have h₂ : LostZero s₂ := by
    unfold s₂
    split
    · exact h₁.send _
    · exact h₁
  set s₃ := if s₂.slotted.any (fun p => p.1 ∉ touches.map (·.identifier)) then s₂.reset else s₂
  have h₃ : LostZero s₃ := by
    unfold s₃
    split
    · exact h₂.reset
    · exact h₂
  split
  · exact h₃
  · exact h₃.assignSlots device changedTouches

theorem touchMoveListener (h : LostZero s) (screen : Screen) (changedTouches : List (Touch P)) :
    LostZero (touchMoveListener screen changedTouches s) := by
  unfold TouchService.touchMoveListener
  split
  · exact h
  split
  · exact h
  · refine LostZero.send ?_ _
    clear * - h
    induction changedTouches generalizing s with
    | nil => exact h
    | cons touch changedTouches ih => exact ih (h.send _)

theorem mem_of_lookup {l : List (Int × Nat)} {identifier : Int} {slot : Nat}
    (h : l.lookup identifier = some slot) : (identifier, slot) ∈ l := by
  obtain ⟨l₁, l₂, rfl, -⟩ := List.lookup_eq_some_iff.1 h
  simp

theorem liftFinger {s : TouchService P × Bool} (h : LostZero s.1) (touch : Touch P) :
    LostZero (liftFinger s touch).1 := by
  unfold TouchService.liftFinger
  split
  · exact h
  · rename_i slot hslot
    have hrest : ∀ p ∈ (s.1.unassign touch.identifier).slotted, p.2 ≠ 0 := fun p hp =>
      h.slotted p (List.mem_filter.1 hp).1
    refine ⟨fun hmem => ?_, hrest⟩
    rcases List.mem_append.1 hmem with hfree | hlast
    · exact h.slots hfree
    · exact h.slotted _ (mem_of_lookup hslot) (List.mem_singleton.1 hlast).symm

theorem touchEndListener (h : LostZero s) (touches changedTouches : List (Touch P)) :
    LostZero (touchEndListener touches changedTouches s) := by
  unfold TouchService.touchEndListener
  split
  · exact h
  have hlifted : ∀ s : TouchService P × Bool, LostZero s.1 →
      LostZero (changedTouches.foldl TouchService.liftFinger s).1 := by
    intro s hs
    induction changedTouches generalizing s with
    | nil => exact hs
    | cons touch changedTouches ih => exact ih _ (hs.liftFinger touch)
  have h₁ := hlifted ({ s with isTouching := false }, false) ⟨h.slots, h.slotted⟩
  dsimp only
  split
  · split
    · exact (h₁.send _).send _
    · exact h₁.send _
  · exact h₁

end LostZero

theorem lostZero_assignSlots {s : TouchService P} (hslots : s.slots = (new : TouchService P).slots)
    (hslotted : s.slotted = []) (device : TouchDevice) {changedTouches : List (Touch P)}
    (hchanged : changedTouches ≠ []) : LostZero (assignSlots device changedTouches s) := by
  obtain ⟨touch, rest, rfl⟩ := List.exists_cons_of_ne_nil hchanged
  have hassign : assignSlots device (touch :: rest) s =
      { s with slots := [9, 8, 7, 6, 5, 4, 3, 2, 1] } := by
    simp [assignSlots, hslots, new]
  have hzero : 0 ∉ [9, 8, 7, 6, 5, 4, 3, 2, 1] := by decide
  rw [hassign]
  exact ⟨hzero, fun p hp => absurd (hslotted ▸ hp) List.not_mem_nil⟩

theorem lostZero_new (screen : Screen) {device : TouchDevice} (hknown : screen.known = some device)
    {touches changedTouches : List (Touch P)} (hchanged : changedTouches ≠ []) :
    LostZero (touchStartListener screen touches changedTouches new).1 := by
  unfold touchStartListener
  rw [hknown]
  by_cases hlength : touches.length = changedTouches.length
  · simp only [if_pos hlength]
    exact lostZero_assignSlots (s := startTouching { new with isTouching := true }) rfl rfl device
      hchanged
  · simp only [if_neg hlength]
    exact lostZero_assignSlots (s := { new with isTouching := true }) rfl rfl device hchanged

end TouchService

/-! ### The fingers on the screen -/

/-- The touch events of the browser. -/
inductive TouchEvent (P : Type)
  | touchstart (touches changedTouches : List (Touch P))
  | touchmove (touches changedTouches : List (Touch P))
  | touchend (touches changedTouches : List (Touch P))

/-- A finger that ended: the slot that it had, and how many messages had been sent. -/
structure EndedFinger where
  slot : Option Nat
  sent : Nat

/-- The service, the identifiers of the fingers on the screen, and the fingers that ended. -/
structure Fingers (P : Type) where
  service : TouchService P
  onScreen : List Int
  ended : List EndedFinger

namespace Fingers

variable {P : Type}

/-- The identifiers of the touches. -/
def identifiers (touches : List (Touch P)) : List Int := touches.map (·.identifier)

/-- The event can happen: something changed, `touches` are the fingers on the screen after it, and
they are ten at most. -/
def Happens (onScreen : List Int) : TouchEvent P → Prop
  | .touchstart touches changedTouches => changedTouches ≠ [] ∧ (identifiers touches).Nodup ∧
      (identifiers touches).Perm (onScreen ++ identifiers changedTouches) ∧ touches.length ≤ 10
  | .touchmove touches changedTouches => changedTouches ≠ [] ∧
      (identifiers touches).Perm onScreen ∧ (identifiers changedTouches).Nodup ∧
      identifiers changedTouches ⊆ onScreen
  | .touchend touches changedTouches => changedTouches ≠ [] ∧
      (identifiers touches ++ identifiers changedTouches).Perm onScreen

instance (onScreen : List Int) (e : TouchEvent P) : Decidable (Happens onScreen e) := by
  cases e <;> unfold Happens <;> infer_instance

/-- The fingers that the event takes off the screen. -/
def endedFingers (s : TouchService P) (changedTouches : List (Touch P)) : List EndedFinger :=
  changedTouches.map fun touch => ⟨s.slotted.lookup touch.identifier, s.sent.length⟩

/-- What an event does. -/
def next (screen : Screen) (s : Fingers P) : TouchEvent P → Fingers P
  | .touchstart touches changedTouches => { s with
      service := (TouchService.touchStartListener screen touches changedTouches s.service).1
      onScreen := identifiers touches }
  | .touchmove touches changedTouches => { s with
      service := TouchService.touchMoveListener screen changedTouches s.service
      onScreen := identifiers touches }
  | .touchend touches changedTouches =>
    { service := TouchService.touchEndListener touches changedTouches s.service
      onScreen := identifiers touches
      ended := s.ended ++ endedFingers s.service changedTouches }

/-- The fingers on a screen and the service that listens to them. -/
def events (screen : Screen) : Lts (Fingers P) (TouchEvent P) where
  step s e s' := Happens s.onScreen e ∧ s' = next screen s e

/-- No finger is on the screen. -/
def start : Fingers P := ⟨TouchService.new, [], []⟩

/-- The last message that puts the contact down or lifts it puts it down. -/
def IsDown (contact : Nat) (sent : List (TouchMessage P)) : Prop :=
  ∃ before seq point after, sent = before ++ .touchDown seq contact point :: after ∧
    ∀ seq', .touchUp seq' contact ∉ after

/-- **The slots are in order**: each is free or assigned, once; the fingers on the screen have slots
that are down, and a finger that ended had its slot lifted. -/
structure SlotsKept (s : Fingers P) : Prop where
  slots : (s.service.slots ++ s.service.slotted.map Prod.snd).Perm (List.range 10)
  down : ∀ identifier ∈ s.onScreen, ∃ slot ∈ s.service.slotted.lookup identifier,
    IsDown slot s.service.sent
  lifted : ∀ finger ∈ s.ended, ∃ slot ∈ finger.slot,
    ∃ seq, .touchUp seq slot ∈ s.service.sent.drop finger.sent

theorem not_slotsKept_of_lostZero {s : Fingers P} (h : TouchService.LostZero s.service) :
    ¬ SlotsKept s := by
  intro hkept
  have hzero : 0 ∈ s.service.slots ++ s.service.slotted.map Prod.snd :=
    hkept.slots.mem_iff.2 (by decide)
  rcases List.mem_append.1 hzero with hfree | hassigned
  · exact h.slots hfree
  · obtain ⟨p, hp, hslot⟩ := List.mem_map.1 hassigned
    exact h.slotted p hp hslot

theorem slotsKept_start : SlotsKept (start : Fingers P) where
  slots := List.reverse_perm (List.range 10)
  down _ h := absurd h List.not_mem_nil
  lifted _ h := absurd h List.not_mem_nil

theorem lostZero_of_start {screen : Screen} {device : TouchDevice}
    (hknown : screen.known = some device) {e : TouchEvent P} {s : Fingers P}
    (hstep : (events screen).step start e s) : TouchService.LostZero s.service := by
  obtain ⟨hhappens, rfl⟩ := hstep
  cases e with
  | touchstart touches changedTouches => exact TouchService.lostZero_new screen hknown hhappens.1
  | touchmove touches changedTouches =>
    obtain ⟨hchanged, -, -, hsub⟩ := hhappens
    exact absurd (List.map_eq_nil_iff.1 (List.subset_nil.1 hsub)) hchanged
  | touchend touches changedTouches =>
    obtain ⟨hchanged, hperm⟩ := hhappens
    exact absurd (List.map_eq_nil_iff.1 (List.append_eq_nil_iff.1 hperm.eq_nil).2) hchanged

theorem lostZero_step {screen : Screen} {s s' : Fingers P} {e : TouchEvent P}
    (h : TouchService.LostZero s.service) (hstep : (events screen).step s e s') :
    TouchService.LostZero s'.service := by
  obtain ⟨-, rfl⟩ := hstep
  cases e with
  | touchstart touches changedTouches => exact h.touchStartListener screen touches changedTouches
  | touchmove touches changedTouches => exact h.touchMoveListener screen changedTouches
  | touchend touches changedTouches => exact h.touchEndListener touches changedTouches

/-- **The slots are in order** until the first event, and in no state after it. -/
theorem slotsKept_iff {screen : Screen} {device : TouchDevice} (hknown : screen.known = some device)
    {es : List (TouchEvent P)} {s : Fingers P} (hrun : (events screen).Run start es s) :
    SlotsKept s ↔ es = [] := by
  cases hrun with
  | done => exact ⟨fun _ => rfl, fun _ => slotsKept_start⟩
  | more hstep hrest =>
    refine ⟨fun hkept => absurd hkept ?_, nofun⟩
    exact not_slotsKept_of_lostZero
      (hrest.invariant (lostZero_of_start hknown hstep) fun _ _ _ => lostZero_step)

/-- A phone with a known screen. -/
def phone : Screen := ⟨some ⟨1080, 1920, "Google"⟩, true⟩

/-- One finger taps on the screen. -/
def tap : List (TouchEvent Unit) :=
  [.touchstart [⟨0, ()⟩] [⟨0, ()⟩], .touchend [] [⟨0, ()⟩]]

theorem run_tap : (events phone).Run start tap (tap.foldl (next phone) start) :=
  .more ⟨by decide, rfl⟩ (.more ⟨by decide, rfl⟩ (.done _))

theorem slotsKept_tap : SlotsKept (tap.foldl (next phone) start) ↔ tap = [] :=
  slotsKept_iff rfl run_tap

/-- **A tap with one finger** sends neither a touch down nor a touch up, and costs the slot 0. -/
theorem not_slotsKept_of_tap : (events phone).Run start tap (tap.foldl (next phone) start) ∧
    (tap.foldl (next phone) start).service.sent = [.gestureStart 0] ∧
    ¬ SlotsKept (tap.foldl (next phone) start) := by
  refine ⟨run_tap, by decide, not_slotsKept_of_lostZero ⟨by decide, by decide⟩⟩

end Fingers

end DeviceHub
