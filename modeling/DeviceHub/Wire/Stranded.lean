import DeviceHub.Async.Lts
import DeviceHub.Wire.SeqQueue

/-!
# Stranded handlers

`waiting` counts the handlers that are in the slots of a `SeqQueue`, as long as no number is skipped.
A skip takes one off `waiting` and no handler out of its slot.

## Main definitions

* `SeqQueue.occupied` : the number of occupied slots.
* `SeqQueue.events` : starts, stops and pushes in any order, none of which hits an occupied slot.
* `SeqQueue.NothingStranded`, `SeqQueue.NothingSkipped` : the property of a state and the condition
  on a step.

## Main results

* `SeqQueue.consume_occupied` : the loop keeps `waiting` right exactly when it skips nothing.
* `SeqQueue.nothingStranded_iff` : nothing is stranded in exactly the runs in which nothing is
  skipped.
-/

namespace DeviceHub.SeqQueue

variable {α : Type}

/-! ### Occupied slots -/

/-- The handlers in the slots. -/
def pending (q : SeqQueue α) : List (SeqHandler α) := (List.range q.size).filterMap q.list

/-- The number of occupied slots. -/
def occupied (q : SeqQueue α) : Nat := q.pending.length

theorem occupied_le (q : SeqQueue α) : q.occupied ≤ q.size := by
  have hle := List.length_filterMap_le q.list (List.range q.size)
  rwa [List.length_range] at hle

/-- An element is taken out of its slot. -/
theorem perm_filterMap_update {β : Type} {l : List Nat} (hnodup : l.Nodup) {f : Nat → Option β}
    {i : Nat} (hi : i ∈ l) {b : β} (hb : f i = some b) :
    (l.filterMap f).Perm (b :: l.filterMap (Function.update f i none)) := by
  induction l with
  | nil => cases hi
  | cons j l ih =>
    obtain ⟨hj, hnodup⟩ := List.nodup_cons.1 hnodup
    by_cases hij : i = j
    · subst hij
      have hrest : l.filterMap (Function.update f i none) = l.filterMap f :=
        List.filterMap_congr fun k hk => Function.update_of_ne (ne_of_mem_of_not_mem hk hj) _ _
      rw [List.filterMap_cons_some hb, List.filterMap_cons_none (Function.update_self _ _ _), hrest]
    · have hrest := ih hnodup ((List.mem_cons.1 hi).resolve_left hij)
      have hsame : Function.update f i none j = f j := Function.update_of_ne (Ne.symm hij) _ _
      cases hf : f j with
      | none => rwa [List.filterMap_cons_none hf, List.filterMap_cons_none (hsame.trans hf)]
      | some c =>
        rw [List.filterMap_cons_some hf, List.filterMap_cons_some (hsame.trans hf)]
        exact (hrest.cons c).trans (.swap _ _ _)

theorem takeHandler_pending {q : SeqQueue α} {handler : SeqHandler α} (hsize : 0 < q.size)
    (hslot : q.list q.cursor = some handler) :
    q.pending.Perm (handler :: (q.takeHandler handler).pending) := by
  rw [pending, pending, takeHandler_size, takeHandler_list]
  exact perm_filterMap_update List.nodup_range (List.mem_range.2 (cursor_lt hsize)) hslot

/-- The queue with a handler in a slot, before it is consumed. -/
def stored (q : SeqQueue α) (seq : Nat) (handler : SeqHandler α) : SeqQueue α :=
  { q with list := Function.update q.list seq (some handler), waiting := q.waiting + 1 }

theorem stored_pending {q : SeqQueue α} {seq : Nat} (handler : SeqHandler α) (hseq : seq < q.size)
    (hfree : q.list seq = none) :
    (q.stored seq handler).pending.Perm (handler :: q.pending) := by
  have htake := perm_filterMap_update List.nodup_range (List.mem_range.2 hseq)
    (Function.update_self seq (some handler) q.list)
  rwa [Function.update_idem, ← hfree, Function.update_eq_self] at htake

/-! ### The loop -/

/-- The slot `j` places after the cursor. -/
def slot (q : SeqQueue α) (j : Nat) : Option (SeqHandler α) := q.list ((q.cursor + j) % q.size)

/-- Where the row of occupied slots at the cursor ends, too few handlers wait to skip a number. -/
def Gapless (q : SeqQueue α) : Prop :=
  ∀ j < q.waiting, (∀ i < j, q.slot i ≠ none) → q.slot j = none → q.waiting - j < q.maxWaiting

theorem slot_zero {q : SeqQueue α} (hsize : 0 < q.size) : q.slot 0 = q.list q.cursor := by
  rw [slot, Nat.add_zero, Nat.mod_eq_of_lt (cursor_lt hsize)]

theorem takeHandler_slot (q : SeqQueue α) (handler : SeqHandler α) {j : Nat} (hj : j + 1 < q.size) :
    (q.takeHandler handler).slot j = q.slot (j + 1) := by
  have hlt := cursor_lt (q := q) (by omega)
  have hcursor := cursor_succ (by omega) (takeHandler_size q handler) (takeHandler_lo q handler)
  have hne : (q.cursor + (j + 1)) % q.size ≠ q.cursor := by
    intro he
    have hmod : q.cursor + (j + 1) ≡ q.cursor + 0 [MOD q.size] := by
      rw [Nat.ModEq, he, Nat.add_zero, Nat.mod_eq_of_lt hlt]
    have hzero : (j + 1) % q.size = 0 % q.size := Nat.ModEq.add_left_cancel' _ hmod
    rw [Nat.mod_eq_of_lt hj, Nat.zero_mod] at hzero
    omega
  rw [slot, slot, takeHandler_list, takeHandler_size, hcursor, Nat.mod_add_mod,
    show q.cursor + 1 + j = q.cursor + (j + 1) by omega, Function.update_of_ne hne]

theorem takeHandler_gapless {q : SeqQueue α} {handler : SeqHandler α} (hle : q.waiting ≤ q.size)
    (hpos : 0 < q.waiting) (hslot : q.list q.cursor = some handler) :
    (q.takeHandler handler).Gapless ↔ q.Gapless := by
  have hzero : q.slot 0 ≠ none := by
    rw [slot_zero (by omega), hslot]
    exact Option.some_ne_none _
  unfold Gapless
  simp only [takeHandler_waiting, takeHandler_maxWaiting]
  constructor
  · intro h j hj hrow hend
    cases j with
    | zero => exact absurd hend hzero
    | succ j =>
      have hlast := h j (by omega)
        (fun i hi => by rw [takeHandler_slot q handler (by omega)]; exact hrow (i + 1) (by omega))
        (by rw [takeHandler_slot q handler (by omega)]; exact hend)
      omega
  · intro h j hj hrow hend
    rw [takeHandler_slot q handler (by omega)] at hend
    have hlast := h (j + 1) (by omega) (fun i hi => ?_) hend
    · omega
    cases i with
    | zero => exact hzero
    | succ i =>
      rw [← takeHandler_slot q handler (by omega)]
      exact hrow i (by omega)

@[simp] theorem skip_waiting (q : SeqQueue α) : q.skip.waiting = q.waiting - 1 := rfl

@[simp] theorem skip_occupied (q : SeqQueue α) : q.skip.occupied = q.occupied := rfl

/-- No handler gets lost in the loop. -/
theorem consume_perm {n : Nat} {q : SeqQueue α} (hn : q.waiting = n) (hle : q.waiting ≤ q.occupied) :
    ((consume n q).ran ++ (consume n q).pending).Perm (q.ran ++ q.pending) := by
  induction n generalizing q with
  | zero => exact .refl _
  | succ n ih =>
    have hsize : 0 < q.size := by
      have := q.occupied_le
      omega
    rw [consume_succ]
    split
    · rename_i handler hslot
      have htake := takeHandler_pending hsize hslot
      have hlen : q.occupied = (q.takeHandler handler).occupied + 1 := htake.length_eq
      refine (ih (by rw [takeHandler_waiting, hn, Nat.add_sub_cancel])
        (by rw [takeHandler_waiting]; omega)).trans ?_
      rw [takeHandler_ran, List.append_assoc]
      exact htake.symm.append_left _
    · split
      · exact ih (by rw [skip_waiting, hn, Nat.add_sub_cancel])
          (by rw [skip_waiting, skip_occupied]; omega)
      · exact .refl _

/-- **The loop keeps `waiting` right** exactly when it skips nothing; a number that it skips is not
made up for. -/
theorem consume_occupied {n : Nat} {q : SeqQueue α} (hn : q.waiting = n)
    (hle : q.waiting ≤ q.occupied) :
    q.occupied + (consume n q).waiting ≤ (consume n q).occupied + q.waiting ∧
      (q.occupied + (consume n q).waiting = (consume n q).occupied + q.waiting ↔ q.Gapless) := by
  induction n generalizing q with
  | zero =>
    refine ⟨Nat.le_refl _, fun _ j hj => ?_, fun _ => rfl⟩
    omega
  | succ n ih =>
    have hocc := q.occupied_le
    have hsize : 0 < q.size := by omega
    rw [consume_succ]
    split
    · rename_i handler hslot
      have hlen : q.occupied = (q.takeHandler handler).occupied + 1 :=
        (takeHandler_pending hsize hslot).length_eq
      have hrest := ih (q := q.takeHandler handler)
        (by rw [takeHandler_waiting, hn, Nat.add_sub_cancel]) (by rw [takeHandler_waiting]; omega)
      rw [takeHandler_waiting, takeHandler_gapless (by omega) (by omega) hslot] at hrest
      refine ⟨by omega, ?_⟩
      rw [← hrest.2]
      omega
    · rename_i hslot
      rw [← slot_zero hsize] at hslot
      split
      · rename_i hskip
        have hrest := (ih (q := q.skip) (by rw [skip_waiting, hn, Nat.add_sub_cancel])
          (by rw [skip_waiting, skip_occupied]; omega)).1
        rw [skip_waiting, skip_occupied] at hrest
        refine ⟨by omega, fun he => by omega, fun hgapless => ?_⟩
        have hfew := hgapless 0 (by omega) (fun i hi => by omega) hslot
        omega
      · rename_i hwait
        refine ⟨Nat.le_refl _, fun _ j _ hrow _ => ?_, fun _ => rfl⟩
        -- the row of occupied slots is empty
        cases j with
        | zero => omega
        | succ j => exact absurd hslot (hrow 0 (by omega))

/-! ### Runs -/

/-- What a queue receives. -/
inductive QueueEvent (α : Type)
  | start (seq : Nat)
  | push (seq : Nat) (handler : SeqHandler α)
  | stop

/-- A queue and the handlers that it has put into a slot. -/
structure Received (α : Type) where
  queue : SeqQueue α
  received : List (SeqHandler α)

/-- The events; a push to an occupied slot is none of them, and one beyond the last slot is
ignored. -/
def next (s : Received α) : QueueEvent α → Option (Received α)
  | .start seq => some { s with queue := s.queue.start seq }
  | .push seq handler =>
    if (s.queue.list seq).isSome then none
    else some {
      queue := s.queue.push seq handler
      received := if seq < s.queue.size then s.received ++ [handler] else s.received }
  | .stop => some { s with queue := s.queue.stop }

/-- The runs of the queue. -/
def events : Lts (Received α) (QueueEvent α) := .ofNext next

/-- A new queue. -/
def fresh (size maxWaiting : Nat) : Received α := ⟨new size maxWaiting, []⟩

/-- `waiting` is the number of occupied slots, and when it is 0 all handlers received were called. -/
def NothingStranded (s : Received α) : Prop :=
  s.queue.waiting = s.queue.occupied ∧ (s.queue.waiting = 0 → s.queue.ran.Perm s.received)

/-- The event does not make the queue skip a number. -/
def NothingSkipped (s : Received α) : QueueEvent α → Prop
  | .start seq => Gapless { s.queue with locked := false, lo := seq + 1 }
  | .push seq handler =>
    seq < s.queue.size → s.queue.locked = false → (s.queue.stored seq handler).Gapless
  | .stop => True

/-- The handlers received were called or are in their slots, of which `waiting` does not count too
many. -/
structure Accounted (s : Received α) : Prop where
  le : s.queue.waiting ≤ s.queue.occupied
  perm : (s.queue.ran ++ s.queue.pending).Perm s.received

theorem Accounted.iff_counted {s : Received α} (h : Accounted s) :
    NothingStranded s ↔ s.queue.waiting = s.queue.occupied := by
  refine ⟨fun hs => hs.1, fun heq => ⟨heq, fun hzero => ?_⟩⟩
  have hnone : s.queue.pending = [] := List.length_eq_zero_iff.1 (heq.symm.trans hzero)
  have hperm := h.perm
  rwa [hnone, List.append_nil] at hperm

theorem Accounted.maybeConsume {q : SeqQueue α} {received : List (SeqHandler α)}
    (h : Accounted ⟨q, received⟩) : Accounted ⟨q.maybeConsume, received⟩ := by
  obtain ⟨hle, hperm⟩ := h
  dsimp only at hle hperm
  unfold SeqQueue.maybeConsume
  split
  · exact ⟨hle, hperm⟩
  · have hcount := (consume_occupied rfl hle).1
    exact ⟨by dsimp only; omega, (consume_perm rfl hle).trans hperm⟩

theorem maybeConsume_iff {q : SeqQueue α} (h : q.waiting = q.occupied) :
    q.maybeConsume.waiting = q.maybeConsume.occupied ↔ (q.locked = false → q.Gapless) := by
  unfold SeqQueue.maybeConsume
  split
  · rename_i hlocked
    simp [h, hlocked]
  · rename_i hlocked
    rw [← (consume_occupied rfl h.le).2]
    simp only [hlocked, forall_const]
    omega

theorem push_eq {q : SeqQueue α} {seq : Nat} (handler : SeqHandler α) (hseq : seq < q.size) :
    q.push seq handler = (q.stored seq handler).maybeConsume := by
  rw [push, if_neg (by omega)]
  rfl

theorem Accounted.stored {s : Received α} (h : Accounted s) {seq : Nat} (handler : SeqHandler α)
    (hseq : seq < s.queue.size) (hfree : s.queue.list seq = none) :
    Accounted ⟨s.queue.stored seq handler, s.received ++ [handler]⟩ := by
  have hpending := stored_pending handler hseq hfree
  refine ⟨?_, ?_⟩
  · show s.queue.waiting + 1 ≤ (s.queue.stored seq handler).pending.length
    rw [hpending.length_eq, List.length_cons]
    exact Nat.add_le_add_right h.le 1
  · show (s.queue.ran ++ (s.queue.stored seq handler).pending).Perm _
    refine (hpending.append_left _).trans ?_
    exact List.perm_middle.trans ((h.perm.cons handler).trans (List.perm_append_singleton _ _).symm)

theorem stored_occupied {q : SeqQueue α} {seq : Nat} (handler : SeqHandler α) (hseq : seq < q.size)
    (hfree : q.list seq = none) : (q.stored seq handler).occupied = q.occupied + 1 :=
  (stored_pending handler hseq hfree).length_eq

/-- **What one event does**: nothing received gets lost, and nothing is stranded unless a number is
skipped. -/
theorem Accounted.next {s s' : Received α} {e : QueueEvent α} (h : Accounted s)
    (hstep : next s e = some s') :
    Accounted s' ∧ (NothingStranded s → (NothingStranded s' ↔ NothingSkipped s e)) := by
  cases e with
  | start seq =>
    obtain rfl := Option.some.inj hstep
    have h₀ : Accounted ⟨{ s.queue with locked := false, lo := seq + 1 }, s.received⟩ :=
      ⟨h.le, h.perm⟩
    have hnew : Accounted { s with queue := s.queue.start seq } := h₀.maybeConsume
    refine ⟨hnew, fun hs => ?_⟩
    rw [hnew.iff_counted, SeqQueue.start,
      maybeConsume_iff (q := { s.queue with locked := false, lo := seq + 1 }) hs.1]
    exact ⟨fun h => h rfl, fun h _ => h⟩
  | push seq handler =>
    simp only [SeqQueue.next] at hstep
    split at hstep
    · cases hstep
    rename_i hfree
    rw [Option.not_isSome_iff_eq_none] at hfree
    obtain rfl := Option.some.inj hstep
    by_cases hseq : seq < s.queue.size
    · simp only [if_pos hseq, push_eq handler hseq]
      have h₀ := h.stored handler hseq hfree
      refine ⟨h₀.maybeConsume, fun hs => ?_⟩
      have hcount : (s.queue.stored seq handler).waiting = (s.queue.stored seq handler).occupied := by
        rw [stored_occupied handler hseq hfree, ← hs.1]
        rfl
      rw [h₀.maybeConsume.iff_counted, maybeConsume_iff hcount]
      exact ⟨fun h _ => h, fun h => h hseq⟩
    · have hsame : s.queue.push seq handler = s.queue := if_pos (Nat.not_lt.1 hseq)
      simp only [if_neg hseq, hsame]
      exact ⟨h, fun hs => ⟨fun _ hlt => absurd hlt hseq, fun _ => hs⟩⟩
  | stop =>
    obtain rfl := Option.some.inj hstep
    exact ⟨⟨h.le, h.perm⟩, fun hs => ⟨fun _ => trivial, fun _ => hs⟩⟩

/-- **Nothing is stranded** in exactly the runs in which the queue never skips a number. -/
theorem nothingStranded_iff {size maxWaiting : Nat} {es : List (QueueEvent α)} {s : Received α} :
    events.Along NothingStranded (fresh size maxWaiting) es s ↔
      (events.restrict NothingSkipped).Run (fresh size maxWaiting) es s := by
  have hempty : (new size maxWaiting : SeqQueue α).pending = [] := by
    simp [pending, new]
  have hoccupied : (new size maxWaiting : SeqQueue α).occupied = 0 := by
    rw [occupied, hempty, List.length_nil]
  have hfresh : Accounted (fresh size maxWaiting : Received α) :=
    ⟨Nat.zero_le _, by show ([] ++ (new size maxWaiting).pending).Perm []; rw [hempty]; rfl⟩
  exact Lts.along_iff_restrict (I := Accounted) (fun s e s' hs hstep => (hs.next hstep).1)
    (fun s e s' hs hP hstep => (hs.next hstep).2 hP) hfresh
    (hfresh.iff_counted.2 hoccupied.symm)

/-- **The first event of a gesture gets lost**: with the fourth handler behind it the queue moves on
and calls three of them; the last one stays in its slot while `waiting` is 0. -/
theorem not_nothingStranded_of_lost : ∃ s, events.Run (fresh 100 4)
    [.start 0, .push 2 (.call "touchDown"), .push 3 (.call "touchCommit"), .push 4 (.call "touchUp"),
      .push 5 .stop] s ∧ s.queue.waiting = 0 ∧ s.queue.list 5 = some .stop ∧
    ¬ NothingStranded s := by
  obtain ⟨s, hrun, hs⟩ := Lts.exists_run_of_play (f := next) (G := fun _ _ => True)
    (fresh 100 4) [.start 0, .push 2 (.call "touchDown"), .push 3 (.call "touchCommit"),
      .push 4 (.call "touchUp"), .push 5 .stop]
    (fun s => s.queue.waiting = 0 && s.queue.list 5 = some .stop && s.queue.ran.length = 3 &&
      s.received.length = 4) (by decide)
  simp only [Bool.and_eq_true, decide_eq_true_eq] at hs
  obtain ⟨⟨⟨hwaiting, hslot⟩, hran⟩, hreceived⟩ := hs
  refine ⟨s, hrun.of_restrict, hwaiting, hslot, fun h => ?_⟩
  have hlen := (h.2 hwaiting).length_eq
  omega

end DeviceHub.SeqQueue
