import DeviceHub.Store.Links
import Mathlib.Logic.Function.Basic

/-!
# `util/ttlset.ts`

The set of values with a time to live that the reaper keeps of the devices that send heartbeats.
The objects of the class `TTLItem` are numbered in the order of their creation; `mapping` holds the
own properties of the object of that name.

## Main definitions

* `TTLItem`, `TTLSet` : the two classes.
* `TTLSet.bump`, `TTLSet.drop`, `TTLSet.check` : the operations.
* `TTLSet.links` : the links of the items.
-/

namespace DeviceHub

/-- An item of the list. -/
structure TTLItem where
  value : String
  time : Int
  prev : Option Nat
  next : Option Nat

/-- What the set emits. -/
inductive TTLEvent where
  | insert (value : String)
  | drop (value : String)
  deriving DecidableEq

/-- The set: the list of its items by age, the items by their values, the timer, and what was
emitted. -/
structure TTLSet where
  ttl : Int
  head : Option Nat
  tail : Option Nat
  mapping : String → Option Nat
  /-- The delay of the timer that is set. -/
  timer : Option Int
  /-- The objects, and how many of them there are. -/
  items : Nat → TTLItem
  created : Nat
  emitted : List TTLEvent

namespace TTLSet

/-- `TtlSet.SILENT` -/
def SILENT : Nat := 1

/-- `new TTLSet(ttl)`. -/
def new (ttl : Int) : TTLSet where
  ttl := ttl
  head := none
  tail := none
  mapping := fun _ => none
  timer := none
  items := fun _ => ⟨"", 0, none, none⟩
  created := 0
  emitted := []

/-- An assignment to fields of an item. -/
def assign (s : TTLSet) (item : Nat) (f : TTLItem → TTLItem) : TTLSet :=
  { s with items := Function.update s.items item (f (s.items item)) }

/-- An event is emitted, unless the flags keep it silent. -/
def emit (s : TTLSet) (flags : Nat) (event : TTLEvent) : TTLSet :=
  if flags &&& SILENT ≠ SILENT then { s with emitted := s.emitted ++ [event] } else s

/-- `_scheduleCheck` -/
def scheduleCheck (s : TTLSet) (now : Int) : TTLSet :=
  { s with timer := s.head.map fun head => max 0 (s.ttl - (now - (s.items head).time)) }

/-- The item and the set with it. -/
def create (s : TTLSet) (value : String) (prev : Option Nat) (flags : Nat) : Nat × TTLSet :=
  (s.created, emit { s with
    items := Function.update s.items s.created ⟨value, 0, prev, none⟩
    created := s.created + 1
    mapping := Function.update s.mapping value (some s.created) } flags (.insert value))

/-- `if (item) item.next = next`. -/
def setNext (s : TTLSet) (item next : Option Nat) : TTLSet :=
  item.elim s fun item => s.assign item fun i => { i with next := next }

/-- `if (item) item.prev = prev`. -/
def setPrev (s : TTLSet) (item prev : Option Nat) : TTLSet :=
  item.elim s fun item => s.assign item fun i => { i with prev := prev }

/-- `remove` for an item. -/
def remove (s : TTLSet) (item : Nat) : TTLSet :=
  let s := s.setNext (s.items item).prev (s.items item).next
  let s := s.setPrev (s.items item).next (s.items item).prev
  let s := if s.head = some item then { s with head := (s.items item).next } else s
  let s := if s.tail = some item then { s with tail := (s.items item).prev } else s
  s.assign item fun i => { i with prev := none, next := none }

/-- `_drop` for an item. -/
def dropItem (s : TTLSet) (item : Nat) (flags : Nat) : TTLSet :=
  let s := s.remove item
  let value := (s.items item).value
  emit { s with mapping := Function.update s.mapping value none } flags (.drop value)

/-- `drop` -/
def drop (s : TTLSet) (value : String) (flags : Nat) : TTLSet :=
  match s.mapping value with
  | some item => s.dropItem item flags
  | none => s

/-- `time || Date.now()`. -/
def stamp (time now : Int) : Int := if time = 0 then now else time

/-- The item of a bump: the one that the set holds, taken out of the list, or a new one. -/
def bumped (s : TTLSet) (value : String) (flags : Nat) : Nat × TTLSet :=
  match s.mapping value with
  | some item => (item, s.remove item)
  | none => s.create value s.tail flags

/-- The rest of a bump: the item becomes the tail. -/
def append (s : TTLSet) (item : Nat) (time : Int) : TTLSet :=
  let s := s.assign item fun i => { i with time := time }
  let s := { s with tail := some item }
  if (s.items item).prev.isSome then s.setNext (s.items item).prev (some item)
  else { s with head := some item }

/-- `bump` -/
def bump (s : TTLSet) (value : String) (time now : Int) (flags : Nat) : TTLSet :=
  let (item, s) := s.bumped value flags
  (s.append item (stamp time now)).scheduleCheck now

/-- The loop of `check`, of at most so many rounds. -/
def expire (now : Int) : Nat → TTLSet → TTLSet
  | 0, s => s
  | fuel + 1, s =>
    match s.head with
    | some item =>
      if now - (s.items item).time > s.ttl then expire now fuel (s.dropItem item 0) else s
    | none => s

/-- `_check` -/
def check (s : TTLSet) (now : Int) : TTLSet :=
  (expire now s.created s).scheduleCheck now

/-! ### The links -/

/-- The links of the items. -/
def links (s : TTLSet) : Links Nat where
  head := s.head
  tail := s.tail
  next item := (s.items item).next
  prev item := (s.items item).prev

section

variable {s : TTLSet} {item x : Nat} {flags : Nat} {value : String} {now time : Int}

@[simp] theorem emit_links {event : TTLEvent} : (s.emit flags event).links = s.links := by
  unfold emit
  split <;> rfl

@[simp] theorem emit_mapping {event : TTLEvent} : (s.emit flags event).mapping = s.mapping := by
  unfold emit
  split <;> rfl

@[simp] theorem emit_items {event : TTLEvent} : (s.emit flags event).items = s.items := by
  unfold emit
  split <;> rfl

@[simp] theorem emit_created {event : TTLEvent} : (s.emit flags event).created = s.created := by
  unfold emit
  split <;> rfl

@[simp] theorem emit_ttl {event : TTLEvent} : (s.emit flags event).ttl = s.ttl := by
  unfold emit
  split <;> rfl

@[simp] theorem emit_head {event : TTLEvent} : (s.emit flags event).head = s.head :=
  congrArg Links.head emit_links

/-- What `remove` leaves alone. -/
structure SameValues (s s' : TTLSet) : Prop where
  mapping : s'.mapping = s.mapping
  created : s'.created = s.created
  ttl : s'.ttl = s.ttl
  value : ∀ x, (s'.items x).value = (s.items x).value
  time : ∀ x, (s'.items x).time = (s.items x).time

theorem SameValues.refl (s : TTLSet) : SameValues s s :=
  ⟨rfl, rfl, rfl, fun _ => rfl, fun _ => rfl⟩

theorem SameValues.trans {s s' s'' : TTLSet} (h : SameValues s s') (h' : SameValues s' s'') :
    SameValues s s'' :=
  ⟨h'.mapping.trans h.mapping, h'.created.trans h.created, h'.ttl.trans h.ttl,
    fun x => (h'.value x).trans (h.value x), fun x => (h'.time x).trans (h.time x)⟩

theorem sameValues_assign {f : TTLItem → TTLItem} (hvalue : ∀ i, (f i).value = i.value)
    (htime : ∀ i, (f i).time = i.time) : SameValues s (s.assign item f) := by
  refine ⟨rfl, rfl, rfl, fun x => ?_, fun x => ?_⟩
  · by_cases hx : x = item
    · subst hx
      simp [assign, hvalue]
    · simp [assign, hx]
  · by_cases hx : x = item
    · subst hx
      simp [assign, htime]
    · simp [assign, hx]

theorem sameValues_setNext {target next : Option Nat} : SameValues s (s.setNext target next) := by
  cases target with
  | none => exact .refl s
  | some i =>
    exact sameValues_assign (f := fun i => { i with next := next }) (fun _ => rfl) fun _ => rfl

theorem sameValues_setPrev {target prev : Option Nat} : SameValues s (s.setPrev target prev) := by
  cases target with
  | none => exact .refl s
  | some i =>
    exact sameValues_assign (f := fun i => { i with prev := prev }) (fun _ => rfl) fun _ => rfl

theorem sameValues_remove : SameValues s (s.remove item) := by
  unfold remove
  extract_lets s₁ s₂ s₃ s₄
  have h₁ : SameValues s s₁ := sameValues_setNext
  have h₂ : SameValues s₁ s₂ := sameValues_setPrev
  have h₃ : SameValues s₂ s₃ := by
    show SameValues s₂ (if _ then _ else _)
    split <;> exact ⟨rfl, rfl, rfl, fun _ => rfl, fun _ => rfl⟩
  have h₄ : SameValues s₃ s₄ := by
    show SameValues s₃ (if _ then _ else _)
    split <;> exact ⟨rfl, rfl, rfl, fun _ => rfl, fun _ => rfl⟩
  exact (((h₁.trans h₂).trans h₃).trans h₄).trans (sameValues_assign (fun _ => rfl) fun _ => rfl)

theorem links_assign {f : TTLItem → TTLItem} : (s.assign item f).links =
    { s.links with
      next := Function.update s.links.next item (f (s.items item)).next
      prev := Function.update s.links.prev item (f (s.items item)).prev } := by
  unfold assign links
  congr 1
  · funext x
    by_cases hx : x = item
    · subst hx
      simp
    · simp [hx]
  · funext x
    by_cases hx : x = item
    · subst hx
      simp
    · simp [hx]

theorem links_setNext {target next : Option Nat} : (s.setNext target next).links =
    { s.links with next := fun x => if target = some x then next else s.links.next x } := by
  cases target with
  | none => rfl
  | some i =>
    unfold setNext assign links
    congr 1
    · funext x
      by_cases hx : x = i
      · subst hx
        simp
      · simp [hx, Ne.symm hx]
    · funext x
      by_cases hx : x = i
      · subst hx
        simp
      · simp [hx]

theorem links_setPrev {target prev : Option Nat} : (s.setPrev target prev).links =
    { s.links with prev := fun x => if target = some x then prev else s.links.prev x } := by
  cases target with
  | none => rfl
  | some i =>
    unfold setPrev assign links
    congr 1
    · funext x
      by_cases hx : x = i
      · subst hx
        simp
      · simp [hx]
    · funext x
      by_cases hx : x = i
      · subst hx
        simp
      · simp [hx, Ne.symm hx]

theorem links_setHead {c : Prop} [Decidable c] {head : Option Nat} :
    links (if c then { s with head := head } else s) =
      { s.links with head := if c then head else s.links.head } := by
  split <;> rfl

theorem links_setTail {c : Prop} [Decidable c] {tail : Option Nat} :
    links (if c then { s with tail := tail } else s) =
      { s.links with tail := if c then tail else s.links.tail } := by
  split <;> rfl

/-- `remove` takes the item out of the list. -/
theorem links_remove : (s.remove item).links = s.links.unlink item := by
  unfold remove
  extract_lets s₁ s₂ s₃ s₄
  -- the neighbours are linked to each other
  have h₁ : s₁.links = { s.links with
      next := fun x => if s.links.prev item = some x then s.links.next item else s.links.next x } :=
    links_setNext
  have hnext : s₁.links.next item = s.links.next item := by
    rw [h₁]
    exact ite_self _
  have hprev : s₁.links.prev item = s.links.prev item := by rw [h₁]
  have h₂ : s₂.links = { s₁.links with
      prev := fun x => if s₁.links.next item = some x then s₁.links.prev item
        else s₁.links.prev x } :=
    links_setPrev
  rw [hnext, hprev, h₁] at h₂
  have hnext₂ : s₂.links.next item = s.links.next item := by
    rw [h₂]
    exact ite_self _
  have hprev₂ : s₂.links.prev item = s.links.prev item := by
    rw [h₂]
    exact ite_self _
  -- then the ends, and last the item itself
  have h₃ : s₃.links = { s₂.links with
      head := if s₂.links.head = some item then s₂.links.next item else s₂.links.head } :=
    links_setHead
  have h₄ : s₄.links = { s₃.links with
      tail := if s₃.links.tail = some item then s₃.links.prev item else s₃.links.tail } :=
    links_setTail
  rw [hnext₂] at h₃
  rw [h₃, hprev₂, h₂] at h₄
  rw [links_assign, h₄]
  unfold Links.unlink
  dsimp only
  congr 1
  · funext x
    by_cases hx : x = item
    · rw [hx, Function.update_self, if_pos rfl]
    · rw [Function.update_of_ne hx, if_neg hx]
  · funext x
    by_cases hx : x = item
    · rw [hx, Function.update_self, if_pos rfl]
    · rw [Function.update_of_ne hx, if_neg hx]

end

end TTLSet

end DeviceHub
