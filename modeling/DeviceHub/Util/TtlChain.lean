import DeviceHub.Util.TtlSet
import DeviceHub.Async.Lts
import Mathlib.Data.List.Perm.Subperm

/-!
# The items of a TTL set

The links of the items always run from the head to the tail through items that the set holds.  A
bump of a value that the set holds makes its item the only one in this list.  As long as no other
value is held at such a bump, the list has all items, in the order of their last bumps, and a check
leaves no value behind that is out of date.

## Main definitions

* `TTLSet.Linked` : what holds of the links in every state.
* `TTLSet.Intact` : the list has all items that the set holds.
* `TTLSet.Call`, `TTLSet.system` : the calls, in any order.

## Main results

* `TTLSet.expire_stops` : the loop of a check ends before its rounds do.
* `TTLSet.intact_of_run` : the list is intact in a run whose bumps meet the condition.
* `TTLSet.not_intact_of_bump` : a run in which an item gets lost.
-/

namespace DeviceHub

namespace TTLSet

/-- The members of `Object.prototype`.  `mapping` has them without their being set. -/
def inherited : List String :=
  ["constructor", "__proto__", "hasOwnProperty", "isPrototypeOf", "propertyIsEnumerable",
    "toString", "toLocaleString", "valueOf", "__defineGetter__", "__defineSetter__",
    "__lookupGetter__", "__lookupSetter__"]

/-- The links run through the items `l`, which the set holds. -/
structure Linked (s : TTLSet) (l : List Nat) : Prop where
  chains : s.links.Chains l
  inverse : s.links.Inverse
  stored : ∀ value item, s.mapping value = some item →
    (s.items item).value = value ∧ item < s.created
  mapped : ∀ item ∈ l, s.mapping (s.items item).value = some item
  fresh : ∀ item, s.created ≤ item → s.links.next item = none ∧ s.links.prev item = none

/-- The list has the items that the set holds, each once. -/
def Intact (s : TTLSet) : Prop :=
  ∃ l, s.links.Chains l ∧ ∀ item, item ∈ l ↔ ∃ value, s.mapping value = some item

/-- Every item of the set is in the list. -/
def Complete (s : TTLSet) (l : List Nat) : Prop :=
  ∀ value item, s.mapping value = some item → item ∈ l

theorem Linked.intact {s : TTLSet} {l : List Nat} (h : s.Linked l) (hcomplete : s.Complete l) :
    s.Intact :=
  ⟨l, h.chains, fun item => ⟨fun hitem => ⟨_, h.mapped item hitem⟩,
    fun ⟨value, hvalue⟩ => hcomplete value item hvalue⟩⟩

theorem linked_new (ttl : Int) : (new ttl).Linked [] where
  chains := .nil rfl rfl
  inverse _ _ := ⟨(by rintro ⟨⟩), (by rintro ⟨⟩)⟩
  stored _ _ h := by cases h
  mapped _ h := by cases h
  fresh _ _ := ⟨rfl, rfl⟩

section

variable {s : TTLSet} {l : List Nat} {item : Nat} {flags : Nat} {value : String} {now time : Int}

theorem Linked.lt_created (h : s.Linked l) (hitem : item ∈ l) : item < s.created :=
  (h.stored _ _ (h.mapped item hitem)).2

theorem Linked.length_le (h : s.Linked l) : l.length ≤ s.created := by
  have hsub : l ⊆ List.range s.created := fun x hx => List.mem_range.2 (h.lt_created hx)
  have hle := (h.chains.nodup.subperm hsub).length_le
  rwa [List.length_range] at hle

/-! ### Removing an item -/

theorem Linked.chains_remove (h : s.Linked l) (item : Nat) :
    (s.remove item).links.Chains (l.erase item) := by
  rw [links_remove]
  by_cases hmem : item ∈ l
  · exact h.chains.unlink hmem
  · rw [List.erase_of_not_mem hmem]
    exact h.chains.unlink_of_notMem h.inverse hmem

theorem Linked.remove (h : s.Linked l) (item : Nat) : (s.remove item).Linked (l.erase item) := by
  have hsame : SameValues s (s.remove item) := sameValues_remove
  refine ⟨h.chains_remove item, ?_, fun value x hx => ?_, fun x hx => ?_, fun x hx => ?_⟩
  · rw [links_remove]
    exact h.inverse.unlink item
  · rw [hsame.mapping] at hx
    rw [hsame.value, hsame.created]
    exact h.stored value x hx
  · rw [hsame.mapping, hsame.value]
    exact h.mapped x (List.mem_of_mem_erase hx)
  · rw [hsame.created] at hx
    obtain ⟨hnext, hprev⟩ := h.fresh x hx
    rw [links_remove]
    have hback : s.links.prev item ≠ some x := fun he => by
      rw [(h.inverse x item).2 he] at hnext
      cases hnext
    have hforth : s.links.next item ≠ some x := fun he => by
      rw [(h.inverse item x).1 he] at hprev
      cases hprev
    simp [Links.unlink, hback, hforth, hnext, hprev]

/-- Dropping an item that the set holds. -/
theorem Linked.dropItem (h : s.Linked l) (hitem : s.mapping value = some item) :
    (s.dropItem item flags).Linked (l.erase item) := by
  have hsame : SameValues s (s.remove item) := sameValues_remove
  have hremove := h.remove item
  have hvalue : ((s.remove item).items item).value = value :=
    (hsame.value item).trans (h.stored value item hitem).1
  unfold TTLSet.dropItem
  dsimp only
  rw [hvalue]
  refine ⟨?_, ?_, fun v x hx => ?_, fun x hx => ?_, fun x hx => ?_⟩
  · rw [emit_links]
    exact hremove.chains
  · rw [emit_links]
    exact hremove.inverse
  · rw [emit_mapping] at hx
    rw [emit_items, emit_created]
    replace hx : Function.update (s.remove item).mapping value none v = some x := hx
    by_cases hv : v = value
    · rw [hv, Function.update_self] at hx
      cases hx
    · rw [Function.update_of_ne hv] at hx
      exact hremove.stored v x hx
  · rw [emit_mapping, emit_items]
    have hx' := hremove.mapped x hx
    show Function.update (s.remove item).mapping value none ((s.remove item).items x).value = _
    rw [Function.update_of_ne, hx']
    intro he
    rw [he, hsame.mapping, hitem] at hx'
    obtain rfl := Option.some.inj hx'
    exact h.chains.nodup.not_mem_erase hx
  · rw [emit_created] at hx
    rw [emit_links]
    exact hremove.fresh x hx

theorem mapping_dropItem (hvalue : (s.items item).value = value) :
    (s.dropItem item flags).mapping = Function.update s.mapping value none := by
  have hsame : SameValues s (s.remove item) := sameValues_remove
  unfold TTLSet.dropItem
  rw [emit_mapping, hsame.value, hvalue, hsame.mapping]

theorem time_dropItem (x : Nat) : ((s.dropItem item flags).items x).time = (s.items x).time := by
  unfold TTLSet.dropItem
  rw [emit_items]
  exact sameValues_remove.time x

theorem ttl_dropItem : (s.dropItem item flags).ttl = s.ttl := by
  unfold TTLSet.dropItem
  rw [emit_ttl]
  exact sameValues_remove.ttl

/-! ### The loop of a check -/

/-- What the loop leaves: the items from the first one that is not out of date. -/
structure Expired (now : Int) (s s' : TTLSet) (l l' : List Nat) : Prop where
  linked : s'.Linked l'
  suffix : l' <:+ l
  stopped : ∀ item ∈ l'.head?, now - (s'.items item).time ≤ s'.ttl
  mapping : ∀ value item, s'.mapping value = some item →
    s.mapping value = some item ∧ (item ∈ l → item ∈ l')
  time : ∀ item, (s'.items item).time = (s.items item).time
  ttl : s'.ttl = s.ttl

theorem Expired.refl (h : s.Linked l) (hstop : ∀ item ∈ l.head?, now - (s.items item).time ≤ s.ttl) :
    Expired now s s l l :=
  ⟨h, List.suffix_rfl, hstop, fun _ _ hv => ⟨hv, id⟩, fun _ => rfl, rfl⟩

/-- One round for each item of the list is enough. -/
theorem Linked.expire (now : Int) {fuel : Nat} (h : s.Linked l) (hfuel : l.length ≤ fuel) :
    ∃ l', Expired now s (expire now fuel s) l l' := by
  induction fuel generalizing s l with
  | zero =>
    obtain rfl := List.length_eq_zero_iff.1 (Nat.le_zero.1 hfuel)
    exact ⟨[], .refl h (by simp)⟩
  | succ fuel ih =>
    have hhead : s.head = l.head? := h.chains.head
    unfold TTLSet.expire
    cases l with
    | nil =>
      rw [hhead]
      exact ⟨[], .refl h (by simp)⟩
    | cons item l =>
      rw [hhead]
      show ∃ l', Expired now s (if now - (s.items item).time > s.ttl then _ else s) _ l'
      split
      · have hmapped := h.mapped item List.mem_cons_self
        have hdrop : (s.dropItem item 0).Linked ((item :: l).erase item) := h.dropItem hmapped
        rw [List.erase_cons_head] at hdrop
        obtain ⟨l', hl'⟩ := ih hdrop (Nat.le_of_succ_le_succ hfuel)
        refine ⟨l', hl'.linked, hl'.suffix.trans (List.suffix_cons item l), hl'.stopped,
          fun value x hx => ?_, fun x => (hl'.time x).trans (time_dropItem x),
          hl'.ttl.trans ttl_dropItem⟩
        obtain ⟨hx', hin⟩ := hl'.mapping value x hx
        rw [mapping_dropItem rfl] at hx'
        by_cases hv : value = (s.items item).value
        · rw [hv, Function.update_self] at hx'
          cases hx'
        · rw [Function.update_of_ne hv] at hx'
          refine ⟨hx', fun hmem => hin ?_⟩
          rcases List.mem_cons.1 hmem with rfl | hmem
          · exact absurd (h.stored value x hx').1.symm hv
          · exact hmem
      · rename_i hfresh
        refine ⟨item :: l, .refl h fun x hx => ?_⟩
        obtain rfl := Option.some.inj hx
        exact Int.not_lt.1 hfresh

theorem Linked.scheduleCheck (h : s.Linked l) : (s.scheduleCheck now).Linked l :=
  ⟨h.chains, h.inverse, h.stored, h.mapped, h.fresh⟩

/-- **The loop of a check ends before its rounds do**: the head is not out of date. -/
theorem expire_stops (h : s.Linked l) :
    ∀ item ∈ (s.check now).head, now - ((s.check now).items item).time ≤ s.ttl := by
  obtain ⟨l', hl'⟩ := h.expire now h.length_le
  intro item hitem
  have hhead : (s.check now).head = l'.head? := hl'.linked.chains.head
  rw [hhead] at hitem
  rw [← hl'.ttl]
  exact hl'.stopped item hitem

/-! ### Bumping a value -/

/-- Appending links the item to the previous one, or makes it the head. -/
theorem links_append : (s.append item time).links = { s.links with
    head := if s.links.prev item = none then some item else s.head
    tail := some item
    next := fun x => if s.links.prev item = some x then some item else s.links.next x } := by
  set s₁ : TTLSet := { s.assign item fun i => { i with time := time } with tail := some item } with hs₁
  have hlinks : s₁.links = { s.links with tail := some item } := by
    show { (s.assign item _).links with tail := some item } = _
    rw [links_assign]
    show Links.mk _ _ (Function.update s.links.next item (s.links.next item))
      (Function.update s.links.prev item (s.links.prev item)) = _
    rw [Function.update_eq_self, Function.update_eq_self]
  have hprev : (s₁.items item).prev = s.links.prev item :=
    congrFun (congrArg Links.prev hlinks) item
  unfold append
  show links (if (s₁.items item).prev.isSome then _ else _) = _
  rw [hprev]
  cases hp : s.links.prev item with
  | none =>
    show { s₁.links with head := some item } = _
    rw [hlinks]
    simp
  | some p =>
    rw [if_pos (show (some p).isSome from rfl), links_setNext, hlinks]
    simp [links]

theorem sameValues_append : SameValues (s.assign item fun i => { i with time := time })
    (s.append item time) := by
  unfold append
  extract_lets s₁ s₂
  have h₂ : SameValues s₁ s₂ := ⟨rfl, rfl, rfl, fun _ => rfl, fun _ => rfl⟩
  refine h₂.trans ?_
  split
  · exact sameValues_setNext
  · exact ⟨rfl, rfl, rfl, fun _ => rfl, fun _ => rfl⟩

theorem value_append (x : Nat) : ((s.append item time).items x).value = (s.items x).value := by
  rw [sameValues_append.value]
  by_cases hx : x = item
  · subst hx
    simp [assign]
  · simp [assign, hx]

theorem time_append (x : Nat) :
    ((s.append item time).items x).time = if x = item then time else (s.items x).time := by
  rw [sameValues_append.time]
  by_cases hx : x = item
  · subst hx
    simp [assign]
  · simp [assign, hx]

/-! ### A bump -/

theorem bump_of_some (hitem : s.mapping value = some item) : s.bump value time now flags =
    ((s.remove item).append item (stamp time now)).scheduleCheck now := by
  unfold bump bumped
  rw [hitem]

theorem bump_of_none (hnew : s.mapping value = none) : s.bump value time now flags =
    ((s.create value s.tail flags).2.append s.created (stamp time now)).scheduleCheck now := by
  unfold bump bumped
  rw [hnew]
  rfl

/-- The new item is put behind the others. -/
theorem links_append_create (hnext : s.links.next s.created = none)
    (htail : ∀ x, s.tail = some x → x ≠ s.created) :
    ((s.create value s.tail flags).2.append s.created time).links = s.links.push s.created := by
  set t := (s.create value s.tail flags).2 with ht
  have hitems : t.items = Function.update s.items s.created ⟨value, 0, s.tail, none⟩ := emit_items
  have hhead : t.head = s.head := emit_head
  have hlinks : t.links =
      { s.links with prev := fun x => if x = s.created then s.tail else s.links.prev x } := by
    have htail : t.tail = s.tail := congrArg Links.tail emit_links
    unfold links
    rw [hhead, htail, hitems]
    congr 1
    · funext x
      by_cases hx : x = s.created
      · rw [hx, Function.update_self]
        exact hnext.symm
      · rw [Function.update_of_ne hx]
    · funext x
      by_cases hx : x = s.created
      · rw [hx, Function.update_self, if_pos rfl]
      · rw [Function.update_of_ne hx, if_neg hx]
  have hself : t.links.prev s.created = s.tail := by
    rw [hlinks]
    exact if_pos rfl
  rw [links_append, hself, hhead, hlinks]
  unfold Links.push
  dsimp only
  congr 1
  funext x
  by_cases hx : x = s.created
  · rw [if_pos hx, if_neg fun he => htail x he hx, hx]
    exact hnext
  · rw [if_neg hx]
    rfl

theorem value_append_create (x : Nat) :
    (((s.create value s.tail flags).2.append s.created time).items x).value =
      if x = s.created then value else (s.items x).value := by
  rw [value_append, show (s.create value s.tail flags).2.items =
    Function.update s.items s.created ⟨value, 0, s.tail, none⟩ from emit_items]
  by_cases hx : x = s.created
  · rw [hx, Function.update_self, if_pos rfl]
  · rw [Function.update_of_ne hx, if_neg hx]

/-- A bump of a value that the set holds: the other items are no longer in the list. -/
theorem Linked.bump_held (h : s.Linked l) (hitem : s.mapping value = some item) :
    (s.bump value time now flags).Linked [item] := by
  rw [bump_of_some hitem]
  refine Linked.scheduleCheck ?_
  have hremove := h.remove item
  have hsame : SameValues s (s.remove item) := sameValues_remove
  set t := s.remove item with ht
  have hnext : t.links.next item = none := by
    rw [ht, links_remove]
    simp [Links.unlink]
  have hprev : t.links.prev item = none := by
    rw [ht, links_remove]
    simp [Links.unlink]
  have hlinks : (t.append item (stamp time now)).links =
      { t.links with head := some item, tail := some item } := by
    rw [links_append, hprev]
    simp
  refine ⟨⟨?_, ?_, List.nodup_singleton item, ?_⟩, ?_, fun v x hx => ?_, fun x hx => ?_,
    fun x hx => ?_⟩
  · rw [hlinks]
    rfl
  · rw [hlinks]
    rfl
  · rw [hlinks]
    exact ⟨hprev, hnext, trivial⟩
  · rw [hlinks]
    exact hremove.inverse
  · rw [sameValues_append.mapping] at hx
    rw [value_append, sameValues_append.created]
    exact hremove.stored v x hx
  · obtain rfl := List.mem_singleton.1 hx
    rw [sameValues_append.mapping, value_append, hsame.value, (h.stored value x hitem).1]
    exact (congrFun hsame.mapping value).trans hitem
  · rw [sameValues_append.created] at hx
    rw [hlinks]
    exact hremove.fresh x hx

/-- A bump of a value that the set does not hold: a new item behind the others. -/
theorem Linked.bump_new (h : s.Linked l) (hnew : s.mapping value = none) :
    (s.bump value time now flags).Linked (l ++ [s.created]) := by
  obtain ⟨hnext, hprev⟩ := h.fresh s.created (Nat.le_refl _)
  have hout : s.created ∉ l := fun hmem => Nat.lt_irrefl _ (h.lt_created hmem)
  rw [bump_of_none hnew]
  refine Linked.scheduleCheck ?_
  have htail : ∀ x, s.tail = some x → x ≠ s.created ∧ s.links.next x = none := by
    intro x hx
    refine ⟨fun he => hout (he ▸ ?_), h.chains.next_tail hx⟩
    exact List.mem_of_getLast? (h.chains.tail.symm.trans hx)
  -- the new item goes to the end of the chain
  have hpush : ((s.create value s.tail flags).2.append s.created (stamp time now)).links =
      s.links.push s.created := links_append_create hnext fun x hx => (htail x hx).1
  set t := (s.create value s.tail flags).2 with ht
  have hmapping : t.mapping = Function.update s.mapping value (some s.created) := emit_mapping
  have hcreated : t.created = s.created + 1 := emit_created
  -- only the new item has a new value
  have hvalue : ∀ x, ((t.append s.created (stamp time now)).items x).value =
      if x = s.created then value else (s.items x).value := value_append_create
  refine ⟨?_, ?_, fun v x hx => ?_, fun x hx => ?_, fun x hx => ?_⟩
  · rw [hpush]
    exact h.chains.push hout
  · rw [hpush]
    exact h.inverse.push hnext hprev htail
  · rw [sameValues_append.mapping] at hx
    replace hx : t.mapping v = some x := hx
    rw [hmapping] at hx
    rw [hvalue, sameValues_append.created, show (assign _ _ _).created = t.created from rfl, hcreated]
    by_cases hv : v = value
    · rw [hv, Function.update_self] at hx
      obtain rfl := Option.some.inj hx
      exact ⟨(if_pos rfl).trans hv.symm, Nat.lt_succ_self _⟩
    · rw [Function.update_of_ne hv] at hx
      obtain ⟨hx', hlt⟩ := h.stored v x hx
      exact ⟨(if_neg (Nat.ne_of_lt hlt)).trans hx', Nat.lt_succ_of_lt hlt⟩
  · rw [sameValues_append.mapping, hvalue]
    show t.mapping _ = some x
    rw [hmapping]
    rcases List.mem_append.1 hx with hx | hx
    · have hne : x ≠ s.created := fun he => hout (he ▸ hx)
      have hx' := h.mapped x hx
      rw [if_neg hne, Function.update_of_ne, hx']
      intro he
      rw [he, hnew] at hx'
      cases hx'
    · obtain rfl := List.mem_singleton.1 hx
      rw [if_pos rfl, Function.update_self]
  · rw [sameValues_append.created, show (assign _ _ _).created = t.created from rfl, hcreated] at hx
    obtain ⟨hnext', hprev'⟩ := h.fresh x (Nat.le_of_succ_le hx)
    have hne : x ≠ s.created := fun he => by omega
    have hnot : s.links.tail ≠ some x := fun he => by
      have hmem := List.mem_of_getLast? (h.chains.tail.symm.trans he)
      have hlt := h.lt_created hmem
      omega
    rw [hpush]
    simp [Links.push, hne, hnot, hnext', hprev']

end

/-! ### The calls -/

/-- A call of one of the methods.  A check runs when its timer is due. -/
inductive Call where
  | bump (value : String) (time now : Int) (flags : Nat)
  | drop (value : String) (flags : Nat)
  | check (now : Int)

namespace Call

/-- What a call does. -/
def apply (s : TTLSet) : Call → TTLSet
  | .bump value time now flags => s.bump value time now flags
  | .drop value flags => s.drop value flags
  | .check now => s.check now

/-- The time that a call brings. -/
def time : Call → Option Int
  | .bump _ time now _ => some (stamp time now)
  | .drop _ _ => none
  | .check now => some now

/-- The time that a call gives to a value. -/
def bumpOf (value : String) : Call → Option Int
  | .bump v time now _ => if v = value then some (stamp time now) else none
  | .drop _ _ => none
  | .check _ => none

/-- The call keeps the list: no other value is held when a held one is bumped. -/
def Keeps (s : TTLSet) : Call → Prop
  | .bump value _ _ _ => value ∉ inherited ∧
      ((s.mapping value).isSome → ∀ other, (s.mapping other).isSome → other = value)
  | .drop value _ => value ∉ inherited
  | .check _ => True

end Call

/-- The calls, in any order. -/
def system : Lts TTLSet Call where
  step s call s' := call.apply s = s'

/-- The calls come at times that do not decrease. -/
def Ordered (calls : List Call) : Prop := (calls.filterMap Call.time).Pairwise (· ≤ ·)

instance (calls : List Call) : Decidable (Ordered calls) :=
  inferInstanceAs (Decidable (List.Pairwise _ _))

/-- The time of the last bump of a value. -/
def lastBump (calls : List Call) (value : String) : Option Int :=
  (calls.filterMap (Call.bumpOf value)).getLast?

theorem lastBump_concat (calls : List Call) (call : Call) (value : String) :
    lastBump (calls ++ [call]) value = (call.bumpOf value).or (lastBump calls value) := by
  unfold lastBump
  rw [List.filterMap_append, List.getLast?_append]
  cases h : call.bumpOf value <;> simp [h]

theorem mem_times_of_lastBump {calls : List Call} {value : String} {t : Int}
    (h : lastBump calls value = some t) : t ∈ calls.filterMap Call.time := by
  obtain ⟨call, hcall, ht⟩ := List.mem_filterMap.1 (List.mem_of_getLast? h)
  refine List.mem_filterMap.2 ⟨call, hcall, ?_⟩
  cases call with
  | bump v time now flags =>
    simp only [Call.bumpOf] at ht
    split at ht
    · exact ht
    · cases ht
  | drop v flags => cases ht
  | check now => cases ht

theorem Ordered.le {calls : List Call} {call : Call} (h : Ordered (calls ++ [call])) {t u : Int}
    (ht : t ∈ calls.filterMap Call.time) (hu : call.time = some u) : t ≤ u := by
  unfold Ordered at h
  rw [List.filterMap_append, List.pairwise_append] at h
  refine h.2.2 t ht u ?_
  simp [hu]

/-- What holds after the calls: the list has all items, in the order of their last bumps. -/
structure Timed (calls : List Call) (s : TTLSet) (l : List Nat) : Prop where
  linked : s.Linked l
  complete : s.Complete l
  last : ∀ value item, s.mapping value = some item →
    lastBump calls value = some (s.items item).time
  sorted : l.Pairwise fun x y => (s.items x).time ≤ (s.items y).time

section

variable {calls : List Call} {s : TTLSet} {l : List Nat} {item : Nat} {flags : Nat}
  {value : String} {now time : Int}

theorem Timed.bump_held (h : Timed calls s l) (hitem : s.mapping value = some item)
    (honly : ∀ other, (s.mapping other).isSome → other = value) :
    Timed (calls ++ [.bump value time now flags]) (s.bump value time now flags) [item] := by
  have hbump : s.bump value time now flags = _ := bump_of_some hitem
  have hmapping : (s.bump value time now flags).mapping = s.mapping := by
    rw [hbump]
    exact sameValues_append.mapping.trans sameValues_remove.mapping
  have hstored : ∀ v x, (s.bump value time now flags).mapping v = some x →
      v = value ∧ x = item := by
    intro v x hx
    rw [hmapping] at hx
    have hv : v = value := honly v (by rw [hx]; rfl)
    rw [hv, hitem] at hx
    exact ⟨hv, (Option.some.inj hx).symm⟩
  refine ⟨h.linked.bump_held hitem, fun v x hx => ?_, fun v x hx => ?_,
    List.pairwise_singleton _ item⟩
  · exact List.mem_singleton.2 (hstored v x hx).2
  · obtain ⟨rfl, rfl⟩ := hstored v x hx
    have htime : ((s.bump v time now flags).items x).time = stamp time now := by
      rw [hbump]
      exact (time_append x).trans (if_pos rfl)
    rw [lastBump_concat, htime]
    simp [Call.bumpOf]

theorem Timed.bump_new (h : Timed calls s l) (hnew : s.mapping value = none)
    (htimes : Ordered (calls ++ [.bump value time now flags])) :
    Timed (calls ++ [.bump value time now flags]) (s.bump value time now flags)
      (l ++ [s.created]) := by
  have hbump : s.bump value time now flags = _ := bump_of_none hnew
  have hmapping : (s.bump value time now flags).mapping =
      Function.update s.mapping value (some s.created) := by
    rw [hbump]
    exact sameValues_append.mapping.trans emit_mapping
  -- only the new item has a new time
  have htime : ∀ x, ((s.bump value time now flags).items x).time =
      if x = s.created then stamp time now else (s.items x).time := by
    intro x
    have hitems : (s.create value s.tail flags).2.items =
        Function.update s.items s.created ⟨value, 0, s.tail, none⟩ := emit_items
    rw [hbump]
    refine (time_append x).trans ?_
    by_cases hx : x = s.created
    · rw [if_pos hx, if_pos hx]
    · rw [if_neg hx, if_neg hx, hitems, Function.update_of_ne hx]
  have hlt : ∀ x ∈ l, x ≠ s.created := fun x hx => Nat.ne_of_lt (h.linked.lt_created hx)
  refine ⟨h.linked.bump_new hnew, fun v x hx => ?_, fun v x hx => ?_, ?_⟩
  · rw [hmapping] at hx
    by_cases hv : v = value
    · rw [hv, Function.update_self] at hx
      exact List.mem_append_right _ (List.mem_singleton.2 (Option.some.inj hx).symm)
    · rw [Function.update_of_ne hv] at hx
      exact List.mem_append_left _ (h.complete v x hx)
  · rw [hmapping] at hx
    rw [lastBump_concat, htime]
    by_cases hv : v = value
    · rw [hv, Function.update_self] at hx
      rw [if_pos (Option.some.inj hx).symm, hv]
      simp [Call.bumpOf]
    · rw [Function.update_of_ne hv] at hx
      rw [if_neg (hlt x (h.complete v x hx)), ← h.last v x hx]
      simp [Call.bumpOf, Ne.symm hv]
  · rw [List.pairwise_append]
    refine ⟨h.sorted.imp_of_mem fun {x y} hx hy hle => ?_, List.pairwise_singleton _ _,
      fun x hx y hy => ?_⟩
    · rw [htime, htime, if_neg (hlt x hx), if_neg (hlt y hy)]
      exact hle
    · rw [htime, htime, if_neg (hlt x hx), if_pos (List.mem_singleton.1 hy)]
      exact htimes.le (mem_times_of_lastBump (h.last _ x (h.linked.mapped x hx))) rfl

theorem Timed.drop (h : Timed calls s l) :
    ∃ l', Timed (calls ++ [.drop value flags]) (s.drop value flags) l' := by
  have hlast : ∀ v, lastBump (calls ++ [.drop value flags]) v = lastBump calls v := fun v =>
    lastBump_concat calls _ v
  unfold TTLSet.drop
  cases hitem : s.mapping value with
  | none => exact ⟨l, h.linked, h.complete, fun v x hx => (hlast v).trans (h.last v x hx), h.sorted⟩
  | some item =>
    have hmapping : (s.dropItem item flags).mapping = Function.update s.mapping value none :=
      mapping_dropItem (h.linked.stored value item hitem).1
    refine ⟨l.erase item, h.linked.dropItem hitem, fun v x hx => ?_, fun v x hx => ?_, ?_⟩
    · rw [hmapping] at hx
      by_cases hv : v = value
      · rw [hv, Function.update_self] at hx
        cases hx
      · rw [Function.update_of_ne hv] at hx
        refine (List.mem_erase_of_ne ?_).2 (h.complete v x hx)
        rintro rfl
        exact hv ((h.linked.stored v x hx).1.symm.trans (h.linked.stored value x hitem).1)
    · rw [hmapping] at hx
      by_cases hv : v = value
      · rw [hv, Function.update_self] at hx
        cases hx
      · rw [Function.update_of_ne hv] at hx
        rw [hlast, h.last v x hx, time_dropItem]
    · simp only [time_dropItem]
      exact h.sorted.sublist List.erase_sublist

/-- A check drops exactly what is out of date. -/
theorem Timed.check (h : Timed calls s l) (now : Int) :
    ∃ l', Timed (calls ++ [.check now]) (s.check now) l' ∧
      ∀ item ∈ l', now - ((s.check now).items item).time ≤ s.ttl := by
  obtain ⟨l', hl'⟩ := h.linked.expire now h.linked.length_le
  have hsorted : l'.Pairwise fun x y =>
      ((s.check now).items x).time ≤ ((s.check now).items y).time := by
    refine (h.sorted.sublist hl'.suffix.sublist).imp fun hle => ?_
    show ((expire now s.created s).items _).time ≤ ((expire now s.created s).items _).time
    rw [hl'.time, hl'.time]
    exact hle
  refine ⟨l', ⟨hl'.linked.scheduleCheck, fun v x hx => ?_, fun v x hx => ?_, hsorted⟩, ?_⟩
  · obtain ⟨hx', hin⟩ := hl'.mapping v x hx
    exact hin (h.complete v x hx')
  · rw [lastBump_concat]
    exact (h.last v x (hl'.mapping v x hx).1).trans (congrArg some (hl'.time x).symm)
  · -- the first item is not out of date, and the others are not older
    intro item hitem
    cases l' with
    | nil => cases hitem
    | cons first l' =>
      have hfirst := hl'.stopped first rfl
      rw [hl'.ttl] at hfirst
      replace hfirst : now - ((s.check now).items first).time ≤ s.ttl := hfirst
      rcases List.mem_cons.1 hitem with rfl | hitem
      · exact hfirst
      · have hle := (List.pairwise_cons.1 hsorted).1 item hitem
        omega

theorem Timed.step {call : Call} (h : Timed calls s l) (htimes : Ordered (calls ++ [call]))
    (hkeeps : call.Keeps s) : ∃ l', Timed (calls ++ [call]) (call.apply s) l' := by
  cases call with
  | bump value time now flags =>
    cases hitem : s.mapping value with
    | none => exact ⟨_, h.bump_new hitem htimes⟩
    | some item => exact ⟨_, h.bump_held hitem (hkeeps.2 (by rw [hitem]; rfl))⟩
  | drop value flags => exact h.drop
  | check now =>
    obtain ⟨l', hl', -⟩ := h.check now
    exact ⟨l', hl'⟩

end

theorem timed_new (ttl : Int) : Timed [] (new ttl) [] :=
  ⟨linked_new ttl, fun _ _ h => (by cases h), fun _ _ h => (by cases h), .nil⟩

theorem Timed.run {before calls : List Call} {s s' : TTLSet} {l : List Nat}
    (h : Timed before s l) (htimes : Ordered (before ++ calls))
    (hrun : (system.restrict fun s call => call.Keeps s).Run s calls s') :
    ∃ l', Timed (before ++ calls) s' l' := by
  induction hrun generalizing before l with
  | done s =>
    rw [List.append_nil]
    exact ⟨l, h⟩
  | @more s t s' call calls hstep hrest ih =>
    obtain ⟨rfl, hkeeps⟩ := hstep
    have hassoc : before ++ call :: calls = before ++ [call] ++ calls := by simp
    rw [hassoc] at htimes ⊢
    have hfirst : Ordered (before ++ [call]) := by
      unfold Ordered at htimes ⊢
      rw [List.filterMap_append] at htimes
      exact (List.pairwise_append.1 htimes).1
    obtain ⟨l₁, hl₁⟩ := h.step hfirst hkeeps
    exact ih hl₁ htimes

theorem ttl_expire (now : Int) (fuel : Nat) (s : TTLSet) : (expire now fuel s).ttl = s.ttl := by
  induction fuel generalizing s with
  | zero => rfl
  | succ fuel ih =>
    unfold expire
    split
    · split
      · exact (ih _).trans ttl_dropItem
      · rfl
    · rfl

theorem ttl_apply (call : Call) (s : TTLSet) : (call.apply s).ttl = s.ttl := by
  cases call with
  | bump value time now flags =>
    show (s.bump value time now flags).ttl = s.ttl
    unfold bump bumped
    cases s.mapping value with
    | none => exact sameValues_append.ttl.trans emit_ttl
    | some item => exact sameValues_append.ttl.trans sameValues_remove.ttl
  | drop value flags =>
    show (s.drop value flags).ttl = s.ttl
    unfold drop
    cases s.mapping value with
    | none => rfl
    | some item => exact ttl_dropItem
  | check now => exact ttl_expire now s.created s

/-- **Nothing gets lost in a run whose bumps of held values find no other value held**, and a check
leaves no value behind that is out of date. -/
theorem intact_of_run {ttl : Int} {calls : List Call} {s : TTLSet} (htimes : Ordered calls)
    (hrun : (system.restrict fun s call => call.Keeps s).Run (new ttl) calls s) :
    s.Intact ∧ ∀ now value, ((s.check now).mapping value).isSome →
      ∃ t ∈ lastBump calls value, now - t ≤ ttl := by
  obtain ⟨l, hl⟩ := (timed_new ttl).run htimes hrun
  rw [List.nil_append] at hl
  refine ⟨hl.linked.intact hl.complete, fun now value hvalue => ?_⟩
  obtain ⟨l', hl', hfresh⟩ := hl.check now
  obtain ⟨item, hitem⟩ := Option.isSome_iff_exists.1 hvalue
  have hlast := hl'.last value item hitem
  rw [lastBump_concat] at hlast
  have httl : s.ttl = ttl := hrun.invariant (I := fun s => s.ttl = ttl) rfl
    fun t call t' ht hstep => by rw [← hstep.1, ttl_apply, ht]
  rw [← httl]
  exact ⟨_, hlast, hfresh item (hl'.complete value item hitem)⟩

/-- Two values, the second of which is bumped again when it is alone. -/
def bumpedAlone : List Call :=
  [.bump "a" 1000 1000 0, .bump "b" 2000 2000 SILENT, .drop "a" 0, .bump "b" 3000 3000 0]

theorem intact_of_run_alone : ∃ s,
    (system.restrict fun s call => call.Keeps s).Run (new 30000) bumpedAlone s ∧
      s.Intact ∧ (s.check 40000).mapping "b" = none := by
  have hrun : (system.restrict fun s call => call.Keeps s).Run (new 30000) bumpedAlone
      (bumpedAlone.foldl Call.apply (new 30000)) := by
    refine .more ⟨rfl, by decide, fun h => ?_⟩ (.more ⟨rfl, by decide, fun h => ?_⟩
      (.more ⟨rfl, show "a" ∉ inherited by decide⟩
        (.more ⟨rfl, by decide, fun _ other hother => ?_⟩ (.done _))))
    · cases h
    · exact absurd h (by decide)
    · replace hother : (Function.update (Function.update (Function.update (fun _ => none) "a"
        (some 0)) "b" (some 1)) "a" none other).isSome := hother
      by_contra hne
      by_cases ha : other = "a" <;> simp_all [Function.update]
  exact ⟨_, hrun, (intact_of_run (by decide) hrun).1, by decide +kernel⟩

/-- The calls that lose a value: "a" is bumped again while the set holds "b". -/
def bumpedTwice : List Call := [.bump "a" 1000 1000 0, .bump "b" 2000 2000 0, .bump "a" 3000 3000 0]

/-- The value "b" is not in the list, and stays in the set when it is out of date. -/
theorem not_intact_of_bump : Ordered bumpedTwice ∧
    ¬ (bumpedTwice.foldl Call.apply (new 30000)).Intact ∧
    ((bumpedTwice.foldl Call.apply (new 30000)).check 60000).mapping "b" = some 1 := by
  refine ⟨by decide, ?_, by decide +kernel⟩
  rintro ⟨l, hl, hall⟩
  have halone : (bumpedTwice.foldl Call.apply (new 30000)).links.Chains [0] :=
    ⟨by decide +kernel, by decide +kernel, by decide, by decide +kernel, by decide +kernel, trivial⟩
  obtain rfl := hl.unique halone
  have hmem := (hall 1).2 ⟨"b", by decide +kernel⟩
  exact absurd hmem (by decide)

end TTLSet

end DeviceHub
