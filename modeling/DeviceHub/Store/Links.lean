import Mathlib.Data.List.Nodup

/-!
# Doubly linked lists

Cells that point to the next and to the previous one, with a head and a tail.  Such links *chain* a
list of cells when following them from the head visits that list and from the tail visits it
backwards.

## Main definitions

* `Links` : the head, the tail, and the neighbours of every cell.
* `Links.Segment` : a list of cells, each linked to the next one and back.
* `Links.Chains` : the whole list, from the head to the tail.
* `Links.Inverse` : every link forward has its link back, on the list or off it.
* `Links.unlink`, `Links.push` : the links after a cell is taken out, or put after the tail.

## Main results

* `Links.Chains.unlink`, `Links.Chains.push` : what the two operations do to the list.
* `Links.Chains.unique` : the links determine the list.
-/

namespace DeviceHub

/-- The links between the cells `ι`. -/
structure Links (ι : Type) where
  head : Option ι
  tail : Option ι
  next : ι → Option ι
  prev : ι → Option ι

namespace Links

variable {ι : Type}

/-- The cells `l` follow one another, the first one after `before` and `after` behind the last. -/
def Segment (L : Links ι) : Option ι → List ι → Option ι → Prop
  | _, [], _ => True
  | before, a :: l, after =>
    L.prev a = before ∧ L.next a = l.head?.or after ∧ L.Segment (some a) l after

/-- The links run through the cells `l`, each once, from the head to the tail. -/
structure Chains (L : Links ι) (l : List ι) : Prop where
  head : L.head = l.head?
  tail : L.tail = l.getLast?
  nodup : l.Nodup
  segment : L.Segment none l none

theorem Segment.congr {L L' : Links ι} {before after : Option ι} {l : List ι}
    (h : L.Segment before l after)
    (hsame : ∀ x ∈ l, L'.next x = L.next x ∧ L'.prev x = L.prev x) :
    L'.Segment before l after := by
  induction l generalizing before with
  | nil => trivial
  | cons a l ih =>
    obtain ⟨hprev, hnext, hrest⟩ := h
    obtain ⟨hnext', hprev'⟩ := hsame a List.mem_cons_self
    exact ⟨hprev'.trans hprev, hnext'.trans hnext,
      ih hrest fun x hx => hsame x (List.mem_cons_of_mem _ hx)⟩

theorem Segment.prev_eq {L : Links ι} {before after : Option ι} {l₁ l₂ : List ι} {a : ι}
    (h : L.Segment before (l₁ ++ a :: l₂) after) : L.prev a = l₁.getLast?.or before := by
  induction l₁ generalizing before with
  | nil => exact h.1
  | cons d l₁ ih =>
    rw [ih h.2.2]
    cases l₁ with
    | nil => rfl
    | cons c l₁ =>
      rw [List.getLast?_cons_cons]
      simp [List.getLast?_eq_some_getLast]

theorem Segment.next_eq {L : Links ι} {before after : Option ι} {l₁ l₂ : List ι} {a : ι}
    (h : L.Segment before (l₁ ++ a :: l₂) after) : L.next a = l₂.head?.or after := by
  induction l₁ generalizing before with
  | nil => exact h.2.1
  | cons d l₁ ih => exact ih h.2.2

theorem Segment.unique {L : Links ι} {before before' : Option ι} {l l' : List ι}
    (h : L.Segment before l none) (h' : L.Segment before' l' none) (hhead : l.head? = l'.head?) :
    l = l' := by
  induction l generalizing before before' l' with
  | nil => exact (List.head?_eq_none_iff.1 hhead.symm).symm
  | cons a l ih =>
    cases l' with
    | nil => simp at hhead
    | cons a' l' =>
      obtain rfl : a = a' := by simpa using hhead
      have hnext := h.2.1.symm.trans h'.2.1
      rw [Option.or_none, Option.or_none] at hnext
      rw [ih h.2.2 h'.2.2 hnext]

theorem Chains.unique {L : Links ι} {l l' : List ι} (h : L.Chains l) (h' : L.Chains l') : l = l' :=
  h.segment.unique h'.segment (h.head.symm.trans h'.head)

theorem Chains.next_mem {L : Links ι} {l : List ι} (h : L.Chains l) {x y : ι} (hx : x ∈ l)
    (hnext : L.next x = some y) : y ∈ l := by
  obtain ⟨l₁, l₂, rfl⟩ := List.append_of_mem hx
  rw [h.segment.next_eq, Option.or_none] at hnext
  exact List.mem_append_right _ (List.mem_cons_of_mem _ (List.mem_of_mem_head? hnext))

theorem Chains.prev_mem {L : Links ι} {l : List ι} (h : L.Chains l) {x y : ι} (hx : x ∈ l)
    (hprev : L.prev x = some y) : y ∈ l := by
  obtain ⟨l₁, l₂, rfl⟩ := List.append_of_mem hx
  rw [h.segment.prev_eq, Option.or_none] at hprev
  exact List.mem_append_left _ (List.mem_of_getLast? hprev)

theorem Chains.next_tail {L : Links ι} {l : List ι} (h : L.Chains l) {t : ι}
    (ht : L.tail = some t) : L.next t = none := by
  obtain ⟨l₁, rfl⟩ := List.getLast?_eq_some_iff.1 (h.tail.symm.trans ht)
  rw [h.segment.next_eq]
  rfl

/-- The links forward and back agree, also for cells off the list. -/
def Inverse (L : Links ι) : Prop := ∀ x y, L.next x = some y ↔ L.prev y = some x

theorem Chains.nil {L : Links ι} (hhead : L.head = none) (htail : L.tail = none) : L.Chains [] :=
  ⟨hhead, htail, List.nodup_nil, trivial⟩

variable [DecidableEq ι]

/-! ### Taking a cell out -/

/-- The neighbours of `a` are linked to each other. -/
def unlink (L : Links ι) (a : ι) : Links ι where
  head := if L.head = some a then L.next a else L.head
  tail := if L.tail = some a then L.prev a else L.tail
  next x := if x = a then none else if L.prev a = some x then L.next a else L.next x
  prev x := if x = a then none else if L.next a = some x then L.prev a else L.prev x

theorem Segment.unlink {L : Links ι} {before : Option ι} {l₁ l₂ : List ι} {a : ι}
    (h : L.Segment before (l₁ ++ a :: l₂) none) (hnodup : (l₁ ++ a :: l₂).Nodup)
    (hbefore : ∀ x ∈ l₁ ++ a :: l₂, before ≠ some x) :
    (L.unlink a).Segment before (l₁ ++ l₂) none := by
  have hnextA := h.next_eq
  have hprevA := h.prev_eq
  rw [Option.or_none] at hnextA
  induction l₁ generalizing before with
  | nil =>
    obtain ⟨-, hout⟩ := List.nodup_cons.1 hnodup
    have hrest := h.2.2
    cases l₂ with
    | nil => trivial
    | cons c l₂ =>
      obtain ⟨hprev, hnext, hrest⟩ := hrest
      have hne : c ≠ a := fun he => (List.nodup_cons.1 hnodup).1 (he ▸ List.mem_cons_self)
      -- the item is the first one: its neighbours are linked to each other
      have hfirst : L.next a = some c := hnextA
      have hback : L.prev a = before := hprevA
      have hother : ∀ x ∈ c :: l₂, before ≠ some x := fun x hx =>
        hbefore x (List.mem_cons_of_mem _ hx)
      refine ⟨?_, ?_, hrest.congr fun x hx => ?_⟩
      · simp [Links.unlink, hne, hfirst, hback]
      · simp [Links.unlink, hne, hback, hother c List.mem_cons_self, hnext]
      · have hxc : c ≠ x := fun he => (List.nodup_cons.1 hout).1 (he ▸ hx)
        have hxa : x ≠ a := fun he =>
          (List.nodup_cons.1 hnodup).1 (he ▸ List.mem_cons_of_mem _ hx)
        simp [Links.unlink, hxa, hfirst, hback, hxc, hother x (List.mem_cons_of_mem _ hx)]
  | cons d l₁ ih =>
    obtain ⟨hfresh, hnodup'⟩ := List.nodup_cons.1 hnodup
    obtain ⟨hprev, hnext, hrest⟩ := h
    -- the item comes later: the first one may be its neighbour
    have hda : d ≠ a := fun he => hfresh (he ▸ List.mem_append_right _ List.mem_cons_self)
    refine ⟨?_, ?_, ih hrest hnodup' (fun x hx he => ?_) hrest.prev_eq⟩
    · have hnot : L.next a ≠ some d := by
        rw [hnextA]
        intro he
        exact hfresh (List.mem_append_right _ (List.mem_cons_of_mem _ (List.mem_of_mem_head? he)))
      simp [Links.unlink, hda, hnot, hprev]
    · cases l₁ with
      | nil =>
        have hback : L.prev a = some d := hprevA
        simp [Links.unlink, hda, hback, hnextA]
      | cons f l₁ =>
        have hnot : L.prev a ≠ some d := by
          rw [hrest.prev_eq]
          intro he
          rw [List.getLast?_eq_some_getLast (List.cons_ne_nil f l₁), Option.some_or] at he
          refine hfresh (List.mem_append_left _ ?_)
          rw [← Option.some.inj he]
          exact List.getLast_mem _
        simpa [Links.unlink, hda, hnot] using hnext
    · rw [← Option.some.inj he] at hx
      exact hfresh hx

/-- Taking a cell out of the list. -/
theorem Chains.unlink {L : Links ι} {l : List ι} {a : ι} (h : L.Chains l) (ha : a ∈ l) :
    (L.unlink a).Chains (l.erase a) := by
  obtain ⟨l₁, l₂, rfl⟩ := List.append_of_mem ha
  have hnot : a ∉ l₁ := fun hmem =>
    List.disjoint_of_nodup_append h.nodup hmem List.mem_cons_self
  rw [List.erase_append_right _ hnot, List.erase_cons_head]
  have hnext := h.segment.next_eq
  have hprev := h.segment.prev_eq
  rw [Option.or_none] at hnext hprev
  refine ⟨?_, ?_, ?_, h.segment.unlink h.nodup fun _ _ => by simp⟩
  · show (if L.head = some a then L.next a else L.head) = _
    rw [h.head]
    cases l₁ with
    | nil => simpa using hnext
    | cons d l₁ =>
      have hda : d ≠ a := fun he => hnot (he ▸ List.mem_cons_self)
      simp [hda]
  · show (if L.tail = some a then L.prev a else L.tail) = _
    rw [h.tail, List.getLast?_append, List.getLast?_append]
    cases l₂ with
    | nil => simpa using hprev
    | cons c l₂ =>
      have hne : (c :: l₂).getLast? ≠ some a := by
        intro he
        exact (List.nodup_cons.1 (List.nodup_append.1 h.nodup).2.1).1 (List.mem_of_getLast? he)
      rw [List.getLast?_cons_cons, List.getLast?_eq_some_getLast (List.cons_ne_nil c l₂)] at *
      simp [hne]
  · exact h.nodup.sublist (List.Sublist.append_left (List.sublist_cons_self a l₂) l₁)

theorem Chains.unlink_of_notMem {L : Links ι} {l : List ι} {a : ι} (h : L.Chains l)
    (hinverse : L.Inverse) (ha : a ∉ l) : (L.unlink a).Chains l := by
  refine ⟨?_, ?_, h.nodup, h.segment.congr fun x hx => ?_⟩
  · have hne : L.head ≠ some a := fun he => ha (List.mem_of_mem_head? (h.head.symm.trans he))
    show (if L.head = some a then L.next a else L.head) = _
    rw [if_neg hne, h.head]
  · have hne : L.tail ≠ some a := fun he => ha (List.mem_of_getLast? (h.tail.symm.trans he))
    show (if L.tail = some a then L.prev a else L.tail) = _
    rw [if_neg hne, h.tail]
  · have hxa : x ≠ a := fun he => ha (he ▸ hx)
    have hprev : L.prev a ≠ some x := fun he => ha (h.next_mem hx ((hinverse x a).2 he))
    have hnext : L.next a ≠ some x := fun he => ha (h.prev_mem hx ((hinverse a x).1 he))
    simp [Links.unlink, hxa, hprev, hnext]

theorem Inverse.unlink {L : Links ι} (h : L.Inverse) (a : ι) : (L.unlink a).Inverse := by
  intro x y
  have hxy := h x y
  have hxa := h x a
  have hay := h a y
  have haa := h a a
  simp only [Links.unlink]
  grind

/-! ### Putting a cell after the tail -/

/-- The cell `a` is linked behind the tail. -/
def push (L : Links ι) (a : ι) : Links ι where
  head := if L.tail = none then some a else L.head
  tail := some a
  next x := if x = a then none else if L.tail = some x then some a else L.next x
  prev x := if x = a then L.tail else L.prev x

theorem Segment.push {L : Links ι} {before : Option ι} {l : List ι} {a : ι}
    (h : L.Segment before l none) (hnodup : l.Nodup) (ha : a ∉ l)
    (htail : L.tail = l.getLast?.or before) :
    (L.push a).Segment before (l ++ [a]) none := by
  induction l generalizing before with
  | nil => exact ⟨by simpa [Links.push] using htail, by simp [Links.push], trivial⟩
  | cons d l ih =>
    obtain ⟨hprev, hnext, hrest⟩ := h
    obtain ⟨hfresh, hnodup⟩ := List.nodup_cons.1 hnodup
    have hda : d ≠ a := fun he => ha (he ▸ List.mem_cons_self)
    refine ⟨by simp [Links.push, hda, hprev], ?_, ih hrest hnodup
      (fun hmem => ha (List.mem_cons_of_mem _ hmem)) ?_⟩
    · cases l with
      | nil =>
        have hlast : L.tail = some d := htail
        simp [Links.push, hda, hlast]
      | cons c l =>
        have hnot : L.tail ≠ some d := by
          rw [htail, List.getLast?_cons_cons, List.getLast?_eq_some_getLast (List.cons_ne_nil c l),
            Option.some_or]
          intro he
          exact hfresh (Option.some.inj he ▸ List.getLast_mem _)
        simpa [Links.push, hda, hnot] using hnext
    · cases l with
      | nil => exact htail
      | cons c l =>
        rw [htail, List.getLast?_cons_cons, List.getLast?_eq_some_getLast (List.cons_ne_nil c l)]
        rfl

theorem Chains.push {L : Links ι} {l : List ι} {a : ι} (h : L.Chains l) (ha : a ∉ l) :
    (L.push a).Chains (l ++ [a]) := by
  have hnodup : (l ++ [a]).Nodup := by
    rw [← List.concat_eq_append]
    exact h.nodup.concat ha
  refine ⟨?_, by simp [Links.push], hnodup, ?_⟩
  · show (if L.tail = none then some a else L.head) = _
    rw [h.tail, h.head]
    cases l with
    | nil => rfl
    | cons d l => simp
  · exact h.segment.push h.nodup ha (by rw [h.tail, Option.or_none])

theorem Inverse.push {L : Links ι} (h : L.Inverse) {a : ι} (hnext : L.next a = none)
    (hprev : L.prev a = none) (htail : ∀ t, L.tail = some t → t ≠ a ∧ L.next t = none) :
    (L.push a).Inverse := by
  intro x y
  have hxy := h x y
  have hxa := h x a
  have hay := h a y
  have htailx := htail x
  simp only [Links.push]
  grind

end Links

end DeviceHub
