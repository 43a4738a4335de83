import Mathlib.Data.List.Basic
import Mathlib.Data.List.TakeWhile
import Mathlib.Data.Set.List

/-!
# `db/models`: the ports of ADB

A device gets the port after the highest one that any device has, if that port is in the range.

## Main definitions

* `AdbPort` : the field of a device, a number or a string with or without quotes.
* `getAllocatedAdbPorts`, `getLastAdbPort`, `isPortExclusive`, `getFreeAdbPort` : the functions.
* `FindsFreePort` : a free port of the range is found if there is one.
* `Allocatable` : the condition.

## Main results

* `allocated_spec` : the numbers of the ports that the devices have.
* `getFreeAdbPort_iff` : a free port is found exactly under the condition.
-/

namespace DeviceHub

/-- The field `adbPort` of a device. -/
inductive AdbPort where
  | undefined
  | number (n : Int)
  | string (s : String)
  deriving DecidableEq

namespace AdbPort

/-! ### Numbers -/

/-- `parseInt(s, 10)`; `none` is `NaN`, here and below. -/
def parseInt (s : List Char) : Option Int :=
  let number (s : List Char) : Option Nat :=
    let digits := s.takeWhile Char.isDigit
    if digits = [] then none else some (Nat.ofDigitChars 10 digits 0)
  match s.dropWhile Char.isWhitespace with
  | '-' :: s => (number s).map fun n => -(n : Int)
  | '+' :: s => (number s).map Int.ofNat
  | s => (number s).map Int.ofNat

/-- A quotation mark, single or double. -/
def isQuote (c : Char) : Bool := c.toNat = 34 || c.toNat = 39

/-- `s.replace(/["']/g, '')` -/
def unquote (s : String) : List Char := s.toList.filter fun c => !isQuote c

/-- Comparisons with `NaN` are false. -/
def lt (a b : Option Int) : Bool :=
  match a, b with
  | some a, some b => a < b
  | _, _ => false

/-- `a <= b`, which is false where one of the two is `NaN`. -/
def le (a b : Option Int) : Bool :=
  match a, b with
  | some a, some b => a ≤ b
  | _, _ => false

/-- `Math.max(...ports)`, where there are some. -/
def max (ports : List (Option Int)) : Option Int := (ports.mapM id).bind List.max?

/-! ### The functions -/

/-- The number, if the field is neither missing nor zero nor empty. -/
def toNumber : AdbPort → Option (Option Int)
  | .undefined => none
  | .number n => if n = 0 then none else some (some n)
  | .string s => if s = "" then none else some (parseInt (unquote s))

/-- `NaN` is sorted in where it stands. -/
def getAllocatedAdbPorts (devices : List AdbPort) : List (Option Int) :=
  (devices.filterMap toNumber).mergeSort fun a b => !lt b a

/-- The largest port in use, or zero when there is none. -/
def getLastAdbPort (devices : List AdbPort) : Option Int :=
  let ports := getAllocatedAdbPorts devices
  if ports = [] then some 0 else max ports

/-- `NaN` is not equal to itself, and a port that is found counts unless it is zero. -/
def isPortExclusive (devices : List AdbPort) (newPort : Option Int) : Bool :=
  !((getAllocatedAdbPorts devices).find? fun port => port.isSome && port = newPort).any
    fun port => port ≠ some 0

/-- The range of the ports. -/
def getAdbRange : String := "20000-29999"

/-- For a range that is written as `getAdbRange` writes it; `none` is `null`. -/
def getFreeAdbPort (adbRange : String) (devices : List AdbPort) : Option (Option Int) :=
  let parts := adbRange.toList.splitOn '-'
  let adbRangeStart := parts[0]?.bind parseInt
  let adbRangeEnd := parts[1]?.bind parseInt
  let lastPort := getLastAdbPort devices
  if lastPort = some 0 then some adbRangeStart
  else
    let freePort := lastPort.map (· + 1)
    if lt adbRangeEnd freePort || le freePort adbRangeStart then none
    else if isPortExclusive devices freePort then some freePort
    else none

/-! ### What the caller expects -/

/-- The field is the port `p`, as a number or as a string with or without quotes. -/
def Is (port : AdbPort) (p : Nat) : Prop :=
  0 < p ∧ (port = .number p ∨ ∃ s, port = .string s ∧ unquote s = (toString p).toList)

/-- The field is missing or is some port. -/
def IsPort (port : AdbPort) : Prop := port = .undefined ∨ ∃ p, port.Is p

/-- Some device has the port `p`. -/
def Allocated (devices : List AdbPort) (p : Nat) : Prop := ∃ port ∈ devices, port.Is p

/-- **A free port of the range** is found if there is one. -/
structure FindsFreePort (devices : List AdbPort) (first last : Nat)
    (result : Option (Option Int)) : Prop where
  free : ∀ port, result = some port →
    ∃ p : Nat, port = some (p : Int) ∧ first ≤ p ∧ p ≤ last ∧ ¬ Allocated devices p
  null : result = none ↔ ∀ p, first ≤ p → p ≤ last → Allocated devices p

/-- **The condition**: no device has a port, or the highest port is in the range and not the last of
it, or the whole range is allocated. -/
def Allocatable (devices : List AdbPort) (first last : Nat) : Prop :=
  (∀ p, ¬ Allocated devices p) ∨
    (∃ p, Allocated devices p ∧ (∀ q, Allocated devices q → q ≤ p) ∧ first ≤ p ∧ p < last) ∨
    ∀ p, first ≤ p → p ≤ last → Allocated devices p

/-! ### Reading numbers -/

theorem not_isDigit_of_isWhitespace {c : Char} (h : c.isDigit = true) : c.isWhitespace = false := by
  simp only [Char.isDigit, Bool.and_eq_true, decide_eq_true_eq] at h
  by_contra hspace
  simp only [Char.isWhitespace, Bool.not_eq_false, Bool.or_eq_true, decide_eq_true_eq] at hspace
  rcases hspace with ((rfl | rfl) | rfl) | rfl <;> exact absurd h.1 (by decide)

/-- A port is read back. -/
theorem parseInt_toString (p : Nat) : parseInt (toString p).toList = some (p : Int) := by
  have hlist : (toString p).toList = Nat.toDigits 10 p := Nat.toList_repr
  have hdigits : ∀ c ∈ Nat.toDigits 10 p, c.isDigit = true := fun c hc =>
    Nat.isDigit_of_mem_toDigits (by decide) (by decide) hc
  have hall : (Nat.toDigits 10 p).takeWhile Char.isDigit = Nat.toDigits 10 p :=
    List.takeWhile_eq_self_iff.2 hdigits
  obtain ⟨c, cs, hcons⟩ := List.exists_cons_of_ne_nil (Nat.toDigits_ne_nil (n := p) (b := 10))
  have hc : c.isDigit = true := hdigits c (by rw [hcons]; exact List.mem_cons_self)
  have hdrop : (Nat.toDigits 10 p).dropWhile Char.isWhitespace = Nat.toDigits 10 p := by
    rw [hcons, List.dropWhile_cons_of_neg]
    simp [not_isDigit_of_isWhitespace hc]
  unfold parseInt
  rw [hlist, hdrop]
  split
  · rename_i hminus
    obtain ⟨rfl, -⟩ := List.cons.inj (hcons.symm.trans hminus)
    exact absurd hc (by decide)
  · rename_i hplus
    obtain ⟨rfl, -⟩ := List.cons.inj (hcons.symm.trans hplus)
    exact absurd hc (by decide)
  · simp only [hall, Nat.toDigits_ne_nil, if_false, Option.map_some, Nat.ofDigitChars_ten_toDigits,
      Int.ofNat_eq_natCast]

theorem toString_ne_nil (p : Nat) : (toString p).toList ≠ [] := by
  rw [show (toString p).toList = Nat.toDigits 10 p from Nat.toList_repr]
  exact Nat.toDigits_ne_nil

theorem splitOn_range (first last : Nat) :
    (toString first ++ "-" ++ toString last).toList.splitOn '-' =
      [(toString first).toList, (toString last).toList] := by
  have hnot : ∀ p : Nat, '-' ∉ (toString p).toList := by
    intro p hmem
    rw [show (toString p).toList = Nat.toDigits 10 p from Nat.toList_repr] at hmem
    exact absurd (Nat.isDigit_of_mem_toDigits (by decide) (by decide) hmem) (by decide)
  rw [String.toList_append, String.toList_append, List.append_assoc]
  show ((toString first).toList ++ '-' :: (toString last).toList).splitOn '-' = _
  rw [List.splitOn_append_cons_of_beq _ _ (beq_self_eq_true '-'),
    List.splitOn_eq_singleton (hnot first),
    List.splitOn_eq_singleton (hnot last), List.singleton_append]

/-! ### The ports that devices have -/

theorem toNumber_of_is {port : AdbPort} {p : Nat} (h : port.Is p) :
    port.toNumber = some (some (p : Int)) := by
  obtain ⟨hp, rfl | ⟨s, rfl, hs⟩⟩ := h
  · exact if_neg (by omega)
  · have hne : s ≠ "" := by
      rintro rfl
      exact toString_ne_nil p hs.symm
    rw [toNumber, if_neg hne, hs, parseInt_toString]

/-- A port as the functions read it. -/
def ofPort (p : Nat) : Option Int := some (p : Int)

theorem ofPort_injective : Function.Injective ofPort := fun _ _ h =>
  Int.ofNat.inj (Option.some.inj h)

/-- **The numbers of the ports** that the devices have. -/
theorem allocated_spec {devices : List AdbPort} (hports : ∀ port ∈ devices, port.IsPort) :
    ∃ ports : List Nat, getAllocatedAdbPorts devices = ports.map ofPort ∧
      ∀ p, p ∈ ports ↔ Allocated devices p := by
  have hperm : (getAllocatedAdbPorts devices).Perm (devices.filterMap toNumber) :=
    List.mergeSort_perm _ _
  have hmem : ∀ n, n ∈ getAllocatedAdbPorts devices ↔ ∃ p, n = ofPort p ∧ Allocated devices p := by
    intro n
    rw [hperm.mem_iff, List.mem_filterMap]
    constructor
    · rintro ⟨port, hport, hn⟩
      rcases hports port hport with rfl | ⟨p, his⟩
      · cases hn
      · rw [toNumber_of_is his] at hn
        exact ⟨p, (Option.some.inj hn).symm, port, hport, his⟩
    · rintro ⟨p, rfl, port, hport, his⟩
      exact ⟨port, hport, toNumber_of_is his⟩
  have hrange : getAllocatedAdbPorts devices ∈ Set.range (List.map ofPort) := by
    rw [Set.range_list_map]
    intro n hn
    obtain ⟨p, rfl, -⟩ := (hmem n).1 hn
    exact ⟨p, rfl⟩
  obtain ⟨ports, heq⟩ := hrange
  refine ⟨ports, heq.symm, fun p => ?_⟩
  rw [← List.mem_map_of_injective ofPort_injective, heq, hmem]
  constructor
  · rintro ⟨q, hq, hall⟩
    obtain rfl := ofPort_injective hq
    exact hall
  · intro hall
    exact ⟨p, rfl, hall⟩

theorem pos_of_allocated {devices : List AdbPort} {p : Nat} (h : Allocated devices p) : 0 < p := by
  obtain ⟨_, -, his⟩ := h
  exact his.1

/-! ### The result -/

theorem max_map_ofPort (ports : List Nat) :
    max (ports.map ofPort) = (ports.map Int.ofNat).max? := by
  have hall : (ports.map ofPort).mapM id = some (ports.map Int.ofNat) := by
    induction ports with
    | nil => rfl
    | cons p ports ih =>
      rw [List.map_cons, List.mapM_cons, ih]
      rfl
  rw [max, hall]
  rfl

/-- The last port is the highest one, if any device has a port. -/
theorem getLastAdbPort_spec {devices : List AdbPort} (hports : ∀ port ∈ devices, port.IsPort) :
    getLastAdbPort devices = some 0 ∧ (∀ p, ¬ Allocated devices p) ∨
      ∃ p : Nat, getLastAdbPort devices = ofPort p ∧ Allocated devices p ∧
        ∀ q, Allocated devices q → q ≤ p := by
  obtain ⟨ports, heq, hmem⟩ := allocated_spec hports
  unfold getLastAdbPort
  rw [heq]
  by_cases hnil : ports = []
  · subst hnil
    exact .inl ⟨rfl, fun p hall => absurd ((hmem p).2 hall) List.not_mem_nil⟩
  · have hne : ports.map Int.ofNat ≠ [] := fun h => hnil (List.map_eq_nil_iff.1 h)
    obtain ⟨m, hm⟩ := Option.isSome_iff_exists.1 (List.isSome_max?_iff.2 hne)
    obtain ⟨hin, hhigh⟩ := List.max?_eq_some_iff.1 hm
    obtain ⟨p, hp, rfl⟩ := List.mem_map.1 hin
    refine .inr ⟨p, ?_, (hmem p).1 hp, fun q hall => ?_⟩
    · dsimp only
      rw [if_neg fun h => hnil (List.map_eq_nil_iff.1 h), max_map_ofPort, hm]
      rfl
    · exact Int.ofNat_le.1 (hhigh _ (List.mem_map_of_mem ((hmem q).2 hall)))

theorem isPortExclusive_of_not_allocated {devices : List AdbPort}
    (hports : ∀ port ∈ devices, port.IsPort) {p : Nat} (h : ¬ Allocated devices p) :
    isPortExclusive devices (ofPort p) = true := by
  obtain ⟨ports, heq, hmem⟩ := allocated_spec hports
  have hnone : (getAllocatedAdbPorts devices).find? (fun port => port.isSome && port = ofPort p) =
      none := by
    rw [List.find?_eq_none]
    intro n hn hsame
    rw [Bool.and_eq_true, decide_eq_true_eq] at hsame
    rw [heq, hsame.2, List.mem_map_of_injective ofPort_injective, hmem] at hn
    exact h hn
  rw [isPortExclusive, hnone]
  rfl

/-- The port after the highest one is taken, if it is in the range. -/
theorem getFreeAdbPort_of_highest {devices : List AdbPort} (hports : ∀ port ∈ devices, port.IsPort)
    {p : Nat} (hlast : getLastAdbPort devices = ofPort p) (hall : Allocated devices p)
    (hhigh : ∀ q, Allocated devices q → q ≤ p) (first last : Nat) :
    getFreeAdbPort (toString first ++ "-" ++ toString last) devices =
      if first ≤ p ∧ p < last then some (ofPort (p + 1)) else none := by
  have hpos := pos_of_allocated hall
  have hne : ofPort p ≠ some 0 := fun h => by
    have := Option.some.inj h
    omega
  have hfree : ¬ Allocated devices (p + 1) := fun h => Nat.not_succ_le_self p (hhigh _ h)
  have hnext : (ofPort p).map (· + 1) = ofPort (p + 1) := rfl
  have hout : (lt (some (last : Int)) (ofPort (p + 1)) || le (ofPort (p + 1)) (some (first : Int))) =
      true ↔ ¬ (first ≤ p ∧ p < last) := by
    simp only [lt, le, ofPort, Bool.or_eq_true, decide_eq_true_eq]
    omega
  unfold getFreeAdbPort
  rw [splitOn_range]
  simp only [List.getElem?_cons_zero, List.getElem?_cons_succ, Option.bind_some, parseInt_toString]
  rw [hlast, if_neg hne, hnext]
  by_cases hin : first ≤ p ∧ p < last
  · rw [if_neg fun h => hout.1 h hin, if_pos (isPortExclusive_of_not_allocated hports hfree),
      if_pos hin]
  · rw [if_pos (hout.2 hin), if_neg hin]

theorem getFreeAdbPort_of_zero {devices : List AdbPort} (hlast : getLastAdbPort devices = some 0)
    (first last : Nat) : getFreeAdbPort (toString first ++ "-" ++ toString last) devices =
      some (ofPort first) := by
  unfold getFreeAdbPort
  rw [splitOn_range]
  simp only [List.getElem?_cons_zero, List.getElem?_cons_succ, Option.bind_some, parseInt_toString]
  rw [hlast, if_pos rfl]
  rfl

/-- **A free port is found** exactly under the condition. -/
theorem getFreeAdbPort_iff {devices : List AdbPort} (hports : ∀ port ∈ devices, port.IsPort)
    {first last : Nat} (hrange : first ≤ last) :
    FindsFreePort devices first last
        (getFreeAdbPort (toString first ++ "-" ++ toString last) devices) ↔
      Allocatable devices first last := by
  rcases getLastAdbPort_spec hports with ⟨hzero, hnone⟩ | ⟨p, hlast, hall, hhigh⟩
  · rw [getFreeAdbPort_of_zero hzero]
    refine iff_of_true ⟨?_, ?_⟩ (.inl hnone)
    · rintro _ ⟨⟩
      exact ⟨first, rfl, Nat.le_refl _, hrange, hnone first⟩
    · exact iff_of_false nofun fun h => hnone first (h first (Nat.le_refl _) hrange)
  · rw [getFreeAdbPort_of_highest hports hlast hall hhigh]
    have hfree : ¬ Allocated devices (p + 1) := fun h => Nat.not_succ_le_self p (hhigh _ h)
    by_cases hin : first ≤ p ∧ p < last
    · rw [if_pos hin]
      refine iff_of_true ⟨?_, ?_⟩ (.inr (.inl ⟨p, hall, hhigh, hin⟩))
      · rintro _ ⟨⟩
        exact ⟨p + 1, rfl, by omega, by omega, hfree⟩
      · exact iff_of_false nofun fun h => hfree (h _ (by omega) (by omega))
    · rw [if_neg hin]
      constructor
      · intro h
        exact .inr (.inr (h.null.1 rfl))
      · rintro (hnone | ⟨q, hq, hqhigh, hqin⟩ | hfull)
        · exact absurd hall (hnone p)
        · obtain rfl : q = p := Nat.le_antisymm (hhigh q hq) (hqhigh p hall)
          exact absurd hqin hin
        · exact ⟨nofun, fun _ => hfull, fun _ => rfl⟩

/-- Two devices have ports, as a number and as a string with quotes. -/
theorem getFreeAdbPort_of_two :
    FindsFreePort [.number 20000, .undefined, .string "\"20001\""] 20000 29999
        (getFreeAdbPort getAdbRange [.number 20000, .undefined, .string "\"20001\""]) ↔
      Allocatable [.number 20000, .undefined, .string "\"20001\""] 20000 29999 := by
  refine getFreeAdbPort_iff ?_ (show 20000 ≤ 29999 by decide)
  intro port hport
  simp only [List.mem_cons, List.not_mem_nil, or_false] at hport
  rcases hport with rfl | rfl | rfl
  · exact .inr ⟨20000, by decide, .inl rfl⟩
  · exact .inl rfl
  · exact .inr ⟨20001, by decide, .inr ⟨_, rfl, by decide⟩⟩

/-- **The last port of the range** belongs to a device: no port is found, though all others are
free. -/
theorem not_findsFreePort_of_last :
    getFreeAdbPort getAdbRange [.number 29999] = none ∧
      ¬ FindsFreePort [.number 29999] 20000 29999 (getFreeAdbPort getAdbRange [.number 29999]) := by
  have honly : ∀ {p}, Allocated [.number 29999] p → p = 29999 := by
    rintro p ⟨port, hport, -, hp⟩
    obtain rfl := List.mem_singleton.1 hport
    rcases hp with hp | ⟨s, hs, -⟩
    · have := AdbPort.number.inj hp
      omega
    · cases hs
  have hports : ∀ port ∈ [AdbPort.number 29999], port.IsPort := by
    intro port hport
    obtain rfl := List.mem_singleton.1 hport
    exact .inr ⟨29999, by decide, .inl rfl⟩
  have hnone : getFreeAdbPort getAdbRange [.number 29999] = none := by
    rcases getLastAdbPort_spec hports with ⟨-, hno⟩ | ⟨p, hlast, hall, hhigh⟩
    · exact absurd ⟨.number 29999, List.mem_singleton_self _, by decide, .inl rfl⟩ (hno 29999)
    · obtain rfl := honly hall
      exact getFreeAdbPort_of_highest hports hlast hall hhigh 20000 29999
  refine ⟨hnone, fun h => ?_⟩
  have hfirst := honly (h.null.1 hnone 20000 (Nat.le_refl _) (by decide))
  omega

end AdbPort

end DeviceHub
