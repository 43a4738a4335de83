import Mathlib.Data.List.Perm.Basic
import Mathlib.Data.List.Sort
import Mathlib.Data.Rat.Defs
import Mathlib.Algebra.Order.Field.Rat
import Mathlib.Algebra.BigOperators.Group.List.Basic
import Mathlib.Tactic.Linarith
import Mathlib.Tactic.Positivity

/-!
# `util/srv.ts`: the order of SRV records

The records are grouped by priority, and each group is shuffled by its weights: a random draw picks a
record, in proportion to the weights, and the others are shuffled after it.

## Main definitions

* `SrvRecord`, `Draw` : the records, and the values of `Math.random()`.
* `srv.groupByPriority`, `srv.pick`, `srv.shuffleWeighted`, `srv.sort` : the functions.
* `srv.Ordered` : a permutation of the records by priority.

## Main results

* `srv.pick_perm` : a shuffle keeps the records that have a weight, and loses the others.
* `srv.sort_ordered_iff` : nothing is lost exactly when every record has a weight.
-/

namespace DeviceHub

/-- A record of the name service. -/
structure SrvRecord where
  name : String
  port : Nat
  priority : Nat
  weight : Nat
  deriving DecidableEq

/-- A value of `Math.random()`. -/
structure Draw where
  value : ℚ
  nonneg : 0 ≤ value
  lt_one : value < 1

/-- The values of all calls of `Math.random()`, from the next one on. -/
abbrev Draws := Nat → Draw

namespace srv

/-- Records of one priority: the first and the others. -/
structure PriorityGroup where
  first : SrvRecord
  others : List SrvRecord

/-- The records of the group. -/
def PriorityGroup.records (g : PriorityGroup) : List SrvRecord := g.first :: g.others

/-- Another record of the same priority. -/
def PriorityGroup.push (g : PriorityGroup) (record : SrvRecord) : PriorityGroup :=
  { g with others := g.others ++ [record] }

/-- One step of the fold. -/
def addToGroups (acc : List PriorityGroup) (record : SrvRecord) : List PriorityGroup :=
  match acc.getLast? with
  | none => acc ++ [⟨record, []⟩]
  | some last =>
    if last.first.priority ≠ record.priority then acc ++ [⟨record, []⟩]
    else acc.dropLast ++ [last.push record]

/-- `sort` is stable. -/
def groupByPriority (records : List SrvRecord) : List PriorityGroup :=
  (records.mergeSort fun a b => a.priority ≤ b.priority).foldl addToGroups []

/-- The loop of `pick`: the first record at which the sum of the weights exceeds `rand`. -/
def pickIndex (rand : ℚ) : Nat → List SrvRecord → Option Nat
  | _, [] => none
  | counter, record :: records =>
    let counter := counter + record.weight
    if rand < counter then some 0 else (pickIndex rand counter records).map (· + 1)

theorem pickIndex_lt {rand : ℚ} {counter i : Nat} {records : List SrvRecord}
    (h : pickIndex rand counter records = some i) : i < records.length := by
  induction records generalizing counter i with
  | nil => cases h
  | cons record records ih =>
    simp only [pickIndex] at h
    split at h
    · obtain rfl := Option.some.inj h
      exact Nat.zero_lt_succ _
    · obtain ⟨j, hj, rfl⟩ := Option.map_eq_some_iff.1 h
      exact Nat.succ_lt_succ (ih hj)

/-- With the draws that are left. -/
def pick (records : List SrvRecord) (sum : Int) (draws : Draws) : List SrvRecord × Draws :=
  match h : pickIndex ((draws 0).value * sum) 0 records with
  | none => ([], fun n => draws (n + 1))
  | some i =>
    have hi := pickIndex_lt h
    let picked := records[i]
    let rest := pick (records.eraseIdx i) (sum - picked.weight) fun n => draws (n + 1)
    (picked :: rest.1, rest.2)
termination_by records.length
decreasing_by
  rw [List.length_eraseIdx_of_lt hi]
  omega

/-- `_.sumBy(records, 'weight')` -/
def sumByWeight (records : List SrvRecord) : Nat := (records.map SrvRecord.weight).sum

/-- `shuffleWeighted` -/
def shuffleWeighted (records : List SrvRecord) (draws : Draws) : List SrvRecord × Draws :=
  let sorted := records.mergeSort fun a b => b.weight ≤ a.weight
  pick sorted (sumByWeight sorted) draws

/-- `groups.flatMap(shuffleWeighted)` -/
def shuffleAll : List PriorityGroup → Draws → List SrvRecord
  | [], _ => []
  | group :: groups, draws =>
    let shuffled := shuffleWeighted group.records draws
    shuffled.1 ++ shuffleAll groups shuffled.2

/-- `sort` -/
def sort (records : List SrvRecord) (draws : Draws) : List SrvRecord :=
  shuffleAll (groupByPriority records) draws

/-- **A permutation of the records** in which the priorities do not decrease. -/
structure Ordered (records result : List SrvRecord) : Prop where
  perm : result.Perm records
  priorities : result.Pairwise fun a b => a.priority ≤ b.priority

/-! ### The groups -/

/-- All records of the groups, in their order. -/
def members (groups : List PriorityGroup) : List SrvRecord := groups.flatMap PriorityGroup.records

/-- Every group has one priority. -/
def Uniform (groups : List PriorityGroup) : Prop :=
  ∀ g ∈ groups, ∀ r ∈ g.others, r.priority = g.first.priority

theorem members_addToGroups (acc : List PriorityGroup) (record : SrvRecord) :
    members (addToGroups acc record) = members acc ++ [record] := by
  unfold addToGroups
  split
  · simp [members, PriorityGroup.records]
  · rename_i last hlast
    split
    · simp [members, PriorityGroup.records]
    · have hsplit : acc = acc.dropLast ++ [last] :=
        (List.dropLast_append_getLast? last hlast).symm
      conv_rhs => rw [hsplit]
      simp [members, PriorityGroup.records, PriorityGroup.push]

theorem Uniform.addToGroups {acc : List PriorityGroup} (h : Uniform acc) (record : SrvRecord) :
    Uniform (addToGroups acc record) := by
  have hnew : Uniform (acc ++ [⟨record, []⟩]) := by
    intro g hg r hr
    rcases List.mem_append.1 hg with hg | hg
    · exact h g hg r hr
    · obtain rfl := List.mem_singleton.1 hg
      cases hr
  unfold srv.addToGroups
  split
  · exact hnew
  · rename_i last hlast
    split
    · exact hnew
    · rename_i hsame
      intro g hg r hr
      rcases List.mem_append.1 hg with hg | hg
      · exact h g (List.dropLast_subset _ hg) r hr
      · obtain rfl := List.mem_singleton.1 hg
        rcases List.mem_append.1 hr with hr | hr
        · exact h last (List.mem_of_getLast? hlast) r hr
        · obtain rfl := List.mem_singleton.1 hr
          exact (not_not.1 hsame).symm

theorem members_foldl (records : List SrvRecord) (acc : List PriorityGroup) :
    members (records.foldl addToGroups acc) = members acc ++ records := by
  induction records generalizing acc with
  | nil => simp
  | cons record records ih =>
    rw [List.foldl_cons, ih, members_addToGroups, List.append_assoc, List.singleton_append]

theorem Uniform.foldl {acc : List PriorityGroup} (h : Uniform acc) (records : List SrvRecord) :
    Uniform (records.foldl srv.addToGroups acc) := by
  induction records generalizing acc with
  | nil => exact h
  | cons record records ih => exact ih (h.addToGroups record)

theorem members_groupByPriority (records : List SrvRecord) :
    members (groupByPriority records) =
      records.mergeSort fun a b => a.priority ≤ b.priority := by
  rw [groupByPriority, members_foldl]
  rfl

theorem uniform_groupByPriority (records : List SrvRecord) : Uniform (groupByPriority records) :=
  Uniform.foldl (fun g hg => by cases hg) _

theorem pairwise_members (records : List SrvRecord) :
    (members (groupByPriority records)).Pairwise fun a b => a.priority ≤ b.priority := by
  rw [members_groupByPriority]
  refine (List.pairwise_mergeSort (fun a b c hab hbc => ?_) (fun a b => ?_) records).imp
    of_decide_eq_true
  · exact decide_eq_true ((of_decide_eq_true hab).trans (of_decide_eq_true hbc))
  · simpa using Nat.le_total a.priority b.priority

/-! ### The shuffle -/

theorem sumByWeight_cons (record : SrvRecord) (records : List SrvRecord) :
    sumByWeight (record :: records) = record.weight + sumByWeight records := rfl

theorem sumByWeight_perm {l l' : List SrvRecord} (h : l.Perm l') :
    sumByWeight l = sumByWeight l' := (h.map _).sum_eq

/-- The records that have a weight. -/
def weighted (records : List SrvRecord) : List SrvRecord := records.filter (0 < ·.weight)

theorem weighted_eq_nil {records : List SrvRecord} :
    weighted records = [] ↔ sumByWeight records = 0 := by
  induction records with
  | nil => simp [weighted, sumByWeight]
  | cons record records ih =>
    rw [sumByWeight_cons, Nat.add_eq_zero_iff, ← ih]
    by_cases hzero : record.weight = 0 <;> simp [weighted, hzero, Nat.pos_of_ne_zero]

theorem le_of_pickIndex_eq_none {rand : ℚ} {counter : Nat} {records : List SrvRecord}
    (h : pickIndex rand counter records = none) (hrand : counter ≤ rand) :
    (counter + sumByWeight records : Nat) ≤ rand := by
  induction records generalizing counter with
  | nil => simpa [sumByWeight] using hrand
  | cons record records ih =>
    simp only [pickIndex] at h
    split at h
    · cases h
    · rename_i hnot
      rw [sumByWeight_cons, ← Nat.add_assoc]
      exact ih (Option.map_eq_none_iff.1 h) (not_lt.1 hnot)

/-- A record that is picked has a weight. -/
theorem weight_pos_of_pickIndex {rand : ℚ} {counter i : Nat} {records : List SrvRecord}
    (h : pickIndex rand counter records = some i) (hrand : counter ≤ rand) :
    ∃ hi : i < records.length, 0 < records[i].weight := by
  induction records generalizing counter i with
  | nil => cases h
  | cons record records ih =>
    simp only [pickIndex] at h
    split at h
    · rename_i hlt
      obtain rfl := Option.some.inj h
      refine ⟨Nat.zero_lt_succ _, ?_⟩
      have hpos : (counter : ℚ) < (counter + record.weight : Nat) := hrand.trans_lt hlt
      rw [Nat.cast_lt] at hpos
      rw [List.getElem_cons_zero]
      omega
    · rename_i hnot
      obtain ⟨j, hj, rfl⟩ := Option.map_eq_some_iff.1 h
      obtain ⟨hlt, hpos⟩ := ih hj (not_lt.1 hnot)
      exact ⟨Nat.succ_lt_succ hlt, hpos⟩

/-- **The shuffle** keeps the records that have a weight, and loses the others. -/
theorem pick_perm (records : List SrvRecord) (draws : Draws) :
    (pick records (sumByWeight records) draws).1.Perm (weighted records) := by
  induction hn : records.length generalizing records draws with
  | zero =>
    obtain rfl := List.length_eq_zero_iff.1 hn
    unfold pick
    exact .refl _
  | succ n ih =>
    have hnonneg : ((0 : Nat) : ℚ) ≤ (draws 0).value * ((sumByWeight records : Int) : ℚ) := by
      have hsum : (0 : ℚ) ≤ ((sumByWeight records : Int) : ℚ) := by positivity
      simpa using mul_nonneg (draws 0).nonneg hsum
    unfold pick
    split
    · -- nothing is picked, so that the sum is zero
      rename_i hnone
      have hle := le_of_pickIndex_eq_none hnone hnonneg
      have hzero : sumByWeight records = 0 := by
        by_contra hne
        have hpos : (0 : ℚ) < sumByWeight records := by exact_mod_cast Nat.pos_of_ne_zero hne
        have hlt := mul_lt_mul_of_pos_right (draws 0).lt_one hpos
        rw [Nat.zero_add] at hle
        push_cast at hle
        linarith
      rw [weighted_eq_nil.2 hzero]
    · rename_i i hi
      obtain ⟨hlt, hpos⟩ := weight_pos_of_pickIndex hi hnonneg
      have hperm : (records[i] :: records.eraseIdx i).Perm records :=
        List.getElem_cons_eraseIdx_perm hlt
      have hsum : ((sumByWeight records : Int) - records[i].weight) =
          sumByWeight (records.eraseIdx i) := by
        rw [← sumByWeight_perm hperm, sumByWeight_cons]
        push_cast
        omega
      dsimp only
      rw [hsum]
      have hrest := ih (records.eraseIdx i) (fun n => draws (n + 1))
        (by rw [List.length_eraseIdx_of_lt hlt]; omega)
      calc records[i] :: (pick (records.eraseIdx i) _ _).1
          |>.Perm (records[i] :: weighted (records.eraseIdx i)) := hrest.cons _
        _ = weighted (records[i] :: records.eraseIdx i) := by simp [weighted, hpos]
        _ |>.Perm (weighted records) := hperm.filter _

theorem shuffleWeighted_perm (records : List SrvRecord) (draws : Draws) :
    (shuffleWeighted records draws).1.Perm (weighted records) :=
  (pick_perm _ _).trans ((List.mergeSort_perm _ _).filter _)

/-! ### The result -/

theorem shuffleAll_perm (groups : List PriorityGroup) (draws : Draws) :
    (shuffleAll groups draws).Perm (weighted (members groups)) := by
  induction groups generalizing draws with
  | nil => exact .refl _
  | cons group groups ih =>
    have hmembers : weighted (members (group :: groups)) =
        weighted group.records ++ weighted (members groups) := by simp [members, weighted]
    rw [hmembers]
    exact (shuffleWeighted_perm _ _).append (ih _)

/-- Priorities that do not decrease before the shuffle do not decrease after it. -/
theorem pairwise_shuffleAll {groups : List PriorityGroup} (huniform : Uniform groups)
    (hsorted : (members groups).Pairwise fun a b => a.priority ≤ b.priority) (draws : Draws) :
    (shuffleAll groups draws).Pairwise fun a b => a.priority ≤ b.priority := by
  induction groups generalizing draws with
  | nil => exact .nil
  | cons group groups ih =>
    obtain ⟨-, hrest, hcross⟩ := List.pairwise_append.1 (show
      (group.records ++ members groups).Pairwise _ from hsorted)
    have hsub : ∀ r ∈ (shuffleWeighted group.records draws).1, r ∈ group.records := fun r hr =>
      (List.mem_filter.1 ((shuffleWeighted_perm _ _).mem_iff.1 hr)).1
    have hfirst : ∀ r ∈ group.records, r.priority = group.first.priority := by
      intro r hr
      rcases List.mem_cons.1 hr with rfl | hr
      · rfl
      · exact huniform group List.mem_cons_self r hr
    refine List.pairwise_append.2 ⟨?_, ?_, fun a ha b hb => ?_⟩
    · refine List.pairwise_of_forall_mem_list fun a ha b hb => ?_
      rw [hfirst a (hsub a ha), hfirst b (hsub b hb)]
    · exact ih (fun g hg => huniform g (List.mem_cons_of_mem _ hg)) hrest _
    · exact hcross a (hsub a ha) b
        (List.mem_filter.1 ((shuffleAll_perm _ _).mem_iff.1 hb)).1

theorem sort_perm (records : List SrvRecord) (draws : Draws) :
    (sort records draws).Perm (weighted records) := by
  refine (shuffleAll_perm _ _).trans ?_
  rw [members_groupByPriority]
  exact (List.mergeSort_perm _ _).filter _

/-- **Nothing is lost** exactly when every record has a weight. -/
theorem sort_ordered_iff (records : List SrvRecord) (draws : Draws) :
    Ordered records (sort records draws) ↔ ∀ record ∈ records, 0 < record.weight := by
  have hkept : weighted records = records ↔ ∀ record ∈ records, 0 < record.weight := by
    simp [weighted]
  constructor
  · intro h
    refine hkept.1 (List.filter_sublist.eq_of_length ?_)
    exact ((sort_perm records draws).symm.trans h.perm).length_eq
  · intro h
    refine ⟨?_, pairwise_shuffleAll (uniform_groupByPriority records) (pairwise_members records) _⟩
    have hperm := sort_perm records draws
    rwa [hkept.2 h] at hperm

/-- A draw of zero. -/
def zero : Draw := ⟨0, le_refl 0, by decide⟩

/-- **The only record has the weight zero**: there is no record left. -/
theorem not_ordered_of_weight_zero :
    sort [⟨"adb.example", 5555, 10, 0⟩] (fun _ => zero) = [] ∧
      ¬ Ordered [⟨"adb.example", 5555, 10, 0⟩]
        (sort [⟨"adb.example", 5555, 10, 0⟩] fun _ => zero) := by
  have hnil : sort [⟨"adb.example", 5555, 10, 0⟩] (fun _ => zero) = [] :=
    List.perm_nil.1 (sort_perm _ _)
  refine ⟨hnil, fun h => ?_⟩
  rw [hnil] at h
  exact absurd h.perm.length_eq (by decide)

end srv

end DeviceHub
