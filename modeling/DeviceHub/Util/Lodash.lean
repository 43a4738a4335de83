import Mathlib.Data.List.Basic
import Mathlib.Data.List.Nodup

/-!
# The list helpers of `lodash` that the group functions use, and `String.split`
-/

namespace DeviceHub

namespace lodash

variable {α : Type} [DecidableEq α]

/-- `_.uniq`: the first occurrences. -/
def uniq : List α → List α
  | [] => []
  | a :: l => a :: (uniq l).filter (· ≠ a)

/-- `_.union(a, b)` -/
def union (a b : List α) : List α := uniq (a ++ b)

/-- `_.difference(a, b)` -/
def difference (a b : List α) : List α := a.filter (· ∉ b)

/-- `_.without(a, x)` -/
def without (a : List α) (x : α) : List α := a.filter (· ≠ x)

/-- `_.intersection(a, b)` -/
def intersection (a b : List α) : List α := uniq (a.filter (· ∈ b))

@[simp] theorem mem_uniq {a : α} {l : List α} : a ∈ uniq l ↔ a ∈ l := by
  induction l with
  | nil => rfl
  | cons b l ih => by_cases h : a = b <;> simp [uniq, ih, h]

@[simp] theorem mem_union {a : α} {l₁ l₂ : List α} : a ∈ union l₁ l₂ ↔ a ∈ l₁ ∨ a ∈ l₂ := by
  simp [union]

@[simp] theorem mem_difference {a : α} {l₁ l₂ : List α} :
    a ∈ difference l₁ l₂ ↔ a ∈ l₁ ∧ a ∉ l₂ := by
  simp [difference]

@[simp] theorem mem_without {a x : α} {l : List α} : a ∈ without l x ↔ a ∈ l ∧ a ≠ x := by
  simp [without]

@[simp] theorem mem_intersection {a : α} {l₁ l₂ : List α} :
    a ∈ intersection l₁ l₂ ↔ a ∈ l₁ ∧ a ∈ l₂ := by
  simp [intersection]

end lodash

/-- `s.split(',')` -/
def splitComma (s : String) : List String := (s.toList.splitOn ',').map String.ofList

end DeviceHub
