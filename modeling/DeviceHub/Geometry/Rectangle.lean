import Mathlib.Algebra.Order.Field.Basic
import Mathlib.Algebra.Order.Interval.Set.Instances
import Mathlib.Data.Set.Function
import Mathlib.Order.Bounds.Basic
import Mathlib.Tactic.FieldSimp
import Mathlib.Tactic.Linarith
import Mathlib.Tactic.Ring

/-!
# Rectangles, and their nearest points

Over an ordered field, distances are squared.

## Main definitions

* `Rectangle`, `Rectangle.toUnit` : a rectangle, and the affine map onto the unit square.
* `IsNearest` : a point of a set that no other point of it is closer than.
* `Size.contain` : the largest rectangle of a shape in the middle of another one.

## Main results

* `Rectangle.isNearest_iff` : the nearest point is found by each coordinate alone.
* `Rectangle.bijOn_toUnit`, `bijOn_quarterTurn` : each point of the unit square is reached once.
* `Size.isGreatest_scale` : a larger scale leaves the bound.
-/

namespace DeviceHub

section Clamp

variable {K : Type*} [LinearOrder K]

/-- The nearest value between two others. -/
def clamp (a b x : K) : K := max a (min b x)

theorem clamp_mem {a b : K} (h : a ≤ b) (x : K) : clamp a b x ∈ Set.Icc a b :=
  ⟨le_max_left a _, max_le h (min_le_left b x)⟩

theorem clamp_of_mem {a b x : K} (h : x ∈ Set.Icc a b) : clamp a b x = x := by
  rw [clamp, min_eq_right h.2, max_eq_right h.1]

end Clamp

variable {K : Type*} [Field K] [LinearOrder K] [IsStrictOrderedRing K]

theorem clamp_sub_div (a : K) {w : K} (hw : 0 < w) (x : K) :
    (clamp a (a + w) x - a) / w = clamp 0 1 ((x - a) / w) := by
  have hmono : Monotone fun t : K => (t - a) / w := fun s t hst =>
    div_le_div_of_nonneg_right (sub_le_sub_right hst a) hw.le
  have h0 : (a - a) / w = 0 := by simp
  have h1 : (a + w - a) / w = 1 := by simp [hw.ne']
  calc (clamp a (a + w) x - a) / w
      = max ((a - a) / w) (min ((a + w - a) / w) ((x - a) / w)) :=
        (hmono.map_max).trans (congrArg _ hmono.map_min)
    _ = clamp 0 1 ((x - a) / w) := by rw [h0, h1, clamp]

theorem clamp_one_sub (x : K) : clamp 0 1 (1 - x) = 1 - clamp 0 1 x := by
  rcases le_total x 0 with h0 | h0
  · rw [clamp, clamp, min_eq_left (by linarith), min_eq_right (by linarith), max_eq_left h0]
    simp
  · rcases le_total x 1 with h1 | h1
    · rw [clamp_of_mem ⟨h0, h1⟩, clamp_of_mem ⟨by linarith, by linarith⟩]
    · rw [clamp, clamp, min_eq_right (by linarith), min_eq_left h1, max_eq_left (by linarith)]
      simp

theorem sq_sub_clamp_add_le {a b y : K} (hy : y ∈ Set.Icc a b) (x : K) :
    (x - clamp a b x) ^ 2 + (clamp a b x - y) ^ 2 ≤ (x - y) ^ 2 := by
  obtain ⟨hay, hyb⟩ := hy
  have hproduct : 0 ≤ (x - clamp a b x) * (clamp a b x - y) := by
    rcases le_total x a with hxa | hax
    · rw [clamp, min_eq_right (hxa.trans (hay.trans hyb)), max_eq_left hxa]
      exact mul_nonneg_of_nonpos_of_nonpos (by linarith) (by linarith)
    · rcases le_total x b with hxb | hbx
      · rw [clamp_of_mem ⟨hax, hxb⟩]
        simp
      · rw [clamp, min_eq_left hbx, max_eq_right (hay.trans hyb)]
        exact mul_nonneg (by linarith) (by linarith)
  calc (x - clamp a b x) ^ 2 + (clamp a b x - y) ^ 2
      ≤ (x - clamp a b x) ^ 2 + (clamp a b x - y) ^ 2 +
          2 * ((x - clamp a b x) * (clamp a b x - y)) := by linarith
    _ = (x - y) ^ 2 := by ring

/-! ### Nearest points -/

/-- The square of the distance. -/
def distSq (p q : K × K) : K := (p.1 - q.1) ^ 2 + (p.2 - q.2) ^ 2

/-- No other point of the set is closer. -/
def IsNearest (points : Set (K × K)) (p q : K × K) : Prop :=
  q ∈ points ∧ ∀ q' ∈ points, distSq p q ≤ distSq p q'

theorem eq_of_distSq_le_zero {p q : K × K} (h : distSq p q ≤ 0) : p = q := by
  have hx := sq_nonneg (p.1 - q.1)
  have hy := sq_nonneg (p.2 - q.2)
  simp only [distSq] at h
  have hx0 : (p.1 - q.1) ^ 2 = 0 := by linarith
  have hy0 : (p.2 - q.2) ^ 2 = 0 := by linarith
  exact Prod.ext (sub_eq_zero.1 (pow_eq_zero_iff two_ne_zero |>.1 hx0))
    (sub_eq_zero.1 (pow_eq_zero_iff two_ne_zero |>.1 hy0))

/-! ### The unit square -/

/-- The unit square. -/
def unitSquare : Set (K × K) := Set.Icc 0 1 ×ˢ Set.Icc 0 1

/-- The unit square turned by a quarter. -/
def quarterTurn (p : K × K) : K × K := (1 - p.2, p.1)

theorem bijOn_quarterTurn : Set.BijOn quarterTurn (unitSquare : Set (K × K)) unitSquare := by
  refine ⟨?_, ?_, ?_⟩
  · rintro ⟨x, y⟩ ⟨⟨hx0, hx1⟩, hy0, hy1⟩
    exact ⟨⟨sub_nonneg.2 hy1, sub_le_self 1 hy0⟩, hx0, hx1⟩
  · rintro ⟨x, y⟩ - ⟨x', y'⟩ - h
    obtain ⟨hy, hx⟩ := Prod.ext_iff.1 h
    exact Prod.ext hx (sub_right_injective hy)
  · rintro ⟨x, y⟩ ⟨⟨hx0, hx1⟩, hy0, hy1⟩
    exact ⟨(y, 1 - x), ⟨⟨hy0, hy1⟩, sub_nonneg.2 hx1, sub_le_self 1 hx0⟩,
      Prod.ext (sub_sub_cancel 1 x) rfl⟩

/-! ### Rectangles -/

/-- A rectangle with sides along the axes. -/
structure Rectangle (K : Type*) [Field K] [LinearOrder K] where
  left : K
  top : K
  width : K
  height : K
  width_pos : 0 < width
  height_pos : 0 < height

namespace Rectangle

variable (r : Rectangle K)

/-- The points of the rectangle. -/
def points : Set (K × K) :=
  Set.Icc r.left (r.left + r.width) ×ˢ Set.Icc r.top (r.top + r.height)

/-- The affine map onto the unit square. -/
def toUnit (p : K × K) : K × K := ((p.1 - r.left) / r.width, (p.2 - r.top) / r.height)

/-- The point of the rectangle that is nearest to `p`. -/
def nearest (p : K × K) : K × K :=
  (clamp r.left (r.left + r.width) p.1, clamp r.top (r.top + r.height) p.2)

theorem nearest_mem (p : K × K) : r.nearest p ∈ r.points :=
  ⟨clamp_mem (by linarith [r.width_pos]) p.1, clamp_mem (by linarith [r.height_pos]) p.2⟩

omit [IsStrictOrderedRing K] in
theorem nearest_of_mem {p : K × K} (hp : p ∈ r.points) : r.nearest p = p :=
  Prod.ext (clamp_of_mem hp.1) (clamp_of_mem hp.2)

theorem distSq_nearest_add_le {q : K × K} (hq : q ∈ r.points) (p : K × K) :
    distSq p (r.nearest p) + distSq (r.nearest p) q ≤ distSq p q := by
  have hx := sq_sub_clamp_add_le hq.1 p.1
  have hy := sq_sub_clamp_add_le hq.2 p.2
  simp only [distSq, nearest]
  linarith

/-- **The nearest point** is unique. -/
theorem isNearest_iff (p q : K × K) : IsNearest r.points p q ↔ q = r.nearest p := by
  constructor
  · rintro ⟨hq, hclosest⟩
    have hadd := r.distSq_nearest_add_le hq p
    have hle := hclosest _ (r.nearest_mem p)
    exact (eq_of_distSq_le_zero (by linarith)).symm
  · rintro rfl
    refine ⟨r.nearest_mem p, fun q hq => ?_⟩
    have hadd := r.distSq_nearest_add_le hq p
    have hnonneg : 0 ≤ distSq (r.nearest p) q := add_nonneg (sq_nonneg _) (sq_nonneg _)
    linarith

theorem existsUnique_isNearest (p : K × K) : ∃! q, IsNearest r.points p q := by
  simp [isNearest_iff]

/-- **The rectangle onto the unit square**. -/
theorem bijOn_toUnit : Set.BijOn r.toUnit r.points unitSquare := by
  have hw := r.width_pos
  have hh := r.height_pos
  refine ⟨?_, ?_, ?_⟩
  · rintro ⟨x, y⟩ ⟨⟨hx0, hx1⟩, hy0, hy1⟩
    refine ⟨⟨div_nonneg (by linarith) hw.le, ?_⟩, div_nonneg (by linarith) hh.le, ?_⟩
    · exact (div_le_one hw).2 (by linarith)
    · exact (div_le_one hh).2 (by linarith)
  · rintro ⟨x, y⟩ - ⟨x', y'⟩ - h
    obtain ⟨hx, hy⟩ := Prod.ext_iff.1 h
    exact Prod.ext (sub_left_injective ((div_left_inj' hw.ne').1 hx))
      (sub_left_injective ((div_left_inj' hh.ne').1 hy))
  · rintro ⟨x, y⟩ ⟨⟨hx0, hx1⟩, hy0, hy1⟩
    refine ⟨(r.left + x * r.width, r.top + y * r.height), ⟨⟨?_, ?_⟩, ?_, ?_⟩, ?_⟩
    · exact le_add_of_nonneg_right (mul_nonneg hx0 hw.le)
    · exact add_le_add_right (mul_le_of_le_one_left hw.le hx1) _
    · exact le_add_of_nonneg_right (mul_nonneg hy0 hh.le)
    · exact add_le_add_right (mul_le_of_le_one_left hh.le hy1) _
    · simp [toUnit, hw.ne', hh.ne']

/-- The place of the nearest point in the unit square. -/
def place (p : K × K) : K × K := (clamp 0 1 (r.toUnit p).1, clamp 0 1 (r.toUnit p).2)

theorem place_eq_toUnit_nearest (p : K × K) : r.place p = r.toUnit (r.nearest p) :=
  (Prod.ext (clamp_sub_div r.left r.width_pos p.1) (clamp_sub_div r.top r.height_pos p.2)).symm

theorem place_of_mem {p : K × K} (hp : p ∈ r.points) : r.place p = r.toUnit p := by
  rw [place_eq_toUnit_nearest, nearest_of_mem r hp]

theorem place_of_isNearest {p q : K × K} (h : IsNearest r.points p q) : r.place p = r.place q := by
  rw [place_of_mem r h.1, place_eq_toUnit_nearest, (r.isNearest_iff p q).1 h]

theorem place_mem (p : K × K) : r.place p ∈ unitSquare :=
  ⟨clamp_mem zero_le_one _, clamp_mem zero_le_one _⟩

/-- The rectangle at another position. -/
def move (v : K × K) : Rectangle K :=
  { r with left := r.left + v.1, top := r.top + v.2 }

omit [IsStrictOrderedRing K] in
theorem place_move (v p : K × K) : (r.move v).place p = r.place (p.1 - v.1, p.2 - v.2) := by
  simp [place, toUnit, move, sub_sub, add_comm]

end Rectangle

/-! ### Sizes -/

/-- The sides of a rectangle. -/
structure Size (K : Type*) [Field K] [LinearOrder K] where
  width : K
  height : K
  width_pos : 0 < width
  height_pos : 0 < height

/-- The sides of the rectangle. -/
def Rectangle.size (r : Rectangle K) : Size K := ⟨r.width, r.height, r.width_pos, r.height_pos⟩

namespace Size

variable (size bound : Size K)

/-- The size of something on its side. -/
@[simps]
def swap : Size K := ⟨size.height, size.width, size.height_pos, size.width_pos⟩

/-- How much of the size fits into the bound. -/
def scale : K := min (bound.width / size.width) (bound.height / size.height)

theorem scale_pos : 0 < size.scale bound :=
  lt_min (div_pos bound.width_pos size.width_pos) (div_pos bound.height_pos size.height_pos)

/-- **A larger scale leaves the bound**. -/
theorem isGreatest_scale :
    IsGreatest {s | s * size.width ≤ bound.width ∧ s * size.height ≤ bound.height}
      (size.scale bound) := by
  constructor
  · exact ⟨(le_div_iff₀ size.width_pos).1 (min_le_left _ _),
      (le_div_iff₀ size.height_pos).1 (min_le_right _ _)⟩
  · rintro s ⟨hwidth, hheight⟩
    exact le_min ((le_div_iff₀ size.width_pos).2 hwidth) ((le_div_iff₀ size.height_pos).2 hheight)

/-- The largest rectangle of the shape, in the middle of the bound. -/
@[simps]
def contain : Rectangle K where
  left := (bound.width - size.scale bound * size.width) / 2
  top := (bound.height - size.scale bound * size.height) / 2
  width := size.scale bound * size.width
  height := size.scale bound * size.height
  width_pos := mul_pos (size.scale_pos bound) size.width_pos
  height_pos := mul_pos (size.scale_pos bound) size.height_pos

theorem place_contain_swap (p : K × K) :
    (size.swap.contain bound.swap).place p.swap = ((size.contain bound).place p).swap := by
  have hscale : size.swap.scale bound.swap = size.scale bound := min_comm _ _
  simp [Rectangle.place, Rectangle.toUnit, hscale]

/-- **A quarter turn of the bound** turns the place. -/
theorem place_contain_quarterTurn (p : K × K) :
    (size.swap.contain bound.swap).place (bound.height - p.2, p.1) =
      quarterTurn ((size.contain bound).place p) := by
  have hscale : size.swap.scale bound.swap = size.scale bound := min_comm _ _
  have hscale0 : size.scale bound ≠ 0 := (size.scale_pos bound).ne'
  have hheight0 : size.height ≠ 0 := size.height_pos.ne'
  refine Prod.ext ?_ (by simp [Rectangle.place, Rectangle.toUnit, quarterTurn, hscale])
  simp only [Rectangle.place, Rectangle.toUnit, quarterTurn, contain_left, contain_top,
    contain_width, contain_height, swap_width, swap_height, hscale, ← clamp_one_sub]
  congr 1
  field_simp
  ring

end Size

end DeviceHub
