import DeviceHub.Geometry.Rectangle
import Mathlib.Algebra.Order.Ring.Rat
import Mathlib.Logic.Function.Iterate

/-!
# `services/scaling-service/scaling-service.ts`

Where a position in the bounding rectangle is on the screen of the device.  The numbers are exact
rationals; a division by zero, which the sizes and the rotations of a device exclude, is zero here.

## Main definitions

* `ScalingService.coords` : the method of the coordinator.
* `ScalingService.letterbox` : the screen in the bounding rectangle.
* `ScalingService.axes` : how the screen is turned.

## Main results

* `ScalingService.scaled_letterbox` : the coordinates are those of the nearest point in the letterbox.
-/

namespace DeviceHub

/-- A point of the screen, from 0 to 1 on both axes. -/
structure Coords where
  xP : ℚ
  yP : ℚ
  deriving DecidableEq

/-- The box in which the screen is shown, the point in it, and the rotation. -/
structure CoordsArgs where
  boundingWidth : ℚ
  boundingHeight : ℚ
  relX : ℚ
  relY : ℚ
  rotation : ℕ
  isIosDevice : Bool

namespace ScalingService

/-- The local variables of `coords`. -/
structure Frame where
  width : ℚ
  height : ℚ
  x : ℚ
  y : ℚ

/-- The `switch` over the rotation. -/
def frame (args : CoordsArgs) : Frame :=
  match args.rotation with
  | 0 => ⟨args.boundingWidth, args.boundingHeight, args.relX, args.relY⟩
  | 90 =>
    if args.isIosDevice then ⟨args.boundingHeight, args.boundingWidth, args.relY, args.relX⟩
    else ⟨args.boundingHeight, args.boundingWidth, args.boundingHeight - args.relY, args.relX⟩
  | 180 => ⟨args.boundingWidth, args.boundingHeight, args.boundingWidth - args.relX,
      args.boundingHeight - args.relY⟩
  | 270 => ⟨args.boundingHeight, args.boundingWidth, args.relY, args.boundingWidth - args.relX⟩
  | _ => ⟨0, 0, 0, 0⟩

/-- A touch outside counts at the edge. -/
def withinBounds (value bound : ℚ) : ℚ :=
  if value < 0 then 0 else if value > bound then bound else value

/-- The part of the frame that the screen covers, and the position in it. -/
def cover (realRatio : ℚ) (frame : Frame) : Frame :=
  let ratio := frame.width / frame.height
  if realRatio > ratio then
    let scaledValue := frame.width / realRatio
    { width := frame.width
      height := scaledValue
      x := withinBounds frame.x frame.width
      y := withinBounds (frame.y - (frame.height - scaledValue) / 2) scaledValue }
  else
    let scaledValue := frame.height * realRatio
    { width := scaledValue
      height := frame.height
      x := withinBounds (frame.x - (frame.width - scaledValue) / 2) scaledValue
      y := withinBounds frame.y frame.height }

/-- `coords` -/
def coords (realWidth realHeight : ℚ) (args : CoordsArgs) : Coords :=
  let realRatio := realWidth / realHeight
  let covered := cover realRatio (frame args)
  if args.rotation = 90 ∧ args.isIosDevice then
    ⟨covered.y / covered.height, covered.x / covered.width⟩
  else ⟨covered.x / covered.width, covered.y / covered.height⟩

/-! ### The screen in the bounding rectangle -/

/-- The largest rectangle of the shape of the screen as it is turned. -/
def letterbox (real bounding : Size ℚ) (rotation : ℕ) : Rectangle ℚ :=
  if rotation = 90 ∨ rotation = 270 then real.swap.contain bounding else real.contain bounding

/-- How the screen is turned: on iOS not at 90 degrees. -/
def axes (rotation : ℕ) (isIosDevice : Bool) (p : ℚ × ℚ) : ℚ × ℚ :=
  match rotation with
  | 90 => if isIosDevice then p else (1 - p.2, p.1)
  | 180 => (1 - p.1, 1 - p.2)
  | 270 => (p.2, 1 - p.1)
  | _ => p

/-- The coordinates of a position. -/
def scaled (real bounding : Size ℚ) (rotation : ℕ) (isIosDevice : Bool) (position : ℚ × ℚ) : ℚ × ℚ :=
  let { xP, yP } := coords real.width real.height
    { boundingWidth := bounding.width
      boundingHeight := bounding.height
      relX := position.1
      relY := position.2
      rotation
      isIosDevice }
  (xP, yP)

variable {real bounding : Size ℚ} {rotation : ℕ} {isIosDevice : Bool}

theorem withinBounds_div {bound : ℚ} (hbound : 0 < bound) (value : ℚ) :
    withinBounds value bound / bound = clamp 0 1 (value / bound) := by
  have hclamp : withinBounds value bound = clamp 0 (0 + bound) value := by
    simp only [withinBounds, clamp, zero_add]
    split
    · rename_i hneg
      rw [min_eq_right (by linarith), max_eq_left hneg.le]
    · rename_i hneg
      split
      · rename_i hgt
        rw [min_eq_left hgt.le, max_eq_right hbound.le]
      · rename_i hgt
        rw [min_eq_right (not_lt.1 hgt), max_eq_right (not_lt.1 hneg)]
  have hdiv := clamp_sub_div (0 : ℚ) hbound value
  simpa [hclamp] using hdiv

/-- **What the screen covers** is the letterbox of the frame. -/
theorem cover_eq (real bound : Size ℚ) (x y : ℚ) :
    let covered := cover (real.width / real.height) ⟨bound.width, bound.height, x, y⟩
    (covered.x / covered.width, covered.y / covered.height) = (real.contain bound).place (x, y) := by
  obtain ⟨realWidth, realHeight, hrealWidth, hrealHeight⟩ := real
  obtain ⟨width, height, hwidth, hheight⟩ := bound
  by_cases hratio : realWidth / realHeight > width / height
  · have hscale : min (width / realWidth) (height / realHeight) = width / realWidth := by
      rw [gt_iff_lt, div_lt_div_iff₀ hheight hrealHeight] at hratio
      exact min_eq_left ((div_le_div_iff₀ hrealWidth hrealHeight).2 (by linarith))
    have hscaled : width / (realWidth / realHeight) = width / realWidth * realHeight := by
      field_simp
    have hpos : 0 < width / realWidth * realHeight := by positivity
    simp only [cover, hratio, if_true, hscaled]
    simp [Rectangle.place, Rectangle.toUnit, Size.scale, hscale, withinBounds_div, hwidth, hpos,
      hrealWidth.ne']
  · have hscale : min (width / realWidth) (height / realHeight) = height / realHeight := by
      rw [gt_iff_lt, not_lt, div_le_div_iff₀ hrealHeight hheight] at hratio
      exact min_eq_right ((div_le_div_iff₀ hrealHeight hrealWidth).2 (by linarith))
    have hscaled : height * (realWidth / realHeight) = height / realHeight * realWidth := by
      field_simp
    have hpos : 0 < height / realHeight * realWidth := by positivity
    simp only [cover, hratio, if_false, hscaled]
    simp [Rectangle.place, Rectangle.toUnit, Size.scale, hscale, withinBounds_div, hheight, hpos,
      hrealHeight.ne']

theorem scaled_of_frame {bound : Size ℚ} {position : ℚ × ℚ} {x y : ℚ}
    (hframe : frame ⟨bounding.width, bounding.height, position.1, position.2, rotation, isIosDevice⟩ =
      ⟨bound.width, bound.height, x, y⟩) :
    scaled real bounding rotation isIosDevice position =
      if rotation = 90 ∧ isIosDevice then ((real.contain bound).place (x, y)).swap
      else (real.contain bound).place (x, y) := by
  rw [← cover_eq]
  simp only [scaled, coords, hframe]
  split <;> rfl

theorem axes_eq_iterate (hrotation : rotation ∈ [0, 90, 180, 270]) (isIosDevice : Bool) :
    ∃ n, axes rotation isIosDevice = quarterTurn^[n] := by
  simp only [List.mem_cons, List.not_mem_nil, or_false] at hrotation
  rcases hrotation with rfl | rfl | rfl | rfl
  · exact ⟨0, rfl⟩
  · cases isIosDevice with
    | false => exact ⟨1, rfl⟩
    | true => exact ⟨0, rfl⟩
  · exact ⟨2, rfl⟩
  · refine ⟨3, funext fun p => ?_⟩
    simp [axes, quarterTurn]

theorem bijOn_axes (hrotation : rotation ∈ [0, 90, 180, 270]) (isIosDevice : Bool) :
    Set.BijOn (axes rotation isIosDevice) unitSquare unitSquare := by
  obtain ⟨n, hn⟩ := axes_eq_iterate hrotation isIosDevice
  rw [hn]
  exact bijOn_quarterTurn.iterate n

/-- **The coordinates of a position** are its place in the letterbox, along the axes of the device. -/
theorem scaled_eq (hrotation : rotation ∈ [0, 90, 180, 270]) (position : ℚ × ℚ) :
    scaled real bounding rotation isIosDevice position =
      axes rotation isIosDevice ((letterbox real bounding rotation).place position) := by
  obtain ⟨x, y⟩ := position
  have hturn (size bound : Size ℚ) := size.place_contain_quarterTurn bound
  simp only [List.mem_cons, List.not_mem_nil, or_false] at hrotation
  rcases hrotation with rfl | rfl | rfl | rfl
  · exact scaled_of_frame rfl
  · cases isIosDevice with
    | false =>
      calc scaled real bounding 90 false (x, y)
          = (real.contain bounding.swap).place (bounding.height - y, x) := scaled_of_frame rfl
        _ = quarterTurn ((real.swap.contain bounding).place (x, y)) :=
            hturn real.swap bounding (x, y)
    | true =>
      calc scaled real bounding 90 true (x, y)
          = ((real.contain bounding.swap).place (y, x)).swap := scaled_of_frame rfl
        _ = (real.swap.contain bounding).place (x, y) :=
            congrArg Prod.swap (real.swap.place_contain_swap bounding (x, y))
  · calc scaled real bounding 180 isIosDevice (x, y)
        = (real.contain bounding).place (bounding.width - x, bounding.height - y) :=
          scaled_of_frame rfl
      _ = quarterTurn ((real.swap.contain bounding.swap).place (bounding.height - y, x)) :=
          hturn real.swap bounding.swap (bounding.height - y, x)
      _ = quarterTurn (quarterTurn ((real.contain bounding).place (x, y))) :=
          congrArg quarterTurn (hturn real bounding (x, y))
      _ = axes 180 isIosDevice ((letterbox real bounding 180).place (x, y)) := by
          simp [axes, letterbox, quarterTurn]
  · calc scaled real bounding 270 isIosDevice (x, y)
        = (real.contain bounding.swap).place (y, bounding.width - x) := scaled_of_frame rfl
      _ = (real.contain bounding.swap).place
            (bounding.height - (bounding.height - y), bounding.width - x) := by
          rw [sub_sub_cancel]
      _ = quarterTurn ((real.swap.contain bounding).place
            (bounding.width - x, bounding.height - y)) :=
          hturn real.swap bounding (bounding.width - x, bounding.height - y)
      _ = quarterTurn (quarterTurn ((real.contain bounding.swap).place (bounding.height - y, x))) :=
          congrArg quarterTurn (hturn real bounding.swap (bounding.height - y, x))
      _ = quarterTurn^[3] ((real.swap.contain bounding).place (x, y)) :=
          congrArg quarterTurn^[2] (hturn real.swap bounding (x, y))
      _ = axes 270 isIosDevice ((letterbox real bounding 270).place (x, y)) := by
          simp [axes, letterbox, quarterTurn]

/-- **Positions in the letterbox are mapped onto the screen**, and each other one as the point of the
letterbox that is nearest to it. -/
theorem scaled_letterbox (hrotation : rotation ∈ [0, 90, 180, 270]) :
    (∀ position, scaled real bounding rotation isIosDevice position ∈ unitSquare) ∧
      Set.BijOn (scaled real bounding rotation isIosDevice)
        (letterbox real bounding rotation).points unitSquare ∧
      (∀ position ∈ (letterbox real bounding rotation).points,
        scaled real bounding rotation isIosDevice position =
          axes rotation isIosDevice ((letterbox real bounding rotation).toUnit position)) ∧
      ∀ position, (∃! nearest, IsNearest (letterbox real bounding rotation).points position nearest) ∧
        ∀ nearest, IsNearest (letterbox real bounding rotation).points position nearest →
          scaled real bounding rotation isIosDevice position =
            scaled real bounding rotation isIosDevice nearest := by
  have haxes := bijOn_axes hrotation isIosDevice
  have hmem : ∀ position ∈ (letterbox real bounding rotation).points,
      scaled real bounding rotation isIosDevice position =
        axes rotation isIosDevice ((letterbox real bounding rotation).toUnit position) :=
    fun position hposition => by rw [scaled_eq hrotation, Rectangle.place_of_mem _ hposition]
  refine ⟨fun position => ?_, ?_, hmem, fun position => ⟨?_, fun nearest hnearest => ?_⟩⟩
  · rw [scaled_eq hrotation]
    exact haxes.mapsTo ((letterbox real bounding rotation).place_mem position)
  · have hbij := haxes.comp (letterbox real bounding rotation).bijOn_toUnit
    exact hbij.congr fun position hposition => (hmem position hposition).symm
  · exact (letterbox real bounding rotation).existsUnique_isNearest position
  · rw [scaled_eq hrotation, scaled_eq hrotation, Rectangle.place_of_isNearest _ hnearest]

/-- A phone on a canvas. -/
def phone : Size ℚ := ⟨1080, 1920, by norm_num, by norm_num⟩

/-- A box of 800 by 600. -/
def canvas : Size ℚ := ⟨800, 600, by norm_num, by norm_num⟩

/-- In the middle of the canvas is the middle of the screen. -/
theorem scaled_letterbox_middle : scaled phone canvas 90 false (400, 300) = (1 / 2, 1 / 2) ∧
    scaled phone canvas 90 false (-1, 300) ∈ unitSquare := by
  refine ⟨?_, (scaled_letterbox (by decide)).1 _⟩
  norm_num [scaled, coords, frame, cover, withinBounds, phone, canvas]

/-! ### `services/touch-service/touch-service.ts` -/

/-- The rectangle of an element. -/
structure DOMRect where
  x : ℚ
  y : ℚ
  width : ℚ
  height : ℚ

/-- The arguments of `getScaledCoords`. -/
structure GetScaledCoordsArgs where
  displayWidth : ℚ
  displayHeight : ℚ
  isIosDevice : Bool
  mousePageX : ℚ
  mousePageY : ℚ
  screenBoundingRect : DOMRect

/-- The point in the element, and on the screen. -/
structure GetScaledCoordsReturn where
  x : ℚ
  y : ℚ
  coords : Coords

/-- The rotation is that of the store of the screen. -/
def getScaledCoords (screenRotation : ℕ) (args : GetScaledCoordsArgs) : GetScaledCoordsReturn :=
  let x := args.mousePageX - args.screenBoundingRect.x
  let y := args.mousePageY - args.screenBoundingRect.y
  let scaled := coords args.displayWidth args.displayHeight
    { boundingWidth := args.screenBoundingRect.width
      boundingHeight := args.screenBoundingRect.height
      relX := x
      relY := y
      rotation := screenRotation
      isIosDevice := args.isIosDevice }
  ⟨x, y, scaled⟩

/-- **The mouse on the page**: the coordinates are its place in the letterbox where the canvas is. -/
theorem getScaledCoords_coords (hrotation : rotation ∈ [0, 90, 180, 270]) (canvas : Rectangle ℚ)
    (mouse : ℚ × ℚ) :
    let coords := (getScaledCoords rotation
      { displayWidth := real.width
        displayHeight := real.height
        isIosDevice
        mousePageX := mouse.1
        mousePageY := mouse.2
        screenBoundingRect := ⟨canvas.left, canvas.top, canvas.width, canvas.height⟩ }).coords
    (coords.xP, coords.yP) = axes rotation isIosDevice
      (((letterbox real canvas.size rotation).move (canvas.left, canvas.top)).place mouse) := by
  rw [Rectangle.place_move, ← scaled_eq hrotation]
  rfl

end ScalingService

end DeviceHub
