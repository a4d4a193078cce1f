import ChipEight.Proofs.Image
import ChipEight.Proofs.Screen.Grid

/-!
# Magnification

An imaging library is faithful if it takes the colours of an array over as they are, and if the
pixels of a magnified image have the colours of the cells that hold their centres.  With whole
factors this is division: the cell of a pixel is its place divided by the factor, in both
directions.  One law follows for all zooms, also for a zoom of one, which resizes nothing.  By it a
grid can be read off its rendering, one pixel for each cell, and to magnify twice is to magnify by
the product.
-/

namespace ChipEight

/-! ## Colours -/

/-- The channels of a colour as integers, in order. -/
def Rgb.components (color : Rgb) : List Int :=
  [color.red.toNat, color.green.toNat, color.blue.toNat]

theorem Rgb.toNat_channel {component : Int} (byte : 0 ≤ component ∧ component ≤ 255) :
    ((UInt8.ofInt component).toNat : Int) = component := by
  rw [UInt8.ofInt, UInt8.toNat_ofNat']
  omega

namespace Color

theorem components_rgb {color : Color} (valid : color.Valid) :
    color.rgb.components = color.components := by
  have red := Rgb.toNat_channel (valid color.red (by simp [components]))
  have green := Rgb.toNat_channel (valid color.green (by simp [components]))
  have blue := Rgb.toNat_channel (valid color.blue (by simp [components]))
  rw [Rgb.components, rgb, red, green, blue, components]

theorem components_injective {first second : Color}
    (same : first.components = second.components) : first = second := by
  rcases first with ⟨red, green, blue⟩
  cases same
  rfl

end Color

namespace Image

variable {width height factor : Nat}

/-! ## Pixels -/

@[ext]
theorem ext_get {first second : Image width height}
    (colors : ∀ x y, first.get x y = second.get x y) : first = second := by
  rcases first with ⟨firstRows⟩
  rcases second with ⟨secondRows⟩
  congr 1
  apply Vector.ext
  intro y yBound
  apply Vector.ext
  intro x xBound
  exact colors ⟨x, xBound⟩ ⟨y, yBound⟩

@[simp]
theorem get_ofFn (color : Fin width → Fin height → Rgb) (x : Fin width) (y : Fin height) :
    (ofFn color).get x y = color x y := by
  change (ofFn color).rows[y][x] = _
  simp [ofFn]

@[simp]
theorem get_ofGrid (grid : Grid width height) (on off : Rgb) (x : Fin width) (y : Fin height) :
    (ofGrid grid on off).get x y = if grid.get x y then on else off :=
  get_ofFn _ x y

@[simp]
theorem get_scaled (image : Image width height) (wide : 0 < width) (high : 0 < height)
    {newWidth newHeight : Nat} (x : Fin newWidth) (y : Fin newHeight) :
    (image.scaled wide high newWidth newHeight).get x y =
      image.get (centreCell wide x) (centreCell high y) := by
  change (image.scaled wide high newWidth newHeight).rows[y][x] =
    image.rows[centreCell high y][centreCell wide x]
  simp [scaled]

/-- The cell of an axis of `size` cells, each `factor` pixels wide, that a pixel lies in. -/
def sourceCell (size factor : Nat) (pixel : Fin (size * factor)) : Fin size :=
  ⟨pixel.val / factor, Nat.div_lt_of_lt_mul (Nat.mul_comm size factor ▸ pixel.isLt)⟩

/-- Repeat every pixel `factor` times in both directions. -/
def magnify (image : Image width height) (factor : Nat) :
    Image (width * factor) (height * factor) :=
  ofFn fun x y => image.get (sourceCell width factor x) (sourceCell height factor y)

@[simp]
theorem get_magnify (image : Image width height) (x : Fin (width * factor))
    (y : Fin (height * factor)) :
    (image.magnify factor).get x y =
      image.get (sourceCell width factor x) (sourceCell height factor y) :=
  get_ofFn _ x y

/-! ## Centres -/

/-- On an axis of `size` cells and `count` pixels, a cell holds the centre of a pixel.  In units of
which a cell has `2 * count` and a pixel `2 * size`, the centre is a whole number of them away from
the edge. -/
def HoldsCentre (size count cell pixel : Nat) : Prop :=
  cell * (2 * count) ≤ (2 * pixel + 1) * size ∧ (2 * pixel + 1) * size < (cell + 1) * (2 * count)

theorem holdsCentre_iff {size count : Nat} (positive : 0 < count) (cell pixel : Nat) :
    HoldsCentre size count cell pixel ↔ (2 * pixel + 1) * size / (2 * count) = cell := by
  have units : 0 < 2 * count := Nat.mul_pos Nat.two_pos positive
  rw [HoldsCentre, Nat.div_eq_iff units, Nat.succ_mul cell, Nat.le_sub_one_iff_lt (by omega)]

theorem holdsCentre_mul_iff {size : Nat} (filled : 0 < size) (positive : 0 < factor)
    (cell pixel : Nat) :
    HoldsCentre size (size * factor) cell pixel ↔ pixel / factor = cell := by
  have halves : (2 * pixel + 1) / (2 * factor) = pixel / factor := by
    rw [← Nat.div_div_eq_div_mul]
    congr 1
    omega
  have units : 2 * (size * factor) = 2 * factor * size := by
    rw [Nat.mul_comm size factor, Nat.mul_assoc]
  rw [holdsCentre_iff (Nat.mul_pos filled positive), units,
    Nat.mul_div_mul_right _ _ filled, halves]

theorem centreCell_of_holdsCentre {size count : Nat} (filled : 0 < size) {pixel : Fin count}
    {cell : Fin size} (held : HoldsCentre size count cell pixel) :
    centreCell filled pixel = cell :=
  Fin.ext ((holdsCentre_iff pixel.pos _ _).mp held)

/-- The first pixel of a cell. -/
def firstPixel (positive : 0 < factor) {size : Nat} (cell : Fin size) : Fin (size * factor) :=
  ⟨cell.val * factor, Nat.mul_lt_mul_of_pos_right cell.isLt positive⟩

theorem firstPixel_div (positive : 0 < factor) {size : Nat} (cell : Fin size) :
    (firstPixel positive cell).val / factor = cell.val :=
  Nat.mul_div_cancel cell.val positive

/-! ## Images with their extent -/

theorem sized_eq {otherWidth otherHeight : Nat} {first : Image width height}
    {second : Image otherWidth otherHeight} (wide : width = otherWidth)
    (high : height = otherHeight)
    (colors : ∀ x y, first.get x y = second.get (x.cast wide) (y.cast high)) :
    (⟨width, height, first⟩ : Sized) = ⟨otherWidth, otherHeight, second⟩ := by
  subst wide high
  rw [ext_get colors]

namespace Sized

/-- Magnify an image together with its extent. -/
def magnify (sized : Sized) (factor : Nat) : Sized :=
  ⟨sized.width * factor, sized.height * factor, sized.image.magnify factor⟩

theorem magnify_one (sized : Sized) : sized.magnify 1 = sized := by
  apply sized_eq (Nat.mul_one _) (Nat.mul_one _)
  intro x y
  rw [get_magnify]
  congr 1 <;> exact Fin.ext (Nat.div_one _)

theorem magnify_magnify (sized : Sized) (first second : Nat) :
    (sized.magnify first).magnify second = sized.magnify (first * second) := by
  apply sized_eq (Nat.mul_assoc _ _ _) (Nat.mul_assoc _ _ _)
  intro x y
  have nested (pixel : Nat) : pixel / second / first = pixel / (first * second) := by
    rw [Nat.div_div_eq_div_mul, Nat.mul_comm]
  simp only [magnify, get_magnify]
  congr 1 <;> exact Fin.ext (nested _)

end Sized

end Image

/-! ## Faithful libraries -/

/-- Where the library makes an image, the image of an array has its colours, and in an image that is
magnified by a whole factor a pixel has the colour of the cell that holds its centre. -/
structure Imaging.Faithful (imaging : Imaging) : Prop where
  fromArray {width height : Nat} {colors image : Image width height}
    (made : imaging.fromArray colors = .ok image) : image = colors
  resize {width height zoom : Nat} {image : Image width height}
    {resized : Image (width * zoom) (height * zoom)}
    (made : imaging.resize image (width * zoom) (height * zoom) = .ok resized)
    {x : Fin (width * zoom)} {y : Fin (height * zoom)} {column : Fin width} {row : Fin height}
    (across : Image.HoldsCentre width (width * zoom) column x)
    (down : Image.HoldsCentre height (height * zoom) row y) :
    resized.get x y = image.get column row

namespace Imaging

variable {width height zoom : Nat} {imaging : Imaging}

/-- Scaling by centres is faithful, whatever there is room for. -/
theorem byCentres_faithful (room : Option Nat) : (byCentres room).Faithful where
  fromArray made := (Except.ok.inj made).symm
  resize := by
    intro width height zoom image resized made x y column row across down
    have filled : 0 < width ∧ 0 < height := ⟨column.pos, row.pos⟩
    simp only [byCentres, dif_pos filled] at made
    cases checked : Image.checkSize room (width * zoom) (height * zoom) with
    | error failure => simp only [checked, reduceCtorEq] at made
    | ok _ =>
        simp only [checked, Except.ok.injEq] at made
        rw [← made, Image.get_scaled, Image.centreCell_of_holdsCentre _ across,
          Image.centreCell_of_holdsCentre _ down]

theorem Faithful.resize_eq (faithful : imaging.Faithful) (positive : 0 < zoom)
    {image : Image width height} {resized : Image (width * zoom) (height * zoom)}
    (made : imaging.resize image (width * zoom) (height * zoom) = .ok resized) :
    resized = image.magnify zoom := by
  ext x y
  have cells {size : Nat} (pixel : Fin (size * zoom)) :
      Image.HoldsCentre size (size * zoom) (Image.sourceCell size zoom pixel) pixel :=
    (Image.holdsCentre_mul_iff (Nat.pos_of_mul_pos_right pixel.pos) positive _ _).mpr rfl
  rw [Image.get_magnify]
  exact faithful.resize made (cells x) (cells y)

/-- What a faithful library magnifies has the colours of the array, each repeated. -/
theorem Faithful.magnified_eq (faithful : imaging.Faithful) (positive : 0 < zoom)
    {colors : Image width height} {sized : Image.Sized}
    (made : imaging.magnified colors zoom = .ok sized) :
    sized = Image.Sized.magnify ⟨width, height, colors⟩ zoom := by
  unfold magnified at made
  cases taken : imaging.fromArray colors with
  | error failure => simp only [taken, reduceCtorEq] at made
  | ok image =>
      cases faithful.fromArray taken
      -- At a zoom of one the library is not asked to resize, and the same law has another reason.
      by_cases plain : zoom = 1
      · simp only [taken, if_pos plain, Except.ok.injEq] at made
        rw [plain, Image.Sized.magnify_one, made]
      · cases scaled : imaging.resize colors (width * zoom) (height * zoom) with
        | error failure => simp only [taken, if_neg plain, scaled, reduceCtorEq] at made
        | ok resized =>
            simp only [taken, if_neg plain, scaled, Except.ok.injEq] at made
            rw [← made, faithful.resize_eq positive scaled]
            rfl

end Imaging

namespace Image

/-! ## Rendering -/

section

variable (grid : Grid width height) {on off : Color} (onValid : on.Valid) (offValid : off.Valid)
include onValid offValid

theorem render_eq_ok {imaging : Imaging} (faithful : imaging.Faithful) {zoom : Nat}
    (positive : 0 < zoom) {sized : Sized}
    (rendered : render imaging grid zoom on.components off.components = .ok sized) :
    sized = Sized.magnify ⟨width, height, ofGrid grid on.rgb off.rgb⟩ zoom := by
  rw [render_of_valid imaging grid (by omega) onValid offValid,
    ImagingError.mapError_imaging_eq_ok_iff, Int.toNat_natCast] at rendered
  exact faithful.magnified_eq positive rendered

theorem components_get_magnify {zoom : Nat} {x : Fin (width * zoom)} {y : Fin (height * zoom)}
    {column : Fin width} {row : Fin height}
    (across : x.val / zoom = column.val) (down : y.val / zoom = row.val) :
    (((ofGrid grid on.rgb off.rgb).magnify zoom).get x y).components =
      if grid.get column row then on.components else off.components := by
  have columns : sourceCell width zoom x = column := Fin.ext across
  have rows : sourceCell height zoom y = row := Fin.ext down
  rw [get_magnify, columns, rows, get_ofGrid]
  split
  · exact Color.components_rgb onValid
  · exact Color.components_rgb offValid

end

/-- The grid of the cells whose first pixel has a colour. -/
def sampled {zoom : Nat} (image : Image (width * zoom) (height * zoom)) (positive : 0 < zoom)
    (color : Color) : Grid width height :=
  Grid.ofFn fun x y =>
    decide ((image.get (firstPixel positive x) (firstPixel positive y)).components =
      color.components)

theorem sampled_magnify (grid : Grid width height) {on off : Color} (onValid : on.Valid)
    (offValid : off.Valid) (distinct : on ≠ off) {zoom : Nat} (positive : 0 < zoom) :
    ((ofGrid grid on.rgb off.rgb).magnify zoom).sampled positive on = grid := by
  ext x y
  rw [sampled, Grid.get_ofFn, components_get_magnify grid onValid offValid
    (firstPixel_div positive x) (firstPixel_div positive y)]
  cases grid.get x y with
  | true => exact decide_eq_true rfl
  | false =>
      apply decide_eq_false
      intro same
      exact distinct (Color.components_injective same).symm

/-- For every faithful library, every grid, every positive zoom and all colours of bytes: rendering
returns exactly if the library makes the image.  The image is then as many times wider and higher
than the grid as the zoom says, and each of its pixels has the colour of the cell at its place
divided by the zoom.  If the colours differ, the grid can be read off the image by taking one pixel
for each cell.  A rendering at a product of zooms is the rendering at the first, magnified by the
second. -/
theorem rendering_magnifies_exactly (imaging : Imaging) (faithful : imaging.Faithful)
    (grid : Grid width height) (on off : Color) (onValid : on.Valid) (offValid : off.Valid) :
    (∀ (zoom : Nat) (positive : 0 < zoom),
      ((render imaging grid zoom on.components off.components).isOk ↔
        imaging.Makes (ofGrid grid on.rgb off.rgb) zoom) ∧
      ∀ sized, render imaging grid zoom on.components off.components = .ok sized →
        ∃ image : Image (width * zoom) (height * zoom),
          sized = ⟨width * zoom, height * zoom, image⟩ ∧
            (∀ (x : Fin (width * zoom)) (y : Fin (height * zoom)) (column : Fin width)
              (row : Fin height), x.val / zoom = column.val → y.val / zoom = row.val →
                (image.get x y).components =
                  if grid.get column row then on.components else off.components) ∧
            (on ≠ off → image.sampled positive on = grid)) ∧
      ∀ first second : Nat, 0 < first → 0 < second → ∀ sized product,
        render imaging grid first on.components off.components = .ok sized →
          render imaging grid (first * second : Nat) on.components off.components = .ok product →
            product = sized.magnify second := by
  constructor
  · intro zoom positive
    refine ⟨isOk_render_iff imaging grid (by omega) onValid offValid, fun sized rendered => ?_⟩
    refine ⟨_, render_eq_ok grid onValid offValid faithful positive rendered, ?_, ?_⟩
    · intro x y column row across down
      exact components_get_magnify grid onValid offValid across down
    · intro distinct
      exact sampled_magnify grid onValid offValid distinct positive
  · intro first second firstPositive secondPositive sized product rendered renderedProduct
    have positive := Nat.mul_pos firstPositive secondPositive
    rw [render_eq_ok grid onValid offValid faithful firstPositive rendered,
      render_eq_ok grid onValid offValid faithful positive renderedProduct, Sized.magnify_magnify]

/-- A lit cell in the second column of the first row. -/
def lamp : Grid 3 2 := (Grid.blank 3 2).set 1 0 true

/-- The grid is neither square nor symmetric.  It is rendered at twice three times its size, by a
library that has room for just so many pixels. -/
theorem rendering_magnifies_exactly_lamp :
    ∃ (image : Image 18 12) (sized : Sized),
      render (.byCentres (some 216)) lamp 6 [0, 100, 0] [0, 0, 0] = .ok ⟨18, 12, image⟩ ∧
        (image.get 6 5).components = [0, 100, 0] ∧ (image.get 5 6).components = [0, 0, 0] ∧
        image.sampled (show 0 < 6 by decide) ⟨0, 100, 0⟩ = lamp ∧
        render (.byCentres (some 216)) lamp 2 [0, 100, 0] [0, 0, 0] = .ok sized ∧
          sized.magnify 3 = ⟨18, 12, image⟩ := by
  have valid : (⟨0, 100, 0⟩ : Color).Valid ∧ (⟨0, 0, 0⟩ : Color).Valid := by decide
  obtain ⟨zooms, products⟩ :=
    rendering_magnifies_exactly _ (Imaging.byCentres_faithful (some 216)) lamp ⟨0, 100, 0⟩ ⟨0, 0, 0⟩
      valid.1 valid.2
  have rendered : render (.byCentres (some 216)) lamp 2 [0, 100, 0] [0, 0, 0] = .ok ⟨6, 4, _⟩ := rfl
  have product : render (.byCentres (some 216)) lamp 6 [0, 100, 0] [0, 0, 0] = .ok ⟨18, 12, _⟩ :=
    rfl
  obtain ⟨image, same, pixels, recovered⟩ := (zooms 6 (by decide)).2 _ product
  refine ⟨image, _, product.trans (congrArg Except.ok same), pixels 6 5 1 0 rfl rfl,
    pixels 5 6 0 1 rfl rfl, recovered (by decide), rendered, ?_⟩
  exact (products 2 3 (by decide) (by decide) _ _ rendered product).symm.trans same

/-- However much room there is, at some zooms there is no image of the size that is asked for. -/
theorem huge_zoom_not_rendered :
    (⟨0, 100, 0⟩ : Color).Valid ∧ (⟨0, 0, 0⟩ : Color).Valid ∧
      ¬ ∃ sized, render (.byCentres none) (Grid.ofFn fun x y => decide (x = y) : Grid 2 2)
        2147483648 [0, 100, 0] [0, 0, 0] = .ok sized := by
  refine ⟨by decide, by decide, ?_⟩
  rintro ⟨sized, rendered⟩
  have refused : render (.byCentres none) (Grid.ofFn fun x y => decide (x = y) : Grid 2 2)
      2147483648 [0, 100, 0] [0, 0, 0] = .error (.imaging .beyondInteger) := rfl
  rw [refused] at rendered
  cases rendered

end Image

end ChipEight
