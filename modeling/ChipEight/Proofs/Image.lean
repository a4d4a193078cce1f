import ChipEight.Image
import ChipEight.Proofs.Settings.Fields

/-!
# Rendering with checked settings

The zoom and the colours of checked settings are never a reason not to render a grid.  What is left
is the imaging library: a grid is rendered exactly if the library makes the image.
-/

namespace ChipEight

/-- A colour of bytes as a colour of an image. -/
def Color.rgb (color : Color) : Rgb :=
  ⟨UInt8.ofInt color.red, UInt8.ofInt color.green, UInt8.ofInt color.blue⟩

theorem Rgb.ofComponents_of_valid {color : Color} (valid : color.Valid) :
    Rgb.ofComponents color.components = .ok color.rgb := by
  have inside : color.components.find?
      (fun component => decide (component < 0 ∨ 255 < component)) = none := by
    rw [List.find?_eq_none]
    intro component member
    have byte := valid component member
    rw [decide_eq_true_eq]
    omega
  rw [Rgb.ofComponents, inside]
  rfl

namespace Imaging

variable {width height : Nat}

/-- The library makes the image of an array and, unless the zoom is one, magnifies it. -/
def Makes (imaging : Imaging) (colors : Image width height) (zoom : Nat) : Prop :=
  ∃ image, imaging.fromArray colors = .ok image ∧
    (zoom = 1 ∨ (imaging.resize image (width * zoom) (height * zoom)).isOk)

theorem isOk_magnified_iff (imaging : Imaging) (colors : Image width height) (zoom : Nat) :
    (imaging.magnified colors zoom).isOk ↔ imaging.Makes colors zoom := by
  unfold magnified Makes
  cases imaging.fromArray colors with
  | error failure => simp [Except.isOk, Except.toBool]
  | ok image =>
      by_cases plain : zoom = 1
      · simp [plain, Except.isOk, Except.toBool]
      · cases scaled : imaging.resize image (width * zoom) (height * zoom) <;>
          simp [plain, scaled, Except.isOk, Except.toBool]

end Imaging

namespace ImagingError

variable {α : Type} {made : Except ImagingError α}

theorem isOk_mapError_imaging : (made.mapError RenderError.imaging).isOk = made.isOk := by
  cases made <;> rfl

theorem mapError_imaging_eq_ok_iff {image : α} :
    made.mapError RenderError.imaging = .ok image ↔ made = .ok image := by
  constructor
  · intro same
    cases made with
    | error failure => cases same
    | ok other =>
        cases same
        rfl
  · rintro rfl
    rfl

end ImagingError

namespace Image

variable {width height : Nat} (imaging : Imaging) (grid : Grid width height) {zoom : Int}
  (positive : 1 ≤ zoom) {on off : Color} (onValid : on.Valid) (offValid : off.Valid)
include positive onValid offValid

/-- With a positive zoom and colours of bytes, rendering comes down to what the library does. -/
theorem render_of_valid :
    render imaging grid zoom on.components off.components =
      (imaging.magnified (ofGrid grid on.rgb off.rgb) zoom.toNat).mapError .imaging := by
  simp only [render, if_neg (Int.not_lt.mpr positive), Rgb.ofComponents_of_valid onValid,
    Rgb.ofComponents_of_valid offValid]

theorem isOk_render_iff :
    (render imaging grid zoom on.components off.components).isOk ↔
      imaging.Makes (ofGrid grid on.rgb off.rgb) zoom.toNat := by
  rw [render_of_valid imaging grid positive onValid offValid, ImagingError.isOk_mapError_imaging,
    imaging.isOk_magnified_iff]

end Image

end ChipEight
