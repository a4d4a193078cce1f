import ChipEight.Device.Grid
import ChipEight.Number.Hexadecimal
import ChipEight.Number.Word

/-!
# Images

An image is a rectangle of colours.  Rendering gives each cell of a bit grid one of two colours and
has an imaging library magnify the result.  The library is a parameter, and it may refuse.  There is
one here that gives every pixel the colour of the cell that holds its centre.
-/

namespace ChipEight

/-- A colour of an image, eight bits a channel. -/
structure Rgb where
  red : UInt8
  green : UInt8
  blue : UInt8
deriving DecidableEq

/-- The six hexadecimal digits of a colour. -/
def Rgb.hex (color : Rgb) : String :=
  Hexadecimal.dump [color.red, color.green, color.blue]

/-- A rectangle of colours, row by row from the top. -/
structure Image (width height : Nat) where
  rows : Vector (Vector Rgb width) height
deriving DecidableEq

/-- Why an imaging library refuses an image. -/
inductive ImagingError where
  | beyondWord
  | beyondInteger
  | noPixels
  | noRoom
deriving DecidableEq

/-- The refusal in words. -/
def ImagingError.message : ImagingError → String
  | .beyondWord => Word.tooLarge
  | .beyondInteger => "signed integer is greater than maximum"
  | .noPixels => "height and width must be > 0"
  | .noRoom => ""

/-- Why a grid cannot be rendered. -/
inductive RenderError where
  | zoomTooSmall (zoom : Int)
  | componentOutOfRange (component : Int)
  | badShape
  | beyondWord
  | imaging (failure : ImagingError)
deriving DecidableEq

/-- The error in words. -/
def RenderError.message : RenderError → String
  | .zoomTooSmall zoom => s!"zoom must be >= 1, got {zoom}"
  | .componentOutOfRange component =>
      s!"Python integer {component} out of bounds for uint8"
  | .badShape => "shape mismatch"
  | .beyondWord => Word.tooLarge
  | .imaging failure => failure.message

/-- A colour from a list of integers.  One component stands for all three channels. -/
def Rgb.ofComponents (components : List Int) : Except RenderError Rgb :=
  match components.find? fun component => decide (component < 0 ∨ 255 < component) with
  | some component => .error (.componentOutOfRange component)
  | none =>
      match components.map UInt8.ofInt with
      | [grey] => .ok ⟨grey, grey, grey⟩
      | [red, green, blue] => .ok ⟨red, green, blue⟩
      | _ => .error .badShape

namespace Image

variable {width height : Nat}

/-- The image with the given colour at each column and row. -/
def ofFn (color : Fin width → Fin height → Rgb) : Image width height :=
  ⟨Vector.ofFn fun y => Vector.ofFn fun x => color x y⟩

/-- The colour at a column and a row. -/
def get (image : Image width height) (x : Fin width) (y : Fin height) : Rgb :=
  (image.rows.get y).get x

/-- Two colours for the two bits of a grid. -/
def ofGrid (grid : Grid width height) (on off : Rgb) : Image width height :=
  ofFn fun x y => if grid.get x y then on else off

/-- An image together with its extent. -/
structure Sized where
  width : Nat
  height : Nat
  image : Image width height

end Image

/-! ## The imaging library -/

/-- A library that makes an image of an array of colours and scales an image to another extent. -/
structure Imaging where
  fromArray {width height : Nat} (colors : Image width height) :
    Except ImagingError (Image width height)
  resize {width height : Nat} (image : Image width height) (newWidth newHeight : Nat) :
    Except ImagingError (Image newWidth newHeight)

/-- The image of an array of colours, magnified by a zoom.  A zoom of one leaves it as it is. -/
def Imaging.magnified (imaging : Imaging) {width height : Nat} (colors : Image width height)
    (zoom : Nat) : Except ImagingError Image.Sized :=
  match imaging.fromArray colors with
  | .error failure => .error failure
  | .ok image =>
      if zoom = 1 then .ok ⟨width, height, image⟩
      else
        match imaging.resize image (width * zoom) (height * zoom) with
        | .error failure => .error failure
        | .ok resized => .ok ⟨width * zoom, height * zoom, resized⟩

namespace Image

variable {width height : Nat}

/-- Render a grid at a zoom.  The zoom is checked before the colours, the colour of dark cells
before the colour of lit ones, and the library comes last. -/
def render (imaging : Imaging) (grid : Grid width height) (zoom : Int) (on off : List Int) :
    Except RenderError Sized :=
  if zoom < 1 then .error (.zoomTooSmall zoom)
  else
    match Rgb.ofComponents off with
    | .error failure => .error failure
    | .ok offColor =>
        match Rgb.ofComponents on with
        | .error failure => .error failure
        | .ok onColor =>
            (imaging.magnified (ofGrid grid onColor offColor) zoom.toNat).mapError .imaging

/-! ## Scaling by centres -/

/-- The cell that holds the centre of a pixel, on an axis of `size` cells and `count` pixels.  In
units of which a cell has `2 * count`, a pixel has `2 * size`. -/
def centreCell {size count : Nat} (positive : 0 < size) (pixel : Fin count) : Fin size :=
  ⟨(2 * pixel.val + 1) * size / (2 * count),
    Nat.div_lt_of_lt_mul (Nat.mul_lt_mul_of_pos_right (by omega) positive)⟩

/-- An image with some cells, scaled to another extent. -/
def scaled (image : Image width height) (wide : 0 < width) (high : 0 < height)
    (newWidth newHeight : Nat) : Image newWidth newHeight :=
  ⟨Vector.ofFn fun y =>
    let row := image.rows[centreCell high y]
    Vector.ofFn fun x => row[centreCell wide x]⟩

/-- The greatest number of pixels in one direction. -/
def maxExtent : Nat := 2147483647

/-- Fail unless an image can have so many pixels in one direction. -/
def checkExtent (extent : Nat) : Except ImagingError Unit :=
  if Word.greatest < extent then .error .beyondWord
  else if maxExtent < extent then .error .beyondInteger
  else .ok ()

/-- Fail unless an image can have an extent, and no more pixels than there is room for. -/
def checkSize (room : Option Nat) (width height : Nat) : Except ImagingError Unit :=
  match checkExtent width with
  | .error failure => .error failure
  | .ok () =>
      match checkExtent height with
      | .error failure => .error failure
      | .ok () =>
          if width = 0 ∨ height = 0 then .error .noPixels
          else if room.any fun pixels => pixels < width * height then .error .noRoom
          else .ok ()

end Image

/-- The library that scales by centres.  Its images have at most `Image.maxExtent` pixels in each
direction, and at most as many in all as there is room for, if that is known. -/
def Imaging.byCentres (room : Option Nat) : Imaging where
  fromArray := .ok
  resize {width height} image newWidth newHeight :=
    match Image.checkSize room newWidth newHeight with
    | .error failure => .error failure
    | .ok () =>
        if filled : 0 < width ∧ 0 < height then
          .ok (image.scaled filled.1 filled.2 newWidth newHeight)
        else .error .noPixels

end ChipEight
