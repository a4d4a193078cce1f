import ChipEight.Device.Grid
import ChipEight.Number.Word

/-!
# Screen

A one-bit display.  A sprite is combined with the picture by exclusive or, and its cells wrap
around the edges.  A pixel that a sprite erases stays lit until the next draw: it is pending, and
the flush at the start of that draw puts it out.  The redraw flag says that the visible grid may
have changed since the flag was last taken.
-/

namespace ChipEight

/-- The visible grid, the cells that the next flush clears, and the redraw flag. -/
structure Screen (width height : Nat) where
  lit : Grid width height
  pending : Grid width height
  redraw : Bool
deriving DecidableEq

/-- A cell of the screen under a sprite bit, with the bit there before and after the draw. -/
structure Touch (width height : Nat) where
  x : Fin width
  y : Fin height
  old : Bool
  new : Bool

/-- Why the grid has no cell for a coordinate or a sprite. -/
inductive CellError where
  /-- An index outside an axis, 0 for rows and 1 for columns, of the given size. -/
  | outside (index : Int) (axis size : Nat)
  /-- A number that no word holds. -/
  | beyondWord
  /-- An index that no word holds, with or without sign. -/
  | noIndex
deriving DecidableEq

/-- The error in words. -/
def CellError.message : CellError → String
  | .outside index axis size =>
      s!"index {index} is out of bounds for axis {axis} with size {size}"
  | .beyondWord => Word.tooLarge
  | .noIndex =>
      "only integers, slices (`:`), ellipsis (`...`), numpy.newaxis (`None`) and integer or " ++
        "boolean arrays are valid indices"

/-- An integer coordinate modulo the extent of its axis, never negative. -/
def wrap (extent : Nat) (positive : 0 < extent) (coordinate : Int) : Fin extent :=
  ⟨(coordinate % extent).toNat, by
    have lower := Int.emod_nonneg coordinate (Int.ne_of_gt (Int.natCast_pos.mpr positive))
    have upper := Int.emod_lt_of_pos coordinate (Int.natCast_pos.mpr positive)
    omega⟩

namespace Screen

variable {width height : Nat}

/-- A dark screen that asks to be drawn. -/
def initial (width height : Nat) : Screen width height :=
  { lit := Grid.blank width height, pending := Grid.blank width height, redraw := true }

/-- Put out every pixel, pending or not.  The flag rises only if a pixel was lit. -/
def clear (screen : Screen width height) : Screen width height :=
  { lit := Grid.blank width height
    pending := Grid.blank width height
    redraw := screen.redraw || screen.lit.any }

/-- Put out the pending pixels.  The flag rises only if one of them was lit. -/
def flush (screen : Screen width height) : Screen width height :=
  if screen.pending.any then
    { lit := screen.lit.without screen.pending
      pending := Grid.blank width height
      redraw := screen.redraw || (screen.lit.both screen.pending).any }
  else screen

/-- The cells under a sprite, row by row and from left to right, where its columns and rows fall on
the given ones.  All old bits are those of the grid before the draw, also when the sprite covers a
cell more than once. -/
def touches (grid : Grid width height) (columnOf : Nat → Fin width) (rowOf : Nat → Fin height)
    (sprite : List UInt8) : List (Touch width height) :=
  sprite.zipIdx.flatMap fun (byte, row) =>
    (unpackByte byte).zipIdx.map fun (bit, column) =>
      let x := columnOf column
      let y := rowOf row
      { x := x, y := y, old := grid.get x y, new := grid.get x y != bit }

/-- Write a bit into every touched cell, in order: of several writes to a cell the last stays. -/
def writeAll (grid : Grid width height) (bit : Touch width height → Bool)
    (cells : List (Touch width height)) : Grid width height :=
  cells.foldl (fun picture cell => picture.set cell.x cell.y (bit cell)) grid

/-- Flush, then draw a sprite, one byte a row, whose columns and rows fall on the given ones.  Lit
pixels show at once and erased ones stay lit, pending.  The result says whether some pixel went
from on to off. -/
def stamp (screen : Screen width height) (columnOf : Nat → Fin width)
    (rowOf : Nat → Fin height) (sprite : List UInt8) : Screen width height × Bool :=
  let flushed := screen.flush
  let cells := touches flushed.lit columnOf rowOf sprite
  ({ lit := writeAll flushed.lit (fun cell => cell.old || cell.new) cells
     pending := writeAll flushed.pending (fun cell => !cell.new) cells
     redraw := flushed.redraw || cells.any fun cell => cell.old != cell.new },
    cells.any fun cell => cell.old && !cell.new)

/-- Flush, then draw a sprite from a column and a row on, around the edges of the grid. -/
def draw (screen : Screen width height) (columns : 0 < width) (rows : 0 < height)
    (startX startY : Int) (sprite : List UInt8) : Screen width height × Bool :=
  screen.stamp (fun column => wrap width columns (startX + column))
    (fun row => wrap height rows (startY + row)) sprite

/-- Draw on a grid of any extent.  The coordinates have to fit into words, and sums of them are
words.  A grid without cells takes only the empty sprite.  The flush happens in any case. -/
def drawAny (screen : Screen width height) (startX startY : Int) (sprite : List UInt8) :
    Screen width height × Except CellError Bool :=
  if sprite.isEmpty then (screen.flush, .ok false)
  else if !Word.fits startX || !Word.fits startY then (screen.flush, .error .beyondWord)
  else if rows : 0 < height then
    if columns : 0 < width then
      let (drawn, collided) :=
        screen.stamp (fun column => wrap width columns (Word.wrap (startX + column)))
          (fun row => wrap height rows (Word.wrap (startY + row))) sprite
      (drawn, .ok collided)
    else (screen.flush, .error (.outside 0 1 0))
  else (screen.flush, .error (.outside 0 0 0))

/-- The redraw flag, and the screen with the flag taken down. -/
def takeRedraw (screen : Screen width height) : Bool × Screen width height :=
  (screen.redraw, { screen with redraw := false })

/-- The index into an axis, where a negative index counts from the end. -/
def cellIndex (axis size : Nat) (index : Int) : Except CellError (Fin size) :=
  if inside : 0 ≤ index ∧ index < size then
    .ok ⟨index.toNat, by omega⟩
  else if fromEnd : -(size : Int) ≤ index ∧ index < 0 then
    .ok ⟨(index + size).toNat, by omega⟩
  else .error (.outside index axis size)

/-- Fail unless a number can be an index at all. -/
def checkIndex (index : Int) : Except CellError Unit :=
  if Word.fits index then .ok ()
  else if 0 ≤ index ∧ index < Word.modulus then .error .beyondWord
  else .error .noIndex

/-- The visible bit at a column and a row; the row is checked first. -/
def pixel (screen : Screen width height) (x y : Int) : Except CellError Bool := do
  checkIndex y
  checkIndex x
  let row ← cellIndex 0 height y
  let column ← cellIndex 1 width x
  return screen.lit.get column row

end Screen

end ChipEight
