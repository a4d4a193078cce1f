import ChipEight.Device.Extent
import ChipEight.Monitor.Index

/-!
# Screen under the monitor

Coordinates are given as values.  A pixel is read at the only cell that they pick; the value of
several cells, or of none, is not defined.  A sprite is drawn from a column and a row on, or with
columns and rows from lists.
-/

namespace ChipEight.Monitor

variable {width height : Nat}

/-! ## Reading -/

/-- The places of an axis that a selection leaves: all of them if nothing is picked along it. -/
def Selection.places (selection : Selection) (axis size : Nat) : List (Fin size) :=
  match selection.along.find? fun entry => entry.axis == axis with
  | none => List.finRange size
  | some entry =>
      match entry.sole? with
      | none => []
      | some place => if inside : place < size then [⟨place, inside⟩] else []

/-- The cells of a selection of at most one cell for each of the places that it leaves. -/
def Selection.cells (selection : Selection) (grid : Grid width height) : List Bool :=
  (selection.places 0 height).flatMap fun y =>
    (selection.places 1 width).map fun x => grid.get x y

/-- The number of places that a selection leaves on an axis: one if something is picked along
it. -/
def Selection.extent (selection : Selection) (axis size : Nat) : Nat :=
  if selection.along.any fun entry => entry.axis == axis then 1 else size

/-- The visible bit at a column and a row; the row is looked at first. -/
def pixel (screen : Screen width height) (x y : Json) : Except Refusal Bool := do
  let row ← Pick.ofJson y
  let column ← Pick.ofJson x
  let selection ← select [height, width] (row ++ column)
  let count := selection.count * selection.extent 0 height * selection.extent 1 width
  if count = 0 then unfit .noCells
  else if 1 < count then unfit .manyCells
  else
    match selection.cells screen.lit with
    | [cell] => .ok cell
    | _ => unfit .noCells

/-! ## Drawing -/

/-- Coordinates to which the numbers of rows or columns have been added. -/
inductive Coordinates where
  /-- Integers in one dimension. -/
  | line (numbers : List Int)
  /-- Numbers that are no integers, in so many dimensions, or integers in more than one. -/
  | other (depth : Nat)

namespace Coordinates

/-- The number of dimensions. -/
def depth : Coordinates → Nat
  | .line _ => 1
  | .other depth => depth

/-- The letters that a cell takes among texts; none if it cannot stand there. -/
def letters? : Json → Option Nat
  | .str text => some text.points.length
  | .bool _ => some 5
  | .int n => if Word.fits n then some 21 else none
  | .float _ => some 32
  | _ => none

/-- Whether a cell is a text. -/
def isText : Json → Bool
  | .str _ => true
  | _ => false

/-- Fail unless a number can be added to a cell. -/
def checkCell (cell : Json) : Except Refusal Unit :=
  match cell.numeric? with
  | some _ => .ok ()
  | none =>
      if isText cell then mismatched (.noConcatenation "int")
      else mismatched (.operands "+" cell.kindName "int")

/-- The number of letters of a table with texts among its cells; none if there are no texts, or
if something else than texts and numbers stands beside them. -/
def textWidth? (cells : List Json) : Option Nat :=
  if cells.any isText then
    (cells.mapM letters?).map fun widths => max 1 (widths.foldl max 0)
  else none

/-- Stretch a list of one number to a length. -/
def stretch (length : Nat) (numbers : List Int) : List Int :=
  match numbers with
  | [single] => List.replicate length single
  | _ => numbers

/-- Add the numbers from zero up to `count` to a table, place by place, where a single one is
stretched. -/
def ofBlock (block : Block Json) (count : Nat) : Except Refusal Coordinates :=
  match textWidth? block.cells with
  | some letters => .error (.textAsCoordinate letters)
  | none =>
      match Block.fitShapes block.shape [count] with
      | none => unfit (.unlikeShapes block.shape [count])
      | some shape =>
          match block.cells.mapM whole?, shape with
          | some numbers, [length] =>
              if block.cells.isEmpty || !numbers.all fun n => Word.fits n then .ok (.other 1)
              else
                let steps := stretch length ((List.range count).map Int.ofNat)
                .ok (.line ((stretch length numbers).zipWith (fun n step => Word.wrap (n + step))
                  steps))
          | _, _ => do
              if 0 < Block.volume shape then block.cells.forM checkCell
              return .other shape.length

/-- Add the numbers from zero up to `count` to a value. -/
def ofJson (value : Json) (count : Nat) : Except Refusal Coordinates :=
  match value with
  | .int n => if Word.fits n then ofBlock ⟨[], [value]⟩ count else .error (.cell .beyondWord)
  | _ => do ofBlock (← Block.ofJson value) count

end Coordinates

/-- The columns and rows at which a sprite of a height is drawn; the rows are looked at first. -/
def coordinates (x y : Json) (rows : Nat) : Except Refusal (List Int × List Int) := do
  let row ← Coordinates.ofJson y rows
  let column ← Coordinates.ofJson x 8
  if row.depth ≠ 1 ∨ column.depth ≠ 1 then unfit .deepCoordinates
  else
    match row, column with
    | .line ys, .line xs => .ok (xs, ys)
    | _, _ => .error (.misplaced .brokenCoordinate)

/-- Draw the rows of a sprite at columns and rows, around the edges of the grid. -/
def drawAt (screen : Screen width height) (xs ys : List Int) (sprite : List UInt8) :
    Screen width height × Except CellError Bool :=
  if rows : 0 < height then
    if columns : 0 < width then
      let (drawn, collided) :=
        screen.stamp (fun column => wrap width columns (xs[column]?.getD 0))
          (fun row => wrap height rows (ys[row]?.getD 0)) sprite
      (drawn, .ok collided)
    else (screen.flush, .error (.outside 0 1 0))
  else (screen.flush, .error (.outside 0 0 0))

/-- Draw a sprite.  The flush happens in any case, and the empty sprite asks for no coordinates.  A
sprite of one row is drawn in every row of a list. -/
def draw (screen : Screen width height) (x y : Json) (sprite : List UInt8) :
    Screen width height × Except Refusal Bool :=
  if sprite.isEmpty then (screen.flush, .ok false)
  else
    match whole? x, whole? y with
    | some startX, some startY =>
        let (after, result) := screen.drawAny startX startY sprite
        (after, result.mapError .cell)
    | _, _ =>
        match coordinates x y sprite.length with
        | .error refusal => (screen.flush, .error refusal)
        | .ok (xs, ys) =>
            let rows := match sprite with
              | [single] => List.replicate ys.length single
              | _ => sprite
            let (after, result) := drawAt screen xs ys rows
            (after, result.mapError .cell)

/-! ## Size -/

/-- A number of columns or rows. -/
def gridSide (value : Json) : Except Refusal Int :=
  match value with
  | .int n => if Word.fits n then .ok n else .error (.extent .beyondDimension)
  | .bool _ => mismatched .truthAsSize
  | _ => mismatched (.notInteger value.kindName)

/-- The numbers of columns and rows of a grid; the rows are looked at first. -/
def gridSize (room : Nat) (width height : Json) : Except Refusal (Nat × Nat) := do
  let rows ← gridSide height
  let columns ← gridSide width
  (Extent.ofGrid room columns rows).mapError .extent

end ChipEight.Monitor
