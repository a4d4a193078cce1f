import ChipEight.Monitor.Block

/-!
# Images under the monitor

Grid, zoom and colours are given as values.  Zoom one leaves the image as it is, whatever kind of
number it is; any other zoom has to be a whole number.  A colour is a table that is stretched over
the cells of the image and their three channels.
-/

namespace ChipEight.Monitor

/-! ## Grids -/

/-- Whether a value is the digit one. -/
def isOne : Json → Bool
  | .str ⟨[.char '1']⟩ => true
  | _ => false

/-- The rows of bits that a value stands for.  They have to be equally long. -/
def bitRows (value : Json) : Except Refusal (List (List Bool)) := do
  let rows ← (← items value).mapM fun row => return (← items row).map isOne
  let lengths := rows.map List.length
  if lengths.all fun length => lengths.head? == some length then return rows
  else unfit (.ragged [rows.length])

/-- The grid with rows of a width. -/
def gridOf (width : Nat) (rows : List (List Bool)) : Grid width rows.length :=
  let table := (rows.map List.toArray).toArray
  Grid.ofFn fun x y => ((table[y.val]?.bind fun row => row[x.val]?).getD false)

/-! ## Colours -/

/-- A component of a colour.  A whole number has to be a byte; of any other number only the low
eight bits count. -/
def component (value : Json) : Except Refusal UInt8 :=
  match whole? value with
  | some n =>
      if n < 0 ∨ 255 < n then .error (.render (.componentOutOfRange n)) else .ok (UInt8.ofInt n)
  | none =>
      match value.toInt with
      | .ok n => if Word.fits n then .ok (UInt8.ofInt n) else .error (.render .beyondWord)
      | .error failure => .error (.number failure)

/-- The components of a colour. -/
def tint (value : Json) : Except Refusal (Block UInt8) := do
  let block ← Block.ofJson value
  return ⟨block.shape, ← block.cells.mapM component⟩

/-- Fail unless a colour can be stretched to a shape. -/
def checkTint (color : Block UInt8) (shape : List Nat) : Except Refusal Unit :=
  if Block.stretches color.shape shape then .ok () else .error (.render .badShape)

/-- The colour at a place in front of the channels. -/
def tintAt (color : Block UInt8) (place : List Nat) : Rgb :=
  let channel (n : Nat) : UInt8 := (color.cellAt? (place ++ [n])).getD 0
  ⟨channel 0, channel 1, channel 2⟩

/-! ## Rendering -/

/-- An image, and whether it is a grey one. -/
structure Rendering where
  sized : Image.Sized
  grey : Bool

/-- How many set bits stand before each bit. -/
def ranks (bits : List Bool) : Array Nat :=
  (bits.foldl (fun (found, list) bit => (found + bit.toNat, list.push found))
    ((0, #[]) : Nat × Array Nat)).2

/-- The colours of the cells of a grid.  A colour of one dimension is that of all cells; of others
each dark cell takes the part at its place, and each lit one the part of its rank. -/
def colored {width height : Nat} (grid : Grid width height) (on off : Block UInt8) :
    Image width height :=
  if on.shape.length ≤ 1 ∧ off.shape.length ≤ 1 then
    Image.ofGrid grid (tintAt on []) (tintAt off [])
  else
    let order := ranks grid.toLists.flatten
    Image.ofFn fun x y =>
      if grid.get x y then tintAt on [order[y.val * width + x.val]?.getD 0]
      else tintAt off [y.val, x.val]

/-- The image of an array of colours, magnified by a zoom. -/
def magnified (imaging : Imaging) {width height : Nat} (colors : Image width height)
    (zoom : Json) : Except Refusal Image.Sized := do
  let factor ← if zoom.equalsInt 1 then .ok 1 else integer zoom
  (imaging.magnified colors factor.toNat).mapError fun failure => .render (.imaging failure)

/-- Render rows of bits.  The zoom is checked before the colours, the colour of dark cells before
the colour of lit ones, even if no cell is lit, and the imaging library comes last.  Without rows
there is only the row of the three channels. -/
def render (imaging : Imaging) (rows : List (List Bool)) (zoom on off : Json) :
    Except Refusal Rendering := do
  if ← below zoom 1 then unfit (.zoomTooSmall zoom.plainText)
  else
    let width := (rows.head?.getD []).length
    let lit := rows.flatten.count true
    let offTint ← tint off
    checkTint offTint (if rows.isEmpty then [0, 3] else [rows.length, width, 3])
    let onTint ← tint on
    checkTint onTint [lit, 3]
    if rows.isEmpty then
      if zoom.equalsInt 1 then return ⟨⟨3, 0, Image.ofFn fun _ _ => ⟨0, 0, 0⟩⟩, true⟩
      else unfit .flatImage
    else
      let sized ← magnified imaging (colored (gridOf width rows) onTint offTint) zoom
      return ⟨sized, false⟩

end ChipEight.Monitor
