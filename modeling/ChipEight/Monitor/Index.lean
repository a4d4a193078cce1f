import ChipEight.Device.Screen
import ChipEight.Monitor.Block

/-!
# Indices

What a value picks along the axes of a grid.  A whole number picks one place of an axis, a list of
whole numbers several places, and a list of truth values the places where it is true.  A single
truth value picks everything or nothing without using up an axis, and null picks everything.
-/

namespace ChipEight.Monitor

/-- A part of an index. -/
inductive Pick where
  /-- One place of an axis. -/
  | place (index : Int)
  /-- Places of an axis, in a shape.  For those of a mask its size along the axis is known. -/
  | places (shape : List Nat) (indices : List Int) (maskSize : Option Nat)
  /-- Everything, or nothing, of no axis. -/
  | all (present : Bool)

namespace Pick

/-- The truth values that cells are, if they are nothing else. -/
def truths? (cells : List Json) : Option (List Bool) :=
  cells.mapM fun cell =>
    match cell with
    | .bool truth => some truth
    | _ => none

/-- The words that cells are: if all of them fit into words, or if none is negative and the low
bits of each make a word. -/
def words? (cells : List Json) : Option (List Int) := do
  let numbers ← cells.mapM whole?
  if numbers.all fun n => Word.fits n then return numbers
  else if numbers.all fun n => decide (0 ≤ n ∧ n < Word.modulus) then
    return numbers.map Word.wrap
  else none

/-- The place in a table of a shape at which a cell with a number stands. -/
def placeOf : List Nat → Nat → List Nat
  | [], _ => []
  | _ :: shape, number =>
      number / Block.volume shape :: placeOf shape (number % Block.volume shape)

/-- The picks of a mask, one for each of its dimensions. -/
def ofMask (shape : List Nat) (truths : List Bool) : List Pick :=
  let found := (truths.zipIdx.filter fun entry => entry.1).map fun entry => placeOf shape entry.2
  shape.zipIdx.map fun (size, axis) =>
    .places [found.length] (found.map fun place => (place[axis]?.getD 0 : Nat)) (some size)

/-- The picks of a table. -/
def ofBlock (block : Block Json) : Except Refusal (List Pick) :=
  if block.cells.isEmpty then .ok [.places block.shape [] none]
  else
    match truths? block.cells, words? block.cells with
    | some truths, _ => .ok (ofMask block.shape truths)
    | none, some words => .ok [.places block.shape words none]
    | none, none => .error (.cell .noIndex)

/-- What a value picks, if it can be an index at all. -/
def ofJson (value : Json) : Except Refusal (List Pick) :=
  match value with
  | .int n => ((Screen.checkIndex n).map fun _ => [.place n]).mapError .cell
  | .bool truth => .ok [.all truth]
  | .null => .ok []
  | .arr _ => do ofBlock (← Block.ofJson value)
  | _ => .error (.cell .noIndex)

/-- Whether a pick uses up an axis. -/
def isAxial : Pick → Bool
  | .all _ => false
  | _ => true

/-- The shape of a pick, unless it is a single place. -/
def shape? : Pick → Option (List Nat)
  | .place _ => none
  | .places shape _ _ => some shape
  | .all present => some [present.toNat]

end Pick

/-! ## Axes -/

/-- A pick along an axis with its number and its size. -/
structure AxisPick where
  axis : Nat
  size : Nat
  pick : Pick

namespace AxisPick

/-- Fail unless a mask is as large as the axis. -/
def checkMask (entry : AxisPick) : Except Refusal Unit :=
  match entry.pick with
  | .places _ _ (some given) =>
      if given = entry.size then .ok ()
      else .error (.misplaced (.unlikeMask entry.axis entry.size given))
  | _ => .ok ()

/-- Fail unless a single place lies on the axis. -/
def checkPlace (entry : AxisPick) : Except Refusal Unit :=
  match entry.pick with
  | .place index =>
      ((Screen.cellIndex entry.axis entry.size index).map fun _ => ()).mapError .cell
  | _ => .ok ()

/-- Fail unless several places lie on the axis. -/
def checkPlaces (entry : AxisPick) : Except Refusal Unit :=
  match entry.pick with
  | .places _ indices _ =>
      indices.forM fun index =>
        ((Screen.cellIndex entry.axis entry.size index).map fun _ => ()).mapError .cell
  | _ => .ok ()

/-- The one place of the axis that is picked, if it is one. -/
def sole? (entry : AxisPick) : Option Nat :=
  let index? := match entry.pick with
    | .place index => some index
    | .places _ [index] _ => some index
    | _ => none
  index?.bind fun index =>
    (Screen.cellIndex entry.axis entry.size index).toOption.map Fin.val

end AxisPick

/-- The picks along the axes of a grid, as far as there are axes. -/
def axisPicks (sizes : List Nat) (picks : List Pick) : List AxisPick :=
  ((picks.filter Pick.isAxial).zip sizes.zipIdx).map fun (pick, size, axis) => ⟨axis, size, pick⟩

/-- The shape to which shapes can be stretched. -/
def commonShape (shapes : List (List Nat)) : Except Refusal (List Nat) :=
  match shapes.foldlM Block.fitShapes [] with
  | some shape => .ok shape
  | none => .error (.misplaced (.unlikeIndices shapes))

/-- What an index comes to: the number of cells for each place of the axes that are not picked
from, and what is picked along the others. -/
structure Selection where
  count : Nat
  along : List AxisPick

/-- The selection of an index from axes of the given sizes.  Masks are checked first, then single
places, then the shapes, and the places of lists last, if there is any cell to pick at all. -/
def select (sizes : List Nat) (picks : List Pick) : Except Refusal Selection := do
  let used := (picks.filter Pick.isAxial).length
  if sizes.length < used then .error (.misplaced (.tooManyAxes used))
  else
    let along := axisPicks sizes picks
    along.forM AxisPick.checkMask
    along.forM AxisPick.checkPlace
    let shape ← commonShape (picks.filterMap Pick.shape?)
    let count := Block.volume shape
    if 0 < count then along.forM AxisPick.checkPlaces
    return ⟨count, along⟩

end ChipEight.Monitor
