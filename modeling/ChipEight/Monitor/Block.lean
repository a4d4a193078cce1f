import ChipEight.Monitor.Operand

/-!
# Blocks

A nested list is a table of any number of dimensions if the lists at each depth are equally long.
Everything that is no list is a cell.
-/

namespace ChipEight.Monitor

/-- A table: its sizes, the outermost first, and its cells, the last dimension running fastest. -/
structure Block (α : Type) where
  shape : List Nat
  cells : List α

namespace Block

variable {α : Type}

/-- The sizes in which two shapes agree from the outermost on. -/
def common : List Nat → List Nat → List Nat
  | m :: left, n :: right => if m = n then m :: common left right else []
  | _, _ => []

/-- Put equally shaped blocks one after the other; of others only the common sizes are known. -/
def join (blocks : List (Block α)) : Except (List Nat) (Block α) :=
  match blocks with
  | [] => .ok ⟨[0], []⟩
  | first :: rest =>
      if rest.all fun block => block.shape == first.shape then
        .ok ⟨blocks.length :: first.shape, blocks.flatMap Block.cells⟩
      else
        .error (blocks.length ::
          rest.foldl (fun sizes block => common sizes block.shape) first.shape)

/-- Put the results for the items of a list together.  The sizes that are known of an item that is
no table still count. -/
def collect (results : List (Except (List Nat) (Block α))) : Except (List Nat) (Block α) :=
  match results.mapM Except.toOption with
  | some blocks => join blocks
  | none =>
      let shapes := results.map fun result =>
        match result with
        | .ok block => block.shape
        | .error shape => shape
      .error (results.length ::
        (shapes.drop 1).foldl common (shapes.head?.getD []))

mutual

/-- The table that a value is, or the sizes of the first dimensions, in which it is one. -/
def read : Json → Except (List Nat) (Block Json)
  | .arr list => collect (readAll list)
  | value => .ok ⟨[], [value]⟩

/-- The tables that the items of a list are. -/
def readAll : List Json → List (Except (List Nat) (Block Json))
  | [] => []
  | item :: rest => read item :: readAll rest

end

/-- The table that a value is. -/
def ofJson (value : Json) : Except Refusal (Block Json) :=
  (read value).mapError fun shape => .misfit (.ragged shape)

/-! ## Stretching -/

/-- The size that two sizes have in common, where a size of one is stretched. -/
def fitSize (left right : Nat) : Option Nat :=
  if left = right ∨ right = 1 then some left else if left = 1 then some right else none

/-- The shape that two shapes have in common, the innermost sizes first. -/
def fitReversed : List Nat → List Nat → Option (List Nat)
  | [], right => some right
  | left, [] => some left
  | m :: left, n :: right => do
      let size ← fitSize m n
      let sizes ← fitReversed left right
      return size :: sizes

/-- The shape to which two shapes can be stretched. -/
def fitShapes (left right : List Nat) : Option (List Nat) :=
  (fitReversed left.reverse right.reverse).map List.reverse

/-- The number of cells of a shape. -/
def volume (shape : List Nat) : Nat :=
  shape.foldl (· * ·) 1

/-- Whether a shape can be stretched to another one.  Sizes of one in front do not count. -/
def stretches (shape target : List Nat) : Bool :=
  let trimmed := (shape.take (shape.length - target.length)).all (· == 1)
  let inner := shape.drop (shape.length - target.length)
  trimmed && fitShapes inner target == some target

/-- The number of the cell at a place, both given with the innermost dimension first.  Places along
a stretched dimension do not count. -/
def cellNumber : List Nat → List Nat → Nat
  | size :: sizes, place :: places =>
      (if size = 1 then 0 else place) + size * cellNumber sizes places
  | _, _ => 0

/-- The cell at a place of the shape to which a block is stretched. -/
def cellAt? (block : Block α) (place : List Nat) : Option α :=
  block.cells[cellNumber block.shape.reverse place.reverse]?

end Block

end ChipEight.Monitor
