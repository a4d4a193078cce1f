/-!
# Bit grids

A grid of `width` columns and `height` rows of bits, row by row from the top, each row from the
left.
-/

namespace ChipEight

/-- A rectangle of bits. -/
structure Grid (width height : Nat) where
  rows : Vector (Vector Bool width) height
deriving DecidableEq

namespace Grid

variable {width height : Nat}

/-- The grid with the given bit at each column and row. -/
def ofFn (bit : Fin width → Fin height → Bool) : Grid width height :=
  ⟨Vector.ofFn fun y => Vector.ofFn fun x => bit x y⟩

/-- The grid without set bits. -/
def blank (width height : Nat) : Grid width height :=
  ⟨Vector.replicate height (Vector.replicate width false)⟩

/-- The bit at a column and a row. -/
def get (grid : Grid width height) (x : Fin width) (y : Fin height) : Bool :=
  grid.rows[y][x]

/-- Replace the bit at a column and a row. -/
def set (grid : Grid width height) (x : Fin width) (y : Fin height) (bit : Bool) :
    Grid width height :=
  ⟨grid.rows.set y (grid.rows[y].set x bit)⟩

/-- The rows from the top, each from the left. -/
def toLists (grid : Grid width height) : List (List Bool) :=
  grid.rows.toList.map fun row => row.toList

/-- Whether some bit is set. -/
def any (grid : Grid width height) : Bool :=
  grid.rows.any fun row => row.any id

/-- The number of set bits. -/
def count (grid : Grid width height) : Nat :=
  grid.rows.foldl (fun total row => row.foldl (fun n bit => if bit then n + 1 else n) total) 0

/-- The bits that are set in both grids. -/
def both (first second : Grid width height) : Grid width height :=
  ofFn fun x y => first.get x y && second.get x y

/-- The bits that are set in the first grid and not in the second. -/
def without (first second : Grid width height) : Grid width height :=
  ofFn fun x y => first.get x y && !second.get x y

end Grid

/-- The byte of up to eight bits, the first one most significant; missing bits are zero. -/
def packByte (bits : List Bool) : UInt8 :=
  UInt8.ofNat (((bits ++ List.replicate (8 - bits.length) false).take 8).foldl
    (fun n bit => 2 * n + bit.toNat) 0)

/-- Bits as bytes, eight to a byte. -/
def packBits : List Bool → List UInt8
  | a :: b :: c :: d :: e :: f :: g :: h :: rest =>
      packByte [a, b, c, d, e, f, g, h] :: packBits rest
  | [] => []
  | bits => [packByte bits]

/-- The bits of a byte, the most significant first. -/
def unpackByte (byte : UInt8) : List Bool :=
  (List.range 8).map fun column => byte.toNat.testBit (7 - column)

end ChipEight
