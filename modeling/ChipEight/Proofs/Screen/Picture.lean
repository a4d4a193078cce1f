import ChipEight.Proofs.Screen.Grid

/-!
# Plain pictures

The picture that a screen stands for, without deferred clearing: a sprite flips the pixels under its
set bits one after the other, around the edges, and nothing is kept back.

On a picture of at least eight columns that is as tall as the sprite no pixel is flipped twice.  The
bit of the sprite over a pixel then comes from the distance to the start of the sprite, and drawing
is the exclusive or with that bit.
-/

namespace ChipEight

/-- The distance from a start to a cell of an axis, around its end. -/
def offset {extent : Nat} (start : Int) (cell : Fin extent) : Nat :=
  (((cell.val : Int) - start) % extent).toNat

/-- A cell is reached from the start by its offset, and by no other distance within the axis. -/
theorem offset_eq_iff {extent distance : Nat} (start : Int) (cell : Fin extent)
    (within : distance < extent) :
    offset start cell = distance ↔ (cell.val : Int) = (start + distance) % extent := by
  have positive : (0 : Int) < extent := by omega
  have lower := Int.emod_nonneg ((cell.val : Int) - start) (Int.ne_of_gt positive)
  have cellSelf : (cell.val : Int) % extent = cell.val :=
    Int.emod_eq_of_lt (by omega) (by omega)
  have distanceSelf : (distance : Int) % extent = distance :=
    Int.emod_eq_of_lt (by omega) (by omega)
  constructor
  · intro reached
    have difference : ((cell.val : Int) - start) % extent = distance := by
      unfold offset at reached
      omega
    have sum : start + ((cell.val : Int) - start) = cell.val := by omega
    rw [← difference, Int.add_emod_emod, sum, cellSelf]
  · intro reached
    have sum : start + (distance : Int) - start = distance := by omega
    rw [offset, reached, Int.emod_sub_emod, sum, distanceSelf, Int.toNat_natCast]

theorem offset_lt {extent : Nat} (start : Int) (cell : Fin extent) :
    offset start cell < extent := by
  have positive : (0 : Int) < extent := Int.natCast_pos.mpr (Nat.zero_lt_of_lt cell.isLt)
  have upper := Int.emod_lt_of_pos ((cell.val : Int) - start) positive
  unfold offset
  omega

theorem offset_add_one_of_eq_zero {extent : Nat} {start : Int} {cell : Fin extent}
    (here : offset start cell = 0) : offset (start + 1) cell = extent - 1 := by
  have positive : 0 < extent := Nat.zero_lt_of_lt cell.isLt
  have reached := (offset_eq_iff start cell positive).mp here
  rw [offset_eq_iff _ _ (by omega), reached]
  have around : start + 1 + ((extent - 1 : Nat) : Int) = start + (0 : Nat) + extent := by omega
  rw [around, Int.add_emod_right]

theorem offset_add_one_of_eq_succ {extent distance : Nat} {start : Int} {cell : Fin extent}
    (further : offset start cell = distance + 1) : offset (start + 1) cell = distance := by
  have within := offset_lt start cell
  have reached := (offset_eq_iff start cell (by omega)).mp further
  rw [offset_eq_iff _ _ (by omega), reached]
  congr 1
  omega

namespace Grid

variable {width height : Nat}

/-- Flip one pixel.  The coordinates wrap around the edges. -/
def toggle (picture : Grid width height) (x y : Int) : Grid width height :=
  ofFn fun column row =>
    picture.get column row != decide ((column.val : Int) = x % width ∧ (row.val : Int) = y % height)

/-- Flip the pixels under the set ones of the first bits of a byte, the most significant first. -/
def toggleBits (picture : Grid width height) (x y : Int) (byte : UInt8) :
    Nat → Grid width height
  | 0 => picture
  | count + 1 =>
      if byte.toNat.testBit (7 - count) then
        (picture.toggleBits x y byte count).toggle (x + count) y
      else picture.toggleBits x y byte count

/-- Flip the pixels under the set bits of a sprite, one byte a row. -/
def toggleSprite (picture : Grid width height) (x y : Int) : List UInt8 → Grid width height
  | [] => picture
  | byte :: rest => (picture.toggleBits x y byte 8).toggleSprite x (y + 1) rest

/-- The bits that are set in one of two grids. -/
def either (first second : Grid width height) : Grid width height :=
  ofFn fun x y => first.get x y || second.get x y

@[simp]
theorem get_either (first second : Grid width height) (x : Fin width) (y : Fin height) :
    (first.either second).get x y = (first.get x y || second.get x y) :=
  get_ofFn _ x y

/-- The bit of a sprite over a pixel, where every pixel lies under one bit at most. -/
def shadow (sprite : List UInt8) (x y : Int) (column : Fin width) (row : Fin height) : Bool :=
  decide (offset x column < 8) &&
    (sprite.getD (offset y row) 0).toNat.testBit (7 - offset x column)

theorem get_toggle {distance : Nat} (picture : Grid width height) (x y : Int)
    (within : distance < width) (column : Fin width) (row : Fin height) :
    (picture.toggle (x + distance) y).get column row =
      (picture.get column row !=
        (decide (offset x column = distance) && decide (offset y row = 0))) := by
  have sameColumn := offset_eq_iff x column within
  have sameRow := offset_eq_iff y row (Nat.zero_lt_of_lt row.isLt)
  rw [Int.natCast_zero, Int.add_zero] at sameRow
  rw [toggle, get_ofFn, Bool.decide_and, ← decide_eq_decide.mpr sameColumn,
    ← decide_eq_decide.mpr sameRow]

theorem get_toggleBits (picture : Grid width height) (x y : Int) (byte : UInt8) {count : Nat}
    (wide : count ≤ width) (column : Fin width) (row : Fin height) :
    (picture.toggleBits x y byte count).get column row =
      (picture.get column row !=
        (decide (offset y row = 0) && (decide (offset x column < count) &&
          byte.toNat.testBit (7 - offset x column)))) := by
  induction count with
  | zero => simp [toggleBits]
  | succ count ih =>
      rw [toggleBits]
      split
      · rename_i set
        rw [get_toggle _ x y (by omega), ih (by omega)]
        by_cases here : offset x column = count
        · simp [here, set]
        · have bound : offset x column < count + 1 ↔ offset x column < count := by omega
          simp only [here, bound, decide_false, Bool.false_and, Bool.bne_false]
      · rename_i unset
        rw [ih (by omega)]
        by_cases here : offset x column = count
        · simp [here, unset]
        · have bound : offset x column < count + 1 ↔ offset x column < count := by omega
          simp only [bound]

theorem shadow_of_length_le {sprite : List UInt8} {x y : Int} {column : Fin width}
    {row : Fin height} (below : sprite.length ≤ offset y row) :
    shadow sprite x y column row = false := by
  simp [shadow, below]

/-- Drawing a sprite is the exclusive or with its shadow, where it fits. -/
theorem get_toggleSprite (picture : Grid width height) (x y : Int) (sprite : List UInt8)
    (wide : 8 ≤ width) (fits : sprite.length ≤ height) (column : Fin width) (row : Fin height) :
    (picture.toggleSprite x y sprite).get column row =
      (picture.get column row != shadow sprite x y column row) := by
  induction sprite generalizing picture y with
  | nil => simp [toggleSprite, shadow_of_length_le]
  | cons byte rest ih =>
      rw [List.length_cons] at fits
      rw [toggleSprite, ih _ _ (by omega), get_toggleBits picture x y byte wide]
      cases distance : offset y row with
      | zero =>
          -- The rest starts one row below and is too short to come around to this one.
          have around := offset_add_one_of_eq_zero distance
          rw [shadow_of_length_le (by omega), shadow, distance]
          simp
      | succ further =>
          have next := offset_add_one_of_eq_succ distance
          rw [shadow, shadow, distance, next]
          simp

end Grid

end ChipEight
