import ChipEight.Device.Screen
import ChipEight.Proofs.Screen.Picture

/-!
# What a draw does to each pixel

A draw writes into two grids, cell by cell in the order of the sprite.  Where the sprite fits, all
writes to a cell agree, so the two grids after the draw are known pixel by pixel: from the flushed
picture before it and from the shadow of the sprite.
-/

namespace ChipEight

theorem wrap_eq_iff_offset {extent distance : Nat} (positive : 0 < extent) (start : Int)
    (within : distance < extent) (cell : Fin extent) :
    wrap extent positive (start + distance) = cell ↔ offset start cell = distance := by
  have lower := Int.emod_nonneg (start + distance) (Int.ne_of_gt (Int.natCast_pos.mpr positive))
  rw [offset_eq_iff start cell within, Fin.ext_iff]
  simp only [wrap]
  omega

namespace Screen

variable {width height : Nat}

/-! ## Flushing -/

/-- The picture that a screen stands for: the lit pixels that the next flush leaves alone. -/
def image (screen : Screen width height) : Grid width height :=
  screen.lit.without screen.pending

theorem flush_lit (screen : Screen width height) : screen.flush.lit = screen.image := by
  unfold flush
  split
  · rfl
  · rename_i settled
    rw [image, Grid.eq_blank_of_any_eq_false (Bool.eq_false_iff.mpr settled)]
    ext x y
    simp

theorem flush_pending (screen : Screen width height) :
    screen.flush.pending = Grid.blank width height := by
  unfold flush
  split
  · rfl
  · rename_i settled
    exact Grid.eq_blank_of_any_eq_false (Bool.eq_false_iff.mpr settled)

/-! ## The cells under a sprite -/

/-- If all writes to a cell write the same bit, then it holds that bit afterwards. -/
theorem get_writeAll (grid : Grid width height) (bit : Touch width height → Bool)
    (value : Fin width → Fin height → Bool) (cells : List (Touch width height))
    (agree : ∀ cell ∈ cells, bit cell = value cell.x cell.y) (x : Fin width) (y : Fin height) :
    (writeAll grid bit cells).get x y =
      if ∃ cell ∈ cells, cell.x = x ∧ cell.y = y then value x y else grid.get x y := by
  induction cells generalizing grid with
  | nil => simp [writeAll]
  | cons first rest ih =>
      have writes : writeAll grid bit (first :: rest) =
          writeAll (grid.set first.x first.y (bit first)) bit rest := rfl
      rw [writes, ih _ fun cell member => agree cell (List.mem_cons_of_mem first member),
        Grid.get_set, agree first List.mem_cons_self]
      by_cases later : ∃ cell ∈ rest, cell.x = x ∧ cell.y = y
      · obtain ⟨cell, member, place⟩ := later
        rw [if_pos ⟨cell, member, place⟩,
          if_pos ⟨cell, List.mem_cons_of_mem first member, place⟩]
      · rw [if_neg later]
        by_cases here : first.x = x ∧ first.y = y
        · rw [if_pos here, if_pos ⟨first, List.mem_cons_self, here⟩, here.1, here.2]
        · rw [if_neg here, if_neg]
          rintro ⟨cell, member, place⟩
          rcases List.mem_cons.mp member with rfl | member
          · exact here place
          · exact later ⟨cell, member, place⟩

/-- The touch of a sprite bit at a column and a row. -/
def touchAt (grid : Grid width height) (x : Fin width) (y : Fin height) (bit : Bool) :
    Touch width height :=
  { x := x, y := y, old := grid.get x y, new := grid.get x y != bit }

theorem mem_touches_iff (grid : Grid width height) (columnOf : Nat → Fin width)
    (rowOf : Nat → Fin height) (sprite : List UInt8) (touch : Touch width height) :
    touch ∈ touches grid columnOf rowOf sprite ↔
      ∃ row byte, sprite[row]? = some byte ∧ ∃ column < 8,
        touch = touchAt grid (columnOf column) (rowOf row) (byte.toNat.testBit (7 - column)) := by
  simp only [touches, List.mem_flatMap, List.mem_map, Prod.exists,
    List.mem_zipIdx_iff_getElem?, touchAt]
  constructor
  · rintro ⟨byte, row, there, bit, column, inByte, rfl⟩
    obtain ⟨within, rfl⟩ := List.getElem?_eq_some_iff.mp inByte
    have bound : column < 8 := by simpa [unpackByte] using within
    exact ⟨row, byte, there, column, bound, by simp [unpackByte]⟩
  · rintro ⟨row, byte, there, column, bound, rfl⟩
    exact ⟨byte, row, there, _, column, by simp [unpackByte, bound], rfl⟩

/-- A sprite that starts at a column and a row covers a cell, lit or not. -/
def Covers (sprite : List UInt8) (startX startY : Int) (x : Fin width) (y : Fin height) : Prop :=
  offset startX x < 8 ∧ offset startY y < sprite.length
deriving Decidable

theorem not_shadow_of_not_covers {sprite : List UInt8} {startX startY : Int} {x : Fin width}
    {y : Fin height} (clear : ¬ Covers sprite startX startY x y) :
    Grid.shadow sprite startX startY x y = false := by
  by_cases short : offset startY y < sprite.length
  · have beyond : ¬ offset startX x < 8 := fun within => clear ⟨within, short⟩
    simp [Grid.shadow, beyond]
  · exact Grid.shadow_of_length_le (Nat.le_of_not_lt short)

section Fitting

variable {sprite : List UInt8} (columns : 0 < width) (rows : 0 < height) (wide : 8 ≤ width)
  (fits : sprite.length ≤ height) (startX startY : Int)

include wide fits

/-- Where a sprite fits, it touches each cell that it covers once, with its shadow there. -/
theorem mem_touches_wrap_iff (grid : Grid width height) (touch : Touch width height) :
    touch ∈ touches grid (fun column => wrap width columns (startX + column))
        (fun row => wrap height rows (startY + row)) sprite ↔
      Covers sprite startX startY touch.x touch.y ∧
        touch = touchAt grid touch.x touch.y
          (Grid.shadow sprite startX startY touch.x touch.y) := by
  rw [mem_touches_iff]
  constructor
  · rintro ⟨row, byte, there, column, bound, rfl⟩
    obtain ⟨within, rfl⟩ := List.getElem?_eq_some_iff.mp there
    have sameColumn :=
      (wrap_eq_iff_offset columns startX (Nat.lt_of_lt_of_le bound wide) _).mp rfl
    have sameRow :=
      (wrap_eq_iff_offset rows startY (Nat.lt_of_lt_of_le within fits) _).mp rfl
    refine ⟨⟨sameColumn.symm ▸ bound, sameRow.symm ▸ within⟩, ?_⟩
    simp [touchAt, Grid.shadow, sameColumn, sameRow, within, bound]
  · rintro ⟨⟨bound, within⟩, same⟩
    have sameColumn :=
      (wrap_eq_iff_offset columns startX (Nat.lt_of_lt_of_le bound wide) touch.x).mpr rfl
    have sameRow :=
      (wrap_eq_iff_offset rows startY (Nat.lt_of_lt_of_le within fits) touch.y).mpr rfl
    refine ⟨offset startY touch.y, _, List.getElem?_eq_getElem within, offset startX touch.x,
      bound, ?_⟩
    rw [sameColumn, sameRow]
    simpa [Grid.shadow, within, bound] using same

/-- A cell is touched exactly if the sprite covers it. -/
theorem touches_wrap_iff (grid : Grid width height) (x : Fin width) (y : Fin height) :
    (∃ touch ∈ touches grid (fun column => wrap width columns (startX + column))
        (fun row => wrap height rows (startY + row)) sprite, touch.x = x ∧ touch.y = y) ↔
      Covers sprite startX startY x y := by
  constructor
  · rintro ⟨touch, member, rfl, rfl⟩
    exact ((mem_touches_wrap_iff columns rows wide fits startX startY grid touch).mp member).1
  · intro covers
    exact ⟨touchAt grid x y (Grid.shadow sprite startX startY x y),
      (mem_touches_wrap_iff columns rows wide fits startX startY grid _).mpr ⟨covers, rfl⟩,
      rfl, rfl⟩

/-- What the writes to one grid, with bits from another, leave at a cell. -/
theorem get_writeAll_touches (source target : Grid width height)
    (bit : Touch width height → Bool) (x : Fin width) (y : Fin height) :
    (writeAll target bit (touches source (fun column => wrap width columns (startX + column))
        (fun row => wrap height rows (startY + row)) sprite)).get x y =
      if Covers sprite startX startY x y then
        bit (touchAt source x y (Grid.shadow sprite startX startY x y))
      else target.get x y := by
  have touched := touches_wrap_iff columns rows wide fits startX startY source x y
  rw [get_writeAll _ _ fun x y => bit (touchAt source x y (Grid.shadow sprite startX startY x y))]
  · by_cases covers : Covers sprite startX startY x y
    · rw [if_pos (touched.mpr covers), if_pos covers]
    · rw [if_neg (mt touched.mp covers), if_neg covers]
  · intro touch member
    exact congrArg bit
      ((mem_touches_wrap_iff columns rows wide fits startX startY source touch).mp member).2

/-- What is lit after a draw: the flushed picture and the sprite, one over the other. -/
theorem draw_lit_get (screen : Screen width height) (x : Fin width) (y : Fin height) :
    (screen.draw columns rows startX startY sprite).1.lit.get x y =
      (screen.image.get x y || Grid.shadow sprite startX startY x y) := by
  simp only [draw, stamp, flush_lit]
  rw [get_writeAll_touches columns rows wide fits]
  split
  · simp only [touchAt]
    cases screen.image.get x y <;> simp
  · rename_i clear
    rw [not_shadow_of_not_covers clear, Bool.or_false]

/-- What the flush after a draw puts out: every covered pixel that the draw leaves dark. -/
theorem draw_pending_get (screen : Screen width height) (x : Fin width) (y : Fin height) :
    (screen.draw columns rows startX startY sprite).1.pending.get x y = true ↔
      Covers sprite startX startY x y ∧
        screen.image.get x y = Grid.shadow sprite startX startY x y := by
  simp only [draw, stamp, flush_lit, flush_pending]
  rw [get_writeAll_touches columns rows wide fits]
  split
  · rename_i covers
    simp [touchAt, covers]
  · rename_i clear
    simp [clear]

/-- A draw erases something exactly if a set bit of the sprite meets a pixel of the picture. -/
theorem draw_collides_iff (screen : Screen width height) :
    (screen.draw columns rows startX startY sprite).2 = true ↔
      ∃ x y, screen.image.get x y = true ∧ Grid.shadow sprite startX startY x y = true := by
  simp only [draw, stamp, flush_lit, List.any_eq_true]
  constructor
  · rintro ⟨touch, member, erased⟩
    have same := ((mem_touches_wrap_iff columns rows wide fits startX startY _ touch).mp member).2
    rw [same] at erased
    obtain ⟨lit, dark⟩ : screen.image.get touch.x touch.y = true ∧
        screen.image.get touch.x touch.y = Grid.shadow sprite startX startY touch.x touch.y := by
      simpa [touchAt] using erased
    exact ⟨touch.x, touch.y, lit, dark ▸ lit⟩
  · rintro ⟨x, y, lit, set⟩
    have covers : Covers sprite startX startY x y := by
      apply Decidable.byContradiction
      intro clear
      rw [not_shadow_of_not_covers clear] at set
      cases set
    refine ⟨touchAt screen.image x y (Grid.shadow sprite startX startY x y),
      (mem_touches_wrap_iff columns rows wide fits startX startY _ _).mpr ⟨covers, rfl⟩, ?_⟩
    simp [touchAt, lit, set]

end Fitting

/-! ## Coordinates as words -/

theorem word_wrap_of_fits {n : Int} (fits : Word.fits n = true) : Word.wrap n = n := by
  simp only [Word.fits, Bool.and_eq_true, decide_eq_true_eq] at fits
  unfold Word.greatest at fits
  exact Int.bmod_eq_of_le (by simp only [Word.modulus]; omega) (by simp only [Word.modulus]; omega)

theorem fits_of_between {first last n : Int} (lower : Word.fits first = true)
    (upper : Word.fits last = true) (above : first ≤ n) (below : n ≤ last) :
    Word.fits n = true := by
  simp only [Word.fits, Bool.and_eq_true, decide_eq_true_eq] at lower upper ⊢
  omega

/-- The cells under a sprite depend on where its own columns and rows fall, and on no others. -/
theorem touches_congr (grid : Grid width height) {columnOf columnOf' : Nat → Fin width}
    {rowOf rowOf' : Nat → Fin height} {sprite : List UInt8}
    (columns : ∀ column < 8, columnOf column = columnOf' column)
    (rows : ∀ row < sprite.length, rowOf row = rowOf' row) :
    touches grid columnOf rowOf sprite = touches grid columnOf' rowOf' sprite := by
  simp only [touches, List.flatMap_def]
  congr 1
  apply List.map_congr_left
  rintro ⟨byte, row⟩ inSprite
  apply List.map_congr_left
  rintro ⟨bit, column⟩ inByte
  obtain ⟨rowBound, -⟩ :=
    List.getElem?_eq_some_iff.mp (List.mem_zipIdx_iff_getElem?.mp inSprite)
  obtain ⟨columnBound, -⟩ :=
    List.getElem?_eq_some_iff.mp (List.mem_zipIdx_iff_getElem?.mp inByte)
  simp only [unpackByte, List.length_map, List.length_range] at columnBound
  rw [columns column columnBound, rows row rowBound]

/-- The first `count` coordinates from a start on name the same cells of an axis when they are taken
as words: the start is a word, and so is the last one, unless the axis goes into the number of words
evenly. -/
def Reaches (extent count : Nat) (start : Int) : Prop :=
  Word.fits start = true ∧ (extent ∣ Word.modulus ∨ Word.fits (start + count - 1) = true)
deriving Decidable

theorem wrap_word_wrap {extent count distance : Nat} (positive : 0 < extent) {start : Int}
    (reaches : Reaches extent count start) (within : distance < count) :
    wrap extent positive (Word.wrap (start + distance)) =
      wrap extent positive (start + distance) := by
  obtain ⟨first, even | last⟩ := reaches
  · have same : Word.wrap (start + distance) % extent = (start + distance) % extent := by
      rw [Word.wrap, ← Int.emod_emod_of_dvd _ (Int.natCast_dvd_natCast.mpr even), Int.bmod_emod,
        Int.emod_emod_of_dvd _ (Int.natCast_dvd_natCast.mpr even)]
    simp only [wrap, same]
  · rw [word_wrap_of_fits (fits_of_between first last (by omega) (by omega))]

/-- A sprite falls on the cells that its coordinates name. -/
def Lands (width height : Nat) (startX startY : Int) (sprite : List UInt8) : Prop :=
  sprite = [] ∨ Reaches width 8 startX ∧ Reaches height sprite.length startY
deriving Decidable

/-- A draw does not notice that its coordinates are words where the sprite lands. -/
theorem drawAny_of_lands (screen : Screen width height) (columns : 0 < width) (rows : 0 < height)
    {startX startY : Int} {sprite : List UInt8} (lands : Lands width height startX startY sprite) :
    screen.drawAny startX startY sprite =
      ((screen.draw columns rows startX startY sprite).1,
        .ok (screen.draw columns rows startX startY sprite).2) := by
  cases sprite with
  | nil => simp [drawAny, draw, stamp, touches, writeAll]
  | cons byte rest =>
      obtain ⟨across, down⟩ := lands.resolve_left (List.cons_ne_nil byte rest)
      have cells : touches screen.flush.lit
            (fun column => wrap width columns (Word.wrap (startX + column)))
            (fun row => wrap height rows (Word.wrap (startY + row))) (byte :: rest) =
          touches screen.flush.lit (fun column => wrap width columns (startX + column))
            (fun row => wrap height rows (startY + row)) (byte :: rest) :=
        touches_congr _ (fun _ bound => wrap_word_wrap columns across bound)
          (fun _ bound => wrap_word_wrap rows down bound)
      simp only [drawAny, draw, stamp, cells, across.1, down.1]
      simp [rows, columns]

/-- A draw whose coordinates stay words does not notice that they are words. -/
theorem drawAny_eq_draw (screen : Screen width height) (columns : 0 < width) (rows : 0 < height)
    {startX startY : Int} {sprite : List UInt8}
    (left : Word.fits startX = true) (right : Word.fits (startX + 7) = true)
    (top : Word.fits startY = true) (bottom : Word.fits (startY + sprite.length) = true) :
    screen.drawAny startX startY sprite =
      ((screen.draw columns rows startX startY sprite).1,
        .ok (screen.draw columns rows startX startY sprite).2) := by
  apply screen.drawAny_of_lands columns rows
  rcases Nat.eq_zero_or_pos sprite.length with empty | filled
  · exact .inl (List.eq_nil_of_length_eq_zero empty)
  · exact .inr ⟨⟨left, .inr (fits_of_between left right (by omega) (by omega))⟩,
      ⟨top, .inr (fits_of_between top bottom (by omega) (by omega))⟩⟩

end Screen

end ChipEight
