import ChipEight.Proofs.Screen.DeferredClear

/-!
# Draws add up modulo two

Draw any number of sprites on a blank screen and flush.  A pixel is then lit exactly if an odd
number of set bits of the sprites fall on it.  What is visible in between depends on the order of
the draws; the flushed picture does not.  A start may move around the screen any number of times,
and a sprite that is drawn twice is gone.

The deferred clears are settled by `image_draw`: a draw is the exclusive or with its sprite on the
picture that the screen stands for.  What is left is to count the bits that flip a pixel.
-/

namespace ChipEight

/-- Whether a number is odd. -/
def isOdd (n : Nat) : Bool :=
  n % 2 == 1

theorem isOdd_add (m n : Nat) : isOdd (m + n) = (isOdd m != isOdd n) := by
  rcases Nat.mod_two_eq_zero_or_one m with left | left <;>
    rcases Nat.mod_two_eq_zero_or_one n with right | right <;>
      simp [isOdd, Nat.add_mod, left, right]

theorem isOdd_ite (condition : Prop) [Decidable condition] :
    isOdd (if condition then 1 else 0) = decide condition := by
  by_cases holds : condition
  · simp [holds, isOdd]
  · simp [holds, isOdd]

namespace Screen

variable {width height : Nat}

/-- A sprite to be drawn, and where it starts. -/
structure Drawing where
  startX : Int
  startY : Int
  sprite : List UInt8
deriving DecidableEq

/-- The rows and columns of the set bits of a sprite whose first row has a number. -/
def setBitsFrom (first : Nat) (sprite : List UInt8) : List (Nat × Nat) :=
  (sprite.zipIdx first).flatMap fun (byte, row) =>
    ((List.range 8).filter fun column => byte.toNat.testBit (7 - column)).map fun column =>
      (row, column)

/-- The drawings of a list, each with the row and the column of every set bit of its sprite. -/
def drawnBits (drawings : List Drawing) : List (Drawing × Nat × Nat) :=
  drawings.flatMap fun drawing =>
    (setBitsFrom 0 drawing.sprite).map fun bit => (drawing, bit)

/-- A set bit of a drawing falls on a pixel, around the edges. -/
def FallsOn (x : Fin width) (y : Fin height) : Drawing × Nat × Nat → Prop
  | (drawing, row, column) =>
      (drawing.startX + column) % width = x.val ∧ (drawing.startY + row) % height = y.val

instance (x : Fin width) (y : Fin height) (bit : Drawing × Nat × Nat) :
    Decidable (FallsOn x y bit) :=
  inferInstanceAs (Decidable (_ ∧ _))

/-- How many set bits of a list of drawings fall on a pixel. -/
def hits (drawings : List Drawing) (x : Fin width) (y : Fin height) : Nat :=
  (drawnBits drawings).countP fun bit => FallsOn x y bit

/-- The visible grid after draws one after the other and a flush, if all draws are accepted. -/
def flushedAfter (screen : Screen width height) :
    List Drawing → Except CellError (Grid width height)
  | [] => .ok screen.flush.lit
  | drawing :: rest =>
      match screen.drawAny drawing.startX drawing.startY drawing.sprite with
      | (after, .ok _) => after.flushedAfter rest
      | (_, .error failure) => .error failure

end Screen

/-! ## Counting the flips of a pixel -/

namespace Grid

open Screen

variable {width height : Nat}

/-- The first bits of a byte flip a pixel once for each set one that falls on it. -/
theorem get_toggleBits_count (picture : Grid width height) (x y : Int) (byte : UInt8) (count : Nat)
    (column : Fin width) (row : Fin height) :
    (picture.toggleBits x y byte count).get column row =
      (picture.get column row != isOdd ((List.range count).countP fun place : Nat =>
        decide ((x + place) % width = column.val ∧ y % height = row.val) &&
          byte.toNat.testBit (7 - place))) := by
  induction count with
  | zero => simp [toggleBits, isOdd]
  | succ count ih =>
      rw [List.range_succ, List.countP_append, List.countP_singleton, isOdd_add, isOdd_ite,
        Bool.decide_eq_true, toggleBits]
      cases set : byte.toNat.testBit (7 - count) with
      | false =>
          rw [if_neg Bool.false_ne_true, ih, Bool.and_false, Bool.bne_false]
      | true =>
          have flip : decide ((column.val : Int) = (x + count) % width ∧
                (row.val : Int) = y % height) =
              decide ((x + count) % width = column.val ∧ y % height = row.val) := by
            simp only [eq_comm]
          rw [if_pos rfl, toggle, get_ofFn, ih, flip, Bool.and_true, Bool.bne_assoc]

/-- A sprite flips a pixel once for each set bit that falls on it. -/
theorem get_toggleSprite_count (picture : Grid width height) (drawing : Drawing) (first : Nat)
    (sprite : List UInt8) (column : Fin width) (row : Fin height) :
    (picture.toggleSprite drawing.startX (drawing.startY + first) sprite).get column row =
      (picture.get column row != isOdd ((setBitsFrom first sprite).countP fun bit =>
        FallsOn column row (drawing, bit))) := by
  -- The number of the first row carries the rows above through the induction.
  induction sprite generalizing picture first with
  | nil => simp [toggleSprite, setBitsFrom, isOdd]
  | cons byte rest ih =>
      have bits : setBitsFrom first (byte :: rest) =
          (((List.range 8).filter fun place => byte.toNat.testBit (7 - place)).map fun place =>
            (first, place)) ++ setBitsFrom (first + 1) rest := rfl
      have below : drawing.startY + first + 1 = drawing.startY + (first + 1 : Nat) := by omega
      rw [bits, List.countP_append, List.countP_map, List.countP_filter, isOdd_add, toggleSprite,
        below, ih, get_toggleBits_count, Bool.bne_assoc]
      rfl

end Grid

namespace Screen

variable {width height : Nat}

/-! ## Hits -/

theorem hits_append (first second : List Drawing) (x : Fin width) (y : Fin height) :
    hits (first ++ second) x y = hits first x y + hits second x y := by
  simp only [hits, drawnBits, List.flatMap_append, List.countP_append]

theorem hits_cons (drawing : Drawing) (rest : List Drawing) (x : Fin width) (y : Fin height) :
    hits (drawing :: rest) x y = hits [drawing] x y + hits rest x y :=
  hits_append [drawing] rest x y

theorem hits_singleton (drawing : Drawing) (x : Fin width) (y : Fin height) :
    hits [drawing] x y =
      (setBitsFrom 0 drawing.sprite).countP fun bit => FallsOn x y (drawing, bit) := by
  simp only [hits, drawnBits, List.flatMap_cons, List.flatMap_nil, List.append_nil,
    List.countP_map, Function.comp_def]

theorem hits_perm {drawings others : List Drawing} (reordered : drawings.Perm others)
    (x : Fin width) (y : Fin height) : hits drawings x y = hits others x y :=
  (reordered.flatMap_right _).countP_eq _

/-- A drawing with its start moved. -/
def Drawing.shift (drawing : Drawing) (across down : Int) : Drawing :=
  { drawing with startX := drawing.startX + across, startY := drawing.startY + down }

/-- Moving the start around the screen moves no bit. -/
theorem hits_shift (drawing : Drawing) (across down : Int) (x : Fin width) (y : Fin height) :
    hits [drawing.shift (across * width) (down * height)] x y = hits [drawing] x y := by
  rw [hits_singleton, hits_singleton]
  congr 1
  funext bit
  have sameColumn : drawing.startX + across * width + (bit.2 : Int) =
      drawing.startX + bit.2 + across * width := by omega
  have sameRow : drawing.startY + down * height + (bit.1 : Int) =
      drawing.startY + bit.1 + down * height := by omega
  apply decide_eq_decide.mpr
  simp only [FallsOn, Drawing.shift, sameColumn, sameRow, Int.add_mul_emod_self_right]

/-! ## Draws one after the other -/

/-- The sprite is no taller than the grid and falls on the cells that its coordinates name. -/
def Drawing.Placed (width height : Nat) (drawing : Drawing) : Prop :=
  drawing.sprite.length ≤ height ∧ Lands width height drawing.startX drawing.startY drawing.sprite
deriving Decidable

/-- A picture with every pixel flipped as often as a list of drawings hits it. -/
def flipped (picture : Grid width height) (drawings : List Drawing) : Grid width height :=
  Grid.ofFn fun x y => picture.get x y != isOdd (hits drawings x y)

theorem flipped_congr (picture : Grid width height) {drawings others : List Drawing}
    (same : ∀ (x : Fin width) (y : Fin height),
      isOdd (hits drawings x y) = isOdd (hits others x y)) :
    flipped picture drawings = flipped picture others := by
  ext x y
  simp only [flipped, Grid.get_ofFn, same]

theorem flipped_cons (picture : Grid width height) (drawing : Drawing) (rest : List Drawing) :
    flipped (flipped picture [drawing]) rest = flipped picture (drawing :: rest) := by
  ext x y
  rw [flipped, flipped, flipped, Grid.get_ofFn, Grid.get_ofFn, Grid.get_ofFn,
    hits_cons drawing rest, isOdd_add, Bool.bne_assoc]

theorem toggleSprite_eq_flipped (picture : Grid width height) (drawing : Drawing) :
    picture.toggleSprite drawing.startX drawing.startY drawing.sprite =
      flipped picture [drawing] := by
  ext x y
  have counted := picture.get_toggleSprite_count drawing 0 drawing.sprite x y
  rw [Int.natCast_zero, Int.add_zero] at counted
  rw [counted, flipped, Grid.get_ofFn, hits_singleton]

/-- A placed drawing is accepted and flips the pixels that it hits. -/
theorem drawAny_of_placed (wide : 8 ≤ width) (screen : Screen width height) {drawing : Drawing}
    (placed : drawing.Placed width height) :
    ∃ after collided,
      screen.drawAny drawing.startX drawing.startY drawing.sprite = (after, .ok collided) ∧
        after.image = flipped screen.image [drawing] := by
  obtain ⟨fits, lands⟩ := placed
  rw [← toggleSprite_eq_flipped]
  rcases Nat.eq_zero_or_pos height with flat | rows
  · -- On a grid without rows there is only the empty sprite.
    have empty : drawing.sprite = [] := List.eq_nil_of_length_eq_zero (by omega)
    rw [empty]
    exact ⟨screen.flush, false, rfl, screen.image_flush⟩
  · have columns : 0 < width := by omega
    exact ⟨_, _, screen.drawAny_of_lands columns rows lands,
      image_draw columns rows wide screen _ _ fits⟩

theorem flushedAfter_of_placed (wide : 8 ≤ width) (screen : Screen width height)
    {drawings : List Drawing} (placed : ∀ drawing ∈ drawings, drawing.Placed width height) :
    screen.flushedAfter drawings = .ok (flipped screen.image drawings) := by
  induction drawings generalizing screen with
  | nil =>
      rw [flushedAfter, flush_lit]
      congr 1
      ext x y
      simp [flipped, hits, drawnBits, isOdd]
  | cons drawing rest ih =>
      obtain ⟨here, later⟩ := List.forall_mem_cons.mp placed
      obtain ⟨after, collided, drawn, image⟩ := screen.drawAny_of_placed wide here
      rw [flushedAfter, drawn]
      exact (ih after later).trans (by rw [image, flipped_cons])

/-- Drawings that hit every pixel equally often, up to twos, leave the same picture. -/
theorem flushedAfter_congr (wide : 8 ≤ width) (screen : Screen width height)
    {drawings others : List Drawing}
    (placed : ∀ drawing ∈ drawings, drawing.Placed width height)
    (alsoPlaced : ∀ drawing ∈ others, drawing.Placed width height)
    (same : ∀ (x : Fin width) (y : Fin height),
      isOdd (hits drawings x y) = isOdd (hits others x y)) :
    screen.flushedAfter drawings = screen.flushedAfter others := by
  rw [screen.flushedAfter_of_placed wide placed, screen.flushedAfter_of_placed wide alsoPlaced,
    flipped_congr screen.image same]

theorem flushedAfter_perm (wide : 8 ≤ width) (screen : Screen width height)
    {drawings others : List Drawing} (reordered : drawings.Perm others)
    (placed : ∀ drawing ∈ drawings, drawing.Placed width height) :
    screen.flushedAfter others = screen.flushedAfter drawings := by
  apply screen.flushedAfter_congr wide _ placed
  · intro x y
    rw [hits_perm reordered]
  · intro drawing member
    exact placed drawing (reordered.mem_iff.mpr member)

theorem flushedAfter_shift (wide : 8 ≤ width) (screen : Screen width height)
    {before after : List Drawing} {drawing : Drawing} {across down : Int}
    (placed : ∀ other ∈ before ++ drawing :: after, other.Placed width height)
    (moved : (drawing.shift (across * width) (down * height)).Placed width height) :
    screen.flushedAfter (before ++ drawing.shift (across * width) (down * height) :: after) =
      screen.flushedAfter (before ++ drawing :: after) := by
  apply screen.flushedAfter_congr wide _ placed
  · intro x y
    rw [hits_append, hits_append, hits_cons _ after, hits_cons drawing after, hits_shift]
  · simp only [List.forall_mem_append, List.forall_mem_cons] at placed ⊢
    exact ⟨placed.1, moved, placed.2.2⟩

theorem flushedAfter_cancel (wide : 8 ≤ width) (screen : Screen width height)
    {before between after : List Drawing} {drawing : Drawing}
    (placed : ∀ other ∈ before ++ drawing :: between ++ drawing :: after,
      other.Placed width height) :
    screen.flushedAfter (before ++ between ++ after) =
      screen.flushedAfter (before ++ drawing :: between ++ drawing :: after) := by
  apply screen.flushedAfter_congr wide _ placed
  · intro x y
    have twice : hits (before ++ drawing :: between ++ drawing :: after) x y =
        hits (before ++ between ++ after) x y + (hits [drawing] x y + hits [drawing] x y) := by
      rw [hits_append, hits_append, hits_append, hits_append, hits_cons drawing between,
        hits_cons drawing after]
      omega
    rw [twice, isOdd_add, isOdd_add, bne_self_eq_false, Bool.bne_false]
  · simp only [List.forall_mem_append, List.forall_mem_cons] at placed ⊢
    exact ⟨⟨placed.1.1, placed.1.2.2⟩, placed.2.2⟩

/-! ## The law of draws -/

/-- All draws are accepted, and after the flush a pixel is lit exactly if an odd number of set bits
fall on it. -/
def AddsUp (screen : Screen width height) (drawings : List Drawing) : Prop :=
  ∃ picture, screen.flushedAfter drawings = .ok picture ∧
    ∀ x y, picture.get x y = true ↔ hits drawings x y % 2 = 1

theorem addsUp_of_placed (wide : 8 ≤ width) {screen : Screen width height}
    (dark : screen.lit = Grid.blank width height) {drawings : List Drawing}
    (placed : ∀ drawing ∈ drawings, drawing.Placed width height) : screen.AddsUp drawings := by
  refine ⟨_, screen.flushedAfter_of_placed wide placed, fun x y => ?_⟩
  rw [flipped, Grid.get_ofFn, image, Grid.get_without, dark, Grid.get_blank, Bool.false_and,
    Bool.false_bne, isOdd, beq_iff_eq]

/-- Draws commute and cancel.  On a screen that shows nothing they add up modulo two.  So the
flushed picture is the same in every order of the draws, it does not change when a start is moved by
multiples of the width and the height, and two equal draws can be left out wherever they stand. -/
theorem flushed_draws_add_modulo_two (wide : 8 ≤ width) (screen : Screen width height)
    (dark : screen.lit = Grid.blank width height) (drawings : List Drawing)
    (placed : ∀ drawing ∈ drawings, drawing.Placed width height) :
    screen.AddsUp drawings ∧
    (∀ others, drawings.Perm others →
      screen.flushedAfter others = screen.flushedAfter drawings) ∧
    (∀ before drawing after (across down : Int), drawings = before ++ drawing :: after →
      (drawing.shift (across * width) (down * height)).Placed width height →
      screen.flushedAfter (before ++ drawing.shift (across * width) (down * height) :: after) =
        screen.flushedAfter drawings) ∧
    ∀ before drawing between after, drawings = before ++ drawing :: between ++ drawing :: after →
      screen.flushedAfter (before ++ between ++ after) = screen.flushedAfter drawings := by
  refine ⟨addsUp_of_placed wide dark placed, ?_, ?_, ?_⟩
  · intro others reordered
    exact screen.flushedAfter_perm wide reordered placed
  · rintro before drawing after across down rfl moved
    exact screen.flushedAfter_shift wide placed moved
  · rintro before drawing between after rfl
    exact screen.flushedAfter_cancel wide placed

/-- Nine columns and two rows: a corner piece around both edges, drawn before and after a bar that
overlaps it, leaves the bar. -/
theorem flushed_draws_add_modulo_two_overlapping :
    let corner : Drawing := ⟨-1, 3, [0xC0, 0x80]⟩
    let bar : Drawing := ⟨8, 0, [0xF0]⟩
    let screen : Screen 9 2 := initial 9 2
    (∀ drawing ∈ [corner, bar, corner], drawing.Placed 9 2) ∧
      screen.AddsUp [corner, bar, corner] ∧
      screen.flushedAfter [bar] = screen.flushedAfter [corner, bar, corner] ∧
      hits [corner, bar, corner] (8 : Fin 9) (0 : Fin 2) = 3 := by
  intro corner bar screen
  have placed : ∀ drawing ∈ [corner, bar, corner], drawing.Placed 9 2 := by decide +kernel
  obtain ⟨adds, -, -, cancels⟩ :=
    flushed_draws_add_modulo_two (by decide) screen rfl [corner, bar, corner] placed
  exact ⟨placed, adds, cancels [] corner [bar] [] rfl, by decide +kernel⟩

/-- Coordinates are words.  A start that is none is refused, and a sum that is none falls on another
cell of an axis that does not go into the words evenly. -/
theorem draws_beyond_words_do_not_add_up :
    ¬ (initial 10 1).AddsUp [⟨9223372036854775808, 0, [0x80]⟩] ∧
      ¬ (initial 10 1).AddsUp [⟨9223372036854775807, 0, [0xC0]⟩] := by
  constructor
  · rintro ⟨picture, accepted, -⟩
    have refused : (initial 10 1).flushedAfter [⟨9223372036854775808, 0, [0x80]⟩] =
        .error .beyondWord := by rfl
    rw [refused] at accepted
    cases accepted
  · rintro ⟨picture, accepted, parity⟩
    have dark : ((initial 10 1).flushedAfter [⟨9223372036854775807, 0, [0xC0]⟩]).toOption.map
        (fun seen => seen.get 8 0) = some false := by decide +kernel
    have hit : hits [⟨9223372036854775807, 0, [0xC0]⟩] (8 : Fin 10) (0 : Fin 1) % 2 = 1 := by
      decide +kernel
    rw [accepted] at dark
    exact Bool.noConfusion (((parity 8 0).mpr hit).symm.trans (Option.some.inj dark))

end Screen

end ChipEight
