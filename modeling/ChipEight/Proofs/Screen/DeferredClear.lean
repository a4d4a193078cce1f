import ChipEight.Proofs.Screen.Draw

/-!
# Deferred clears stand for a plain picture

A screen keeps erased pixels lit until the next flush.  Whatever is done to a new screen, the lit
pixels that are not pending make up the plain picture, on which every sprite is drawn at once.  What
is visible differs from it after a draw only, and then by the pixels that this draw has erased.
-/

namespace ChipEight.Screen

variable {width height : Nat}

/-- What can be done to a screen, where sprites are no taller than the screen. -/
inductive Operation (height : Nat) where
  | draw (startX startY : Int) (sprite : List UInt8) (fits : sprite.length ≤ height)
  | clear
  | flush
  | reset
  | takeRedraw
deriving DecidableEq

/-- Whether an operation draws a sprite. -/
def Operation.isDraw : Operation height → Bool
  | .draw .. => true
  | _ => false

/-- The screen after an operation. -/
def after (columns : 0 < width) (rows : 0 < height) (screen : Screen width height) :
    Operation height → Screen width height
  | .draw startX startY sprite _ => (screen.draw columns rows startX startY sprite).1
  | .clear => screen.clear
  | .flush => screen.flush
  | .reset => initial width height
  | .takeRedraw => screen.takeRedraw.2

/-- A new screen after a sequence of operations. -/
def run (columns : 0 < width) (rows : 0 < height) (history : List (Operation height)) :
    Screen width height :=
  history.foldl (after columns rows) (initial width height)

/-- The plain picture after an operation: sprites are drawn at once, and there is nothing to
flush. -/
def Operation.plain (picture : Grid width height) : Operation height → Grid width height
  | .draw startX startY sprite _ => picture.toggleSprite startX startY sprite
  | .clear => Grid.blank width height
  | .flush => picture
  | .reset => Grid.blank width height
  | .takeRedraw => picture

/-- The plain picture after a sequence of operations. -/
def plainRun (width : Nat) {height : Nat} (history : List (Operation height)) :
    Grid width height :=
  history.foldl Operation.plain (Grid.blank width height)

/-! ## One operation -/

theorem image_of_pending_eq_blank {screen : Screen width height}
    (settled : screen.pending = Grid.blank width height) : screen.image = screen.lit := by
  rw [image, settled]
  ext x y
  simp

theorem image_blank (redraw : Bool) :
    image ⟨Grid.blank width height, Grid.blank width height, redraw⟩ = Grid.blank width height :=
  image_of_pending_eq_blank rfl

/-- A flush settles what is pending and leaves the picture alone. -/
theorem image_flush (screen : Screen width height) : screen.flush.image = screen.image :=
  (image_of_pending_eq_blank screen.flush_pending).trans screen.flush_lit

section

variable (columns : 0 < width) (rows : 0 < height) (wide : 8 ≤ width)

include wide

/-- A draw is the exclusive or on the picture that the screen stands for. -/
theorem image_draw (screen : Screen width height) (startX startY : Int) {sprite : List UInt8}
    (fits : sprite.length ≤ height) :
    (screen.draw columns rows startX startY sprite).1.image =
      screen.image.toggleSprite startX startY sprite := by
  ext x y
  have pending := draw_pending_get columns rows wide fits startX startY screen x y
  rw [image, Grid.get_without, draw_lit_get columns rows wide fits,
    Grid.get_toggleSprite _ startX startY sprite wide fits]
  by_cases covers : Covers sprite startX startY x y
  · -- A covered pixel is pending exactly if the sprite leaves it dark.
    have dark : (screen.draw columns rows startX startY sprite).1.pending.get x y =
        (screen.image.get x y == Grid.shadow sprite startX startY x y) := by
      rw [Bool.eq_iff_iff, pending, beq_iff_eq]
      exact and_iff_right covers
    rw [dark]
    cases screen.image.get x y <;> cases Grid.shadow sprite startX startY x y <;> rfl
  · simp only [covers, false_and, iff_false, Bool.not_eq_true] at pending
    rw [pending, not_shadow_of_not_covers covers]
    simp

/-- After a draw the pixels from before it and those from after it are lit. -/
theorem draw_lit (screen : Screen width height) (startX startY : Int) {sprite : List UInt8}
    (fits : sprite.length ≤ height) :
    (screen.draw columns rows startX startY sprite).1.lit =
      screen.image.either (screen.image.toggleSprite startX startY sprite) := by
  ext x y
  rw [draw_lit_get columns rows wide fits, Grid.get_either,
    Grid.get_toggleSprite _ startX startY sprite wide fits]
  cases screen.image.get x y <;> simp

/-- A draw says whether it has turned a pixel of the picture from on to off. -/
theorem draw_collides_iff_erases (screen : Screen width height) (startX startY : Int)
    {sprite : List UInt8} (fits : sprite.length ≤ height) :
    (screen.draw columns rows startX startY sprite).2 = true ↔
      ∃ x y, screen.image.get x y = true ∧
        (screen.image.toggleSprite startX startY sprite).get x y = false := by
  rw [draw_collides_iff columns rows wide fits]
  refine exists_congr fun x => exists_congr fun y => and_congr_right fun lit => ?_
  rw [Grid.get_toggleSprite _ startX startY sprite wide fits, lit]
  simp

theorem image_after (screen : Screen width height) (operation : Operation height) :
    (screen.after columns rows operation).image = operation.plain screen.image := by
  cases operation with
  | draw startX startY sprite fits => exact image_draw columns rows wide screen startX startY fits
  | clear => exact image_blank _
  | flush => exact screen.image_flush
  | reset => exact image_blank true
  | takeRedraw => rfl

/-- What is visible after an operation that does more than to take the flag down. -/
theorem lit_after (screen : Screen width height) {operation : Operation height}
    (paints : operation ≠ .takeRedraw) :
    (screen.after columns rows operation).lit =
      if operation.isDraw then screen.image.either (operation.plain screen.image)
      else operation.plain screen.image := by
  cases operation with
  | draw startX startY sprite fits => exact draw_lit columns rows wide screen startX startY fits
  | clear => rfl
  | flush => exact screen.flush_lit
  | reset => rfl
  | takeRedraw => exact absurd rfl paints

/-! ## Whole runs -/

/-- The abstraction commutes with every sequence of operations. -/
theorem image_foldl (screen : Screen width height) (history : List (Operation height)) :
    (history.foldl (after columns rows) screen).image =
      history.foldl Operation.plain screen.image := by
  induction history generalizing screen with
  | nil => rfl
  | cons operation rest ih =>
      rw [List.foldl_cons, List.foldl_cons, ih, image_after columns rows wide]

theorem image_run (history : List (Operation height)) :
    (run columns rows history).image = plainRun width history := by
  rw [run, image_foldl columns rows wide, plainRun]
  congr 1
  exact image_blank true

end

/-- Taking the flag down touches neither of the two grids. -/
theorem foldl_takeRedraw (columns : 0 < width) (rows : 0 < height) (screen : Screen width height)
    {history : List (Operation height)}
    (idle : ∀ operation ∈ history, operation = .takeRedraw) :
    (history.foldl (after columns rows) screen).lit = screen.lit ∧
      ∀ picture : Grid width height, history.foldl Operation.plain picture = picture := by
  induction history generalizing screen with
  | nil => exact ⟨rfl, fun _ => rfl⟩
  | cons operation rest ih =>
      obtain ⟨rfl, restIdle⟩ := List.forall_mem_cons.mp idle
      exact ih (screen.after columns rows .takeRedraw) restIdle

/-- What is visible after a run depends on its last operation on the grids. -/
theorem run_lit (columns : 0 < width) (rows : 0 < height) (wide : 8 ≤ width)
    (earlier : List (Operation height)) {operation : Operation height}
    {later : List (Operation height)} (paints : operation ≠ .takeRedraw)
    (idle : ∀ operation ∈ later, operation = .takeRedraw) :
    (run columns rows (earlier ++ operation :: later)).lit =
      if operation.isDraw then
        (plainRun width earlier).either (plainRun width (earlier ++ [operation]))
      else plainRun width (earlier ++ operation :: later) := by
  have last : plainRun width (earlier ++ [operation]) =
      operation.plain (plainRun width earlier) := by
    rw [plainRun, List.foldl_append]
    rfl
  have whole : plainRun width (earlier ++ operation :: later) =
      operation.plain (plainRun width earlier) := by
    rw [plainRun, List.foldl_append, List.foldl_cons]
    exact (foldl_takeRedraw columns rows (initial width height) idle).2 _
  rw [last, whole, ← image_run columns rows wide earlier,
    ← lit_after columns rows wide _ paints, run, List.foldl_append, List.foldl_cons]
  exact (foldl_takeRedraw columns rows _ idle).1

/-- Deferred clears refine the plain picture.  After every sequence of operations on a new screen,
the lit pixels that are not pending make up the plain picture, and the next draw tells whether it
erases a pixel of that.  What is visible is the picture, unless the last operation on the grids was
a draw: then the pictures from before and after that draw lie one over the other.  The draw on grids
of any extent is this draw as long as its coordinates stay words. -/
theorem deferred_clear_refines_picture (columns : 0 < width) (rows : 0 < height)
    (wide : 8 ≤ width) (history : List (Operation height)) :
    let screen : Screen width height := run columns rows history
    let picture : Grid width height := plainRun width history
    screen.lit.without screen.pending = picture ∧
      (∀ (startX startY : Int) (sprite : List UInt8), sprite.length ≤ height →
        ((screen.draw columns rows startX startY sprite).2 = true ↔
          ∃ x y, picture.get x y = true ∧
            (picture.toggleSprite startX startY sprite).get x y = false)) ∧
      ((∀ operation ∈ history, operation = .takeRedraw) → screen.lit = picture) ∧
      (∀ earlier operation later, history = earlier ++ operation :: later →
        operation ≠ .takeRedraw → (∀ operation ∈ later, operation = .takeRedraw) →
        screen.lit =
          if operation.isDraw then
            (plainRun width earlier).either (plainRun width (earlier ++ [operation]))
          else picture) ∧
      ∀ (startX startY : Int) (sprite : List UInt8),
        Word.fits startX = true → Word.fits (startX + 7) = true →
        Word.fits startY = true → Word.fits (startY + sprite.length) = true →
        screen.drawAny startX startY sprite =
          ((screen.draw columns rows startX startY sprite).1,
            .ok (screen.draw columns rows startX startY sprite).2) := by
  intro screen picture
  have same : screen.image = picture := image_run columns rows wide history
  refine ⟨same, ?_, ?_, ?_, ?_⟩
  · intro startX startY sprite fits
    rw [← same]
    exact draw_collides_iff_erases columns rows wide screen startX startY fits
  · intro idle
    obtain ⟨lit, plain⟩ := foldl_takeRedraw columns rows (initial width height) idle
    exact lit.trans (plain (Grid.blank width height)).symm
  · rintro earlier operation later rfl paints idle
    exact run_lit columns rows wide earlier paints idle
  · intro startX startY sprite left right top bottom
    exact screen.drawAny_eq_draw columns rows left right top bottom

/-- A sprite around both edges, drawn twice: the picture is blank, and the pixels that the second
draw has erased are still to be seen. -/
theorem deferred_clear_refines_picture_twice :
    let sprite : Operation 2 := .draw (-1) 3 [192, 128] (by decide)
    let screen : Screen 8 2 := run (by decide) (by decide) [sprite, sprite, .takeRedraw]
    screen.lit.without screen.pending = Grid.blank 8 2 ∧
      screen.lit = plainRun 8 [sprite] ∧ (plainRun 8 [sprite]).count = 3 := by
  intro sprite screen
  have erased : plainRun 8 [sprite, sprite] = Grid.blank 8 2 := by decide +kernel
  obtain ⟨same, -, -, visible, -⟩ :=
    deferred_clear_refines_picture (by decide) (by decide) (Nat.le_refl 8)
      [sprite, sprite, .takeRedraw]
  have lit := visible [sprite] sprite [.takeRedraw] rfl (by decide) (by simp)
  refine ⟨same.trans erased, lit.trans ?_, by decide +kernel⟩
  decide +kernel

end ChipEight.Screen
