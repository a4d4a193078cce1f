import ChipEight.Proofs.Screen.RedrawFlag

/-!
# What a flag that stays down tells

Whoever takes the redraw flag down and finds it down later has missed nothing: the visible grid is
the one from before, whatever was drawn, cleared, flushed or reset in between, on grids of every
extent and with sprites that cover cells more than once.

A draw leaves the flag down only if there was nothing to see.  Its sprite has no set bit, and its
flush puts no pixel out.  A draw whose coordinates are no words is refused after the flush, and then
the flag tells of the flush alone.
-/

namespace ChipEight.Screen

variable {width height : Nat}

/-- What can change the visible grid.  Sprites start anywhere and have any number of rows. -/
inductive Change where
  | draw (startX startY : Int) (sprite : List UInt8)
  | clear
  | flush
  | reset
deriving DecidableEq

/-- The screen after a change.  A draw that is refused has flushed. -/
def change (screen : Screen width height) : Change → Screen width height
  | .draw startX startY sprite => (screen.drawAny startX startY sprite).1
  | .clear => screen.clear
  | .flush => screen.flush
  | .reset => initial width height

/-- The screen after a sequence of changes. -/
def changeAll (screen : Screen width height) (changes : List Change) : Screen width height :=
  changes.foldl change screen

/-! ## A draw that may be refused -/

/-- A draw flushes only, and is refused unless the sprite is empty, or it puts the sprite somewhere
on the grid. -/
theorem drawAny_cases (screen : Screen width height) (startX startY : Int)
    (sprite : List UInt8) :
    ((screen.drawAny startX startY sprite).1 = screen.flush ∧
        ((screen.drawAny startX startY sprite).2.isOk = true → sprite = [])) ∨
      ∃ columnOf rowOf collided,
        screen.drawAny startX startY sprite =
          ((screen.stamp columnOf rowOf sprite).1, .ok collided) := by
  unfold drawAny
  split
  · rename_i empty
    exact .inl ⟨rfl, fun _ => List.isEmpty_iff.mp empty⟩
  · split
    · exact .inl ⟨rfl, fun accepted => Bool.noConfusion accepted⟩
    · split
      · split
        · exact .inr ⟨_, _, _, rfl⟩
        · exact .inl ⟨rfl, fun accepted => Bool.noConfusion accepted⟩
      · exact .inl ⟨rfl, fun accepted => Bool.noConfusion accepted⟩

theorem drawAny_of_refused {screen : Screen width height} {startX startY : Int}
    {sprite : List UInt8} (refused : (screen.drawAny startX startY sprite).2.isOk = false) :
    (screen.drawAny startX startY sprite).1 = screen.flush := by
  rcases screen.drawAny_cases startX startY sprite with ⟨flushed, -⟩ | ⟨_, _, _, drawn⟩
  · exact flushed
  · rw [drawn] at refused
    cases refused

/-- On a grid with cells a draw is accepted exactly if it has nothing to place or its coordinates
are words. -/
theorem isOk_drawAny_iff (columns : 0 < width) (rows : 0 < height) (screen : Screen width height)
    (startX startY : Int) (sprite : List UInt8) :
    (screen.drawAny startX startY sprite).2.isOk = true ↔
      sprite = [] ∨ Word.fits startX = true ∧ Word.fits startY = true := by
  cases sprite with
  | nil => exact ⟨fun _ => .inl rfl, fun _ => rfl⟩
  | cons byte rest =>
      cases left : Word.fits startX <;> cases top : Word.fits startY <;>
        simp [drawAny, left, top, columns, rows, Except.isOk, Except.toBool]

/-! ## Where the flag stays down -/

theorem flagTells_change (screen : Screen width height) (next : Change) :
    screen.FlagTells (screen.change next) := by
  cases next with
  | draw startX startY sprite =>
      rcases screen.drawAny_cases startX startY sprite with ⟨flushed, -⟩ | ⟨_, _, _, drawn⟩
      · rw [change, flushed]
        exact screen.flagTells_flush
      · rw [change, drawn]
        exact screen.flagTells_stamp _ _ sprite
  | clear => exact screen.flagTells_clear
  | flush => exact screen.flagTells_flush
  | reset => exact screen.flagTells_initial

theorem flagTells_changeAll (screen : Screen width height) (changes : List Change) :
    screen.FlagTells (screen.changeAll changes) := by
  induction changes generalizing screen with
  | nil => exact FlagTells.refl screen
  | cons next rest ih => exact (screen.flagTells_change next).trans (ih (screen.change next))

/-- A flush leaves the flag down exactly if it was down and no lit pixel goes out. -/
theorem flush_redraw_eq_false_iff (screen : Screen width height) :
    screen.flush.redraw = false ↔
      screen.redraw = false ∧
        ∀ x y, screen.lit.get x y = true → screen.flush.lit.get x y = true := by
  constructor
  · intro down
    obtain ⟨downBefore, same⟩ := screen.flagTells_flush down
    exact ⟨downBefore, fun x y lit => same ▸ lit⟩
  · rintro ⟨down, stays⟩
    rw [flush_lit] at stays
    unfold flush
    split
    · -- A pixel both lit and pending would be lit no longer.
      have disjoint : (screen.lit.both screen.pending).any = false := by
        rw [Bool.eq_false_iff]
        intro meets
        obtain ⟨x, y, both⟩ := (Grid.any_eq_true_iff _).mp meets
        obtain ⟨lit, pending⟩ : screen.lit.get x y = true ∧ screen.pending.get x y = true := by
          simpa using both
        have left := stays x y lit
        rw [image, Grid.get_without, pending, Bool.not_true, Bool.and_false] at left
        cases left
      exact Bool.or_eq_false_iff.mpr ⟨down, disjoint⟩
    · exact down

theorem eq_zero_iff_testBit (byte : UInt8) :
    byte = 0 ↔ ∀ column < 8, byte.toNat.testBit (7 - column) = false := by
  constructor
  · rintro rfl column -
    exact Nat.zero_testBit _
  · intro unset
    apply UInt8.toNat_inj.mp
    apply Nat.eq_of_testBit_eq
    intro place
    rw [UInt8.toNat_zero, Nat.zero_testBit]
    by_cases low : place < 8
    · have here := unset (7 - place) (by omega)
      rwa [show 7 - (7 - place) = place by omega] at here
    · exact Nat.testBit_lt_two_pow
        (Nat.lt_of_lt_of_le byte.toNat_lt (Nat.pow_le_pow_right (by decide) (by omega)))

/-- No touched cell changes exactly if the sprite has no set bit, wherever its bits fall. -/
theorem touches_unchanged_iff (grid : Grid width height) (columnOf : Nat → Fin width)
    (rowOf : Nat → Fin height) (sprite : List UInt8) :
    ((touches grid columnOf rowOf sprite).any fun cell => cell.old != cell.new) = false ↔
      ∀ byte ∈ sprite, byte = 0 := by
  rw [List.any_eq_false]
  constructor
  · intro unchanged byte member
    obtain ⟨row, there⟩ := List.getElem?_of_mem member
    rw [eq_zero_iff_testBit]
    intro column bound
    have same := unchanged _
      ((mem_touches_iff grid columnOf rowOf sprite _).mpr ⟨row, byte, there, column, bound, rfl⟩)
    simpa [touchAt] using same
  · intro unset cell member
    obtain ⟨row, byte, there, column, bound, rfl⟩ :=
      (mem_touches_iff grid columnOf rowOf sprite cell).mp member
    have dark :=
      (eq_zero_iff_testBit byte).mp (unset byte (List.mem_of_getElem? there)) column bound
    simp [touchAt, dark]

/-- When the flag is down after a draw. -/
theorem drawAny_redraw_eq_false_iff (screen : Screen width height) (startX startY : Int)
    (sprite : List UInt8) :
    (screen.drawAny startX startY sprite).1.redraw = false ↔
      screen.redraw = false ∧
        (∀ x y, screen.lit.get x y = true → screen.flush.lit.get x y = true) ∧
        ((screen.drawAny startX startY sprite).2.isOk = true → ∀ byte ∈ sprite, byte = 0) := by
  have flushed := screen.flush_redraw_eq_false_iff
  rcases screen.drawAny_cases startX startY sprite with ⟨same, empty⟩ | ⟨_, _, _, drawn⟩
  · rw [same, flushed, and_congr_right_iff]
    intro _
    refine (and_iff_left ?_).symm
    intro accepted
    rw [empty accepted]
    exact List.forall_mem_nil _
  · have flag := touches_unchanged_iff screen.flush.lit
    rw [drawn]
    simp only [stamp, Bool.or_eq_false_iff, flag, flushed, and_assoc]
    -- The draw was accepted, so the condition on the sprite is not idle.
    refine and_congr_right fun _ => and_congr_right fun _ => ?_
    exact ⟨fun unset _ => unset, fun unset => unset rfl⟩

/-- The redraw flag is sound on grids of every extent.  Where it is still down after any sequence of
changes since it was taken down, the visible grid is the one from that moment.  A draw is accepted
exactly if its sprite is empty or its coordinates are words, and one that is refused has done
nothing but flush.  An accepted draw leaves the flag down exactly if it was down, the sprite has no
set bit and the flush at its start has put no lit pixel out; a refused one, exactly if the flag was
down and the flush has put no lit pixel out. -/
theorem redraw_flag_sound (columns : 0 < width) (rows : 0 < height) (screen : Screen width height) :
    (∀ changes : List Change,
      (screen.takeRedraw.2.changeAll changes).redraw = false →
        (screen.takeRedraw.2.changeAll changes).lit = screen.lit) ∧
      ∀ (startX startY : Int) (sprite : List UInt8),
        ((screen.drawAny startX startY sprite).2.isOk = true ↔
          sprite = [] ∨ Word.fits startX = true ∧ Word.fits startY = true) ∧
        ((screen.drawAny startX startY sprite).2.isOk = false →
          (screen.drawAny startX startY sprite).1 = screen.flush) ∧
        ((screen.drawAny startX startY sprite).1.redraw = false ↔
          screen.redraw = false ∧
            (∀ x y, screen.lit.get x y = true → screen.flush.lit.get x y = true) ∧
            ((screen.drawAny startX startY sprite).2.isOk = true → ∀ byte ∈ sprite, byte = 0)) := by
  refine ⟨?_, ?_⟩
  · intro changes down
    exact (screen.takeRedraw.2.flagTells_changeAll changes down).2
  · intro startX startY sprite
    exact ⟨isOk_drawAny_iff columns rows screen startX startY sprite, drawAny_of_refused,
      screen.drawAny_redraw_eq_false_iff startX startY sprite⟩

/-- Three columns and two rows with a lit corner.  Blank sprites that cover cells twice, flushes and
a refused draw change nothing there and leave the flag down. -/
theorem redraw_flag_sound_narrow :
    let screen : Screen 3 2 := ((initial 3 2).drawAny 0 0 [0x02]).1
    let changes : List Change :=
      [.draw 4 (-9) [0, 0, 0], .flush, .draw 9223372036854775808 0 [0xFF], .flush]
    screen.lit.count = 1 ∧
      (screen.takeRedraw.2.changeAll changes).redraw = false ∧
      (screen.takeRedraw.2.changeAll changes).lit = screen.lit := by
  intro screen changes
  have down : (screen.takeRedraw.2.changeAll changes).redraw = false := by decide +kernel
  obtain ⟨sound, -⟩ := redraw_flag_sound (by decide) (by decide) screen
  exact ⟨by decide +kernel, down, sound changes down⟩

/-- The sprite of a refused draw has not reached the grid, and the flag does not rise for its set
bits. -/
theorem refused_draw_leaves_flag_down :
    ¬ ∀ (screen : Screen 8 1) (startX startY : Int) (sprite : List UInt8),
      (screen.drawAny startX startY sprite).1.redraw = false → ∀ byte ∈ sprite, byte = 0 := by
  intro unset
  have down :
      ((initial 8 1).takeRedraw.2.drawAny 9223372036854775808 0 [0x80]).1.redraw = false := by
    decide +kernel
  have dark := unset _ _ _ _ down 0x80 List.mem_cons_self
  revert dark
  decide

end ChipEight.Screen
