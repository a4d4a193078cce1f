import ChipEight.Proofs.Screen.Draw

/-!
# The redraw flag

The flag of a screen goes up with every change of the visible grid and is taken down only by whoever
has seen it.  A clear, a flush and a draw each have a test of their own for that.  What they have in
common is `FlagTells`: where the flag is down afterwards, it was down before, and the visible grid
is still the same.  Nothing is assumed about the extent of the grid or where the sprite falls on it.
-/

namespace ChipEight

namespace Grid

variable {width height : Nat}

@[simp]
theorem get_both (first second : Grid width height) (x : Fin width) (y : Fin height) :
    (first.both second).get x y = (first.get x y && second.get x y) :=
  get_ofFn _ x y

/-- Taking away what is not there changes nothing. -/
theorem without_of_disjoint {first second : Grid width height}
    (disjoint : (first.both second).any = false) : first.without second = first := by
  have dark := eq_blank_of_any_eq_false disjoint
  ext x y
  have here := congrArg (fun grid => grid.get x y) dark
  simp only [get_both, get_blank] at here
  rw [get_without]
  cases lit : first.get x y with
  | false => rfl
  | true =>
      rw [lit, Bool.true_and] at here
      rw [here]
      rfl

end Grid

namespace Screen

variable {width height : Nat} {screen before between after : Screen width height}

/-- Between two moments the flag has told of every change: where it is down, it was down before, and
the visible grid is the same. -/
def FlagTells (before after : Screen width height) : Prop :=
  after.redraw = false → before.redraw = false ∧ after.lit = before.lit

theorem FlagTells.refl (screen : Screen width height) : screen.FlagTells screen :=
  fun down => ⟨down, rfl⟩

theorem FlagTells.trans (first : before.FlagTells between) (second : between.FlagTells after) :
    before.FlagTells after := by
  intro down
  obtain ⟨downBetween, sameLater⟩ := second down
  obtain ⟨downBefore, same⟩ := first downBetween
  exact ⟨downBefore, sameLater.trans same⟩

/-- A new screen asks to be drawn. -/
theorem flagTells_initial (screen : Screen width height) :
    screen.FlagTells (initial width height) := by
  intro down
  cases down

theorem flagTells_clear (screen : Screen width height) : screen.FlagTells screen.clear := by
  intro down
  obtain ⟨downBefore, dark⟩ := Bool.or_eq_false_iff.mp down
  exact ⟨downBefore, (Grid.eq_blank_of_any_eq_false dark).symm⟩

theorem flagTells_flush (screen : Screen width height) : screen.FlagTells screen.flush := by
  unfold flush
  split
  · intro down
    obtain ⟨downBefore, disjoint⟩ := Bool.or_eq_false_iff.mp down
    exact ⟨downBefore, Grid.without_of_disjoint disjoint⟩
  · exact FlagTells.refl screen

/-- Writing the bits that are there already changes nothing. -/
theorem writeAll_eq_self {grid : Grid width height} {bit : Touch width height → Bool}
    {cells : List (Touch width height)}
    (agree : ∀ cell ∈ cells, bit cell = grid.get cell.x cell.y) :
    writeAll grid bit cells = grid := by
  ext x y
  rw [get_writeAll grid bit grid.get cells agree]
  split <;> rfl

theorem flagTells_stamp (screen : Screen width height) (columnOf : Nat → Fin width)
    (rowOf : Nat → Fin height) (sprite : List UInt8) :
    screen.FlagTells (screen.stamp columnOf rowOf sprite).1 := by
  refine screen.flagTells_flush.trans ?_
  intro down
  obtain ⟨downBefore, unchanged⟩ := Bool.or_eq_false_iff.mp down
  refine ⟨downBefore, writeAll_eq_self ?_⟩
  intro cell member
  -- A touched cell shows its old bit, and its new one is no other.
  have same : cell.old = cell.new := by
    simpa using List.any_eq_false.mp unchanged cell member
  obtain ⟨row, byte, -, column, -, rfl⟩ := (mem_touches_iff _ _ _ _ _).mp member
  rw [← same, Bool.or_self]
  rfl

theorem flagTells_draw (screen : Screen width height) (columns : 0 < width) (rows : 0 < height)
    (startX startY : Int) (sprite : List UInt8) :
    screen.FlagTells (screen.draw columns rows startX startY sprite).1 :=
  screen.flagTells_stamp _ _ sprite

end Screen

end ChipEight
