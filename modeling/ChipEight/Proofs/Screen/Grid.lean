import ChipEight.Device.Grid

/-!
# Reading grids

A grid is known by its bits.  Every operation on grids is described by what it does to the bit at a
column and a row.
-/

namespace ChipEight.Grid

variable {width height : Nat}

@[ext]
theorem ext_get {first second : Grid width height}
    (bits : ∀ x y, first.get x y = second.get x y) : first = second := by
  rcases first with ⟨firstRows⟩
  rcases second with ⟨secondRows⟩
  congr 1
  apply Vector.ext
  intro y yBound
  apply Vector.ext
  intro x xBound
  exact bits ⟨x, xBound⟩ ⟨y, yBound⟩

@[simp]
theorem get_ofFn (bit : Fin width → Fin height → Bool) (x : Fin width) (y : Fin height) :
    (ofFn bit).get x y = bit x y := by
  simp [ofFn, get]

@[simp]
theorem get_blank (x : Fin width) (y : Fin height) : (blank width height).get x y = false := by
  simp [blank, get]

@[simp]
theorem get_without (first second : Grid width height) (x : Fin width) (y : Fin height) :
    (first.without second).get x y = (first.get x y && !second.get x y) :=
  get_ofFn _ x y

theorem get_set (grid : Grid width height) (column x : Fin width) (row y : Fin height)
    (bit : Bool) :
    (grid.set column row bit).get x y =
      if column = x ∧ row = y then bit else grid.get x y := by
  simp only [set, get, Fin.getElem_fin, Vector.getElem_set, Fin.ext_iff]
  by_cases sameRow : row.val = y.val
  · by_cases sameColumn : column.val = x.val
    · simp [sameRow, sameColumn]
    · simp [sameRow, sameColumn]
  · simp [sameRow]

theorem any_eq_true_iff (grid : Grid width height) :
    grid.any = true ↔ ∃ x y, grid.get x y = true := by
  simp only [any, get, Vector.any_eq_true, id_eq, Fin.getElem_fin]
  constructor
  · rintro ⟨y, yBound, x, xBound, set⟩
    exact ⟨⟨x, xBound⟩, ⟨y, yBound⟩, set⟩
  · rintro ⟨x, y, set⟩
    exact ⟨y, y.isLt, x, x.isLt, set⟩

theorem eq_blank_of_any_eq_false {grid : Grid width height} (dark : grid.any = false) :
    grid = blank width height := by
  ext x y
  rw [get_blank, Bool.eq_false_iff]
  intro set
  rw [(any_eq_true_iff grid).mpr ⟨x, y, set⟩] at dark
  cases dark

end ChipEight.Grid
