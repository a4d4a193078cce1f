import ChipEight.Machine.Execute

/-!
# Reading registers

Every way to write byte registers is described by the byte that is read from a register afterwards.
-/

namespace ChipEight

theorem Hexadecimal.lastDigit_val_of_lt {n : Nat} (small : n < 16) : (lastDigit n).val = n :=
  Nat.mod_eq_of_lt small

namespace Registers

@[simp]
theorem get_set (registers : Registers) (x : Fin 16) (byte : UInt8) (k : Fin 16) :
    (registers.set x byte).get k = if k = x then byte else registers.get k := by
  simp only [set, get, Fin.getElem_fin, Vector.getElem_set, Fin.ext_iff, eq_comm]

@[simp]
theorem get_setFlag (registers : Registers) (raised : Bool) (k : Fin 16) :
    (registers.setFlag raised).get k =
      if k = flagNumber then (if raised then 1 else 0) else registers.get k :=
  get_set registers flagNumber _ k

/-- Bytes that are written one after the other stand in the registers from the first one on, and the
registers before and behind them keep theirs. -/
theorem get_loadFrom (registers : Registers) {start : Nat} {bytes : List UInt8}
    (fits : start + bytes.length ≤ 16) (k : Fin 16) :
    (registers.loadFrom start bytes).get k =
      if start ≤ k.val then bytes[k.val - start]?.getD (registers.get k)
      else registers.get k := by
  induction bytes generalizing registers start with
  | nil => simp [loadFrom]
  | cons byte rest ih =>
      rw [List.length_cons] at fits
      have place := Hexadecimal.lastDigit_val_of_lt (n := start) (by omega)
      rw [loadFrom, ih _ (by omega), get_set]
      rcases Nat.lt_trichotomy k.val start with below | here | above
      · have other : k ≠ Hexadecimal.lastDigit start := by
          intro same
          rw [same, place] at below
          exact Nat.lt_irrefl start below
        rw [if_neg (by omega), if_neg other, if_neg (by omega)]
      · have same : k = Hexadecimal.lastDigit start := Fin.ext (here.trans place.symm)
        rw [if_neg (by omega), if_pos same, if_pos (by omega), here, Nat.sub_self]
        rfl
      · have other : k ≠ Hexadecimal.lastDigit start := by
          intro same
          rw [same, place] at above
          exact Nat.lt_irrefl start above
        obtain ⟨offset, same⟩ : ∃ offset, k.val = start + 1 + offset :=
          Nat.exists_eq_add_of_le above
        rw [if_pos (by omega), if_neg other, if_pos (by omega), same,
          Nat.add_sub_cancel_left, Nat.add_assoc, Nat.add_sub_cancel_left, Nat.add_comm 1 offset,
          List.getElem?_cons_succ]

theorem arithmetic_index (registers : Registers) (operation : Arithmetic) (shiftUsesVy : Bool)
    (x y : Fin 16) :
    (registers.arithmetic operation shiftUsesVy x y).index = registers.index := by
  cases operation <;> rfl

theorem loadFrom_index (registers : Registers) (start : Nat) (bytes : List UInt8) :
    (registers.loadFrom start bytes).index = registers.index := by
  induction bytes generalizing registers start with
  | nil => rfl
  | cons byte rest ih => exact ih _ _

theorem skipIf_eq (registers : Registers) (condition : Bool) :
    registers.skipIf condition =
      { registers with pc := (registers.skipIf condition).pc } := by
  cases condition <;> rfl

theorem eq_of_get_set_ne {registers : Registers} {x k : Fin 16} {byte : UInt8}
    (differs : (registers.set x byte).get k ≠ registers.get k) : k = x := by
  apply Classical.byContradiction
  intro other
  rw [get_set, if_neg other] at differs
  exact differs rfl

theorem lt_of_get_loadFrom_ne {registers : Registers} {k : Fin 16} {bytes : List UInt8}
    (fits : bytes.length ≤ 16)
    (differs : (registers.loadFrom 0 bytes).get k ≠ registers.get k) : k.val < bytes.length := by
  apply Nat.lt_of_not_le
  intro beyond
  rw [get_loadFrom registers (by omega), if_pos (Nat.zero_le k.val), Nat.sub_zero,
    List.getElem?_eq_none beyond] at differs
  exact differs rfl

end Registers

end ChipEight
