import ChipEight.Proofs.Instruction
import ChipEight.Proofs.Machine.Effect
import ChipEight.Proofs.Registers

/-!
# Register arithmetic

What the nine register operations leave in the register file, in terms of the integers that the
registers held before.  The table gives the value that is stored and the flag that is raised or
lowered; `toNat_get_arithmetic` says that the register file follows it, whichever registers the
operands, the target and the flag are.
-/

namespace ChipEight

namespace Arithmetic

/-- The word `8XYN` of a register operation. -/
def opcode (operation : Arithmetic) (x y : Fin 16) : Opcode :=
  ⟨UInt16.ofNat (0x8000 + 0x100 * x.val + 0x10 * y.val + operation.digit)⟩

/-- The register that an operation stores its result in. -/
def target (x y : Fin 16) : Arithmetic → Fin 16
  | .subtractFrom => y
  | _ => x

/-- The operand of a shift. -/
def shifted (shiftUsesVy : Bool) (a b : Nat) : Nat :=
  if shiftUsesVy then b else a

/-- What an operation stores, where `a` and `b` are the values of its registers and `s` is the
operand of a shift. -/
def stored (a b s : Nat) : Arithmetic → Nat
  | .copy => b
  | .or => a ||| b
  | .and => a &&& b
  | .xor => a ^^^ b
  | .add => (a + b) % 256
  | .subtract => (((a : Int) - b) % 256).toNat
  | .shiftRight => s / 2
  | .subtractFrom => (((b : Int) - a) % 256).toNat
  | .shiftLeft => 2 * s % 256

/-- Whether an operation raises the flag or lowers it, if it touches the flag. -/
def flag? (a b s : Nat) : Arithmetic → Option Bool
  | .add => some (decide (255 < a + b))
  | .subtract => some (decide (b ≤ a))
  | .shiftRight => some (decide (s % 2 = 1))
  | .subtractFrom => some (decide (a ≤ b))
  | .shiftLeft => some (decide (128 ≤ s))
  | _ => none

/-- What register `k` holds after an operation, where `old` is what it held before.  The flag comes
last, so it stays where the target is the flag register. -/
def held (operation : Arithmetic) (x y : Fin 16) (a b s : Nat) (k : Fin 16) (old : Nat) : Nat :=
  match operation.flag? a b s with
  | some raised =>
      if k = Registers.flagNumber then raised.toNat
      else if k = operation.target x y then operation.stored a b s else old
  | none => if k = operation.target x y then operation.stored a b s else old

/-- An operation changes its target and, if it sets the flag, the flag register. -/
theorem eq_of_held_ne {operation : Arithmetic} {x y k : Fin 16} {a b s old : Nat}
    (differs : operation.held x y a b s k old ≠ old) :
    k = operation.target x y ∨
      k = Registers.flagNumber ∧ (operation.flag? a b s).isSome := by
  simp only [held] at differs
  by_cases stores : k = operation.target x y
  · exact .inl stores
  · cases flags : operation.flag? a b s with
    | none => simp [flags, stores] at differs
    | some raised =>
        simp only [flags, if_neg stores, ne_eq, ite_eq_right_iff, Classical.not_imp] at differs
        exact .inr ⟨differs.1, rfl⟩

theorem encodes_opcode (operation : Arithmetic) (x y : Fin 16) :
    (Instruction.arithmetic operation x y).Encodes (operation.opcode x y).word.toNat := by
  have digit : operation.digit < 16 := by cases operation <;> decide
  have word : (operation.opcode x y).word.toNat =
      0x8000 + 0x100 * x.val + 0x10 * y.val + operation.digit := by
    apply UInt16.toNat_ofNat_of_lt
    simp only [UInt16.size]
    omega
  rw [word]
  simp only [Instruction.Encodes]
  omega

end Arithmetic

namespace Registers

open Arithmetic

theorem toNat_flag (raised : Bool) : (if raised then 1 else 0 : UInt8).toNat = raised.toNat := by
  cases raised <;> rfl

theorem toNat_sub (a b : UInt8) :
    (a - b).toNat = (((a.toNat : Int) - b.toNat) % 256).toNat := by
  have first := a.toNat_lt
  have second := b.toNat_lt
  rw [UInt8.toNat_sub]
  omega

theorem toNat_shiftRight_one (a : UInt8) : (a >>> 1).toNat = a.toNat / 2 := by
  rw [UInt8.toNat_shiftRight]
  rfl

theorem toNat_shiftLeft_one (a : UInt8) : (a <<< 1).toNat = 2 * a.toNat % 256 := by
  rw [UInt8.toNat_shiftLeft]
  exact congrArg (· % 256) (Nat.shiftLeft_eq a.toNat 1 |>.trans (Nat.mul_comm _ _))

variable {a b s : Nat} {byte : UInt8}

/-- An operation that leaves the flag alone stores its result and nothing else. -/
theorem toNat_get_set_eq_held (registers : Registers) (operation : Arithmetic) (x y k : Fin 16)
    (unflagged : operation.flag? a b s = none) (value : byte.toNat = operation.stored a b s) :
    ((registers.set (operation.target x y) byte).get k).toNat =
      operation.held x y a b s k (registers.get k).toNat := by
  simp only [held, unflagged, get_set]
  split
  · exact value
  · rfl

/-- An operation that sets the flag does so after it has stored its result. -/
theorem toNat_get_setFlag_eq_held (registers : Registers) (operation : Arithmetic)
    (x y k : Fin 16) {raised : Bool} (flagged : operation.flag? a b s = some raised)
    (value : byte.toNat = operation.stored a b s) :
    (((registers.set (operation.target x y) byte).setFlag raised).get k).toNat =
      operation.held x y a b s k (registers.get k).toNat := by
  simp only [held, flagged, get_setFlag, get_set]
  split
  · exact toNat_flag raised
  · split
    · exact value
    · rfl

/-- The register file after an operation follows the table. -/
theorem toNat_get_arithmetic (registers : Registers) (operation : Arithmetic) (shiftUsesVy : Bool)
    (x y k : Fin 16) :
    ((registers.arithmetic operation shiftUsesVy x y).get k).toNat =
      operation.held x y (registers.get x).toNat (registers.get y).toNat
        (shifted shiftUsesVy (registers.get x).toNat (registers.get y).toNat) k
        (registers.get k).toNat := by
  have source : shifted shiftUsesVy (registers.get x).toNat (registers.get y).toNat =
      (if shiftUsesVy then registers.get y else registers.get x).toNat := by
    cases shiftUsesVy <;> rfl
  rw [source]
  cases operation with
  | copy => exact registers.toNat_get_set_eq_held .copy x y k rfl rfl
  | or => exact registers.toNat_get_set_eq_held .or x y k rfl (UInt8.toNat_or _ _)
  | and => exact registers.toNat_get_set_eq_held .and x y k rfl (UInt8.toNat_and _ _)
  | xor => exact registers.toNat_get_set_eq_held .xor x y k rfl (UInt8.toNat_xor _ _)
  | add => exact registers.toNat_get_setFlag_eq_held .add x y k rfl (UInt8.toNat_add _ _)
  | subtract => exact registers.toNat_get_setFlag_eq_held .subtract x y k rfl (toNat_sub _ _)
  | shiftRight =>
      exact registers.toNat_get_setFlag_eq_held .shiftRight x y k rfl (toNat_shiftRight_one _)
  | subtractFrom =>
      exact registers.toNat_get_setFlag_eq_held .subtractFrom x y k rfl (toNat_sub _ _)
  | shiftLeft =>
      exact registers.toNat_get_setFlag_eq_held .shiftLeft x y k rfl (toNat_shiftLeft_one _)

end Registers

namespace Machine

/-- Executing `8XYN` on a machine leaves a register file that follows the table, for all registers
and either rule for shifts, and changes nothing else. -/
theorem register_arithmetic_follows_table (machine : Machine) (operation : Arithmetic)
    (x y : Fin 16) :
    ∃ after : Registers,
      (execute (operation.opcode x y)).on machine = (.ok (), machine.withRegisters after) ∧
      after.index = machine.registers.index ∧ after.pc = machine.registers.pc ∧
      ∀ k, (after.get k).toNat =
        operation.held x y (machine.v x).toNat (machine.v y).toNat
          (Arithmetic.shifted machine.settings.shiftUsesVy (machine.v x).toNat
            (machine.v y).toNat)
          k (machine.v k).toNat := by
  have decoded := Instruction.decode?_of_encodes (operation.encodes_opcode x y)
  refine ⟨machine.registers.arithmetic operation machine.settings.shiftUsesVy x y, ?_, ?_, ?_, ?_⟩
  · rw [execute, decoded]
    rfl
  · exact Registers.arithmetic_index _ operation _ x y
  · cases operation <;> rfl
  · exact machine.registers.toNat_get_arithmetic operation machine.settings.shiftUsesVy x y

end Machine

end ChipEight
