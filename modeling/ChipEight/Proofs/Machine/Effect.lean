import ChipEight.Proofs.Machine.Action

/-!
# What instructions do

Every instruction checks the stack or the range of memory that it needs before it changes anything.
Its run is therefore described by two functions: the cause for which it fails, if it does, and the
machine that it leaves otherwise.  `on_perform_of_some` and `on_perform_of_none` say that the
sequence of actions behind an instruction amounts to these two.
-/

namespace ChipEight.Machine

/-- Why `count` bytes at the index register cannot be transferred, if they reach beyond the end of
the memory. -/
def transferFailure? (machine : Machine) (count : Nat) : Option Fault.Cause :=
  if 4096 < machine.registers.index.toNat + count then
    some (.memoryOutOfBounds machine.registers.index.toNat count)
  else none

/-- Why an instruction fails on a machine, if it does. -/
def failure? (machine : Machine) : Instruction → Option Fault.Cause
  | .ret => if machine.stack.depth = 0 then some .stackUnderflow else none
  | .call _ => if machine.stack.depth = 16 then some (.stackOverflow 17) else none
  | .draw _ _ rows => machine.transferFailure? rows
  | .storeDecimal _ => machine.transferFailure? 3
  | .storeRegisters x => machine.transferFailure? (x.val + 1)
  | .loadRegisters x => machine.transferFailure? (x.val + 1)
  | _ => none

/-- The bytes from the index register on. -/
def bytesAtIndex (machine : Machine) (count : Nat) : List UInt8 :=
  (List.range count).map fun offset =>
    machine.memory.get (machine.registers.index.toNat + offset)

/-- Put bytes into the memory from the index register on. -/
def overwriteAtIndex (machine : Machine) (payload : List UInt8) : Machine :=
  { machine with
    memory := ⟨Memory.overwrite machine.memory.bytes machine.registers.index.toNat payload⟩ }

/-- The screen with the sprite of a draw instruction, and whether a pixel was erased. -/
def painted (machine : Machine) (x y : Fin 16) (rows : Nat) : Screen 64 32 × Bool :=
  machine.stamped (machine.v x) (machine.v y) (machine.bytesAtIndex rows)

/-- Go on at the top return address. -/
def returned (machine : Machine) : Machine :=
  ({ machine with stack := machine.stack.below } : Machine).jump machine.stack.top

/-- Go on at an address and keep the way back. -/
def called (machine : Machine) (target : UInt16) : Machine :=
  ({ machine with stack := machine.stack.above machine.registers.pc } : Machine).jump target

/-- Take the held key that went down last, or wait for one. -/
def awaited (machine : Machine) (x : Fin 16) : Machine :=
  match machine.keypad.last? with
  | some key =>
      { machine with
        registers := machine.registers.set x (UInt8.ofNat key.val), phase := .running }
  | none => { machine with registers := machine.registers.rewind, phase := .waitKey }

/-- The machine that an instruction leaves, unless it fails. -/
def effect (machine : Machine) : Instruction → Machine
  | .clearScreen => { machine with screen := machine.screen.clear }
  | .ret => machine.returned
  | .jump target => machine.jump target
  | .call target => machine.called target
  | .skipIfByte x byte =>
      machine.withRegisters (machine.registers.skipIf (machine.v x == byte))
  | .skipUnlessByte x byte =>
      machine.withRegisters (machine.registers.skipIf (machine.v x != byte))
  | .skipIfSame x y =>
      machine.withRegisters (machine.registers.skipIf (machine.v x == machine.v y))
  | .skipUnlessSame x y =>
      machine.withRegisters (machine.registers.skipIf (machine.v x != machine.v y))
  | .loadByte x byte => machine.withRegisters (machine.registers.set x byte)
  | .addByte x byte => machine.withRegisters (machine.registers.set x (machine.v x + byte))
  | .arithmetic operation x y =>
      machine.withRegisters
        (machine.registers.arithmetic operation machine.settings.shiftUsesVy x y)
  | .loadIndex address => machine.point address
  | .jumpFromV0 base => machine.jump (base + (machine.v Registers.baseNumber).toUInt16)
  | .random x mask =>
      { machine with
        random := machine.random.draw.2
        registers := machine.registers.set x (machine.random.draw.1 &&& mask) }
  | .draw x y rows =>
      { machine with
        screen := (machine.painted x y rows).1
        registers := machine.registers.setFlag (machine.painted x y rows).2 }
  | .skipIfKey x =>
      machine.withRegisters
        (machine.registers.skipIf (machine.keypad.isDown (machine.v x).toNat))
  | .skipUnlessKey x =>
      machine.withRegisters
        (machine.registers.skipIf !(machine.keypad.isDown (machine.v x).toNat))
  | .readTimer x => machine.withRegisters (machine.registers.set x machine.timer.value)
  | .waitKey x => machine.awaited x
  | .writeTimer x => { machine with timer := ⟨machine.v x⟩ }
  | .writeSound _ => machine
  | .addIndex x => machine.point (machine.registers.index + (machine.v x).toUInt16)
  | .pointGlyph x => machine.point (5 * (machine.v x).toUInt16)
  | .storeDecimal x => machine.overwriteAtIndex (decimalDigits (machine.v x))
  | .storeRegisters x =>
      machine.overwriteAtIndex (machine.registers.v.toList.take (x.val + 1))
  | .loadRegisters x =>
      machine.withRegisters
        (machine.registers.loadFrom 0 (machine.bytesAtIndex (x.val + 1)))

/-- Instructions work on the devices, the random source and the phase.  The rest of the machine is
out of their reach. -/
theorem effect_eq (machine : Machine) (instruction : Instruction) :
    machine.effect instruction =
      { machine with
        random := (machine.effect instruction).random
        memory := (machine.effect instruction).memory
        registers := (machine.effect instruction).registers
        stack := (machine.effect instruction).stack
        screen := (machine.effect instruction).screen
        timer := (machine.effect instruction).timer
        phase := (machine.effect instruction).phase } := by
  cases instruction with
  | waitKey x =>
      simp only [effect, awaited]
      cases machine.keypad.last? <;> rfl
  | _ => rfl

/-! ## Actions that may fail -/

variable {machine : Machine} {count : Nat} {cause : Fault.Cause}

theorem transferFailure?_eq_none_iff :
    machine.transferFailure? count = none ↔
      machine.registers.index.toNat + count ≤ 4096 := by
  unfold transferFailure?
  split <;> simp <;> omega

theorem transferFailure?_eq_some_iff :
    machine.transferFailure? count = some cause ↔
      4096 < machine.registers.index.toNat + count ∧
        cause = .memoryOutOfBounds machine.registers.index.toNat count := by
  unfold transferFailure?
  split
  · rename_i beyond
    simp [beyond, eq_comm]
  · rename_i fits
    simp [fits]

theorem on_readBlock_of_none (fits : machine.transferFailure? count = none) :
    (Action.readBlock count).on machine = (.ok (machine.bytesAtIndex count), machine) := by
  rw [Action.readBlock, Action.on_get_bind, Action.on_lift,
    machine.memory.readBlock_of_le (transferFailure?_eq_none_iff.mp fits)]
  rfl

theorem on_readBlock_of_some (fails : machine.transferFailure? count = some cause) :
    (Action.readBlock count).on machine = (.error cause, machine) := by
  obtain ⟨beyond, rfl⟩ := transferFailure?_eq_some_iff.mp fails
  rw [Action.readBlock, Action.on_get_bind, Action.on_lift,
    machine.memory.readBlock_of_lt beyond]

theorem on_writeBlock_of_none {payload : List UInt8} (length : payload.length = count)
    (fits : machine.transferFailure? count = none) :
    (Action.writeBlock payload).on machine = (.ok (), machine.overwriteAtIndex payload) := by
  subst count
  have written := machine.memory.writeBlock_of_le (transferFailure?_eq_none_iff.mp fits)
  rw [Action.writeBlock, Action.on_get_bind, Action.on_lift_bind_of_ok written]
  rfl

theorem on_writeBlock_of_some {payload : List UInt8} (length : payload.length = count)
    (fails : machine.transferFailure? count = some cause) :
    (Action.writeBlock payload).on machine = (.error cause, machine) := by
  subst count
  obtain ⟨beyond, rfl⟩ := transferFailure?_eq_some_iff.mp fails
  have refused := machine.memory.writeBlock_of_lt beyond
  rw [Action.writeBlock, Action.on_get_bind, Action.on_lift_bind_of_error refused]

theorem on_popFrame_of_ne_zero (held : machine.stack.depth ≠ 0) :
    Action.popFrame.on machine =
      (.ok machine.stack.top, { machine with stack := machine.stack.below }) := by
  rw [Action.popFrame, Action.on_get_bind,
    Action.on_lift_bind_of_ok (machine.stack.pop_of_ne_zero held)]
  rfl

theorem on_popFrame_of_eq_zero (empty : machine.stack.depth = 0) :
    Action.popFrame.on machine = (.error .stackUnderflow, machine) := by
  rw [Action.popFrame, Action.on_get_bind,
    Action.on_lift_bind_of_error (machine.stack.pop_of_eq_zero empty)]

theorem depth_lt_of_ne (room : machine.stack.depth ≠ 16) : (machine.stack.depth : Int) < 16 := by
  have bounded := machine.stack.bounded
  simp only [CallStack.depth] at room ⊢
  omega

theorem on_pushFrame_of_ne (room : machine.stack.depth ≠ 16) (address : UInt16) :
    (Action.pushFrame address).on machine =
      (.ok (), { machine with stack := machine.stack.above address }) := by
  rw [Action.pushFrame, Action.on_get_bind,
    Action.on_lift_bind_of_ok (machine.stack.push_of_lt address (depth_lt_of_ne room))]
  rfl

theorem on_pushFrame_of_eq (full : machine.stack.depth = 16) (address : UInt16) :
    (Action.pushFrame address).on machine = (.error (.stackOverflow 17), machine) := by
  have refused := machine.stack.push_of_le address (by omega)
  rw [full] at refused
  rw [Action.pushFrame, Action.on_get_bind, Action.on_lift_bind_of_error refused]
  rfl

/-! ## Instructions -/

theorem length_take_registers (machine : Machine) (x : Fin 16) :
    (machine.registers.v.toList.take (x.val + 1)).length = x.val + 1 := by
  rw [List.length_take, Vector.length_toList]
  omega

/-- An instruction that fails leaves the machine as it was: what it checks, it checks before its
first change. -/
theorem on_perform_of_some {instruction : Instruction}
    (fails : machine.failure? instruction = some cause) :
    (perform instruction).on machine = (.error cause, machine) := by
  cases instruction with
  | ret =>
      by_cases empty : machine.stack.depth = 0
      · simp only [failure?, if_pos empty, Option.some.injEq] at fails
        subst cause
        exact Action.on_bind_of_error (on_popFrame_of_eq_zero empty) _
      · simp [failure?, empty] at fails
  | call target =>
      by_cases full : machine.stack.depth = 16
      · simp only [failure?, if_pos full, Option.some.injEq] at fails
        subst cause
        rw [perform, Action.on_get_bind]
        exact Action.on_bind_of_error (on_pushFrame_of_eq full _) _
      · simp [failure?, full] at fails
  | draw x y rows =>
      rw [failure?] at fails
      exact Action.on_bind_of_error (on_readBlock_of_some fails) _
  | storeDecimal x =>
      -- The digits come before the check, but reading a register changes nothing.
      rw [failure?] at fails
      rw [perform, Action.on_bind_of_ok (Action.on_readV x machine)]
      exact on_writeBlock_of_some rfl fails
  | storeRegisters x =>
      rw [failure?] at fails
      rw [perform, Action.on_get_bind]
      exact on_writeBlock_of_some (length_take_registers machine x) fails
  | loadRegisters x =>
      rw [failure?] at fails
      exact Action.on_bind_of_error (on_readBlock_of_some fails) _
  | _ => simp [failure?] at fails

/-- An instruction that does not fail has its effect. -/
theorem on_perform_of_none {instruction : Instruction}
    (succeeds : machine.failure? instruction = none) :
    (perform instruction).on machine = (.ok (), machine.effect instruction) := by
  cases instruction with
  | ret =>
      have held : machine.stack.depth ≠ 0 := by
        intro empty
        simp [failure?, empty] at succeeds
      rw [perform, Action.on_bind_of_ok (on_popFrame_of_ne_zero held)]
      rfl
  | call target =>
      have room : machine.stack.depth ≠ 16 := by
        intro full
        simp [failure?, full] at succeeds
      rw [perform, Action.on_get_bind, Action.on_bind_of_ok (on_pushFrame_of_ne room _)]
      rfl
  | draw x y rows =>
      rw [failure?] at succeeds
      rw [perform, Action.on_bind_of_ok (on_readBlock_of_none succeeds)]
      rfl
  | waitKey x =>
      rw [perform, Action.on_get_bind, effect, awaited]
      cases machine.keypad.last? <;> rfl
  | storeDecimal x =>
      rw [failure?] at succeeds
      rw [perform, Action.on_bind_of_ok (Action.on_readV x machine)]
      exact on_writeBlock_of_none rfl succeeds
  | storeRegisters x =>
      rw [failure?] at succeeds
      rw [perform, Action.on_get_bind]
      exact on_writeBlock_of_none (length_take_registers machine x) succeeds
  | loadRegisters x =>
      rw [failure?] at succeeds
      rw [perform, Action.on_bind_of_ok (on_readBlock_of_none succeeds)]
      rfl
  | _ => rfl

theorem on_execute_of_fails {op : Opcode} {instruction : Instruction}
    (decoded : Instruction.decode? op = some instruction)
    (fails : machine.failure? instruction = some cause) :
    (execute op).on machine = (.error cause, machine) := by
  rw [execute, decoded]
  exact on_perform_of_some fails

theorem on_execute_of_succeeds {op : Opcode} {instruction : Instruction}
    (decoded : Instruction.decode? op = some instruction)
    (succeeds : machine.failure? instruction = none) :
    (execute op).on machine = (.ok (), machine.effect instruction) := by
  rw [execute, decoded]
  exact on_perform_of_none succeeds

end ChipEight.Machine
