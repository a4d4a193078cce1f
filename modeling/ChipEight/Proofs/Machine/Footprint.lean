import ChipEight.Proofs.Machine.Arithmetic
import ChipEight.Proofs.Machine.CallReturn
import ChipEight.Proofs.Memory

/-!
# What a cycle leaves alone

Every part of a machine is changed by the words of a few families only.  `Confined` lists them part
by part, and `cycle_changes_confined` says that no cycle changes more than that: a cycle that
faults, or that finds the machine halted, changes none of these parts, and for each instruction the
others are out of its reach.
-/

namespace ChipEight

/-- The words `0?E0` and `DXYN`, which paint. -/
def Opcode.Paints (op : Opcode) : Prop :=
  op.family = 0x0 ∧ op.nn = 0xE0 ∨ op.family = 0xD

/-- The words that may change register `k`: as their first operand, as the second operand of `8XY7`,
as the flag, or as one of the registers that `FX65` fills. -/
def Opcode.Writes (op : Opcode) (k : Fin 16) : Prop :=
  k = op.x ∧ (op.family ∈ [0x6, 0x7, 0xC] ∨ op.family = 0x8 ∧ op.n ∈ [0, 1, 2, 3, 4, 5, 6, 0xE] ∨
      op.family = 0xF ∧ op.nn ∈ [0x07, 0x0A]) ∨
    k = op.y ∧ op.family = 0x8 ∧ op.n = 7 ∨
    k = Registers.flagNumber ∧ (op.family = 0x8 ∧ op.n ∈ [4, 5, 6, 7, 0xE] ∨ op.family = 0xD) ∨
    k ≤ op.x ∧ op.family = 0xF ∧ op.nn = 0x65

namespace Machine

/-- The parts in which two machines differ, if the second one came about from the first by a cycle
that met the word `op`. -/
structure Confined (before : Machine) (op : Opcode) (after : Machine) : Prop where
  memory (address : Nat) (differs : after.memory.get address ≠ before.memory.get address) :
    op.family = 0xF ∧ before.registers.index.toNat ≤ address ∧
      (op.nn = 0x33 ∧ address ≤ before.registers.index.toNat + 2 ∨
        op.nn = 0x55 ∧ address ≤ before.registers.index.toNat + op.x.val)
  stack (differs : after.stack ≠ before.stack) :
    op.family = 0x2 ∨ op.family = 0x0 ∧ op.nn = 0xEE
  lit (differs : after.screen.lit ≠ before.screen.lit) : op.Paints
  pending (differs : after.screen.pending ≠ before.screen.pending) : op.Paints
  redraw (differs : after.screen.redraw ≠ before.screen.redraw) : op.Paints
  timer (differs : after.timer.value ≠ before.timer.value) : op.family = 0xF ∧ op.nn = 0x15
  index (differs : after.registers.index ≠ before.registers.index) :
    op.family = 0xA ∨ op.family = 0xF ∧ op.nn ∈ [0x1E, 0x29]
  held : after.keypad.held = before.keypad.held
  v (k : Fin 16) (differs : after.v k ≠ before.v k) : op.Writes k

variable {machine : Machine} {op : Opcode} {instruction : Instruction}

/-! ## Instructions, part by part -/

/-- Waiting for a key concerns the registers and the phase only. -/
theorem awaited_eq (machine : Machine) (x : Fin 16) :
    machine.awaited x =
      { machine with
        registers := (machine.awaited x).registers, phase := (machine.awaited x).phase } := by
  unfold awaited
  cases machine.keypad.last? <;> rfl

theorem get_overwriteAtIndex_of_ne {payload : List UInt8}
    (fits : machine.registers.index.toNat + payload.length ≤ 4096) {address : Nat}
    (differs : (machine.overwriteAtIndex payload).memory.get address ≠
      machine.memory.get address) :
    machine.registers.index.toNat ≤ address ∧
      address < machine.registers.index.toNat + payload.length := by
  apply Classical.byContradiction
  intro outside
  exact differs (Memory.get_overwrite_of_notMem machine.memory.bytes fits outside)

theorem effect_memory_confined (encoded : instruction.Encodes op.word.toNat)
    (succeeds : machine.failure? instruction = none) {address : Nat}
    (differs : (machine.effect instruction).memory.get address ≠ machine.memory.get address) :
    op.family = 0xF ∧ machine.registers.index.toNat ≤ address ∧
      (op.nn = 0x33 ∧ address ≤ machine.registers.index.toNat + 2 ∨
        op.nn = 0x55 ∧ address ≤ machine.registers.index.toNat + op.x.val) := by
  cases instruction with
  | storeDecimal x =>
      obtain ⟨family, -, digits⟩ := encoded
      have fits := transferFailure?_eq_none_iff.mp succeeds
      obtain ⟨above, below⟩ := get_overwriteAtIndex_of_ne fits differs
      exact ⟨family, above, .inl ⟨Opcode.nn_eq_of_toNat digits, Nat.le_of_lt_succ below⟩⟩
  | storeRegisters x =>
      obtain ⟨family, first, digits⟩ := encoded
      have fits := transferFailure?_eq_none_iff.mp succeeds
      rw [← length_take_registers machine x] at fits
      obtain ⟨above, below⟩ := get_overwriteAtIndex_of_ne fits differs
      rw [length_take_registers, ← first, ← op.x_val] at below
      exact ⟨family, above, .inr ⟨Opcode.nn_eq_of_toNat digits, Nat.le_of_lt_succ below⟩⟩
  | waitKey x =>
      rw [effect, awaited_eq] at differs
      exact absurd rfl differs
  | _ => exact absurd rfl differs

theorem effect_stack_confined (encoded : instruction.Encodes op.word.toNat)
    (differs : (machine.effect instruction).stack ≠ machine.stack) :
    op.family = 0x2 ∨ op.family = 0x0 ∧ op.nn = 0xEE := by
  cases instruction with
  | ret => exact .inr ⟨encoded.1, Opcode.nn_eq_of_toNat encoded.2⟩
  | call target => exact .inl encoded.1
  | waitKey x =>
      rw [effect, awaited_eq] at differs
      exact absurd rfl differs
  | _ => exact absurd rfl differs

theorem effect_screen_confined (encoded : instruction.Encodes op.word.toNat)
    (differs : (machine.effect instruction).screen ≠ machine.screen) : op.Paints := by
  cases instruction with
  | clearScreen => exact .inl ⟨encoded.1, Opcode.nn_eq_of_toNat encoded.2⟩
  | draw x y rows => exact .inr encoded.1
  | waitKey x =>
      rw [effect, awaited_eq] at differs
      exact absurd rfl differs
  | _ => exact absurd rfl differs

theorem effect_timer_confined (encoded : instruction.Encodes op.word.toNat)
    (differs : (machine.effect instruction).timer ≠ machine.timer) :
    op.family = 0xF ∧ op.nn = 0x15 := by
  cases instruction with
  | writeTimer x => exact ⟨encoded.1, Opcode.nn_eq_of_toNat encoded.2.2⟩
  | waitKey x =>
      rw [effect, awaited_eq] at differs
      exact absurd rfl differs
  | _ => exact absurd rfl differs

theorem effect_index_confined (encoded : instruction.Encodes op.word.toNat)
    (differs : (machine.effect instruction).registers.index ≠ machine.registers.index) :
    op.family = 0xA ∨ op.family = 0xF ∧ op.nn ∈ [0x1E, 0x29] := by
  cases instruction with
  | loadIndex address => exact .inl encoded.1
  | addIndex x =>
      have digits : op.nn = 0x1E := Opcode.nn_eq_of_toNat encoded.2.2
      exact .inr ⟨encoded.1, by simp [digits]⟩
  | pointGlyph x =>
      have digits : op.nn = 0x29 := Opcode.nn_eq_of_toNat encoded.2.2
      exact .inr ⟨encoded.1, by simp [digits]⟩
  | arithmetic operation x y => exact absurd (Registers.arithmetic_index _ _ _ x y) differs
  | loadRegisters x => exact absurd (Registers.loadFrom_index _ _ _) differs
  | skipIfByte | skipUnlessByte | skipIfSame | skipUnlessSame | skipIfKey | skipUnlessKey =>
      rw [effect, withRegisters, Registers.skipIf_eq] at differs
      exact absurd rfl differs
  | waitKey x =>
      simp only [effect, awaited] at differs
      cases last : machine.keypad.last? with
      | none => simp [last, Registers.rewind] at differs
      | some key => simp [last, Registers.set] at differs
  | _ => exact absurd rfl differs

/-- The register operations by their last digits. -/
theorem arithmetic_confined {operation : Arithmetic} {x y k : Fin 16} {a b s : Nat}
    (encoded : (Instruction.arithmetic operation x y).Encodes op.word.toNat)
    (touched : k = operation.target x y ∨
      k = Registers.flagNumber ∧ (operation.flag? a b s).isSome) : op.Writes k := by
  obtain ⟨family, first, second, digit⟩ := encoded
  have x_eq : op.x = x := Fin.ext first
  have y_eq : op.y = y := Fin.ext second
  have family_eq : op.family = 0x8 := family
  have n_eq : op.n = operation.digit := digit
  simp only [Opcode.Writes, x_eq, y_eq, family_eq, n_eq]
  cases operation <;>
    simpa [Arithmetic.target, Arithmetic.flag?, Arithmetic.digit] using touched

theorem effect_v_confined (encoded : instruction.Encodes op.word.toNat) {k : Fin 16}
    (differs : (machine.effect instruction).v k ≠ machine.v k) : op.Writes k := by
  have first : ∀ {x : Fin 16}, op.word.toNat / 256 % 16 = x → k = x → k = op.x :=
    fun digit same => same.trans (Fin.ext digit).symm
  cases instruction with
  | loadByte x byte | addByte x byte | random x byte =>
      obtain ⟨family, digit, -⟩ := encoded
      have target := Registers.eq_of_get_set_ne differs
      exact .inl ⟨first digit target, .inl (by simp [Opcode.family, family])⟩
  | arithmetic operation x y =>
      apply arithmetic_confined encoded
      apply Arithmetic.eq_of_held_ne
      intro same
      apply differs
      apply UInt8.toNat_inj.mp
      exact (Registers.toNat_get_arithmetic _ operation _ x y k).trans same
  | readTimer x =>
      obtain ⟨family, digit, digits⟩ := encoded
      have target := Registers.eq_of_get_set_ne differs
      have nn : op.nn = 0x07 := Opcode.nn_eq_of_toNat digits
      exact .inl ⟨first digit target, .inr (.inr ⟨family, by simp [nn]⟩)⟩
  | waitKey x =>
      obtain ⟨family, digit, digits⟩ := encoded
      have nn : op.nn = 0x0A := Opcode.nn_eq_of_toNat digits
      simp only [effect, awaited] at differs
      cases last : machine.keypad.last? with
      | none => simp [last, v, Registers.rewind, Registers.get] at differs
      | some key =>
          simp only [last] at differs
          have target := Registers.eq_of_get_set_ne differs
          exact .inl ⟨first digit target, .inr (.inr ⟨family, by simp [nn]⟩)⟩
  | draw x y rows =>
      have target := Registers.eq_of_get_set_ne differs
      exact .inr (.inr (.inl ⟨target, .inr encoded.1⟩))
  | loadRegisters x =>
      obtain ⟨family, digit, digits⟩ := encoded
      have length : (machine.bytesAtIndex (x.val + 1)).length = x.val + 1 := by
        simp [bytesAtIndex]
      have below := Registers.lt_of_get_loadFrom_ne (by omega) differs
      rw [length, ← digit] at below
      exact .inr (.inr (.inr ⟨Nat.le_of_lt_succ below, family, Opcode.nn_eq_of_toNat digits⟩))
  | skipIfByte | skipUnlessByte | skipIfSame | skipUnlessSame | skipIfKey | skipUnlessKey =>
      rw [effect, withRegisters, Registers.skipIf_eq] at differs
      exact absurd rfl differs
  | _ => exact absurd rfl differs

/-- Of all instructions only one draws, and it draws once. -/
theorem effect_random (encoded : instruction.Encodes op.word.toNat) :
    (machine.effect instruction).random =
      if op.family = 0xC then machine.random.draw.2 else machine.random := by
  cases instruction with
  | random x mask =>
      have family : op.family = 0xC := encoded.1
      rw [if_pos family]
      rfl
  | waitKey x =>
      have family : op.family = 0xF := encoded.1
      rw [if_neg (by rw [family]; decide), effect, awaited_eq]
  | _ =>
      have family : op.family = _ := encoded.1
      rw [if_neg (by rw [family]; decide)]
      rfl

/-! ## Cycles -/

theorem Confined.refl (machine : Machine) (op : Opcode) : machine.Confined op machine := by
  constructor <;> simp

/-- A cycle that executes a word changes what the word may change. -/
theorem confined_executed
    (decoded : Instruction.decode? machine.nextOpcode = some instruction)
    (succeeds : machine.failure? instruction = none) :
    machine.Confined machine.nextOpcode (machine.executed instruction) := by
  have encoded := Instruction.encodes_of_decode? decoded
  have screen : (machine.executed instruction).screen ≠ machine.screen →
      machine.nextOpcode.Paints := fun differs => effect_screen_confined encoded differs
  constructor
  case memory =>
    intro address differs
    exact effect_memory_confined encoded ((failure?_fetched machine _ instruction).trans succeeds)
      differs
  case stack => exact fun differs => effect_stack_confined encoded differs
  case lit => exact fun differs => screen fun same => differs (congrArg Screen.lit same)
  case pending => exact fun differs => screen fun same => differs (congrArg Screen.pending same)
  case redraw => exact fun differs => screen fun same => differs (congrArg Screen.redraw same)
  case timer =>
    exact fun differs => effect_timer_confined encoded fun same => differs (congrArg _ same)
  case index => exact fun differs => effect_index_confined encoded differs
  case held =>
    rw [executed, effect_eq]
    rfl
  case v => exact fun k differs => effect_v_confined encoded differs

/-- A word of family C never fails. -/
theorem cause?_of_random (awake : machine.phase ≠ .halted)
    (within : machine.registers.pc.toNat ≤ lastFetch) (family : machine.nextOpcode.family = 0xC) :
    machine.cause? = none := by
  have decoded : Instruction.decode? machine.nextOpcode =
      some (.random machine.nextOpcode.x machine.nextOpcode.nn) := by
    simp only [Instruction.decode?, family]
  rw [cause?_of_le awake within, refusal?_of_decode? decoded]
  rfl

/-- The number of random bytes that the next cycle draws. -/
def draws (machine : Machine) : Nat :=
  if machine.phase ≠ .halted ∧ machine.registers.pc.toNat ≤ lastFetch ∧
      machine.nextOpcode.family = 0xC then 1
  else 0

theorem confined_cycle (machine : Machine) :
    machine.drainKeys.Confined machine.nextOpcode machine.cycle.1 := by
  have same := Confined.refl machine.drainKeys machine.nextOpcode
  by_cases halted : machine.phase = .halted
  · rw [cycle, fetchExecute_eq_of_halted (show machine.drainKeys.phase = .halted from halted)]
    exact same
  · cases causes : machine.cause? with
    | some cause =>
        have ran :=
          fetchExecute_eq_of_some (show machine.drainKeys.cause? = some cause from causes)
        rw [cycle, ran]
        exact ⟨same.memory, same.stack, same.lit, same.pending, same.redraw, same.timer,
          same.index, same.held, same.v⟩
    | none =>
        obtain ⟨-, -, instruction, decoded, succeeds, ran⟩ :=
          (executes_nextOpcode halted causes).cycle_eq
        rw [ran]
        exact @confined_executed machine.drainKeys instruction decoded succeeds

theorem cycle_random (machine : Machine) :
    machine.cycle.1.random =
      { machine.random with drawn := machine.random.drawn + machine.draws } := by
  by_cases halted : machine.phase = .halted
  · have none : machine.draws = 0 := if_neg fun drawn => drawn.1 halted
    rw [cycle, fetchExecute_eq_of_halted (show machine.drainKeys.phase = .halted from halted), none]
    rfl
  · cases causes : machine.cause? with
    | some cause =>
        have none : machine.draws = 0 := by
          apply if_neg
          rintro ⟨awake, within, family⟩
          rw [cause?_of_random awake within family] at causes
          cases causes
        have ran :=
          fetchExecute_eq_of_some (show machine.drainKeys.cause? = some cause from causes)
        rw [cycle, ran, none]
        rfl
    | none =>
        obtain ⟨-, within, instruction, decoded, -, ran⟩ :=
          (executes_nextOpcode halted causes).cycle_eq
        have encoded := Instruction.encodes_of_decode? decoded
        rw [ran]
        apply (effect_random encoded).trans
        by_cases family : machine.nextOpcode.family = 0xC
        · rw [if_pos family, draws, if_pos ⟨halted, within, family⟩]
          rfl
        · rw [if_neg family, draws, if_neg fun all => family all.2.2]
          rfl

/-- Compared with the machine right after the key queue was drained, a cycle changes nothing but
what the word at the program counter may change.  The random source moves on by one byte where a
word of family C is executed, and stays where it is otherwise. -/
theorem cycle_changes_confined (machine : Machine) :
    machine.drainKeys.Confined machine.nextOpcode machine.cycle.1 ∧
      machine.cycle.1.random =
        { machine.drainKeys.random with
          drawn := machine.drainKeys.random.drawn + machine.draws } :=
  ⟨machine.confined_cycle, machine.cycle_random⟩

/-- A halted machine executes nothing, so a word of family C at its program counter moves the random
source by no byte instead of one. -/
theorem halted_machine_draws_nothing :
    let machine := ((create { policy := .known .halt } (RandomSource.cycling #[])).loadRom
      [0x00, 0x00, 0xC0, 0xFF]).1.cycle.1.jump 514
    machine.nextOpcode.family = 0xC ∧ machine.registers.pc.toNat ≤ lastFetch ∧
      machine.phase = .halted ∧
      machine.cycle.1.random.drawn ≠ machine.drainKeys.random.drawn + 1 := by
  decide +kernel

end Machine

end ChipEight
