import ChipEight.Proofs.Instruction
import ChipEight.Proofs.Machine.Outcome

/-!
# When a cycle faults, and why

The causes of faults in terms of the program counter, the digits of the word there, the index
register and the depth of the stack.  A cycle of a machine that has not halted reports a fault
exactly if one of these conditions holds, and no other cause is possible.
-/

namespace ChipEight

namespace Instruction

/-- The number of bytes that an instruction transfers at the index register, if it does so. -/
def transfer? : Instruction → Option Nat
  | .draw _ _ rows => some rows
  | .storeDecimal _ => some 3
  | .storeRegisters x => some (x.val + 1)
  | .loadRegisters x => some (x.val + 1)
  | _ => none

/-- A word transfers a number of bytes at the index register.  A draw without rows transfers none,
which is checked like any other number. -/
def Transfers (word count : Nat) : Prop :=
  (word / 4096 = 0xD ∧ count = word % 16) ∨
    (word / 4096 = 0xF ∧ word % 256 = 0x33 ∧ count = 3) ∨
    (word / 4096 = 0xF ∧ (word % 256 = 0x55 ∨ word % 256 = 0x65) ∧ count = word / 256 % 16 + 1)

theorem transfers_iff (word count : Nat) :
    (∃ instruction : Instruction,
      instruction.Encodes word ∧ instruction.transfer? = some count) ↔ Transfers word count := by
  have first : word / 256 % 16 < 16 := Nat.mod_lt _ (Nat.succ_pos 15)
  have second : word / 16 % 16 < 16 := Nat.mod_lt _ (Nat.succ_pos 15)
  constructor
  · rintro ⟨instruction, encoded, transfers⟩
    cases instruction with
    | draw x y rows =>
        obtain ⟨family, -, -, digit⟩ := encoded
        cases transfers
        exact .inl ⟨family, digit.symm⟩
    | storeDecimal x =>
        obtain ⟨family, -, digits⟩ := encoded
        cases transfers
        exact .inr (.inl ⟨family, digits, rfl⟩)
    | storeRegisters x =>
        obtain ⟨family, register, digits⟩ := encoded
        cases transfers
        exact .inr (.inr ⟨family, .inl digits, by rw [register]⟩)
    | loadRegisters x =>
        obtain ⟨family, register, digits⟩ := encoded
        cases transfers
        exact .inr (.inr ⟨family, .inr digits, by rw [register]⟩)
    | _ => cases transfers
  · rintro (⟨family, rfl⟩ | ⟨family, digits, rfl⟩ | ⟨family, digits | digits, rfl⟩)
    · exact ⟨.draw ⟨_, first⟩ ⟨_, second⟩ _, ⟨family, rfl, rfl, rfl⟩, rfl⟩
    · exact ⟨.storeDecimal ⟨_, first⟩, ⟨family, rfl, digits⟩, rfl⟩
    · exact ⟨.storeRegisters ⟨_, first⟩, ⟨family, rfl, digits⟩, rfl⟩
    · exact ⟨.loadRegisters ⟨_, first⟩, ⟨family, rfl, digits⟩, rfl⟩

theorem encodes_call_iff (word : Nat) :
    (∃ target, (Instruction.call target).Encodes word) ↔ word / 4096 = 0x2 := by
  constructor
  · rintro ⟨target, family, -⟩
    exact family
  · intro family
    refine ⟨UInt16.ofNat (word % 4096), family, ?_⟩
    rw [UInt16.toNat_ofNat']
    omega

end Instruction

namespace Machine

/-- The two bytes at the program counter as a number, the high byte first. -/
def wordAtCounter (machine : Machine) : Nat :=
  256 * (machine.memory.get machine.registers.pc.toNat).toNat +
    (machine.memory.get (machine.registers.pc.toNat + 1)).toNat

theorem nextOpcode_word_toNat (machine : Machine) :
    machine.nextOpcode.word.toNat = machine.wordAtCounter := by
  have high := (machine.memory.get machine.registers.pc.toNat).toNat_lt
  have low := (machine.memory.get (machine.registers.pc.toNat + 1)).toNat_lt
  simp only [nextOpcode, Memory.wordAt, UInt16.toNat_ofNat', wordAtCounter]
  omega

/-- What the next cycle of a machine that has not halted runs into. -/
def Violates (machine : Machine) : Fault.Cause → Prop
  | .fetchOutOfBounds => 4095 ≤ machine.registers.pc.toNat
  | .unmappedOpcode opcode =>
      machine.registers.pc.toNat < 4095 ∧ Instruction.Unmapped machine.wordAtCounter ∧
        opcode = machine.wordAtCounter
  | .stackUnderflow =>
      machine.registers.pc.toNat < 4095 ∧ machine.wordAtCounter / 4096 = 0x0 ∧
        machine.wordAtCounter % 256 = 0xEE ∧ machine.stack.frames = []
  | .stackOverflow depth =>
      machine.registers.pc.toNat < 4095 ∧ machine.wordAtCounter / 4096 = 0x2 ∧
        machine.stack.frames.length = 16 ∧ depth = 17
  | .memoryOutOfBounds address count =>
      machine.registers.pc.toNat < 4095 ∧ address = machine.registers.index.toNat ∧
        ∃ bytes, Instruction.Transfers machine.wordAtCounter bytes ∧
          4096 < machine.registers.index.toNat + bytes ∧ count = bytes
  | .romTooLarge _ _ => False

/-! ## Failing instructions -/

variable {machine : Machine} {instruction : Instruction}

theorem failure?_eq_stackUnderflow_iff :
    machine.failure? instruction = some .stackUnderflow ↔
      instruction = .ret ∧ machine.stack.frames = [] := by
  cases instruction with
  | ret => simp [failure?, CallStack.depth]
  | call target => simp [failure?]
  | draw | storeDecimal | storeRegisters | loadRegisters =>
      rw [failure?, transferFailure?_eq_some_iff]
      simp
  | _ => simp [failure?]

theorem failure?_eq_stackOverflow_iff {depth : Int} :
    machine.failure? instruction = some (.stackOverflow depth) ↔
      (∃ target, instruction = .call target) ∧ machine.stack.frames.length = 16 ∧ depth = 17 := by
  cases instruction with
  | ret => simp [failure?]
  | call target =>
      by_cases full : machine.stack.frames.length = 16
      · simp [failure?, CallStack.depth, full, eq_comm]
      · simp [failure?, CallStack.depth, full]
  | draw | storeDecimal | storeRegisters | loadRegisters =>
      rw [failure?, transferFailure?_eq_some_iff]
      simp
  | _ => simp [failure?]

theorem failure?_eq_memoryOutOfBounds_iff {address count : Int} :
    machine.failure? instruction = some (.memoryOutOfBounds address count) ↔
      address = machine.registers.index.toNat ∧
        ∃ bytes, instruction.transfer? = some bytes ∧
          4096 < machine.registers.index.toNat + bytes ∧ count = bytes := by
  cases instruction with
  | ret => simp [failure?, Instruction.transfer?]
  | call target => simp [failure?, Instruction.transfer?]
  | draw | storeDecimal | storeRegisters | loadRegisters =>
      rw [failure?, transferFailure?_eq_some_iff]
      simp [Instruction.transfer?, and_left_comm]
  | _ => simp [failure?, Instruction.transfer?]

/-! ## Failing cycles -/

variable {cause : Fault.Cause}

/-- A word is refused because the table has no instruction for it, or because its instruction
fails. -/
theorem refusal?_eq_some_iff :
    machine.refusal? = some cause ↔
      (Instruction.Unmapped machine.wordAtCounter ∧
          cause = .unmappedOpcode machine.wordAtCounter) ∨
        ∃ instruction : Instruction, instruction.Encodes machine.wordAtCounter ∧
          machine.failure? instruction = some cause := by
  have word := machine.nextOpcode_word_toNat
  cases decoded : Instruction.decode? machine.nextOpcode with
  | none =>
      have unmapped := (Instruction.decode?_eq_none_iff _).mp decoded
      rw [refusal?, decoded, word]
      rw [word] at unmapped
      constructor
      · intro refuses
        exact .inl ⟨unmapped, (Option.some.inj refuses).symm⟩
      · rintro (⟨-, rfl⟩ | ⟨instruction, encoded, -⟩)
        · rfl
        · rw [← word, ← Instruction.decode?_eq_some_iff, decoded] at encoded
          cases encoded
  | some instruction =>
      have encoded := (Instruction.decode?_eq_some_iff _ _).mp decoded
      rw [word] at encoded
      rw [refusal?_of_decode? decoded]
      constructor
      · intro fails
        exact .inr ⟨instruction, encoded, fails⟩
      · rintro (⟨unmapped, -⟩ | ⟨other, otherEncoded, fails⟩)
        · rw [← word, ← Instruction.decode?_eq_none_iff, decoded] at unmapped
          cases unmapped
        · rw [← word, ← Instruction.decode?_eq_some_iff, decoded] at otherEncoded
          cases otherEncoded
          exact fails

/-- Within the memory, the word at the program counter decides about every fault. -/
theorem refusal?_eq_some_iff_violates (within : machine.registers.pc.toNat < 4095) :
    machine.refusal? = some cause ↔ machine.Violates cause := by
  rw [refusal?_eq_some_iff]
  cases cause with
  | fetchOutOfBounds =>
      constructor
      · rintro (⟨-, impossible⟩ | ⟨instruction, -, fails⟩)
        · cases impossible
        · exact absurd (kind_of_failure? fails) (by decide)
      · intro beyond
        exact absurd within (Nat.not_lt.mpr beyond)
  | unmappedOpcode opcode =>
      constructor
      · rintro (⟨unmapped, same⟩ | ⟨instruction, -, fails⟩)
        · exact ⟨within, unmapped, (Fault.Cause.unmappedOpcode.inj same)⟩
        · exact absurd (kind_of_failure? fails) (by simp [Fault.Cause.kind])
      · rintro ⟨-, unmapped, rfl⟩
        exact .inl ⟨unmapped, rfl⟩
  | stackUnderflow =>
      simp only [failure?_eq_stackUnderflow_iff]
      constructor
      · rintro (⟨-, impossible⟩ | ⟨instruction, encoded, rfl, empty⟩)
        · cases impossible
        · exact ⟨within, encoded.1, encoded.2, empty⟩
      · rintro ⟨-, family, digits, empty⟩
        exact .inr ⟨.ret, ⟨family, digits⟩, rfl, empty⟩
  | stackOverflow depth =>
      simp only [failure?_eq_stackOverflow_iff]
      constructor
      · rintro (⟨-, impossible⟩ | ⟨instruction, encoded, ⟨target, rfl⟩, full, same⟩)
        · cases impossible
        · exact ⟨within, encoded.1, full, same⟩
      · rintro ⟨-, family, full, same⟩
        obtain ⟨target, encoded⟩ := (Instruction.encodes_call_iff _).mpr family
        exact .inr ⟨.call target, encoded, ⟨target, rfl⟩, full, same⟩
  | memoryOutOfBounds address count =>
      simp only [failure?_eq_memoryOutOfBounds_iff]
      constructor
      · rintro (⟨-, impossible⟩ | ⟨instruction, encoded, place, bytes, transfers, beyond, same⟩)
        · cases impossible
        · exact ⟨within, place, bytes,
            (Instruction.transfers_iff _ _).mp ⟨instruction, encoded, transfers⟩, beyond, same⟩
      · rintro ⟨-, place, bytes, transfers, beyond, same⟩
        obtain ⟨instruction, encoded, moved⟩ := (Instruction.transfers_iff _ _).mpr transfers
        exact .inr ⟨instruction, encoded, place, bytes, moved, beyond, same⟩
  | romTooLarge size limit =>
      constructor
      · rintro (⟨-, impossible⟩ | ⟨instruction, -, fails⟩)
        · cases impossible
        · exact absurd (kind_of_failure? fails) (by simp [Fault.Cause.kind])
      · exact False.elim

/-- The cause of the next fault is what the machine runs into. -/
theorem cause?_eq_some_iff (awake : machine.phase ≠ .halted) :
    machine.cause? = some cause ↔ machine.Violates cause := by
  by_cases within : machine.registers.pc.toNat < 4095
  · rw [cause?_of_le awake (Nat.le_of_lt_succ within)]
    exact refusal?_eq_some_iff_violates within
  · have beyond : 4095 ≤ machine.registers.pc.toNat := Nat.le_of_not_lt within
    rw [cause?_of_lt awake beyond]
    cases cause <;> simp [Violates, beyond, within]

/-- The bounds of the fetch are those that the memory itself checks. -/
theorem readWord_counter (within : machine.registers.pc.toNat < 4095) :
    machine.memory.readWord machine.registers.pc.toNat = .ok machine.nextOpcode.word := by
  rw [Memory.readWord, if_pos]
  · rfl
  · unfold Memory.InRange
    omega

/-- Without observers a cycle gives back the word that it has fetched, whatever comes of it. -/
theorem fetchExecute_snd_of_unobserved (unobserved : machine.observers = []) :
    machine.fetchExecute.2 =
      .ok (if machine.phase = .halted ∨ 4095 ≤ machine.registers.pc.toNat then none
        else some machine.nextOpcode) :=
  fetchExecute_snd_of_patient (patient_of_unobserved unobserved)

/-- A cycle that nobody observes always comes to an end with a result.  Unless the machine has
halted, it reports a fault exactly if the program counter, the word there, the index register or the
stack call for it, with that cause and with the program counter from the start of the cycle. -/
theorem cycle_faults_iff_violates (machine : Machine) (unobserved : machine.observers = []) :
    machine.cycle.2 =
        .ok (if machine.phase = .halted ∨ 4095 ≤ machine.registers.pc.toNat then none
          else some machine.nextOpcode) ∧
      (machine.registers.pc.toNat < 4095 →
        machine.memory.readWord machine.registers.pc.toNat = .ok machine.nextOpcode.word ∧
          machine.nextOpcode.word.toNat = machine.wordAtCounter) ∧
      (machine.phase ≠ .halted → ∀ fault : Fault,
        machine.Reports machine.cycle.1 fault ↔
          machine.Violates fault.cause ∧ fault.pc = some (machine.registers.pc.toNat : Int)) := by
  have alone : machine.drainKeys.observers = [] := unobserved
  refine ⟨fetchExecute_snd_of_unobserved alone, ?_, ?_⟩
  · intro within
    exact ⟨readWord_counter within, machine.nextOpcode_word_toNat⟩
  · intro awake fault
    rw [reports_cycle_iff]
    constructor
    · rintro ⟨cause, causes, rfl⟩
      exact ⟨(cause?_eq_some_iff awake).mp causes, rfl⟩
    · rintro ⟨violates, pc⟩
      refine ⟨fault.cause, (cause?_eq_some_iff awake).mpr violates, ?_⟩
      rw [← pc]

/-- Drawing no rows is refused where the index register points beyond the end of the memory. -/
theorem cycle_faults_iff_violates_beyond :
    let machine := create {} (RandomSource.cycling #[])
    let drawing : Machine :=
      { machine with
        registers := { machine.registers with index := 4097 }
        memory := ⟨machine.memory.bytes.set 512 0xD0⟩ }
    drawing.observers = [] ∧
      drawing.Reports drawing.cycle.1 ⟨.memoryOutOfBounds 4097 0, some 512⟩ := by
  intro machine drawing
  have word : drawing.wordAtCounter = 0xD000 := by decide +kernel
  obtain ⟨-, -, faults⟩ := cycle_faults_iff_violates drawing rfl
  refine ⟨rfl, (faults (by decide) _).mpr ⟨⟨by decide, rfl, 0, .inl ?_, by decide, rfl⟩, rfl⟩⟩
  rw [word]
  decide

end Machine

end ChipEight
