import ChipEight.Proofs.Instruction
import ChipEight.Proofs.Machine.Operation
import ChipEight.Proofs.Machine.Outcome

/-!
# Machines in use

What holds of a machine throughout its use, whatever program it runs.  The types bound the bytes and
the words.  Beyond that, return addresses lie in the memory, no key is held twice, and the program
counter stays so low that adding to it never overflows: the program counter after a cycle is the one
that comes out if it is calculated without any bound.

The bound on the program counter is no invariant by itself.  It needs the bound on the return
addresses for returns, and the bounds of the fetch for everything that counts on from there.
-/

namespace ChipEight

namespace Keypad

variable {K : Type} [BEq K] [LawfulBEq K]

theorem nodup_apply {keypad : Keypad K} (distinct : keypad.held.Nodup) (event : KeyEvent K) :
    (keypad.apply event).held.Nodup := by
  unfold apply
  split
  · rename_i changes
    split
    · rename_i down
      have missing : event.key ∉ keypad.held := by
        simpa [Keypad.changes, down] using changes
      refine List.nodup_append.mpr ⟨distinct, List.pairwise_singleton _ _, ?_⟩
      intro key member other same
      rw [List.mem_singleton.mp same]
      rintro rfl
      exact missing member
    · exact distinct.erase event.key
  · exact distinct

theorem nodup_applyAll {keypad : Keypad K} (distinct : keypad.held.Nodup)
    (events : List (KeyEvent K)) : (keypad.applyAll events).1.held.Nodup := by
  induction events generalizing keypad with
  | nil => exact distinct
  | cons event rest ih => exact ih (nodup_apply distinct event)

theorem nodup_drain {keypad : Keypad K} (distinct : keypad.held.Nodup) :
    keypad.drain.1.held.Nodup := by
  have emptied : ({ keypad with queue := [] } : Keypad K).held.Nodup := distinct
  exact nodup_applyAll emptied keypad.queue

end Keypad

namespace Registers

theorem advance_pc_toNat {registers : Registers} (room : registers.pc.toNat < 65534) :
    registers.advance.pc.toNat = registers.pc.toNat + 2 :=
  toNat_add_two room

theorem skipIf_pc_toNat {registers : Registers} (room : registers.pc.toNat < 65534)
    (condition : Bool) :
    (registers.skipIf condition).pc.toNat =
      if condition then registers.pc.toNat + 2 else registers.pc.toNat := by
  cases condition with
  | true => exact advance_pc_toNat room
  | false => rfl

theorem arithmetic_pc (registers : Registers) (operation : Arithmetic) (shiftUsesVy : Bool)
    (x y : Fin 16) : (registers.arithmetic operation shiftUsesVy x y).pc = registers.pc := by
  cases operation <;> rfl

theorem loadFrom_pc (registers : Registers) (start : Nat) (bytes : List UInt8) :
    (registers.loadFrom start bytes).pc = registers.pc := by
  induction bytes generalizing registers start with
  | nil => rfl
  | cons byte rest ih => exact ih _ _

end Registers

namespace Machine

/-! ## The program counter without bounds -/

/-- The program counter after the instruction at it, as an integer. -/
def counterAfter (machine : Machine) (instruction : Instruction) : Int :=
  let next : Int := machine.registers.pc.toNat + 2
  match instruction with
  | .ret => machine.stack.top.toNat
  | .jump target => target.toNat
  | .call target => target.toNat
  | .skipIfByte x byte => if machine.v x = byte then next + 2 else next
  | .skipUnlessByte x byte => if machine.v x = byte then next else next + 2
  | .skipIfSame x y => if machine.v x = machine.v y then next + 2 else next
  | .skipUnlessSame x y => if machine.v x = machine.v y then next else next + 2
  | .jumpFromV0 base => base.toNat + (machine.v Registers.baseNumber).toNat
  | .skipIfKey x => if machine.keypad.isDown (machine.v x).toNat then next + 2 else next
  | .skipUnlessKey x => if machine.keypad.isDown (machine.v x).toNat then next else next + 2
  | .waitKey _ => if machine.keypad.held = [] then next - 2 else next
  | _ => next

/-- The program counter after an instruction that could not be executed, as an integer. -/
def counterAfterFault (machine : Machine) : Int :=
  if machine.settings.faultPolicy = .skip then machine.registers.pc.toNat + 2
  else machine.registers.pc.toNat

/-- The program counter at the end of a cycle once the key queue has been drained, as an integer. -/
def counterAfterCycle (machine : Machine) : Int :=
  if machine.phase = .halted ∨ 4095 ≤ machine.registers.pc.toNat then machine.registers.pc.toNat
  else
    match Instruction.decode? machine.nextOpcode with
    | none => machine.counterAfterFault
    | some instruction =>
        if machine.failure? instruction = none then machine.counterAfter instruction
        else machine.counterAfterFault

variable {machine : Machine} {instruction : Instruction}

theorem add_toUInt16_toNat {base : UInt16} (low : base.toNat ≤ 4095) (byte : UInt8) :
    (base + byte.toUInt16).toNat = base.toNat + byte.toNat := by
  have bound := byte.toNat_lt
  rw [UInt16.toNat_add, UInt8.toNat_toUInt16]
  exact Nat.mod_eq_of_lt (by omega)

/-- No addition to the program counter overflows where an instruction is executed. -/
theorem executed_pc_toNat (within : machine.registers.pc.toNat ≤ lastFetch)
    (encoded : instruction.Encodes machine.nextOpcode.word.toNat) :
    ((machine.executed instruction).registers.pc.toNat : Int) =
      machine.counterAfter instruction := by
  simp only [lastFetch] at within
  have next : (machine.registers.advance.pc.toNat : Int) = machine.registers.pc.toNat + 2 := by
    rw [Registers.advance_pc_toNat (by omega)]
    rfl
  have skip : ∀ condition, ((machine.registers.advance.skipIf condition).pc.toNat : Int) =
      if condition then (machine.registers.pc.toNat : Int) + 2 + 2
      else machine.registers.pc.toNat + 2 := by
    intro condition
    rw [Registers.skipIf_pc_toNat (by omega)]
    split <;> omega
  cases instruction with
  | ret | jump | call => rfl
  | skipIfByte x byte =>
      refine (skip (machine.v x == byte)).trans ?_
      simp only [counterAfter, beq_iff_eq]
  | skipUnlessByte x byte =>
      refine (skip (machine.v x != byte)).trans ?_
      simp only [counterAfter, bne_iff_ne, ne_eq, ite_not]
  | skipIfSame x y =>
      refine (skip (machine.v x == machine.v y)).trans ?_
      simp only [counterAfter, beq_iff_eq]
  | skipUnlessSame x y =>
      refine (skip (machine.v x != machine.v y)).trans ?_
      simp only [counterAfter, bne_iff_ne, ne_eq, ite_not]
  | arithmetic operation x y =>
      rw [executed, effect, withRegisters, Registers.arithmetic_pc]
      exact next
  | jumpFromV0 base =>
      have low : base.toNat ≤ 4095 := by
        rw [← encoded.2]
        omega
      exact congrArg Int.ofNat (add_toUInt16_toNat low (machine.v Registers.baseNumber))
  | skipIfKey x => exact skip (machine.keypad.isDown (machine.v x).toNat)
  | skipUnlessKey x =>
      refine (skip !(machine.keypad.isDown (machine.v x).toNat)).trans ?_
      simp only [counterAfter, Bool.not_eq_true', ← Bool.not_eq_true, ite_not]
  | waitKey x =>
      have back : (machine.registers.advance.rewind.pc.toNat : Int) =
          machine.registers.pc.toNat + 2 - 2 := by
        -- Stepping back undoes the step of the fetch, also where words wrap around.
        have same : machine.registers.advance.rewind.pc = machine.registers.pc :=
          UInt16.add_sub_cancel _ _
        rw [same]
        omega
      have keypad : (machine.fetched machine.nextOpcode).keypad = machine.keypad := rfl
      simp only [executed, effect, awaited, counterAfter, keypad, Keypad.last?]
      cases held : machine.keypad.held.getLast? with
      | none =>
          rw [if_pos (List.getLast?_eq_none_iff.mp held)]
          exact back
      | some key =>
          rw [if_neg (by rintro empty; rw [empty] at held; cases held)]
          exact next
  | loadRegisters x =>
      rw [executed, effect, withRegisters, Registers.loadFrom_pc]
      exact next
  | _ => exact next

/-- After an instruction the stack holds what it held before, and perhaps the way back from a
call. -/
theorem mem_executed_frames {frame : UInt16}
    (member : frame ∈ (machine.executed instruction).stack.frames) :
    frame ∈ machine.stack.frames ∨ frame = machine.registers.advance.pc := by
  cases instruction with
  | ret => exact .inl (List.mem_of_mem_tail member)
  | call target =>
      change frame ∈ (machine.stack.above machine.registers.advance.pc).frames at member
      unfold CallStack.above at member
      split at member
      · rcases List.mem_cons.mp member with rfl | member
        · exact .inr rfl
        · exact .inl member
      · exact .inl member
  | waitKey x =>
      have same : (machine.executed (.waitKey x)).stack = machine.stack := by
        simp only [executed, effect, awaited]
        cases (machine.fetched machine.nextOpcode).keypad.last? <;> rfl
      rw [same] at member
      exact .inl member
  | _ => exact .inl member

theorem counterAfterCycle_of_refusal? {cause : Fault.Cause} (awake : machine.phase ≠ .halted)
    (within : machine.registers.pc.toNat ≤ lastFetch) (refuses : machine.refusal? = some cause) :
    machine.counterAfterCycle = machine.counterAfterFault := by
  rw [counterAfterCycle, if_neg (not_halted_or_beyond awake within)]
  cases decoded : Instruction.decode? machine.nextOpcode with
  | none => rfl
  | some instruction =>
      rw [refusal?_of_decode? decoded] at refuses
      simp only [refuses, reduceCtorEq, if_false]

theorem counterAfterCycle_of_executed (awake : machine.phase ≠ .halted)
    (within : machine.registers.pc.toNat ≤ lastFetch)
    (decoded : Instruction.decode? machine.nextOpcode = some instruction)
    (succeeds : machine.failure? instruction = none) :
    machine.counterAfterCycle = machine.counterAfter instruction := by
  rw [counterAfterCycle, if_neg (not_halted_or_beyond awake within), decoded]
  exact if_pos succeeds

/-- A cycle calculates with the program counter as with an integer. -/
theorem fetchExecute_pc_toNat (machine : Machine) :
    (machine.fetchExecute.1.registers.pc.toNat : Int) = machine.counterAfterCycle := by
  have outcome := machine.fetchExecute_outcome
  generalize machine.fetchExecute = result at outcome ⊢
  cases outcome with
  | idle halted => rw [counterAfterCycle, if_pos (.inl halted)]
  | strayed awake beyond =>
      obtain ⟨observers, deliveries, failed⟩ :=
        machine.fail_fst .fetchOutOfBounds machine.registers.pc none
      have counter := resume_toNat machine.settings.faultPolicy machine.registers.pc true nofun
      rw [if_neg (by simp)] at counter
      rw [failed, counterAfterCycle, if_pos (.inr beyond)]
      exact congrArg Int.ofNat counter
  | refused awake within refuses =>
      obtain ⟨observers, deliveries, failed⟩ :=
        (machine.fetched machine.nextOpcode).fail_fst _ machine.registers.pc
          (some machine.nextOpcode)
      have counter := resume_toNat machine.settings.faultPolicy machine.registers.pc false
        fun _ => within
      rw [counterAfterCycle_of_refusal? awake within refuses, counterAfterFault, failed]
      refine (congrArg Int.ofNat counter).trans ?_
      split <;> simp_all
  | executed awake within decoded succeeds =>
      rw [counterAfterCycle_of_executed awake within decoded succeeds]
      exact executed_pc_toNat within (Instruction.encodes_of_decode? decoded)

/-! ## The invariant -/

/-- What every operation on a machine preserves. -/
structure Sound (machine : Machine) : Prop where
  /-- Calls come from inside the memory. -/
  frames : ∀ frame ∈ machine.stack.frames, 2 ≤ frame.toNat ∧ frame.toNat ≤ 4096
  /-- Nothing leads further than a jump by the greatest byte from the last address. -/
  counter : machine.registers.pc.toNat ≤ 0x10FE
  held : machine.keypad.held.Nodup

theorem Sound.top_le (sound : machine.Sound) (held : machine.stack.depth ≠ 0) :
    machine.stack.top.toNat ≤ 4096 := by
  have frames := sound.frames
  simp only [CallStack.depth] at held
  unfold CallStack.top
  cases stack : machine.stack.frames with
  | nil =>
      rw [stack] at held
      exact absurd rfl held
  | cons address rest =>
      rw [stack] at frames
      exact (frames address List.mem_cons_self).2

theorem Sound.counterAfter_le (sound : machine.Sound)
    (within : machine.registers.pc.toNat ≤ lastFetch)
    (encoded : instruction.Encodes machine.nextOpcode.word.toNat)
    (succeeds : machine.failure? instruction = none) :
    machine.counterAfter instruction ≤ 0x10FE := by
  simp only [lastFetch] at within
  cases instruction with
  | ret =>
      have bound := sound.top_le (by rintro empty; simp [failure?, empty] at succeeds)
      simp only [counterAfter]
      omega
  | jump target | call target =>
      have address := encoded.2
      simp only [counterAfter]
      omega
  | jumpFromV0 base =>
      have address := encoded.2
      have byte := (machine.v Registers.baseNumber).toNat_lt
      simp only [counterAfter]
      omega
  | skipIfByte | skipUnlessByte | skipIfSame | skipUnlessSame | skipIfKey | skipUnlessKey
  | waitKey =>
      simp only [counterAfter]
      split <;> omega
  | _ =>
      simp only [counterAfter]
      omega

theorem Sound.fetchExecute (sound : machine.Sound) : machine.fetchExecute.1.Sound := by
  have counter := sound.counter
  have pc := machine.fetchExecute_pc_toNat
  have outcome := machine.fetchExecute_outcome
  generalize machine.fetchExecute = result at pc outcome ⊢
  cases outcome with
  | idle halted => exact sound
  | strayed awake beyond =>
      obtain ⟨observers, deliveries, failed⟩ :=
        machine.fail_fst .fetchOutOfBounds machine.registers.pc none
      rw [counterAfterCycle, if_pos (.inr beyond)] at pc
      rw [failed] at pc ⊢
      exact ⟨sound.frames, by omega, sound.held⟩
  | refused awake within refuses =>
      obtain ⟨observers, deliveries, failed⟩ :=
        (machine.fetched machine.nextOpcode).fail_fst _ machine.registers.pc
          (some machine.nextOpcode)
      rw [counterAfterCycle_of_refusal? awake within refuses, counterAfterFault] at pc
      rw [failed] at pc ⊢
      simp only [lastFetch] at within
      refine ⟨sound.frames, ?_, sound.held⟩
      split at pc <;> omega
  | @executed awake within instruction decoded succeeds =>
      have bound := sound.counterAfter_le within (Instruction.encodes_of_decode? decoded) succeeds
      rw [counterAfterCycle_of_executed awake within decoded succeeds] at pc
      simp only [lastFetch] at within
      refine ⟨?_, by omega, ?_⟩
      · intro frame member
        rcases mem_executed_frames member with old | rfl
        · exact sound.frames frame old
        · -- A call leaves the address behind itself, and it was fetched inside the memory.
          rw [Registers.advance_pc_toNat (by omega)]
          omega
      · have keypad : (machine.executed instruction).keypad = machine.keypad := by
          simp only [executed]
          rw [effect_eq]
          rfl
        rw [keypad]
        exact sound.held

theorem Sound.drainKeys (sound : machine.Sound) : machine.drainKeys.Sound :=
  ⟨sound.frames, sound.counter, Keypad.nodup_drain sound.held⟩

/-- Programs start low. -/
theorem initial_pc_le : Registers.initial.pc.toNat ≤ 0x10FE := by
  decide

theorem Sound.loadRom (sound : machine.Sound) (rom : List UInt8) :
    (machine.loadRom rom).1.Sound := by
  rcases machine.loadRom_cases rom with
    ⟨memory, -, loaded⟩ | ⟨cause, observers, deliveries, -, refused⟩
  · rw [loaded]
    exact ⟨nofun, initial_pc_le, sound.held⟩
  · rw [refused, record_eq]
    exact ⟨sound.frames, sound.counter, sound.held⟩

theorem nodup_onKeypad {keypad : Keypad Key} (distinct : keypad.held.Nodup)
    (operation : Operation) : (operation.onKeypad keypad).held.Nodup := by
  cases operation with
  | setKey code down =>
      simp only [Operation.onKeypad]
      cases Key.ofCode code with
      | error failure => exact distinct
      | ok key => exact Keypad.nodup_apply distinct _
  | postKey code down =>
      simp only [Operation.onKeypad]
      cases Key.ofCode code <;> exact distinct
  | releaseAll => exact List.nodup_nil
  | _ => exact distinct

theorem Sound.after (sound : machine.Sound) (operation : Operation) :
    (machine.after operation).Sound := by
  rcases operation.load_or_cycle_or_peripheral with ⟨rom, rfl⟩ | rfl | peripheral
  · exact sound.loadRom rom
  · exact sound.drainKeys.fetchExecute
  · rw [machine.after_of_peripheral peripheral]
    exact ⟨sound.frames, sound.counter, nodup_onKeypad sound.held operation⟩

theorem sound_create (settings : Settings) (random : RandomSource) :
    (create settings random).Sound :=
  ⟨nofun, initial_pc_le, List.nodup_nil⟩

/-- Every machine in use is sound. -/
theorem sound_run (settings : Settings) (random : RandomSource) (operations : List Operation) :
    ((create settings random).run operations).Sound :=
  run_preserves (fun _ operation sound => sound.after operation) (sound_create settings random)
    operations

/-- Whatever is done to a new machine, with any settings and any random source: its bytes, words,
keys and return addresses stay in their ranges, its program counter does not get beyond the last
address by more than a byte, and a cycle takes the program counter where calculating with integers
takes it, so that it never wraps around. -/
theorem reachable_machine_bounds (settings : Settings) (random : RandomSource)
    (operations : List Operation) :
    let machine := (create settings random).run operations
    machine.memory.toList.length = 4096 ∧
      (machine.registers.v.toList.length = 16 ∧
        ∀ byte ∈ machine.registers.v.toList, byte.toNat ≤ 255) ∧
      machine.registers.index.toNat ≤ 65535 ∧
      machine.timer.value.toNat ≤ 255 ∧
      (machine.stack.frames.length ≤ 16 ∧
        ∀ frame ∈ machine.stack.frames, 2 ≤ frame.toNat ∧ frame.toNat ≤ 4096) ∧
      (machine.keypad.held.Nodup ∧ ∀ key ∈ machine.keypad.held, key.val ≤ 15) ∧
      machine.registers.pc.toNat ≤ 0x10FE ∧
      (machine.registers.pc.toNat < 4095 →
        machine.registers.advance.pc.toNat = machine.registers.pc.toNat + 2) ∧
      (machine.cycle.1.registers.pc.toNat : Int) = machine.drainKeys.counterAfterCycle := by
  intro machine
  have sound : machine.Sound := sound_run settings random operations
  refine ⟨?_, ⟨?_, ?_⟩, ?_, ?_, ⟨machine.stack.bounded, sound.frames⟩, ⟨sound.held, ?_⟩,
    sound.counter, ?_, machine.drainKeys.fetchExecute_pc_toNat⟩
  · exact machine.memory.bytes.length_toList
  · exact machine.registers.v.length_toList
  · intro byte _
    exact Nat.le_of_lt_succ byte.toNat_lt
  · exact Nat.le_of_lt_succ machine.registers.index.toNat_lt
  · exact Nat.le_of_lt_succ machine.timer.value.toNat_lt
  · intro key _
    exact Nat.le_of_lt_succ key.isLt
  · intro within
    exact Registers.advance_pc_toNat (by omega)

end Machine

end ChipEight
