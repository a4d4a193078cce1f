import ChipEight.Proofs.Machine.Operation
import ChipEight.Proofs.Machine.Outcome

/-!
# Faults that repeat

A policy that goes on where the fault arose brings the machine back to the state in which it failed.
Whether and how an instruction fails depends on the registers, the memory, the stack and the phase,
and none of them is in the reach of the keys, the timer or the redraw flag.  So the machine is
jammed: every further cycle reports the same fault, until a program is loaded.

Only the first of these reports is a warning.  The machine remembers what it has last warned of by
the kind of the fault and its program counter, and both stay the same.
-/

namespace ChipEight

namespace FaultPolicy

/-- After a fault with the given cause the policy tries the same again. -/
def Retries (policy : FaultPolicy) (cause : Fault.Cause) : Prop :=
  policy = .freeze ∨ policy = .skip ∧ cause = .fetchOutOfBounds

variable {policy : FaultPolicy} {cause : Fault.Cause}

theorem Retries.resume (retries : policy.Retries cause) (pc : UInt16) :
    policy.resume pc (decide (cause = .fetchOutOfBounds)) = pc := by
  rcases retries with rfl | ⟨rfl, rfl⟩ <;> rfl

theorem Retries.ne_halt (retries : policy.Retries cause) : policy ≠ .halt := by
  rcases retries with rfl | ⟨rfl, rfl⟩ <;> nofun

theorem Retries.phaseAfter (retries : policy.Retries cause) (phase : Phase) :
    policy.phaseAfter phase = phase :=
  if_neg retries.ne_halt

theorem Retries.haltNotices (retries : policy.Retries cause) (pc : UInt16) :
    policy.haltNotices pc = [] :=
  if_neg retries.ne_halt

end FaultPolicy

/-- Whether a notice is about a fault. -/
def Notice.aboutFault : Notice → Bool
  | .faulted _ => true
  | .faultRepeated _ => true
  | _ => false

namespace Machine

variable {machine before after : Machine} {cause : Fault.Cause} {fault : Fault}

/-- The next cycle fails, and the policy tries the same again.  The word that the cycle fetches has
been fetched before. -/
structure Jammed (machine : Machine) (cause : Fault.Cause) : Prop where
  retries : machine.settings.faultPolicy.Retries cause
  causes : machine.cause? = some cause
  fetched : machine.fetchable?.or machine.lastOpcode = machine.lastOpcode

/-- A cycle that fails and is tried again changes the last word, the record of faults and nothing
else. -/
theorem cycle_of_retries (retries : machine.settings.faultPolicy.Retries cause)
    (causes : machine.cause? = some cause) :
    machine.cycle.1 =
      { machine.drainKeys with
        lastOpcode := machine.fetchable?.or machine.lastOpcode
        faultCount := machine.faultCount + 1
        lastFault := some ⟨cause, some machine.registers.pc.toNat⟩
        lastWarned := some (cause.kind, some machine.registers.pc.toNat)
        observers := (machine.failure cause).registered
        deliveries := (machine.failure cause).deliveries
        journal :=
          machine.noticeOf ⟨cause, some machine.registers.pc.toNat⟩ ::
            machine.drainKeys.journal } := by
  have ran :=
    fetchExecute_eq_of_some (show machine.drainKeys.cause? = some cause from causes)
  have again : machine.drainKeys.settings.faultPolicy.Retries cause := retries
  rw [cycle, ran]
  simp only [failed, struck, again.resume, again.phaseAfter, again.haltNotices, List.nil_append]
  rfl

/-- A fault that is tried again jams the machine. -/
theorem jammed_cycle (retries : machine.settings.faultPolicy.Retries cause)
    (causes : machine.cause? = some cause) : machine.cycle.1.Jammed cause := by
  have ran := cycle_of_retries retries causes
  rw [ran]
  refine ⟨retries, causes, ?_⟩
  change machine.fetchable?.or (machine.fetchable?.or machine.lastOpcode) =
    machine.fetchable?.or machine.lastOpcode
  cases machine.fetchable? <;> rfl

theorem Jammed.peripheral (jammed : machine.Jammed cause) {operation : Operation}
    (peripheral : operation.Peripheral) : (machine.after operation).Jammed cause := by
  rw [machine.after_of_peripheral peripheral]
  exact ⟨jammed.retries, jammed.causes, jammed.fetched⟩

/-! ## Standing still -/

/-- Between two moments nothing has changed but the keys, the timer and the record of faults. -/
structure StandsStill (before after : Machine) : Prop where
  registers : after.registers = before.registers
  stack : after.stack = before.stack
  memory : after.memory = before.memory
  lit : after.screen.lit = before.screen.lit
  pending : after.screen.pending = before.screen.pending
  phase : after.phase = before.phase
  instructionCount : after.instructionCount = before.instructionCount

theorem StandsStill.trans {between : Machine} (first : before.StandsStill between)
    (second : between.StandsStill after) : before.StandsStill after where
  registers := second.registers.trans first.registers
  stack := second.stack.trans first.stack
  memory := second.memory.trans first.memory
  lit := second.lit.trans first.lit
  pending := second.pending.trans first.pending
  phase := second.phase.trans first.phase
  instructionCount := second.instructionCount.trans first.instructionCount

theorem standsStill_cycle (retries : machine.settings.faultPolicy.Retries cause)
    (causes : machine.cause? = some cause) : machine.StandsStill machine.cycle.1 := by
  have ran := cycle_of_retries retries causes
  rw [ran]
  exact ⟨rfl, rfl, rfl, rfl, rfl, rfl, rfl⟩

theorem standsStill_peripheral (machine : Machine) {operation : Operation}
    (peripheral : operation.Peripheral) : machine.StandsStill (machine.after operation) := by
  rw [machine.after_of_peripheral peripheral]
  exact ⟨rfl, rfl, rfl, operation.onScreen_lit _, operation.onScreen_pending _, rfl, rfl⟩

/-- Besides cycles only a load that succeeds moves a machine. -/
theorem standsStill_of_ne_cycle (machine : Machine) {operation : Operation}
    (other : operation ≠ .cycle) (unloaded : ¬ operation.Restarts) :
    machine.StandsStill (machine.after operation) := by
  rcases operation.load_or_cycle_or_peripheral with ⟨rom, rfl⟩ | rfl | peripheral
  · obtain ⟨cause, refused⟩ := machine.after_of_rejects unloaded
    rw [refused, rejected, record_eq]
    exact ⟨rfl, rfl, rfl, rfl, rfl, rfl, rfl⟩
  · exact absurd rfl other
  · exact machine.standsStill_peripheral peripheral

/-! ## Repeated reports -/

/-- Between two moments a machine has done nothing but to report the same fault a number of times,
and it has warned of that before.  What it has noted is for debugging only. -/
structure Repeats (fault : Fault) (times : Nat) (before after : Machine) : Prop where
  jammed : after.Jammed fault.cause
  pc : fault.pc = some (after.registers.pc.toNat : Int)
  warned : after.lastWarned = some (fault.kind, fault.pc)
  still : before.StandsStill after
  faultCount : after.faultCount = before.faultCount + times
  noted : ∃ notices, after.journal = notices ++ before.journal ∧
    (∀ notice ∈ notices, notice.level = .debug) ∧
      notices.filter Notice.aboutFault = List.replicate times (.faultRepeated fault)

theorem filter_aboutFault_keyChanged (events : List (KeyEvent Key)) :
    (events.map Notice.keyChanged).filter Notice.aboutFault = [] := by
  rw [List.filter_eq_nil_iff]
  intro notice member
  obtain ⟨event, -, rfl⟩ := List.mem_map.mp member
  nofun

theorem level_keyChanged (events : List (KeyEvent Key)) :
    ∀ notice ∈ events.map Notice.keyChanged, notice.level = .debug := by
  intro notice member
  obtain ⟨event, -, rfl⟩ := List.mem_map.mp member
  rfl

theorem Repeats.cycle {times : Nat} (repeats : Repeats fault times before after) :
    Repeats fault (times + 1) before after.cycle.1 := by
  have retries := repeats.jammed.retries
  have causes := repeats.jammed.causes
  have ran := cycle_of_retries retries causes
  have same : (⟨fault.cause, some after.registers.pc.toNat⟩ : Fault) = fault := by
    rw [← repeats.pc]
  -- The last warning was about this fault, so its notice is a repetition.
  have notice : after.noticeOf fault = .faultRepeated fault := if_pos repeats.warned
  obtain ⟨notices, noted, debug, about⟩ := repeats.noted
  refine ⟨jammed_cycle retries causes, ?_, ?_,
    repeats.still.trans (standsStill_cycle retries causes),
    ?_, after.noticeOf fault :: (after.keypad.drain.2.reverse.map Notice.keyChanged ++ notices),
    ?_, ?_, ?_⟩
  · rw [ran]
    exact repeats.pc
  · rw [ran, ← same]
    rfl
  · rw [ran]
    exact congrArg (· + 1) repeats.faultCount
  · rw [ran, same]
    simp only [drainKeys, noted, List.cons_append, List.append_assoc]
  · rw [notice]
    refine List.forall_mem_cons.mpr ⟨rfl, List.forall_mem_append.mpr ⟨level_keyChanged _, debug⟩⟩
  · rw [notice, List.filter_cons_of_pos rfl, List.filter_append, filter_aboutFault_keyChanged,
      List.nil_append, about]
    rfl

theorem Repeats.peripheral {times : Nat} (repeats : Repeats fault times before after)
    {operation : Operation} (peripheral : operation.Peripheral) :
    Repeats fault times before (after.after operation) := by
  have jammed := repeats.jammed.peripheral peripheral
  have still := repeats.still.trans (after.standsStill_peripheral peripheral)
  obtain ⟨notices, noted, debug, about⟩ := repeats.noted
  rw [after.after_of_peripheral peripheral] at jammed still ⊢
  refine ⟨jammed, repeats.pc, repeats.warned, still, repeats.faultCount,
    (operation.keyEvents after.keypad).map Notice.keyChanged ++ notices, ?_, ?_, ?_⟩
  · rw [noted, List.append_assoc]
  · exact List.forall_mem_append.mpr ⟨level_keyChanged _, debug⟩
  · rw [List.filter_append, filter_aboutFault_keyChanged, List.nil_append, about]

/-- As long as nothing is loaded, every cycle is a repetition. -/
theorem Repeats.run {times : Nat} (repeats : Repeats fault times before after)
    {operations : List Operation} (unloaded : ∀ rom, .loadRom rom ∉ operations) :
    Repeats fault (times + operations.count .cycle) before (after.run operations) := by
  induction operations generalizing after times with
  | nil => exact repeats
  | cons operation rest ih =>
      have restUnloaded : ∀ rom, .loadRom rom ∉ rest := fun rom member =>
        unloaded rom (List.mem_cons_of_mem operation member)
      rcases operation.load_or_cycle_or_peripheral with ⟨rom, rfl⟩ | rfl | peripheral
      · exact absurd List.mem_cons_self (unloaded rom)
      · have later := ih repeats.cycle restUnloaded
        rw [List.count_cons_self, Nat.add_comm (rest.count .cycle) 1, ← Nat.add_assoc]
        exact later
      · have other : operation ≠ .cycle := by
          rintro rfl
          exact peripheral
        rw [List.count_cons_of_ne other]
        exact ih (repeats.peripheral peripheral) restUnloaded

/-- A fault after which the machine freezes, or a fetch that fails though faults are skipped, is
reported again by every cycle until a program is loaded, and by no cycle anything else.  Meanwhile
the machine stands still, each cycle counts one more fault, and each report is noted as a
repetition, never as a warning. -/
theorem frozen_fault_repeats (machine : Machine) (fault : Fault)
    (reported : machine.Reports machine.cycle.1 fault)
    (policy : machine.settings.faultPolicy = .freeze ∨
      machine.settings.faultPolicy = .skip ∧ fault.cause = .fetchOutOfBounds)
    (operations : List Operation) (unloaded : ∀ rom, .loadRom rom ∉ operations) :
    let stuck := machine.cycle.1.run operations
    (∀ again, stuck.Reports stuck.cycle.1 again ↔ again = fault) ∧
      machine.StandsStill stuck ∧
      stuck.faultCount = machine.faultCount + 1 + operations.count .cycle ∧
      ∃ notices, stuck.journal = notices ++ machine.cycle.1.journal ∧
        (∀ notice ∈ notices, notice.level = .debug) ∧
          notices.filter Notice.aboutFault =
            List.replicate (operations.count .cycle) (.faultRepeated fault) := by
  intro stuck
  obtain ⟨cause, causes, rfl⟩ := (machine.reports_cycle_iff fault).mp reported
  have retries : machine.settings.faultPolicy.Retries cause := policy
  have ran := cycle_of_retries retries causes
  have start : Repeats ⟨cause, some machine.registers.pc.toNat⟩ 0 machine.cycle.1
      machine.cycle.1 := by
    refine ⟨jammed_cycle retries causes, ?_, ?_, ⟨rfl, rfl, rfl, rfl, rfl, rfl, rfl⟩, rfl,
      [], rfl, nofun, rfl⟩
    · rw [ran]
      rfl
    · rw [ran]
      rfl
  have repeats := start.run unloaded
  rw [Nat.zero_add] at repeats
  refine ⟨?_, (standsStill_cycle retries causes).trans repeats.still, ?_, repeats.noted⟩
  · intro again
    rw [reports_cycle_iff, repeats.jammed.causes, ← repeats.pc]
    constructor
    · rintro ⟨_, same, rfl⟩
      cases same
      rfl
    · rintro rfl
      exact ⟨_, rfl, rfl⟩
  · rw [repeats.faultCount, ran]

/-- A new machine stays at the word zero, which is no instruction, whatever the keys do. -/
theorem frozen_fault_repeats_keys :
    let machine := create {} (RandomSource.cycling #[])
    let fault : Fault := ⟨.unmappedOpcode 0, some 512⟩
    let stuck := machine.cycle.1.run
      [.tick, .setKey 5 true, .cycle, .postKey 7 true, .takeRedraw, .cycle, .releaseAll]
    machine.Reports machine.cycle.1 fault ∧ stuck.Reports stuck.cycle.1 fault ∧
      stuck.registers.pc = 512 ∧ stuck.faultCount = 3 := by
  intro machine fault stuck
  have causes : machine.cause? = some (.unmappedOpcode 0) := by decide +kernel
  have reported : machine.Reports machine.cycle.1 fault :=
    (machine.reports_cycle_iff fault).mpr ⟨_, causes, rfl⟩
  obtain ⟨again, still, count, -⟩ := frozen_fault_repeats machine fault reported (.inl rfl)
    [.tick, .setKey 5 true, .cycle, .postKey 7 true, .takeRedraw, .cycle, .releaseAll] (by simp)
  exact ⟨reported, (again fault).mpr rfl, congrArg Registers.pc still.registers, count⟩

end Machine

end ChipEight
