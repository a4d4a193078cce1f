import ChipEight.Proofs.Machine.Outcome

/-!
# Faults leave no half-executed instruction behind

A cycle that reports a fault has changed nothing that instructions compute with.  Only the policy
moves the program counter, and only halting changes the phase.
-/

namespace ChipEight.Machine

/-- Two machines agree on everything that instructions compute with, the program counter apart. -/
structure SameContents (first second : Machine) : Prop where
  v : first.registers.v = second.registers.v
  index : first.registers.index = second.registers.index
  memory : first.memory = second.memory
  stack : first.stack = second.stack
  timer : first.timer = second.timer
  lit : first.screen.lit = second.screen.lit
  pending : first.screen.pending = second.screen.pending
  redraw : first.screen.redraw = second.screen.redraw
  random : first.random = second.random
  instructionCount : first.instructionCount = second.instructionCount

theorem awake_of_cause? {machine : Machine} {cause : Fault.Cause}
    (causes : machine.cause? = some cause) : machine.phase ≠ .halted := by
  intro halted
  rw [cause?_of_halted halted] at causes
  cases causes

theorem pc_le_of_cause? {machine : Machine} {cause : Fault.Cause}
    (causes : machine.cause? = some cause) (fetched : cause ≠ .fetchOutOfBounds) :
    machine.registers.pc.toNat ≤ lastFetch := by
  apply Nat.le_of_not_lt
  intro beyond
  rw [cause?_of_lt (awake_of_cause? causes) beyond] at causes
  exact fetched (Option.some.inj causes).symm

theorem phaseAfter_eq_halted_iff {phase : Phase} (awake : phase ≠ .halted)
    (policy : FaultPolicy) : policy.phaseAfter phase = .halted ↔ policy = .halt := by
  unfold FaultPolicy.phaseAfter
  split
  · rename_i halts
    exact ⟨fun _ => halts, fun _ => rfl⟩
  · rename_i goesOn
    exact ⟨fun halted => absurd halted awake, fun halts => absurd halts goesOn⟩

/-- After a cycle that reports a fault, the contents are those from right after the key queue was
drained, the policy alone has moved the program counter, the machine has halted exactly if the
policy says so, and one more fault is counted. -/
theorem cycle_fault_atomic (machine : Machine) (fault : Fault)
    (reported : machine.Reports machine.cycle.1 fault) :
    machine.cycle.1.SameContents machine.drainKeys ∧
      machine.cycle.1.registers.pc.toNat =
        (if machine.settings.faultPolicy = .skip ∧ fault.cause ≠ .fetchOutOfBounds then
          machine.registers.pc.toNat + 2
        else machine.registers.pc.toNat) ∧
      (machine.cycle.1.phase = .halted ↔ machine.settings.faultPolicy = .halt) ∧
      (machine.settings.faultPolicy ≠ .halt →
        machine.cycle.1.phase = machine.drainKeys.phase) ∧
      machine.cycle.1.faultCount = machine.drainKeys.faultCount + 1 := by
  obtain ⟨cause, causes, rfl⟩ := (machine.reports_cycle_iff fault).mp reported
  have awake : machine.drainKeys.phase ≠ .halted := awake_of_cause? causes
  have counter := resume_toNat machine.settings.faultPolicy machine.registers.pc
    (decide (cause = .fetchOutOfBounds)) fun fetched =>
      pc_le_of_cause? causes (of_decide_eq_false fetched)
  obtain ⟨fetched, observers, deliveries, failed⟩ :=
    fetchExecute_of_cause? (show machine.drainKeys.cause? = some cause from causes)
  have settled : machine.cycle.1 = _ := failed
  rw [settled]
  refine ⟨⟨rfl, rfl, rfl, rfl, rfl, rfl, rfl, rfl, rfl, rfl⟩, ?_, ?_, ?_, rfl⟩
  · simp only [decide_eq_false_iff_not] at counter
    exact counter
  · exact phaseAfter_eq_halted_iff awake machine.settings.faultPolicy
  · intro goesOn
    exact if_neg goesOn

/-- A new machine that skips faults goes on behind the word zero, which is no instruction. -/
theorem cycle_fault_atomic_skipping :
    let machine := create { policy := .known .skip } (RandomSource.cycling #[])
    let fault : Fault := ⟨.unmappedOpcode 0, some 512⟩
    machine.Reports machine.cycle.1 fault ∧
      machine.cycle.1.registers.pc.toNat = 514 ∧ machine.cycle.1.faultCount = 1 := by
  intro machine fault
  have causes : machine.cause? = some (.unmappedOpcode 0) := by decide +kernel
  have reported : machine.Reports machine.cycle.1 fault :=
    (machine.reports_cycle_iff fault).mpr ⟨_, causes, rfl⟩
  obtain ⟨-, counter, -, -, count⟩ := cycle_fault_atomic machine fault reported
  exact ⟨reported, counter, count⟩

end ChipEight.Machine
