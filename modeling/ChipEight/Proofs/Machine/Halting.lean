import ChipEight.Proofs.Machine.FaultAtomicity
import ChipEight.Proofs.Machine.FreezeHalt

/-!
# What halts a machine, and what wakes it

A machine halts when a cycle reports a fault and its policy is to halt.  It wakes when a program is
loaded.  Nothing else leads into this phase or out of it, so the phase can be read off the
operations since the last load that succeeded.  A load that is refused is reported as a fault, too,
but it comes from no cycle and does not halt the machine.
-/

namespace ChipEight.Machine

variable {machine : Machine}

/-- Among some operations there is a cycle that reports a fault, and no load after it succeeds. -/
def FaultsSinceLoad (machine : Machine) (operations : List Operation) : Prop :=
  ∃ earlier later, operations = earlier ++ .cycle :: later ∧
    (∃ fault, (machine.run earlier).Reports (machine.run earlier).cycle.1 fault) ∧
      ∀ operation ∈ later, ¬ operation.Restarts

theorem not_faultsSinceLoad_nil (machine : Machine) : ¬ machine.FaultsSinceLoad [] := by
  rintro ⟨earlier, later, split, -⟩
  exact List.append_ne_nil_of_right_ne_nil earlier (List.cons_ne_nil _ later) split.symm

/-- The cycle with the fault is the first operation, or one of the others. -/
theorem faultsSinceLoad_cons_iff (machine : Machine) (operation : Operation)
    (rest : List Operation) :
    machine.FaultsSinceLoad (operation :: rest) ↔
      (operation = .cycle ∧ (∃ fault, machine.Reports machine.cycle.1 fault) ∧
          ∀ later ∈ rest, ¬ later.Restarts) ∨
        (machine.after operation).FaultsSinceLoad rest := by
  constructor
  · rintro ⟨earlier, later, split, faults, unloaded⟩
    cases earlier with
    | nil =>
        obtain ⟨rfl, rfl⟩ := List.cons.inj split
        exact .inl ⟨rfl, faults, unloaded⟩
    | cons first earlier =>
        obtain ⟨rfl, rfl⟩ := List.cons.inj split
        exact .inr ⟨earlier, later, rfl, faults, unloaded⟩
  · rintro (⟨rfl, faults, unloaded⟩ | ⟨earlier, later, rfl, faults, unloaded⟩)
    · exact ⟨[], rest, rfl, faults, unloaded⟩
    · exact ⟨operation :: earlier, later, rfl, faults, unloaded⟩

/-! ## One operation -/

theorem reports_cycle_iff_cause? (machine : Machine) :
    (∃ fault, machine.Reports machine.cycle.1 fault) ↔ ∃ cause, machine.cause? = some cause := by
  constructor
  · rintro ⟨fault, reported⟩
    obtain ⟨cause, causes, -⟩ := (machine.reports_cycle_iff fault).mp reported
    exact ⟨cause, causes⟩
  · rintro ⟨cause, causes⟩
    exact ⟨_, (machine.reports_cycle_iff _).mpr ⟨cause, causes, rfl⟩⟩

theorem fetchExecute_phase_eq_halted_iff (machine : Machine) :
    machine.fetchExecute.1.phase = .halted ↔
      machine.phase = .halted ∨
        machine.settings.faultPolicy = .halt ∧ ∃ cause, machine.cause? = some cause := by
  by_cases halted : machine.phase = .halted
  · rw [fetchExecute_eq_of_halted halted]
    simp only [halted, true_or]
  · cases causes : machine.cause? with
    | none =>
        obtain ⟨instruction, -, ran⟩ := fetchExecute_eq_of_none halted causes
        have awake : (machine.executed instruction).phase ≠ .halted :=
          effect_phase_ne_halted (show (machine.fetched _).phase ≠ .halted from halted) instruction
        rw [ran]
        simp only [awake, halted, reduceCtorEq, exists_false, and_false, or_false]
    | some cause =>
        have ran := fetchExecute_eq_of_some causes
        have settled := phaseAfter_eq_halted_iff halted machine.settings.faultPolicy
        rw [ran]
        simp only [failed, struck, settled, halted, Option.some.injEq, exists_eq', and_true,
          false_or]

theorem cycle_phase_eq_halted_iff (machine : Machine) :
    machine.cycle.1.phase = .halted ↔
      machine.phase = .halted ∨
        machine.settings.faultPolicy = .halt ∧
          ∃ fault, machine.Reports machine.cycle.1 fault := by
  rw [reports_cycle_iff_cause?]
  exact machine.drainKeys.fetchExecute_phase_eq_halted_iff

/-- An operation leaves the machine halted if it was so before and no program is loaded, or if it is
a cycle with a fault at which to halt. -/
theorem after_phase_eq_halted_iff (machine : Machine) (operation : Operation) :
    (machine.after operation).phase = .halted ↔
      ¬ operation.Restarts ∧
        (machine.phase = .halted ∨
          machine.settings.faultPolicy = .halt ∧ operation = .cycle ∧
            ∃ fault, machine.Reports machine.cycle.1 fault) := by
  by_cases restarts : operation.Restarts
  · have awake := machine.after_phase_of_restarts restarts
    simp only [awake, restarts, reduceCtorEq, not_true_eq_false, false_and]
  · by_cases cycles : operation = .cycle
    · subst cycles
      simp only [after, cycle_phase_eq_halted_iff, restarts, not_false_eq_true, true_and]
    · rw [(machine.standsStill_of_ne_cycle cycles restarts).phase]
      simp only [cycles, restarts, not_false_eq_true, false_and, and_false, or_false, true_and]

/-! ## Whole runs -/

/-- A run leaves the machine halted if it was so at the start and no program is loaded, or if a
cycle since the last load has run into a fault at which to halt. -/
theorem run_phase_eq_halted_iff (machine : Machine) (operations : List Operation) :
    (machine.run operations).phase = .halted ↔
      (machine.phase = .halted ∧ ∀ operation ∈ operations, ¬ operation.Restarts) ∨
        machine.settings.faultPolicy = .halt ∧ machine.FaultsSinceLoad operations := by
  induction operations generalizing machine with
  | nil =>
      simp only [not_faultsSinceLoad_nil, and_false, or_false, List.not_mem_nil, false_imp_iff,
        implies_true, and_true]
      rfl
  | cons operation rest ih =>
      have step := machine.after_phase_eq_halted_iff operation
      have later := ih (machine.after operation)
      rw [after_settings, step] at later
      rw [faultsSinceLoad_cons_iff, List.forall_mem_cons]
      refine later.trans ?_
      constructor
      · rintro (⟨⟨kept, halted | ⟨halts, cycles, faults⟩⟩, unloaded⟩ | ⟨halts, faults⟩)
        · exact .inl ⟨halted, kept, unloaded⟩
        · exact .inr ⟨halts, .inl ⟨cycles, faults, unloaded⟩⟩
        · exact .inr ⟨halts, .inr faults⟩
      · rintro (⟨halted, kept, unloaded⟩ | ⟨halts, ⟨rfl, faults, unloaded⟩ | faults⟩)
        · exact .inl ⟨⟨kept, .inl halted⟩, unloaded⟩
        · exact .inl ⟨⟨id, .inr ⟨halts, rfl, faults⟩⟩, unloaded⟩
        · exact .inr ⟨halts, faults⟩

/-- While a machine has halted, nothing but a load that succeeds moves it. -/
theorem standsStill_of_halted (halted : machine.phase = .halted) {operation : Operation}
    (unloaded : ¬ operation.Restarts) :
    machine.StandsStill (machine.after operation) ∧
      (machine.after operation).lastOpcode = machine.lastOpcode := by
  rcases operation.load_or_cycle_or_peripheral with ⟨rom, rfl⟩ | rfl | peripheral
  · obtain ⟨cause, refused⟩ := machine.after_of_rejects unloaded
    rw [refused, rejected, record_eq]
    exact ⟨⟨rfl, rfl, rfl, rfl, rfl, rfl, rfl⟩, rfl⟩
  · have idle : machine.after .cycle = machine.drainKeys :=
      congrArg Prod.fst
        (fetchExecute_eq_of_halted (show machine.drainKeys.phase = .halted from halted))
    rw [idle]
    exact ⟨⟨rfl, rfl, rfl, rfl, rfl, rfl, rfl⟩, rfl⟩
  · refine ⟨machine.standsStill_peripheral peripheral, ?_⟩
    rw [machine.after_of_peripheral peripheral]

/-- Whatever is done to a new machine, it has halted exactly if its policy is to halt and a cycle
since the last successful load, or since the beginning, has reported a fault.  A program that is too
large is refused and neither halts the machine nor wakes it.  While the machine has halted, a cycle
gives back nothing and does no more than to drain the key queue, and only a successful load changes
what a program computes with. -/
theorem halted_iff_faultsSinceLoad (settings : Settings) (random : RandomSource)
    (operations : List Operation) :
    let machine := (create settings random).run operations
    (machine.phase = .halted ↔
        settings.faultPolicy = .halt ∧ (create settings random).FaultsSinceLoad operations) ∧
      (∀ rom, (machine.loadRom rom).2 = .ok (decide (rom.length ≤ 3584)) ∧
        (3584 < rom.length → (machine.loadRom rom).1.phase = machine.phase)) ∧
      (machine.phase = .halted →
        machine.cycle =
            ({ machine with
                keypad := machine.keypad.drain.1
                journal :=
                  machine.keypad.drain.2.reverse.map Notice.keyChanged ++ machine.journal },
              .ok none) ∧
          ∀ operation, ¬ operation.Restarts →
            machine.StandsStill (machine.after operation) ∧
              (machine.after operation).lastOpcode = machine.lastOpcode) := by
  intro machine
  have alone : machine.observers = [] := run_unobserved rfl operations
  refine ⟨?_, ?_, ?_⟩
  · refine ((create settings random).run_phase_eq_halted_iff operations).trans ?_
    have awake : (create settings random).phase ≠ .halted := Phase.noConfusion
    simp only [awake, false_and, false_or]
    rfl
  · intro rom
    refine ⟨loadRom_snd_of_unobserved alone rom, ?_⟩
    intro tooLarge
    exact (machine.standsStill_of_ne_cycle Operation.noConfusion
      (show ¬ (Operation.loadRom rom).Restarts from Nat.not_le.mpr tooLarge)).phase
  · intro halted
    refine ⟨fetchExecute_eq_of_halted (show machine.drainKeys.phase = .halted from halted), ?_⟩
    intro operation unloaded
    exact standsStill_of_halted halted unloaded

end ChipEight.Machine
