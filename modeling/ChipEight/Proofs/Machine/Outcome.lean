import ChipEight.Proofs.Machine.Effect
import ChipEight.Proofs.Machine.Report

/-!
# Outcomes of a cycle

After the key queue has been drained, a cycle ends in one of four ways.  `fetchExecute_outcome` says
so once and for all: what a cycle preserves or reports is then shown case by case.

Draining the queue touches the keypad and the journal only, and what it adds to the journal is never
about a fault.  A cycle therefore reports a fault exactly when one of the two failing outcomes
holds, and the cause can be told before the cycle.
-/

namespace ChipEight.Machine

/-! ## The four outcomes -/

/-- Why the word at the program counter cannot be executed, if it cannot. -/
def refusal? (machine : Machine) : Option Fault.Cause :=
  match Instruction.decode? machine.nextOpcode with
  | none => some (.unmappedOpcode machine.nextOpcode.word.toNat)
  | some instruction => machine.failure? instruction

/-- The machine after a cycle that executes an instruction. -/
def executed (machine : Machine) (instruction : Instruction) : Machine :=
  { (machine.fetched machine.nextOpcode).effect instruction with
    instructionCount := machine.instructionCount + 1 }

/-- How a cycle ends once the key queue has been drained. -/
inductive Outcome (machine : Machine) : Machine × CycleResult → Prop
  /-- The machine has halted, and nothing happens. -/
  | idle (halted : machine.phase = .halted) :
      Outcome machine (machine, .ok none)
  /-- There is no whole word at the program counter. -/
  | strayed (awake : machine.phase ≠ .halted)
      (beyond : lastFetch < machine.registers.pc.toNat) :
      Outcome machine (machine.fail .fetchOutOfBounds machine.registers.pc none)
  /-- The word was fetched and cannot be executed. -/
  | refused (awake : machine.phase ≠ .halted)
      (within : machine.registers.pc.toNat ≤ lastFetch) {cause : Fault.Cause}
      (refuses : machine.refusal? = some cause) :
      Outcome machine ((machine.fetched machine.nextOpcode).fail cause machine.registers.pc
        (some machine.nextOpcode))
  /-- The word was fetched and executed. -/
  | executed (awake : machine.phase ≠ .halted)
      (within : machine.registers.pc.toNat ≤ lastFetch) {instruction : Instruction}
      (decoded : Instruction.decode? machine.nextOpcode = some instruction)
      (succeeds : machine.failure? instruction = none) :
      Outcome machine (machine.executed instruction, .ok (some machine.nextOpcode))

/-- A failure depends on the stack and the index register only, which fetching leaves alone. -/
theorem failure?_fetched (machine : Machine) (op : Opcode) (instruction : Instruction) :
    (machine.fetched op).failure? instruction = machine.failure? instruction := by
  cases instruction <;> rfl

theorem on_execute_of_some {machine : Machine} {cause : Fault.Cause}
    (refuses : machine.refusal? = some cause) :
    (execute machine.nextOpcode).on (machine.fetched machine.nextOpcode) =
      (.error cause, machine.fetched machine.nextOpcode) := by
  simp only [refusal?] at refuses
  cases decoded : Instruction.decode? machine.nextOpcode with
  | none =>
      rw [decoded] at refuses
      cases refuses
      rw [execute, decoded]
      rfl
  | some instruction =>
      rw [decoded] at refuses
      exact on_execute_of_fails decoded ((failure?_fetched machine _ instruction).trans refuses)

theorem on_execute_of_none {machine : Machine} {instruction : Instruction}
    (decoded : Instruction.decode? machine.nextOpcode = some instruction)
    (succeeds : machine.failure? instruction = none) :
    (execute machine.nextOpcode).on (machine.fetched machine.nextOpcode) =
      (.ok (), (machine.fetched machine.nextOpcode).effect instruction) :=
  on_execute_of_succeeds decoded ((failure?_fetched machine _ instruction).trans succeeds)

/-- How a cycle ends is determined by the machine. -/
theorem Outcome.fetchExecute_eq {machine : Machine} {result : Machine × CycleResult}
    (outcome : Outcome machine result) : machine.fetchExecute = result := by
  unfold fetchExecute
  cases outcome with
  | idle halted => rw [if_pos halted]
  | strayed awake beyond => rw [if_neg awake, if_pos beyond]
  | refused awake within refuses =>
      rw [if_neg awake, if_neg (Nat.not_lt.mpr within)]
      simp only [on_execute_of_some refuses]
  | executed awake within decoded succeeds =>
      rename_i instruction
      have counted : ((machine.fetched machine.nextOpcode).effect instruction).instructionCount =
          machine.instructionCount := by
        rw [effect_eq]
        rfl
      rw [if_neg awake, if_neg (Nat.not_lt.mpr within)]
      simp only [on_execute_of_none decoded succeeds, counted]
      rfl

theorem exists_outcome (machine : Machine) : ∃ result, Outcome machine result := by
  by_cases halted : machine.phase = .halted
  · exact ⟨_, .idle halted⟩
  · by_cases beyond : lastFetch < machine.registers.pc.toNat
    · exact ⟨_, .strayed halted beyond⟩
    · have within := Nat.le_of_not_lt beyond
      cases refuses : machine.refusal? with
      | some cause => exact ⟨_, .refused halted within refuses⟩
      | none =>
          simp only [refusal?] at refuses
          cases decoded : Instruction.decode? machine.nextOpcode with
          | none =>
              rw [decoded] at refuses
              cases refuses
          | some instruction =>
              rw [decoded] at refuses
              exact ⟨_, .executed halted within decoded refuses⟩

theorem fetchExecute_outcome (machine : Machine) : Outcome machine machine.fetchExecute := by
  obtain ⟨result, outcome⟩ := machine.exists_outcome
  rwa [outcome.fetchExecute_eq]

/-! ## The cause of a fault -/

/-- Why the next cycle reports a fault, if it does. -/
def cause? (machine : Machine) : Option Fault.Cause :=
  if machine.phase = .halted then none
  else if lastFetch < machine.registers.pc.toNat then some .fetchOutOfBounds
  else machine.refusal?

theorem cause?_of_halted {machine : Machine} (halted : machine.phase = .halted) :
    machine.cause? = none := by
  rw [cause?, if_pos halted]

theorem cause?_of_lt {machine : Machine} (awake : machine.phase ≠ .halted)
    (beyond : lastFetch < machine.registers.pc.toNat) :
    machine.cause? = some .fetchOutOfBounds := by
  rw [cause?, if_neg awake, if_pos beyond]

theorem cause?_of_le {machine : Machine} (awake : machine.phase ≠ .halted)
    (within : machine.registers.pc.toNat ≤ lastFetch) :
    machine.cause? = machine.refusal? := by
  rw [cause?, if_neg awake, if_neg (Nat.not_lt.mpr within)]

/-- Where a word is fetched, none of the two reasons to fetch nothing holds. -/
theorem not_halted_or_beyond {machine : Machine} (awake : machine.phase ≠ .halted)
    (within : machine.registers.pc.toNat ≤ lastFetch) :
    ¬ (machine.phase = .halted ∨ 4095 ≤ machine.registers.pc.toNat) :=
  not_or.mpr ⟨awake, Nat.not_le.mpr (Nat.lt_succ_of_le within)⟩

theorem refusal?_of_decode? {machine : Machine} {instruction : Instruction}
    (decoded : Instruction.decode? machine.nextOpcode = some instruction) :
    machine.refusal? = machine.failure? instruction := by
  rw [refusal?, decoded]

/-- An instruction fails at the stack or at the memory. -/
theorem kind_of_failure? {machine : Machine} {instruction : Instruction} {cause : Fault.Cause}
    (fails : machine.failure? instruction = some cause) :
    cause.kind ∈ [.stackUnderflow, .stackOverflow, .memoryOutOfBounds] := by
  cases instruction with
  | ret =>
      obtain ⟨-, rfl⟩ := by simpa [failure?] using fails
      decide
  | call target =>
      obtain ⟨-, rfl⟩ := by simpa [failure?] using fails
      decide
  | draw | storeDecimal | storeRegisters | loadRegisters =>
      rw [failure?, transferFailure?_eq_some_iff] at fails
      obtain ⟨-, rfl⟩ := fails
      simp [Fault.Cause.kind]
  | _ => simp [failure?] at fails

theorem refusal?_ne_fetchOutOfBounds (machine : Machine) :
    machine.refusal? ≠ some .fetchOutOfBounds := by
  intro refuses
  cases decoded : Instruction.decode? machine.nextOpcode with
  | none =>
      rw [refusal?, decoded] at refuses
      cases refuses
  | some instruction =>
      rw [refusal?_of_decode? decoded] at refuses
      exact absurd (kind_of_failure? refuses) (by decide)

/-- The word that the next cycle fetches, if there is a whole one at the program counter. -/
def fetchable? (machine : Machine) : Option Opcode :=
  if lastFetch < machine.registers.pc.toNat then none else some machine.nextOpcode

theorem fetchExecute_eq_of_halted {machine : Machine} (halted : machine.phase = .halted) :
    machine.fetchExecute = (machine, .ok none) := by
  rw [fetchExecute, if_pos halted]

/-- What comes of telling the observers that a cycle has failed. -/
def failure (machine : Machine) (cause : Fault.Cause) : Telling :=
  (machine.struck cause machine.registers.pc (decide (cause = .fetchOutOfBounds))).told
    ⟨cause, some machine.registers.pc.toNat⟩

/-- The machine after a cycle that fails.  It is as the fault leaves it, the word that was fetched
is the last one, and the observers have acted. -/
def failed (machine : Machine) (cause : Fault.Cause) : Machine :=
  { machine.struck cause machine.registers.pc (decide (cause = .fetchOutOfBounds)) with
    lastOpcode := machine.fetchable?.or machine.lastOpcode
    observers := (machine.failure cause).registered
    deliveries := (machine.failure cause).deliveries }

theorem fetchExecute_eq_of_some {machine : Machine} {cause : Fault.Cause}
    (causes : machine.cause? = some cause) :
    machine.fetchExecute =
      (machine.failed cause, (machine.failure cause).answer machine.fetchable?) := by
  have outcome := machine.fetchExecute_outcome
  generalize machine.fetchExecute = result at outcome ⊢
  cases outcome with
  | idle halted =>
      rw [cause?_of_halted halted] at causes
      cases causes
  | strayed awake beyond =>
      rw [cause?_of_lt awake beyond] at causes
      cases causes
      simp only [failed, fetchable?, if_pos beyond]
      exact machine.fail_eq .fetchOutOfBounds machine.registers.pc none
  | refused awake within refuses =>
      rw [cause?_of_le awake within, refuses] at causes
      cases causes
      have fetching : decide (cause = .fetchOutOfBounds) = false := by
        refine decide_eq_false ?_
        rintro rfl
        exact machine.refusal?_ne_fetchOutOfBounds refuses
      simp only [failed, failure, fetching, fetchable?, if_neg (Nat.not_lt.mpr within)]
      exact (machine.fetched machine.nextOpcode).fail_eq cause machine.registers.pc
        (some machine.nextOpcode)
  | executed awake within decoded succeeds =>
      rw [cause?_of_le awake within, refusal?_of_decode? decoded, succeeds] at causes
      cases causes

theorem fetchExecute_of_cause? {machine : Machine} {cause : Fault.Cause}
    (causes : machine.cause? = some cause) :
    ∃ fetched observers deliveries, machine.fetchExecute.1 =
      { machine.struck cause machine.registers.pc (decide (cause = .fetchOutOfBounds)) with
        lastOpcode := fetched, observers := observers, deliveries := deliveries } :=
  ⟨_, _, _, congrArg Prod.fst (fetchExecute_eq_of_some causes)⟩

/-- A cycle of a machine that has not halted executes an instruction, unless it fails. -/
theorem fetchExecute_eq_of_none {machine : Machine} (awake : machine.phase ≠ .halted)
    (succeeds : machine.cause? = none) :
    ∃ instruction, Instruction.decode? machine.nextOpcode = some instruction ∧
      machine.fetchExecute = (machine.executed instruction, .ok (some machine.nextOpcode)) := by
  have outcome := machine.fetchExecute_outcome
  generalize machine.fetchExecute = result at outcome ⊢
  cases outcome with
  | idle halted => exact absurd halted awake
  | strayed awake beyond =>
      rw [cause?_of_lt awake beyond] at succeeds
      cases succeeds
  | refused awake within refuses =>
      rw [cause?_of_le awake within, refuses] at succeeds
      cases succeeds
  | executed awake within decoded _ => exact ⟨_, decoded, rfl⟩

/-- Where nobody interrupts, a cycle gives back the word that it has fetched, whatever comes of
it. -/
theorem fetchExecute_snd_of_silent {machine : Machine}
    (silent : ∀ cause, machine.cause? = some cause →
      (machine.failure cause).interruption? = none) :
    machine.fetchExecute.2 =
      .ok (if machine.phase = .halted ∨ 4095 ≤ machine.registers.pc.toNat then none
        else some machine.nextOpcode) := by
  by_cases halted : machine.phase = .halted
  · rw [fetchExecute_eq_of_halted halted, if_pos (.inl halted)]
  · by_cases beyond : lastFetch < machine.registers.pc.toNat
    · have causes := cause?_of_lt halted beyond
      rw [fetchExecute_eq_of_some causes, Telling.answer, silent _ causes, fetchable?,
        if_pos beyond, if_pos (.inr beyond)]
    · have within := Nat.le_of_not_lt beyond
      rw [if_neg (not_halted_or_beyond halted within)]
      cases causes : machine.cause? with
      | none =>
          obtain ⟨instruction, -, ran⟩ := fetchExecute_eq_of_none halted causes
          rw [ran]
      | some cause =>
          rw [fetchExecute_eq_of_some causes, Telling.answer, silent _ causes, fetchable?,
            if_neg beyond]

theorem fetchExecute_snd_of_patient {machine : Machine} (patient : machine.Patient) :
    machine.fetchExecute.2 =
      .ok (if machine.phase = .halted ∨ 4095 ≤ machine.registers.pc.toNat then none
        else some machine.nextOpcode) := by
  refine fetchExecute_snd_of_silent fun cause _ => ?_
  have struck (fetching : Bool) : (machine.struck cause machine.registers.pc fetching).Patient :=
    patient.congr rfl rfl
  exact ((struck _).told _).1

/-- A cycle that does not fail adds nothing to the journal. -/
theorem fetchExecute_journal_of_none {machine : Machine} (succeeds : machine.cause? = none) :
    machine.fetchExecute.1.journal = machine.journal := by
  by_cases halted : machine.phase = .halted
  · rw [fetchExecute_eq_of_halted halted]
  · obtain ⟨instruction, -, ran⟩ := fetchExecute_eq_of_none halted succeeds
    rw [ran]
    simp only [executed]
    rw [effect_eq]
    rfl

/-! ## Reports -/

/-- Draining the key queue notes key events and no fault. -/
theorem drainKeys_journal (machine : Machine) :
    ∃ notices, machine.drainKeys.journal = notices ++ machine.journal ∧
      ∀ notice ∈ notices, ∀ fault, ¬ notice.Announces fault := by
  refine ⟨machine.keypad.drain.2.reverse.map Notice.keyChanged, rfl, ?_⟩
  intro notice member fault announces
  obtain ⟨event, -, rfl⟩ := List.mem_map.mp member
  rcases announces with announced | announced <;> cases announced

theorem haltNotices_silent (policy : FaultPolicy) (pc : UInt16) (fault : Fault) :
    ∀ notice ∈ policy.haltNotices pc, ¬ notice.Announces fault := by
  intro notice member announces
  unfold FaultPolicy.haltNotices at member
  split at member
  · rw [List.mem_singleton.mp member] at announces
    rcases announces with announced | announced <;> cases announced
  · cases member

/-- A cycle reports a fault exactly when there is a cause for one.  The fault carries that cause and
the program counter at the start of the cycle. -/
theorem reports_cycle_iff (machine : Machine) (fault : Fault) :
    machine.Reports machine.cycle.1 fault ↔
      ∃ cause, machine.cause? = some cause ∧ fault = ⟨cause, some machine.registers.pc.toNat⟩ := by
  obtain ⟨keys, drained, silent⟩ := machine.drainKeys_journal
  have unchanged : machine.drainKeys.cause? = machine.cause? := rfl
  cases causes : machine.cause? with
  | none =>
      have kept : machine.cycle.1.journal = keys ++ machine.journal :=
        (fetchExecute_journal_of_none (unchanged.trans causes)).trans drained
      rw [reports_iff kept]
      constructor
      · rintro ⟨notice, member, announces⟩
        exact absurd announces (silent notice member fault)
      · rintro ⟨cause, impossible, -⟩
        cases impossible
  | some cause =>
      obtain ⟨fetched, observers, deliveries, failed⟩ :=
        fetchExecute_of_cause? (unchanged.trans causes)
      have added : machine.cycle.1.journal =
          (machine.drainKeys.noticeOf ⟨cause, some machine.registers.pc.toNat⟩ ::
            (machine.settings.faultPolicy.haltNotices machine.registers.pc ++ keys)) ++
              machine.journal := by
        rw [cycle, failed]
        simp only [struck, drained, List.cons_append, List.append_assoc]
        rfl
      rw [reports_iff added]
      constructor
      · rintro ⟨notice, member, announces⟩
        -- Of all notices only the one about this cause can announce a fault.
        rcases List.mem_cons.mp member with rfl | member
        · exact ⟨cause, rfl, (noticeOf_announces_iff _ _ _).mp announces⟩
        · rcases List.mem_append.mp member with member | member
          · exact absurd announces (haltNotices_silent _ _ fault notice member)
          · exact absurd announces (silent notice member fault)
      · rintro ⟨_, same, rfl⟩
        cases same
        exact ⟨_, List.mem_cons_self, (noticeOf_announces_iff _ _ _).mpr rfl⟩

end ChipEight.Machine
