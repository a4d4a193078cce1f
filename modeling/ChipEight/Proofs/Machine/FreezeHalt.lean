import ChipEight.Proofs.Machine.FrozenFault
import ChipEight.Proofs.Machine.Similar

/-!
# Freezing and halting

A machine that freezes at faults and one that halts differ in how they stand still.  Until a fault
they are in step.  From then on one of them does nothing, and the other tries the instruction again
in every cycle, which changes nothing either as long as no program is loaded.  So nothing but the
phase, the record of faults and what cycles give back tells them apart.
-/

namespace ChipEight

/-- Whether a notice is about something else than a fault and what follows from it. -/
def Notice.ordinary : Notice → Bool
  | .faulted _ => false
  | .faultRepeated _ => false
  | .halted _ => false
  | _ => true

namespace Machine

/-- What a machine has noted besides its faults. -/
def ordinaryNotices (machine : Machine) : List Notice :=
  machine.journal.filter Notice.ordinary

variable {like : Likeness} {machine first second freezing halting : Machine}

/-! ## What is noted besides faults -/

theorem filter_ordinary_haltNotices (policy : FaultPolicy) (pc : UInt16) :
    (policy.haltNotices pc).filter Notice.ordinary = [] := by
  unfold FaultPolicy.haltNotices
  split <;> rfl

theorem not_ordinary_noticeOf (machine : Machine) (fault : Fault) :
    ¬ (machine.noticeOf fault).ordinary = true := by
  unfold noticeOf
  split <;> exact Bool.false_ne_true

/-- Besides faults a cycle notes only the key events of the queue. -/
theorem ordinaryNotices_fetchExecute (machine : Machine) :
    machine.fetchExecute.1.ordinaryNotices = machine.ordinaryNotices := by
  unfold ordinaryNotices
  cases causes : machine.cause? with
  | none => rw [fetchExecute_journal_of_none causes]
  | some cause =>
      have ran := fetchExecute_eq_of_some causes
      rw [ran]
      simp only [failed, struck]
      rw [List.filter_cons_of_neg (not_ordinary_noticeOf _ _), List.filter_append,
        filter_ordinary_haltNotices, List.nil_append]

/-- Similar machines note the same, faults apart. -/
theorem Similar.ordinaryNotices_after (similar : Similar like first second)
    (same : first.ordinaryNotices = second.ordinaryNotices) (operation : Operation) :
    (first.after operation).ordinaryNotices = (second.after operation).ordinaryNotices := by
  rcases operation.load_or_cycle_or_peripheral with ⟨rom, rfl⟩ | rfl | peripheral
  · simp only [Machine.after]
    rcases loadRom_both first second rom with
      ⟨memory, loaded, otherLoaded⟩ | ⟨cause, refused, otherRefused⟩
    · rw [loaded, otherLoaded]
      exact congrArg (fun notices => .romLoaded rom.length :: .romCopied rom.length :: notices) same
    · rw [refused, otherRefused, rejected, rejected, record_eq, record_eq]
      simp only [ordinaryNotices]
      rw [List.filter_cons_of_neg (not_ordinary_noticeOf _ _),
        List.filter_cons_of_neg (not_ordinary_noticeOf _ _)]
      exact same
  · simp only [Machine.after, cycle]
    rw [ordinaryNotices_fetchExecute, ordinaryNotices_fetchExecute]
    simp only [ordinaryNotices, Machine.drainKeys, List.filter_append]
    rw [similar.keypad]
    exact congrArg _ same
  · rw [first.after_of_peripheral peripheral, second.after_of_peripheral peripheral]
    simp only [ordinaryNotices, List.filter_append]
    rw [similar.keypad]
    exact congrArg _ same

/-! ## Phases -/

/-- No instruction halts the machine. -/
theorem effect_phase_ne_halted (awake : machine.phase ≠ .halted) (instruction : Instruction) :
    (machine.effect instruction).phase ≠ .halted := by
  cases instruction with
  | waitKey x =>
      simp only [effect, awaited]
      cases machine.keypad.last? <;> exact Phase.noConfusion
  | _ => exact awake

/-- Only a policy that says so halts the machine. -/
theorem fetchExecute_phase_ne_halted (awake : machine.phase ≠ .halted)
    (goesOn : machine.settings.faultPolicy ≠ .halt) :
    machine.fetchExecute.1.phase ≠ .halted := by
  cases causes : machine.cause? with
  | none =>
      obtain ⟨instruction, -, ran⟩ := fetchExecute_eq_of_none awake causes
      rw [ran]
      exact effect_phase_ne_halted (show (machine.fetched _).phase ≠ .halted from awake) instruction
  | some cause =>
      have ran := fetchExecute_eq_of_some causes
      rw [ran]
      simp only [failed, struck, FaultPolicy.phaseAfter, if_neg goesOn]
      exact awake

theorem after_phase_ne_halted (awake : machine.phase ≠ .halted)
    (goesOn : machine.settings.faultPolicy ≠ .halt) (operation : Operation) :
    (machine.after operation).phase ≠ .halted := by
  rcases operation.load_or_cycle_or_peripheral with ⟨rom, rfl⟩ | rfl | peripheral
  · simp only [after]
    rcases machine.loadRom_cases rom with
      ⟨memory, -, loaded⟩ | ⟨cause, observers, deliveries, -, refused⟩
    · rw [loaded]
      exact Phase.noConfusion
    · rw [refused, record_eq]
      exact awake
  · exact fetchExecute_phase_ne_halted (show machine.drainKeys.phase ≠ .halted from awake) goesOn
  · rw [machine.after_of_peripheral peripheral]
    exact awake

/-! ## In step until a fault -/

/-- How a machine that freezes stands to one that halts.  They are in step, or there was a fault at
which one has halted and the other is jammed. -/
inductive Course (freezing halting : Machine) : Prop
  | together (phase : freezing.phase = halting.phase) (reports : SameReports freezing halting)
  | parted {cause : Fault.Cause} (jammed : freezing.Jammed cause)
      (halted : halting.phase = .halted) (freezingFaults : 0 < freezing.faultCount)
      (haltingFaults : 0 < halting.faultCount)

/-- A machine that freezes at faults and one that halts, on which the same was done while nobody
observed them. -/
structure Paired (freezing halting : Machine) : Prop where
  freezes : freezing.settings.faultPolicy = .freeze
  halts : halting.settings.faultPolicy = .halt
  freezingAlone : freezing.observers = []
  haltingAlone : halting.observers = []
  awake : freezing.phase ≠ .halted
  similar : Similar Likeness.exact freezing halting
  notices : freezing.ordinaryNotices = halting.ordinaryNotices
  course : Course freezing halting

/-- Both policies go on where the fault arose. -/
theorem Paired.resume (paired : Paired freezing halting) :
    freezing.settings.faultPolicy.resume = halting.settings.faultPolicy.resume := by
  rw [paired.freezes, paired.halts]
  rfl

/-- Nobody interrupts, because nobody observes. -/
theorem Paired.answer (paired : Paired freezing halting) {operation : Operation}
    (phase : operation = .cycle → freezing.phase = halting.phase) :
    freezing.answer operation = halting.answer operation :=
  paired.similar.answer_of_patient (patient_of_unobserved paired.freezingAlone)
    (patient_of_unobserved paired.haltingAlone) phase
    fun _ => congrArg Screen.redraw paired.similar.screen

/-- A cycle of a jammed machine does what draining the key queue does. -/
theorem Paired.similar_cycle (paired : Paired freezing halting) :
    Similar Likeness.exact freezing.cycle.1 halting.cycle.1 := by
  cases paired.course with
  | together phase reports =>
      exact paired.similar.after phase (.inr paired.resume) .cycle
  | parted jammed halted _ _ =>
      have ran := cycle_of_retries jammed.retries jammed.causes
      have idle : halting.cycle = (halting.drainKeys, .ok none) :=
        fetchExecute_eq_of_halted halted
      rw [ran, idle, jammed.fetched]
      exact { paired.similar.drainKeys with }

theorem Paired.course_cycle (paired : Paired freezing halting) :
    Course freezing.cycle.1 halting.cycle.1 := by
  have similar := paired.similar
  have retries : ∀ cause, freezing.settings.faultPolicy.Retries cause := fun _ =>
    .inl paired.freezes
  cases paired.course with
  | together phase reports =>
      cases causes : freezing.cause? with
      | none =>
          exact .together (similar.after_phase phase (.inl causes) .cycle)
            (similar.after_reports phase reports .cycle)
      | some cause =>
          -- The fault that parts them: one is jammed from here on, and the other one halts.
          have froze := cycle_of_retries (retries cause) causes
          have sameCause : halting.drainKeys.cause? = some cause := similar.cause? phase ▸ causes
          have halted := fetchExecute_eq_of_some sameCause
          refine .parted (jammed_cycle (retries cause) causes) ?_ ?_ ?_
          · rw [cycle, halted]
            exact if_pos paired.halts
          · rw [froze]
            exact Nat.succ_pos _
          · rw [cycle, halted]
            exact Nat.succ_pos _
  | parted jammed halted freezingFaults haltingFaults =>
      have froze := cycle_of_retries jammed.retries jammed.causes
      have idle : halting.cycle = (halting.drainKeys, .ok none) :=
        fetchExecute_eq_of_halted halted
      refine .parted (jammed_cycle jammed.retries jammed.causes) ?_ ?_ ?_
      · rw [idle]
        exact halted
      · rw [froze]
        exact Nat.succ_pos _
      · rw [idle]
        exact haltingFaults

/-- A load brings the two together again, or is a further fault. -/
theorem Paired.course_loadRom (paired : Paired freezing halting) (rom : List UInt8) :
    Course (freezing.loadRom rom).1 (halting.loadRom rom).1 := by
  rcases loadRom_both freezing halting rom with
    ⟨memory, loaded, otherLoaded⟩ | ⟨cause, refused, otherRefused⟩
  · rw [loaded, otherLoaded]
    exact .together rfl ⟨rfl, rfl, rfl⟩
  · rw [refused, otherRefused, rejected, rejected, record_eq, record_eq]
    cases paired.course with
    | together phase reports =>
        refine .together phase ⟨?_, rfl, rfl⟩
        exact congrArg (· + 1) reports.faultCount
    | parted jammed halted _ _ =>
        exact .parted ⟨jammed.retries, jammed.causes, jammed.fetched⟩ halted (Nat.succ_pos _)
          (Nat.succ_pos _)

theorem Paired.course_peripheral (paired : Paired freezing halting) {operation : Operation}
    (peripheral : operation.Peripheral) :
    Course (freezing.after operation) (halting.after operation) := by
  cases paired.course with
  | together phase reports =>
      have later := paired.similar.after_reports phase reports operation
      rw [freezing.after_of_peripheral peripheral, halting.after_of_peripheral peripheral]
        at later ⊢
      exact .together phase later
  | parted jammed halted freezingFaults haltingFaults =>
      have later := jammed.peripheral peripheral
      rw [freezing.after_of_peripheral peripheral] at later ⊢
      rw [halting.after_of_peripheral peripheral]
      exact .parted later halted freezingFaults haltingFaults

theorem Paired.after (paired : Paired freezing halting) (operation : Operation) :
    Paired (freezing.after operation) (halting.after operation) where
  freezes := by rw [after_settings, paired.freezes]
  halts := by rw [after_settings, paired.halts]
  freezingAlone := after_unobserved paired.freezingAlone operation
  haltingAlone := after_unobserved paired.haltingAlone operation
  awake := by
    refine after_phase_ne_halted paired.awake ?_ operation
    rw [paired.freezes]
    exact FaultPolicy.noConfusion
  similar := by
    rcases operation.load_or_cycle_or_peripheral with ⟨rom, rfl⟩ | rfl | peripheral
    · exact paired.similar.loadRom rom
    · exact paired.similar_cycle
    · exact paired.similar.peripheral peripheral
  notices := paired.similar.ordinaryNotices_after paired.notices operation
  course := by
    rcases operation.load_or_cycle_or_peripheral with ⟨rom, rfl⟩ | rfl | peripheral
    · exact paired.course_loadRom rom
    · exact paired.course_cycle
    · exact paired.course_peripheral peripheral

/-- New machines start together. -/
theorem paired_create (settings : Settings) (random : RandomSource) :
    Paired (create { settings with policy := .known .freeze } random)
      (create { settings with policy := .known .halt } random) where
  freezes := rfl
  halts := rfl
  freezingAlone := rfl
  haltingAlone := rfl
  awake := Phase.noConfusion
  similar := ⟨rfl, rfl, rfl, rfl, rfl, rfl, rfl, rfl, rfl, rfl, rfl⟩
  notices := rfl
  course := .together rfl ⟨rfl, rfl, rfl⟩

/-- Two new machines with the same settings, except that one freezes at faults and the other halts,
agree on everything that a program computes with, whatever is done to both.  They note the same
besides their faults, and all operations but cycles give back the same.  As long as the second one
has not halted, they also agree on the phase, the faults and the results of cycles.  Once it has,
both have counted a fault, and the first one reports a fault again in its next cycle. -/
theorem freeze_and_halt_agree (settings : Settings) (random : RandomSource)
    (operations : List Operation) :
    let freezing := (create { settings with policy := .known .freeze } random).run operations
    let halting := (create { settings with policy := .known .halt } random).run operations
    (freezing.registers = halting.registers ∧ freezing.stack = halting.stack ∧
        freezing.memory = halting.memory ∧ freezing.timer = halting.timer ∧
        freezing.screen = halting.screen ∧ freezing.keypad = halting.keypad ∧
        freezing.random = halting.random ∧
        freezing.instructionCount = halting.instructionCount ∧
        freezing.lastOpcode = halting.lastOpcode ∧ freezing.romLoaded = halting.romLoaded) ∧
      freezing.ordinaryNotices = halting.ordinaryNotices ∧
      (∀ operation, operation ≠ .cycle →
        freezing.answer operation = halting.answer operation) ∧
      (halting.phase ≠ .halted →
        freezing.phase = halting.phase ∧ freezing.faultCount = halting.faultCount ∧
          freezing.lastFault = halting.lastFault ∧
          freezing.answer .cycle = halting.answer .cycle) ∧
      (halting.phase = .halted →
        0 < freezing.faultCount ∧ 0 < halting.faultCount ∧
          ∃ fault, freezing.Reports freezing.cycle.1 fault) := by
  intro freezing halting
  have paired : Paired freezing halting :=
    run_relates (fun _ _ operation paired => paired.after operation)
      (paired_create settings random) operations
  have similar := paired.similar
  refine ⟨⟨similar.registers, similar.stack, similar.memory, similar.timer, similar.screen,
    similar.keypad, similar.random, similar.instructionCount, similar.lastOpcode,
    similar.romLoaded⟩, paired.notices, ?_, ?_, ?_⟩
  · intro operation other
    exact paired.answer fun cycles => absurd cycles other
  · intro awake
    cases paired.course with
    | together phase reports =>
        exact ⟨phase, reports.faultCount, reports.lastFault, paired.answer fun _ => phase⟩
    | parted _ halted _ _ => exact absurd halted awake
  · intro halted
    cases paired.course with
    | together phase _ => exact absurd (phase.trans halted) paired.awake
    | parted jammed _ freezingFaults haltingFaults =>
        exact ⟨freezingFaults, haltingFaults, _,
          (freezing.reports_cycle_iff _).mpr ⟨_, jammed.causes, rfl⟩⟩

end Machine

end ChipEight
