import ChipEight.Proofs.Machine.CallReturn
import ChipEight.Proofs.Machine.Similar
import ChipEight.Snapshot

/-!
# Machines under other settings

A machine consults its settings in two places: when a cycle fails, and when a shift chooses its
operand.  Everything else commutes with a change of the settings, and so does a whole run in which
no cycle gets to a place where the two settings differ.  Even the journal and the deliveries to the
observers are the same then.
-/

namespace ChipEight

/-- Whether a register operation shifts. -/
def Arithmetic.Shifts (operation : Arithmetic) : Prop :=
  operation = .shiftRight ∨ operation = .shiftLeft

/-- A shift does not notice from which of two equal registers it takes its operand. -/
theorem Registers.arithmetic_of_same {registers : Registers} {operation : Arithmetic}
    {x y : Fin 16} (same : operation.Shifts → registers.get x = registers.get y)
    (uses others : Bool) :
    registers.arithmetic operation uses x y = registers.arithmetic operation others x y := by
  have source (shifts : operation.Shifts) :
      (if uses then registers.get y else registers.get x) =
        if others then registers.get y else registers.get x := by
    rw [same shifts, ite_self, ite_self]
  cases operation with
  | shiftRight => simp only [arithmetic, source (.inl rfl)]
  | shiftLeft => simp only [arithmetic, source (.inr rfl)]
  | _ => rfl

namespace Machine

variable {machine : Machine} {settings : Settings}

/-- The machine with its settings replaced. -/
def withSettings (machine : Machine) (settings : Settings) : Machine :=
  { machine with settings := settings }

/-! ## Faults -/

theorem record_withSettings (machine : Machine) (settings : Settings) (fault : Fault) :
    (machine.withSettings settings).record fault =
      (machine.record fault).withSettings settings := by
  rw [record_eq, record_eq]
  rfl

theorem report_withSettings (machine : Machine) (settings : Settings) (fault : Fault) :
    (machine.withSettings settings).report fault =
      ((machine.report fault).1.withSettings settings, (machine.report fault).2) := by
  rw [report_eq, report_eq, record_withSettings]
  rfl

/-- What becomes of a fault depends on the policy alone. -/
theorem fail_fst_withSettings (policy : machine.settings.faultPolicy = settings.faultPolicy)
    (cause : Fault.Cause) (pc : UInt16) (fetched : Option Opcode) :
    ((machine.withSettings settings).fail cause pc fetched).1 =
      (machine.fail cause pc fetched).1.withSettings settings := by
  have settled : (machine.withSettings settings).settle pc fetched.isNone =
      (machine.settle pc fetched.isNone).withSettings settings := by
    rw [settle_eq, settle_eq, policy]
    rfl
  rw [(fail_report _ _ _ _).1, (fail_report _ _ _ _).1, settled, report_withSettings]

/-! ## Instructions -/

theorem effect_withSettings {instruction : Instruction}
    (shift : machine.settings.shiftUsesVy = settings.shiftUsesVy ∨
      ∀ operation x y, instruction = .arithmetic operation x y →
        operation.Shifts → machine.v x = machine.v y) :
    (machine.withSettings settings).effect instruction =
      (machine.effect instruction).withSettings settings := by
  cases instruction with
  | arithmetic operation x y =>
      have result :
          machine.registers.arithmetic operation settings.shiftUsesVy x y =
            machine.registers.arithmetic operation machine.settings.shiftUsesVy x y := by
        rcases shift with shift | same
        · rw [shift]
        · exact Registers.arithmetic_of_same (same operation x y rfl) _ _
      exact congrArg (fun registers => { machine with settings, registers }) result
  | waitKey x =>
      simp only [effect, awaited, withSettings]
      cases machine.keypad.last? <;> rfl
  | _ => rfl

theorem refusal?_withSettings (machine : Machine) (settings : Settings) :
    (machine.withSettings settings).refusal? = machine.refusal? := by
  have same : (machine.withSettings settings).nextOpcode = machine.nextOpcode := rfl
  rw [refusal?, refusal?, same]
  cases Instruction.decode? machine.nextOpcode with
  | none => rfl
  | some instruction => cases instruction <;> rfl

/-! ## Steps that consult the settings -/

/-- A cycle fails. -/
def Step.Fails (step : Step) : Prop :=
  step.operation = .cycle ∧ ∃ fault, step.before.Reports step.after fault

/-- A cycle shifts one of two registers that hold different values. -/
def Step.ShiftsApart (step : Step) : Prop :=
  step.operation = .cycle ∧
    ∃ op, step.before.Executes op ∧ op.family = 0x8 ∧ (op.n = 0x6 ∨ op.n = 0xE) ∧
      step.before.v op.x ≠ step.before.v op.y

theorem Step.fails_iff (step : Step) :
    step.Fails ↔ step.operation = .cycle ∧ step.before.cause?.isSome := by
  rcases step with ⟨machine, operation⟩
  refine and_congr_right ?_
  rintro rfl
  rw [Option.isSome_iff_exists]
  constructor
  · rintro ⟨fault, reported⟩
    obtain ⟨cause, causes, -⟩ := (machine.reports_cycle_iff fault).mp reported
    exact ⟨cause, causes⟩
  · rintro ⟨cause, causes⟩
    exact ⟨_, (machine.reports_cycle_iff _).mpr ⟨cause, causes, rfl⟩⟩

theorem Step.shiftsApart_iff (step : Step) :
    step.ShiftsApart ↔
      step.operation = .cycle ∧ (step.before.phase ≠ .halted ∧ step.before.cause? = none) ∧
        step.before.nextOpcode.family = 0x8 ∧
          (step.before.nextOpcode.n = 0x6 ∨ step.before.nextOpcode.n = 0xE) ∧
            step.before.v step.before.nextOpcode.x ≠ step.before.v step.before.nextOpcode.y := by
  refine and_congr_right fun _ => ?_
  constructor
  · rintro ⟨op, executes, shifts⟩
    obtain ⟨awake, succeeds, rfl⟩ := (step.before.executes_iff op).mp executes
    exact ⟨⟨awake, succeeds⟩, shifts⟩
  · rintro ⟨⟨awake, succeeds⟩, shifts⟩
    exact ⟨_, executes_nextOpcode awake succeeds, shifts⟩

instance (step : Step) : Decidable step.Fails :=
  decidable_of_iff _ step.fails_iff.symm

instance (step : Step) : Decidable step.ShiftsApart :=
  decidable_of_iff _ step.shiftsApart_iff.symm

theorem cause?_of_not_fails (quiet : ¬ Step.Fails ⟨machine, .cycle⟩) : machine.cause? = none := by
  cases causes : machine.cause? with
  | none => rfl
  | some cause => exact absurd ((Step.fails_iff _).mpr ⟨rfl, by rw [causes]; rfl⟩) quiet

/-- If the word at the program counter is a shift, its two registers hold the same. -/
def ShiftsTogether (machine : Machine) : Prop :=
  ∀ operation x y, Instruction.decode? machine.nextOpcode = some (.arithmetic operation x y) →
    operation.Shifts → machine.v x = machine.v y

theorem shiftsTogether_of_not_shiftsApart (together : ¬ Step.ShiftsApart ⟨machine, .cycle⟩)
    (awake : machine.phase ≠ .halted) (succeeds : machine.cause? = none) :
    machine.ShiftsTogether := by
  intro operation x y decoded shifts
  obtain ⟨family, first, second, digit⟩ := Instruction.encodes_of_decode? decoded
  have firstOperand : machine.nextOpcode.x = x := Fin.ext first
  have secondOperand : machine.nextOpcode.y = y := Fin.ext second
  have last : machine.nextOpcode.n = 0x6 ∨ machine.nextOpcode.n = 0xE := by
    rcases shifts with rfl | rfl
    · exact .inl digit
    · exact .inr digit
  refine Decidable.byContradiction fun apart => together ((Step.shiftsApart_iff _).mpr
    ⟨rfl, ⟨awake, succeeds⟩, family, last, ?_⟩)
  rwa [firstOperand, secondOperand]

/-! ## Cycles -/

/-- What a cycle leaves does not depend on the settings, if they agree on what it consults. -/
theorem fetchExecute_withSettings
    (policy : machine.settings.faultPolicy = settings.faultPolicy ∨ machine.cause? = none)
    (shift : machine.settings.shiftUsesVy = settings.shiftUsesVy ∨
      (machine.phase ≠ .halted → machine.cause? = none → machine.ShiftsTogether)) :
    (machine.withSettings settings).fetchExecute.1 =
      machine.fetchExecute.1.withSettings settings := by
  have samePolicy {cause : Fault.Cause} (causes : machine.cause? = some cause) :
      machine.settings.faultPolicy = settings.faultPolicy := by
    rcases policy with policy | succeeds
    · exact policy
    · rw [causes] at succeeds
      cases succeeds
  -- None of the conditions of an outcome looks at the settings: both machines end the same way.
  have outcome := machine.fetchExecute_outcome
  generalize machine.fetchExecute = result at outcome ⊢
  cases outcome with
  | idle halted =>
      have other : Outcome (machine.withSettings settings) _ := .idle halted
      rw [other.fetchExecute_eq]
  | strayed awake beyond =>
      have other : Outcome (machine.withSettings settings) _ := .strayed awake beyond
      rw [other.fetchExecute_eq]
      exact fail_fst_withSettings (samePolicy (cause?_of_lt awake beyond)) _ _ _
  | refused awake within refuses =>
      have other := @Outcome.refused (machine.withSettings settings) awake within _
        ((machine.refusal?_withSettings settings).trans refuses)
      rw [other.fetchExecute_eq]
      have same := samePolicy ((cause?_of_le awake within).trans refuses)
      exact fail_fst_withSettings (show (machine.fetched _).settings.faultPolicy = _ from same) _ _
        _
  | executed awake within decoded succeeds =>
      rename_i instruction
      have quiet : machine.cause? = none :=
        (cause?_of_le awake within).trans ((refusal?_of_decode? decoded).trans succeeds)
      have other := @Outcome.executed (machine.withSettings settings) awake within _ decoded
        (by cases instruction <;> exact succeeds)
      rw [other.fetchExecute_eq]
      have operands := shift.imp_right fun same operation x y (arithmetic : instruction = _) =>
        same awake quiet operation x y (decoded.trans (congrArg some arithmetic))
      have affected := effect_withSettings
        (show (machine.fetched machine.nextOpcode).settings.shiftUsesVy = _ ∨ _ from operands)
      exact congrArg
        (fun ran : Machine => { ran with instructionCount := machine.instructionCount + 1 })
        affected

/-! ## Operations -/

theorem loadRom_withSettings (machine : Machine) (settings : Settings) (rom : List UInt8) :
    (machine.withSettings settings).loadRom rom =
      ((machine.loadRom rom).1.withSettings settings, (machine.loadRom rom).2) := by
  have same : (machine.withSettings settings).memory.loadRom rom =
    machine.memory.loadRom rom := rfl
  rw [loadRom, loadRom, same]
  cases machine.memory.loadRom rom with
  | ok memory => rfl
  | error cause =>
      simp only [report_withSettings]
      rcases machine.report ⟨cause, none⟩ with ⟨after, interruption | interruption⟩ <;> rfl

/-- Where nobody interrupts, no answer depends on the settings. -/
theorem answer_withSettings (patient : machine.Patient) (settings : Settings)
    (operation : Operation) :
    (machine.withSettings settings).answer operation = machine.answer operation := by
  rcases operation.load_or_cycle_or_peripheral with ⟨rom, rfl⟩ | rfl | peripheral
  · exact congrArg (fun loaded => Answer.loaded loaded.2)
      (machine.loadRom_withSettings settings rom)
  · have left := fetchExecute_snd_of_patient
      (show (machine.withSettings settings).drainKeys.Patient from patient)
    have right := fetchExecute_snd_of_patient (show machine.drainKeys.Patient from patient)
    exact congrArg Answer.cycled (left.trans right.symm)
  · exact answer_of_peripheral peripheral rfl fun _ => rfl

/-- A step that consults none of the settings that differ has the same effect. -/
theorem after_withSettings {operation : Operation}
    (policy : machine.settings.faultPolicy = settings.faultPolicy ∨
      ¬ Step.Fails ⟨machine, operation⟩)
    (shift : machine.settings.shiftUsesVy = settings.shiftUsesVy ∨
      ¬ Step.ShiftsApart ⟨machine, operation⟩) :
    (machine.withSettings settings).after operation =
      (machine.after operation).withSettings settings := by
  rcases operation.load_or_cycle_or_peripheral with ⟨rom, rfl⟩ | rfl | peripheral
  · exact congrArg Prod.fst (machine.loadRom_withSettings settings rom)
  · have succeeds := policy.imp_right (@cause?_of_not_fails machine)
    have together := shift.imp_right (@shiftsTogether_of_not_shiftsApart machine)
    exact @fetchExecute_withSettings machine.drainKeys settings succeeds together
  · rw [after_of_peripheral _ peripheral, after_of_peripheral _ peripheral]
    rfl

theorem run_withSettings {operations : List Operation}
    (policy : machine.settings.faultPolicy = settings.faultPolicy ∨
      ∀ step ∈ machine.steps operations, ¬ step.Fails)
    (shift : machine.settings.shiftUsesVy = settings.shiftUsesVy ∨
      ∀ step ∈ machine.steps operations, ¬ step.ShiftsApart) :
    (machine.withSettings settings).run operations =
      (machine.run operations).withSettings settings := by
  induction operations generalizing machine with
  | nil => rfl
  | cons operation rest ih =>
      have first := after_withSettings (policy.imp_right fun quiet => quiet _ List.mem_cons_self)
        (shift.imp_right fun together => together _ List.mem_cons_self)
      rw [run_cons, run_cons, first]
      refine ih ?_ ?_
      · rw [after_settings]
        exact policy.imp_right fun quiet step member => quiet step (List.mem_cons_of_mem _ member)
      · rw [after_settings]
        exact shift.imp_right
          fun together step member => together step (List.mem_cons_of_mem _ member)

/-! ## Two new machines -/

/-- Two new machines on which the same is done cannot be told apart as long as no cycle fails under
different policies and none shifts apart under different shifts: the rest of the settings goes
unnoticed.  They differ in the settings only, their snapshots are equal, and every operation gives
back the same, also the next one. -/
theorem settings_unnoticed (first second : Settings) (random : RandomSource)
    (operations : List Operation)
    (policy : first.faultPolicy = second.faultPolicy ∨
      ∀ step ∈ (create first random).steps operations, ¬ step.Fails)
    (shift : first.shiftUsesVy = second.shiftUsesVy ∨
      ∀ step ∈ (create first random).steps operations, ¬ step.ShiftsApart)
    (earlier : List Operation) (begins : earlier <+: operations) :
    let left := (create first random).run earlier
    let right := (create second random).run earlier
    left.snapshot = right.snapshot ∧
      (∀ operation, left.answer operation = right.answer operation) ∧
      right = left.withSettings second := by
  intro left right
  obtain ⟨later, rfl⟩ := begins
  rw [steps_append] at policy shift
  have same : right = left.withSettings second := @run_withSettings (create first random) second _
    (policy.imp_right fun quiet step member => quiet step (List.mem_append_left _ member))
    (shift.imp_right fun together step member => together step (List.mem_append_left _ member))
  refine ⟨?_, ?_, same⟩
  · rw [same]
    rfl
  · intro operation
    have alone : left.observers = [] := run_unobserved rfl earlier
    rw [same, answer_withSettings (patient_of_unobserved alone)]

/-- A shift of two registers that hold the same, under settings that differ in three ways. -/
theorem settings_unnoticed_shift :
    let first : Settings := {}
    let second : Settings :=
      { policy := .known .halt, shiftUsesVy := !first.shiftUsesVy, cyclesPerSecond := 60 }
    let operations :=
      [.loadRom [0x60, 0x05, 0x61, 0x05, 0x80, 0x16], .cycle, .postKey 3 true, .cycle, .cycle]
    let left := (create first (RandomSource.cycling #[])).run operations
    let right := (create second (RandomSource.cycling #[])).run operations
    (∀ step ∈ (create first (RandomSource.cycling #[])).steps operations,
        ¬ step.Fails ∧ ¬ step.ShiftsApart) ∧
      left.snapshot = right.snapshot ∧ left.v 0 = 2 ∧
      left.answer .cycle = right.answer .cycle := by
  intro first second operations left right
  obtain ⟨quiet, shifted⟩ :
      (∀ step ∈ (create first (RandomSource.cycling #[])).steps operations,
        ¬ step.Fails ∧ ¬ step.ShiftsApart) ∧ left.v 0 = 2 := by
    decide +kernel
  obtain ⟨same, answers, -⟩ := settings_unnoticed first second (RandomSource.cycling #[]) operations
    (.inr fun step member => (quiet step member).1) (.inr fun step member => (quiet step member).2)
    operations List.prefix_rfl
  exact ⟨quiet, same, shifted, answers .cycle⟩

end Machine

end ChipEight
