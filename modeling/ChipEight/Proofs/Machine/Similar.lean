import ChipEight.Proofs.Instruction
import ChipEight.Proofs.Machine.Operation
import ChipEight.Proofs.Machine.Outcome

/-!
# Similar machines

Two machines on which the same is done go through the same states if they agree on what a program
computes with.  Two devices need not be equal for that.  Of the random source only the bytes to come
matter, and of the screen only what a draw can find out.  A `Likeness` says when two random sources
and two screens pass for the same, and instructions cannot tell such devices apart.

What becomes of a fault is kept out of it: `Similar` leaves the phase, the policy, the record of
faults and the observers open, so that machines with different policies can be compared too.
-/

namespace ChipEight

/-- Random sources in a relation give the same bytes, and so on for the rest of them. -/
structure AgreeOnBytes (alike : RandomSource → RandomSource → Prop) : Prop where
  byte : ∀ {first second}, alike first second → first.draw.1 = second.draw.1
  rest : ∀ {first second}, alike first second → alike first.draw.2 second.draw.2

/-- A draw erases a pixel of both screens in a relation or of none, also after any other operation
on both. -/
structure AgreeOnDraws (alike : Screen 64 32 → Screen 64 32 → Prop) : Prop where
  blank : alike (Screen.initial 64 32) (Screen.initial 64 32)
  clear : ∀ {first second}, alike first second → alike first.clear second.clear
  lower : ∀ {first second}, alike first second → alike first.takeRedraw.2 second.takeRedraw.2
  paint : ∀ {first second}, alike first second → ∀ (x y : Int) {sprite : List UInt8},
    sprite.length ≤ 32 →
      alike (first.draw (Nat.succ_pos 63) (Nat.succ_pos 31) x y sprite).1
        (second.draw (Nat.succ_pos 63) (Nat.succ_pos 31) x y sprite).1
  collide : ∀ {first second}, alike first second → ∀ (x y : Int) {sprite : List UInt8},
    sprite.length ≤ 32 →
      (first.draw (Nat.succ_pos 63) (Nat.succ_pos 31) x y sprite).2 =
        (second.draw (Nat.succ_pos 63) (Nat.succ_pos 31) x y sprite).2

theorem agreeOnBytes_eq : AgreeOnBytes Eq where
  byte := fun same => same ▸ rfl
  rest := fun same => same ▸ rfl

theorem agreeOnDraws_eq : AgreeOnDraws Eq where
  blank := rfl
  clear := fun same => same ▸ rfl
  lower := fun same => same ▸ rfl
  paint := fun same _ _ _ _ => same ▸ rfl
  collide := fun same _ _ _ _ => same ▸ rfl

/-- When two random sources and two screens pass for the same. -/
structure Likeness where
  random : RandomSource → RandomSource → Prop
  screen : Screen 64 32 → Screen 64 32 → Prop
  bytes : AgreeOnBytes random
  draws : AgreeOnDraws screen

/-- Only what is equal passes for the same. -/
def Likeness.exact : Likeness :=
  ⟨Eq, Eq, agreeOnBytes_eq, agreeOnDraws_eq⟩

/-- The sprite of a draw instruction is not taller than the screen. -/
theorem Instruction.rows_le_of_decode? {op : Opcode} {x y : Fin 16} {rows : Nat}
    (decoded : decode? op = some (.draw x y rows)) : rows ≤ 32 := by
  obtain ⟨-, -, -, digit⟩ := encodes_of_decode? decoded
  omega

namespace Machine

/-- Two machines agree on what a program computes with, up to a likeness of random sources and
screens. -/
structure Similar (like : Likeness) (first second : Machine) : Prop where
  shift : first.settings.shiftUsesVy = second.settings.shiftUsesVy
  random : like.random first.random second.random
  memory : first.memory = second.memory
  registers : first.registers = second.registers
  stack : first.stack = second.stack
  screen : like.screen first.screen second.screen
  keypad : first.keypad = second.keypad
  timer : first.timer = second.timer
  romLoaded : first.romLoaded = second.romLoaded
  instructionCount : first.instructionCount = second.instructionCount
  lastOpcode : first.lastOpcode = second.lastOpcode

/-- Two machines agree on the faults so far. -/
structure SameReports (first second : Machine) : Prop where
  faultCount : first.faultCount = second.faultCount
  lastFault : first.lastFault = second.lastFault
  lastWarned : first.lastWarned = second.lastWarned

/-- Two machines have the same observers, who have been told the same and react in the same way. -/
structure SameAudience (first second : Machine) : Prop where
  observers : first.observers = second.observers
  conduct : first.conduct = second.conduct
  deliveries : first.deliveries = second.deliveries

variable {like : Likeness} {first second : Machine}

/-- The second machine is the first one with other values in what may differ. -/
theorem Similar.second_eq (similar : Similar like first second) :
    second =
      { first with
        settings := second.settings
        random := second.random
        screen := second.screen
        phase := second.phase
        faultCount := second.faultCount
        lastFault := second.lastFault
        lastWarned := second.lastWarned
        observers := second.observers
        conduct := second.conduct
        deliveries := second.deliveries
        journal := second.journal } := by
  rw [similar.memory, similar.registers, similar.stack, similar.keypad, similar.timer,
    similar.romLoaded, similar.instructionCount, similar.lastOpcode]

/-! ## Instructions -/

/-- An instruction takes similar machines to similar machines. -/
theorem Similar.effect (similar : Similar like first second) {instruction : Instruction}
    (drawable : ∀ x y rows, instruction = .draw x y rows → rows ≤ 32) :
    Similar like (first.effect instruction) (second.effect instruction) := by
  have ⟨shift, random, _, _, _, screen, _, _, _, _, _⟩ := similar
  rw [similar.second_eq]
  cases instruction with
  | clearScreen =>
      exact ⟨shift, random, rfl, rfl, rfl, like.draws.clear screen, rfl, rfl, rfl, rfl, rfl⟩
  | arithmetic operation x y =>
      refine ⟨shift, random, rfl, ?_, rfl, screen, rfl, rfl, rfl, rfl, rfl⟩
      exact congrArg (fun uses => first.registers.arithmetic operation uses x y) shift
  | random x mask =>
      refine ⟨shift, like.bytes.rest random, rfl, ?_, rfl, screen, rfl, rfl, rfl, rfl, rfl⟩
      exact congrArg (fun byte => first.registers.set x (byte &&& mask)) (like.bytes.byte random)
  | draw x y rows =>
      have fits : (first.bytesAtIndex rows).length ≤ 32 := by
        rw [bytesAtIndex, List.length_map, List.length_range]
        exact drawable x y rows rfl
      refine ⟨shift, random, rfl, ?_, rfl, ?_, rfl, rfl, rfl, rfl, rfl⟩
      · exact congrArg first.registers.setFlag (like.draws.collide screen _ _ fits)
      · exact like.draws.paint screen _ _ fits
  | waitKey x =>
      simp only [Machine.effect, awaited]
      cases first.keypad.last? <;>
        exact ⟨shift, random, rfl, rfl, rfl, screen, rfl, rfl, rfl, rfl, rfl⟩
  | _ => exact ⟨shift, random, rfl, rfl, rfl, screen, rfl, rfl, rfl, rfl, rfl⟩

theorem Similar.effect_phase (similar : Similar like first second)
    (phase : first.phase = second.phase) (instruction : Instruction) :
    (first.effect instruction).phase = (second.effect instruction).phase := by
  rw [similar.second_eq]
  cases instruction with
  | waitKey x =>
      simp only [Machine.effect, awaited]
      cases first.keypad.last? <;> rfl
  | _ => exact phase

theorem Similar.fetched (similar : Similar like first second) (op : Opcode) :
    Similar like (first.fetched op) (second.fetched op) :=
  { similar with
    registers := congrArg Registers.advance similar.registers
    lastOpcode := rfl }

theorem Similar.nextOpcode (similar : Similar like first second) :
    first.nextOpcode = second.nextOpcode := by
  rw [Machine.nextOpcode, Machine.nextOpcode, similar.memory, similar.registers]

theorem Similar.executed (similar : Similar like first second) {instruction : Instruction}
    (decoded : Instruction.decode? first.nextOpcode = some instruction) :
    Similar like (first.executed instruction) (second.executed instruction) := by
  have drawable : ∀ x y rows, instruction = .draw x y rows → rows ≤ 32 := by
    rintro x y rows rfl
    exact Instruction.rows_le_of_decode? decoded
  have after := (similar.fetched first.nextOpcode).effect drawable
  rw [Machine.executed, Machine.executed, ← similar.nextOpcode]
  exact { after with instructionCount := congrArg (· + 1) similar.instructionCount }

/-! ## Cycles -/

theorem Similar.failure? (similar : Similar like first second) (instruction : Instruction) :
    first.failure? instruction = second.failure? instruction := by
  rw [similar.second_eq]
  cases instruction <;> rfl

theorem Similar.cause? (similar : Similar like first second)
    (phase : first.phase = second.phase) : first.cause? = second.cause? := by
  have refusal : first.refusal? = second.refusal? := by
    rw [refusal?, refusal?, ← similar.nextOpcode]
    cases Instruction.decode? first.nextOpcode with
    | none => rfl
    | some instruction => exact similar.failure? instruction
  rw [Machine.cause?, Machine.cause?, phase, similar.registers, refusal]

theorem Similar.fetchable? (similar : Similar like first second) :
    first.fetchable? = second.fetchable? := by
  rw [Machine.fetchable?, Machine.fetchable?, similar.nextOpcode, similar.registers]

theorem Similar.drainKeys (similar : Similar like first second) :
    Similar like first.drainKeys second.drainKeys :=
  { similar with keypad := congrArg (fun keypad => keypad.drain.1) similar.keypad }

/-- How two machines in step end a cycle once their key queues have been drained: both do nothing,
or both execute the same instruction, or both fail for the same cause. -/
inductive InStep (first second : Machine) :
    Machine × CycleResult → Machine × CycleResult → Prop
  | idle : InStep first second (first, .ok none) (second, .ok none)
  | executed {instruction : Instruction} (succeeds : first.cause? = none)
      (decoded : Instruction.decode? first.nextOpcode = some instruction) :
      InStep first second (first.executed instruction, .ok (some first.nextOpcode))
        (second.executed instruction, .ok (some second.nextOpcode))
  | failed {cause : Fault.Cause} (causes : first.cause? = some cause) :
      InStep first second
        (first.failed cause, (first.failure cause).answer first.fetchable?)
        (second.failed cause, (second.failure cause).answer second.fetchable?)

theorem Similar.inStep (similar : Similar like first second)
    (phase : first.phase = second.phase) :
    InStep first second first.fetchExecute second.fetchExecute := by
  have same := similar.cause? phase
  by_cases halted : first.phase = .halted
  · rw [fetchExecute_eq_of_halted halted, fetchExecute_eq_of_halted (phase ▸ halted)]
    exact .idle
  · cases causes : first.cause? with
    | none =>
        obtain ⟨instruction, decoded, ran⟩ := fetchExecute_eq_of_none halted causes
        obtain ⟨other, otherDecoded, otherRan⟩ :=
          fetchExecute_eq_of_none (phase ▸ halted) (same ▸ causes)
        rw [← similar.nextOpcode, decoded] at otherDecoded
        cases otherDecoded
        rw [ran, otherRan]
        exact .executed causes decoded
    | some cause =>
        rw [fetchExecute_eq_of_some causes, fetchExecute_eq_of_some (same ▸ causes)]
        exact .failed causes

/-- A fault takes similar machines to similar machines, if their policies go on at the same
place. -/
theorem Similar.failed (similar : Similar like first second)
    (resume : first.settings.faultPolicy.resume = second.settings.faultPolicy.resume)
    (cause : Fault.Cause) : Similar like (first.failed cause) (second.failed cause) :=
  { similar with
    registers := by
      simp only [Machine.failed, struck]
      rw [similar.registers, resume]
    lastOpcode := by
      simp only [Machine.failed]
      rw [similar.fetchable?, similar.lastOpcode] }

theorem Similar.fetchExecute (similar : Similar like first second)
    (phase : first.phase = second.phase)
    (resume : first.cause? = none ∨
      first.settings.faultPolicy.resume = second.settings.faultPolicy.resume) :
    Similar like first.fetchExecute.1 second.fetchExecute.1 := by
  have inStep := similar.inStep phase
  generalize first.fetchExecute = result at inStep ⊢
  generalize second.fetchExecute = other at inStep ⊢
  cases inStep with
  | idle => exact similar
  | executed succeeds decoded => exact similar.executed decoded
  | failed causes =>
      rcases resume with succeeds | resume
      · rw [causes] at succeeds
        cases succeeds
      · exact similar.failed resume _

theorem Similar.fetchExecute_phase (similar : Similar like first second)
    (phase : first.phase = second.phase)
    (policy : first.cause? = none ∨
      first.settings.faultPolicy = second.settings.faultPolicy) :
    first.fetchExecute.1.phase = second.fetchExecute.1.phase := by
  have inStep := similar.inStep phase
  generalize first.fetchExecute = result at inStep ⊢
  generalize second.fetchExecute = other at inStep ⊢
  cases inStep with
  | idle => exact phase
  | executed succeeds decoded =>
      simp only [Machine.executed]
      rw [← similar.nextOpcode]
      exact (similar.fetched first.nextOpcode).effect_phase phase _
  | failed causes =>
      rcases policy with succeeds | policy
      · rw [causes] at succeeds
        cases succeeds
      · simp only [Machine.failed, struck]
        rw [phase, policy]

/-- The record of faults does not depend on the policy. -/
theorem Similar.fetchExecute_reports (similar : Similar like first second)
    (phase : first.phase = second.phase) (reports : SameReports first second) :
    SameReports first.fetchExecute.1 second.fetchExecute.1 := by
  have ⟨faultCount, lastFault, lastWarned⟩ := reports
  have inStep := similar.inStep phase
  generalize first.fetchExecute = result at inStep ⊢
  generalize second.fetchExecute = other at inStep ⊢
  cases inStep with
  | idle => exact reports
  | executed succeeds decoded =>
      simp only [Machine.executed]
      rw [effect_eq, effect_eq (second.fetched second.nextOpcode)]
      exact ⟨faultCount, lastFault, lastWarned⟩
  | failed causes =>
      simp only [Machine.failed, struck]
      rw [faultCount, similar.registers]
      exact ⟨rfl, rfl, rfl⟩

/-- Two cycles give back the same, unless an observer interrupts one of them. -/
theorem Similar.fetchExecute_snd (similar : Similar like first second)
    (phase : first.phase = second.phase) :
    first.fetchExecute.2 = second.fetchExecute.2 ∨
      (∃ interruption, first.fetchExecute.2 = .error interruption) ∨
        ∃ interruption, second.fetchExecute.2 = .error interruption := by
  have inStep := similar.inStep phase
  generalize first.fetchExecute = result at inStep ⊢
  generalize second.fetchExecute = other at inStep ⊢
  cases inStep with
  | idle => exact .inl rfl
  | executed succeeds decoded => exact .inl (by rw [similar.nextOpcode])
  | failed causes =>
      rw [similar.fetchable?]
      exact Telling.answer_eq_or_error _ _ _

/-! ## Operations -/

/-- Similar machines load the same program, or record that it is too large. -/
theorem Similar.loadRom (similar : Similar like first second) (rom : List UInt8) :
    Similar like (first.loadRom rom).1 (second.loadRom rom).1 := by
  rcases loadRom_both first second rom with
    ⟨memory, loaded, otherLoaded⟩ | ⟨cause, refused, otherRefused⟩
  · rw [loaded, otherLoaded]
    exact
      { shift := similar.shift, random := similar.random, memory := rfl, registers := rfl
        stack := rfl, screen := like.draws.blank, keypad := similar.keypad, timer := rfl
        romLoaded := rfl, instructionCount := rfl, lastOpcode := rfl }
  · rw [refused, otherRefused, rejected, rejected, record_eq, record_eq]
    exact { similar with }

theorem Similar.peripheral (similar : Similar like first second) {operation : Operation}
    (peripheral : operation.Peripheral) :
    Similar like (first.after operation) (second.after operation) := by
  have screen : like.screen (operation.onScreen first.screen)
      (operation.onScreen second.screen) := by
    cases operation with
    | takeRedraw => exact like.draws.lower similar.screen
    | _ => exact similar.screen
  rw [first.after_of_peripheral peripheral, second.after_of_peripheral peripheral]
  exact
    { similar with
      screen := screen
      keypad := congrArg operation.onKeypad similar.keypad
      timer := congrArg operation.onTimer similar.timer }

/-- Similar machines in the same phase stay similar, if their policies go on at the same place after
a fault. -/
theorem Similar.after (similar : Similar like first second) (phase : first.phase = second.phase)
    (resume : first.cause? = none ∨
      first.settings.faultPolicy.resume = second.settings.faultPolicy.resume)
    (operation : Operation) : Similar like (first.after operation) (second.after operation) := by
  rcases operation.load_or_cycle_or_peripheral with ⟨rom, rfl⟩ | rfl | peripheral
  · exact similar.loadRom rom
  · exact similar.drainKeys.fetchExecute phase resume
  · exact similar.peripheral peripheral

theorem Similar.after_phase (similar : Similar like first second)
    (phase : first.phase = second.phase)
    (policy : first.cause? = none ∨
      first.settings.faultPolicy = second.settings.faultPolicy)
    (operation : Operation) : (first.after operation).phase = (second.after operation).phase := by
  rcases operation.load_or_cycle_or_peripheral with ⟨rom, rfl⟩ | rfl | peripheral
  · simp only [Machine.after]
    rcases loadRom_both first second rom with
      ⟨memory, loaded, otherLoaded⟩ | ⟨cause, refused, otherRefused⟩
    · rw [loaded, otherLoaded]
      rfl
    · rw [refused, otherRefused, rejected, rejected, record_eq, record_eq]
      exact phase
  · exact similar.drainKeys.fetchExecute_phase phase policy
  · rw [first.after_of_peripheral peripheral, second.after_of_peripheral peripheral]
    exact phase

theorem Similar.after_reports (similar : Similar like first second)
    (phase : first.phase = second.phase) (reports : SameReports first second)
    (operation : Operation) : SameReports (first.after operation) (second.after operation) := by
  have ⟨faultCount, lastFault, lastWarned⟩ := reports
  rcases operation.load_or_cycle_or_peripheral with ⟨rom, rfl⟩ | rfl | peripheral
  · simp only [Machine.after]
    rcases loadRom_both first second rom with
      ⟨memory, loaded, otherLoaded⟩ | ⟨cause, refused, otherRefused⟩
    · rw [loaded, otherLoaded]
      exact ⟨rfl, rfl, rfl⟩
    · rw [refused, otherRefused, rejected, rejected, record_eq, record_eq, faultCount]
      exact ⟨rfl, rfl, rfl⟩
  · exact similar.drainKeys.fetchExecute_reports phase ⟨faultCount, lastFault, lastWarned⟩
  · rw [first.after_of_peripheral peripheral, second.after_of_peripheral peripheral]
    exact ⟨faultCount, lastFault, lastWarned⟩

/-- Similar machines give back the same, unless an observer interrupts one of them.  The phase
matters to cycles only, and the redraw flag to those who ask for it. -/
theorem Similar.answer_or_interrupted (similar : Similar like first second) {operation : Operation}
    (phase : operation = .cycle → first.phase = second.phase)
    (flag : operation = .takeRedraw → first.screen.redraw = second.screen.redraw) :
    first.answer operation = second.answer operation ∨
      (first.answer operation).Interrupted ∨ (second.answer operation).Interrupted := by
  rcases operation.load_or_cycle_or_peripheral with ⟨rom, rfl⟩ | rfl | peripheral
  · simp only [answer]
    rcases loadRom_both first second rom with
      ⟨memory, loaded, otherLoaded⟩ | ⟨cause, refused, otherRefused⟩
    · rw [loaded, otherLoaded]
      exact .inl rfl
    · rw [refused, otherRefused]
      rcases (first.rejection cause).answer_eq_or_error (second.rejection cause) false with
        same | ⟨interruption, broken⟩ | ⟨interruption, broken⟩
      · exact .inl (congrArg Answer.loaded same)
      · exact .inr (.inl (broken ▸ rfl))
      · exact .inr (.inr (broken ▸ rfl))
  · simp only [answer, cycle]
    rcases similar.drainKeys.fetchExecute_snd (phase rfl) with
      same | ⟨interruption, broken⟩ | ⟨interruption, broken⟩
    · exact .inl (congrArg Answer.cycled same)
    · exact .inr (.inl (broken ▸ rfl))
    · exact .inr (.inr (broken ▸ rfl))
  · exact .inl (answer_of_peripheral peripheral similar.keypad flag)

/-! ## Observers -/

/-- A machine later on: its settings and the conduct of its observers are the same, and a calm
circle of observers is still among itself. -/
structure KeepsSetup (machine later : Machine) : Prop where
  settings : later.settings = machine.settings
  conduct : later.conduct = machine.conduct
  circle : ∀ circle : Observer → Prop, machine.conduct.Calm circle →
    (∀ observer ∈ machine.observers, circle observer) →
      ∀ observer ∈ later.observers, circle observer

theorem fetchExecute_keepsSetup (machine : Machine) :
    KeepsSetup machine machine.fetchExecute.1 := by
  by_cases halted : machine.phase = .halted
  · rw [fetchExecute_eq_of_halted halted]
    exact ⟨rfl, rfl, fun _ _ inside => inside⟩
  · cases causes : machine.cause? with
    | none =>
        obtain ⟨instruction, -, ran⟩ := fetchExecute_eq_of_none halted causes
        rw [ran]
        simp only [Machine.executed]
        rw [effect_eq]
        exact ⟨rfl, rfl, fun _ _ inside => inside⟩
    | some cause =>
        rw [fetchExecute_eq_of_some causes]
        exact ⟨rfl, rfl, fun _ calm inside => (calm.tell _ inside inside _).2⟩

theorem after_keepsSetup (machine : Machine) (operation : Operation) :
    KeepsSetup machine (machine.after operation) := by
  rcases operation.load_or_cycle_or_peripheral with ⟨rom, rfl⟩ | rfl | peripheral
  · simp only [after]
    cases loaded : machine.memory.loadRom rom with
    | ok memory =>
        rw [loadRom_of_ok loaded]
        exact ⟨rfl, rfl, fun _ _ inside => inside⟩
    | error cause =>
        rw [loadRom_of_error loaded, rejected, rejection, record_eq]
        exact ⟨rfl, rfl, fun _ calm inside => (calm.tell _ inside inside _).2⟩
  · obtain ⟨settings, conduct, circle⟩ := machine.drainKeys.fetchExecute_keepsSetup
    exact ⟨settings, conduct, circle⟩
  · rw [machine.after_of_peripheral peripheral]
    exact ⟨rfl, rfl, fun _ _ inside => inside⟩

/-- No operation changes the settings. -/
theorem after_settings (machine : Machine) (operation : Operation) :
    (machine.after operation).settings = machine.settings :=
  (machine.after_keepsSetup operation).settings

/-- No operation registers an observer where there is none. -/
theorem after_unobserved {machine : Machine} (unobserved : machine.observers = [])
    (operation : Operation) : (machine.after operation).observers = [] := by
  have nobody := (machine.after_keepsSetup operation).circle (fun _ => False)
    ⟨fun _ => False.elim, fun _ => False.elim⟩ (unobserved ▸ List.forall_mem_nil _)
  exact List.eq_nil_iff_forall_not_mem.mpr nobody

theorem run_unobserved {machine : Machine} (unobserved : machine.observers = [])
    (operations : List Operation) : (machine.run operations).observers = [] :=
  @run_preserves (fun machine => machine.observers = [])
    (fun _ operation alone => after_unobserved alone operation) machine unobserved operations

theorem after_patient {machine : Machine} (patient : machine.Patient) (operation : Operation) :
    (machine.after operation).Patient := by
  obtain ⟨circle, calm, inside⟩ := patient
  have ⟨_, conduct, kept⟩ := machine.after_keepsSetup operation
  exact ⟨circle, conduct ▸ calm, kept circle calm inside⟩

theorem run_patient {machine : Machine} (patient : machine.Patient)
    (operations : List Operation) : (machine.run operations).Patient :=
  @run_preserves Patient (fun _ operation calm => after_patient calm operation) machine patient
    operations

/-- A cycle comes to its end where nobody interrupts it. -/
theorem cycle_snd_of_patient {machine : Machine} (patient : machine.Patient) :
    ∃ fetched, machine.cycle.2 = .ok fetched :=
  ⟨_, fetchExecute_snd_of_patient (show machine.drainKeys.Patient from patient)⟩

theorem not_interrupted_of_patient {machine : Machine} (patient : machine.Patient)
    (operation : Operation) : ¬ (machine.answer operation).Interrupted := by
  cases operation with
  | loadRom rom =>
      rw [answer]
      cases loaded : machine.memory.loadRom rom with
      | ok memory =>
          rw [loadRom_of_ok loaded]
          exact Bool.false_ne_true
      | error cause =>
          rw [loadRom_of_error loaded, patient.answer_rejection]
          exact Bool.false_ne_true
  | cycle =>
      obtain ⟨fetched, returned⟩ := cycle_snd_of_patient patient
      rw [answer, returned]
      exact Bool.false_ne_true
  | _ => exact Bool.false_ne_true

/-- Similar machines give back the same where nobody interrupts. -/
theorem Similar.answer_of_patient (similar : Similar like first second) (patient : first.Patient)
    (otherPatient : second.Patient) {operation : Operation}
    (phase : operation = .cycle → first.phase = second.phase)
    (flag : operation = .takeRedraw → first.screen.redraw = second.screen.redraw) :
    first.answer operation = second.answer operation := by
  rcases similar.answer_or_interrupted phase flag with same | interrupted | interrupted
  · exact same
  · exact absurd interrupted (not_interrupted_of_patient patient operation)
  · exact absurd interrupted (not_interrupted_of_patient otherPatient operation)

/-! ## Twins -/

/-- Two similar machines with the same settings in the same phase. -/
structure Twins (like : Likeness) (first second : Machine) : Prop where
  settings : first.settings = second.settings
  similar : Similar like first second
  phase : first.phase = second.phase

theorem Twins.after (twins : Twins like first second) (operation : Operation) :
    Twins like (first.after operation) (second.after operation) where
  settings := by rw [after_settings, after_settings, twins.settings]
  similar := twins.similar.after twins.phase (.inr (by rw [twins.settings])) operation
  phase := twins.similar.after_phase twins.phase (.inr (by rw [twins.settings])) operation

theorem Twins.after_reports (twins : Twins like first second) (reports : SameReports first second)
    (operation : Operation) : SameReports (first.after operation) (second.after operation) :=
  twins.similar.after_reports twins.phase reports operation

theorem Twins.run (twins : Twins like first second) (operations : List Operation) :
    Twins like (first.run operations) (second.run operations) :=
  run_relates (fun _ _ operation twins => twins.after operation) twins operations

/-- The same audience reacts in the same way to a fault with the same traits. -/
theorem SameAudience.told (audience : SameAudience first second)
    (counter : first.registers.pc = second.registers.pc) (phase : first.phase = second.phase)
    (faultCount : first.faultCount = second.faultCount) (fault : Fault) :
    first.told fault = second.told fault := by
  have delivery : first.deliveryOf fault = second.deliveryOf fault := by
    funext observer
    simp only [deliveryOf, counter, phase, faultCount]
  rw [Machine.told, Machine.told, delivery, audience.observers, audience.conduct,
    audience.deliveries]

theorem Twins.rejection (twins : Twins like first second) (reports : SameReports first second)
    (audience : SameAudience first second) (cause : Fault.Cause) :
    first.rejection cause = second.rejection cause := by
  rw [Machine.rejection, Machine.rejection, record_eq, record_eq]
  apply SameAudience.told
  · exact ⟨audience.observers, audience.conduct, audience.deliveries⟩
  · exact congrArg Registers.pc twins.similar.registers
  · exact twins.phase
  · exact congrArg (· + 1) reports.faultCount

theorem Twins.failure (twins : Twins like first second) (reports : SameReports first second)
    (audience : SameAudience first second) (cause : Fault.Cause) :
    first.failure cause = second.failure cause := by
  rw [Machine.failure, Machine.failure, twins.similar.registers]
  apply SameAudience.told
  · exact ⟨audience.observers, audience.conduct, audience.deliveries⟩
  · simp only [struck, twins.settings]
  · simp only [struck, twins.settings, twins.phase]
  · exact congrArg (· + 1) reports.faultCount

/-- Twins with the same record of faults and the same audience cannot be told apart by what a cycle
gives back, and their audience stays the same. -/
theorem Twins.fetchExecute_audience (twins : Twins like first second)
    (reports : SameReports first second) (audience : SameAudience first second) :
    first.fetchExecute.2 = second.fetchExecute.2 ∧
      SameAudience first.fetchExecute.1 second.fetchExecute.1 := by
  have inStep := twins.similar.inStep twins.phase
  generalize first.fetchExecute = result at inStep ⊢
  generalize second.fetchExecute = other at inStep ⊢
  cases inStep with
  | idle => exact ⟨rfl, audience⟩
  | executed succeeds decoded =>
      refine ⟨by rw [twins.similar.nextOpcode], ?_⟩
      simp only [Machine.executed]
      rw [effect_eq, effect_eq (second.fetched second.nextOpcode)]
      exact ⟨audience.observers, audience.conduct, audience.deliveries⟩
  | failed causes =>
      have same := twins.failure reports audience
      refine ⟨?_, ?_, audience.conduct, ?_⟩
      · rw [same, twins.similar.fetchable?]
      · simp only [failed, same]
      · simp only [failed, same]

theorem Twins.loadRom_audience (twins : Twins like first second)
    (reports : SameReports first second) (audience : SameAudience first second)
    (rom : List UInt8) :
    (first.loadRom rom).2 = (second.loadRom rom).2 ∧
      SameAudience (first.loadRom rom).1 (second.loadRom rom).1 := by
  rcases loadRom_both first second rom with
    ⟨memory, loaded, otherLoaded⟩ | ⟨cause, refused, otherRefused⟩
  · rw [loaded, otherLoaded]
    exact ⟨rfl, audience.observers, audience.conduct, audience.deliveries⟩
  · have same := twins.rejection reports audience cause
    rw [refused, otherRefused, rejected, rejected, same, record_eq, record_eq]
    exact ⟨rfl, rfl, audience.conduct, rfl⟩

theorem Twins.drainKeys (twins : Twins like first second) :
    Twins like first.drainKeys second.drainKeys :=
  ⟨twins.settings, twins.similar.drainKeys, twins.phase⟩

theorem Twins.after_audience (twins : Twins like first second)
    (reports : SameReports first second) (audience : SameAudience first second)
    (operation : Operation) : SameAudience (first.after operation) (second.after operation) := by
  rcases operation.load_or_cycle_or_peripheral with ⟨rom, rfl⟩ | rfl | peripheral
  · exact (twins.loadRom_audience reports audience rom).2
  · exact (twins.drainKeys.fetchExecute_audience { reports with } { audience with }).2
  · rw [first.after_of_peripheral peripheral, second.after_of_peripheral peripheral]
    exact { audience with }

/-- Twins with the same record of faults and the same audience give back the same. -/
theorem Twins.answer (twins : Twins like first second) (reports : SameReports first second)
    (audience : SameAudience first second) {operation : Operation}
    (flag : operation = .takeRedraw → first.screen.redraw = second.screen.redraw) :
    first.answer operation = second.answer operation := by
  rcases operation.load_or_cycle_or_peripheral with ⟨rom, rfl⟩ | rfl | peripheral
  · exact congrArg Answer.loaded (twins.loadRom_audience reports audience rom).1
  · exact congrArg Answer.cycled
      (twins.drainKeys.fetchExecute_audience { reports with } { audience with }).1
  · exact answer_of_peripheral peripheral twins.similar.keypad flag

end Machine

end ChipEight
