import ChipEight.Proofs.Machine.CallReturn
import ChipEight.Proofs.Machine.Unseen

/-!
# Cycles and ticks

The timer counts down by itself: only an instruction that sets it and the load of a program
interfere with the ticks.  The other way round, a program notices a tick only by an instruction that
reads the timer.  As long as neither kind of instruction is executed, it does not matter how the
ticks fall between the cycles.
-/

namespace ChipEight

theorem DelayTimer.tick_toNat (timer : DelayTimer) :
    timer.tick.value.toNat = timer.value.toNat - 1 := by
  unfold tick running
  split
  · rename_i positive
    have least : 1 ≤ timer.value := UInt8.le_iff_toNat_le.mpr
      (UInt8.lt_iff_toNat_lt.mp (of_decide_eq_true positive))
    exact UInt8.toNat_sub_of_le _ _ least
  · rename_i zero
    have least : ¬ 0 < timer.value.toNat := fun positive =>
      zero (decide_eq_true (UInt8.lt_iff_toNat_lt.mpr positive))
    omega

namespace Machine

variable {machine : Machine}

/-- A cycle that reads the timer or sets it. -/
def Step.UsesTimer (step : Step) : Prop :=
  step.operation = .cycle ∧
    ∃ op, step.before.Executes op ∧ op.family = 0xF ∧ (op.nn = 0x07 ∨ op.nn = 0x15)

/-- A step that sets the timer: a cycle, to the value of a register, or the load of a program, to
zero. -/
def Step.SetsTimer (step : Step) (value : UInt8) : Prop :=
  (step.operation = .cycle ∧
      ∃ op, step.before.Executes op ∧ op.family = 0xF ∧ op.nn = 0x15 ∧
        value = step.before.v op.x) ∨
    ∃ rom, step.operation = .loadRom rom ∧ (step.before.loadRom rom).2 = .ok true ∧ value = 0

theorem Step.usesTimer_iff (step : Step) :
    step.UsesTimer ↔
      step.operation = .cycle ∧ (step.before.phase ≠ .halted ∧ step.before.cause? = none) ∧
        step.before.nextOpcode.family = 0xF ∧
          (step.before.nextOpcode.nn = 0x07 ∨ step.before.nextOpcode.nn = 0x15) := by
  refine and_congr_right fun _ => ?_
  constructor
  · rintro ⟨op, executes, uses⟩
    obtain ⟨awake, succeeds, rfl⟩ := (step.before.executes_iff op).mp executes
    exact ⟨⟨awake, succeeds⟩, uses⟩
  · rintro ⟨⟨awake, succeeds⟩, uses⟩
    exact ⟨_, executes_nextOpcode awake succeeds, uses⟩

instance (step : Step) : Decidable step.UsesTimer :=
  decidable_of_iff _ step.usesTimer_iff.symm

/-! ## What becomes of the timer -/

/-- Only one instruction changes the timer. -/
theorem effect_timer_of_ne {instruction : Instruction}
    (other : ∀ x, instruction ≠ .writeTimer x) :
    (machine.effect instruction).timer = machine.timer := by
  cases instruction with
  | writeTimer x => exact absurd rfl (other x)
  | waitKey x =>
      simp only [effect, awaited]
      cases machine.keypad.last? <;> rfl
  | _ => rfl

theorem cycle_timer_of_not_setsTimer
    (unset : ∀ value, ¬ Step.SetsTimer ⟨machine, .cycle⟩ value) :
    machine.cycle.1.timer = machine.timer := by
  by_cases halted : machine.phase = .halted
  · rw [cycle, fetchExecute_eq_of_halted (show machine.drainKeys.phase = _ from halted)]
    rfl
  · cases causes : machine.cause? with
    | some cause =>
        have ran :=
          fetchExecute_eq_of_some (show machine.drainKeys.cause? = _ from causes)
        rw [cycle, ran]
        rfl
    | none =>
        obtain ⟨instruction, decoded, ran⟩ :=
          fetchExecute_eq_of_none (show machine.drainKeys.phase ≠ _ from halted) causes
        rw [cycle, ran]
        refine effect_timer_of_ne ?_
        rintro x rfl
        obtain ⟨family, -, digits⟩ := Instruction.encodes_of_decode? decoded
        have executes := executes_nextOpcode halted causes
        exact unset _ (.inl ⟨rfl, _, executes, family, Opcode.nn_eq_of_toNat digits, rfl⟩)

/-- A step that does not set the timer lets it go on counting. -/
theorem after_timer_of_not_setsTimer {operation : Operation}
    (unset : ∀ value, ¬ Step.SetsTimer ⟨machine, operation⟩ value) :
    (machine.after operation).timer = operation.onTimer machine.timer := by
  rcases operation.load_or_cycle_or_peripheral with ⟨rom, rfl⟩ | rfl | peripheral
  · cases loaded : machine.memory.loadRom rom with
    | ok memory =>
        have fitted := congrArg Prod.snd (loadRom_of_ok loaded)
        exact absurd (.inr ⟨rom, rfl, fitted, rfl⟩) (unset 0)
    | error cause =>
        have refused := loadRom_of_error loaded
        rw [after, refused, rejected, record_eq]
        rfl
  · exact cycle_timer_of_not_setsTimer unset
  · rw [machine.after_of_peripheral peripheral]

theorem Executes.cycle_timer {op : Opcode} (executes : machine.Executes op)
    (family : op.family = 0xF) (digits : op.nn = 0x15) :
    machine.cycle.1.timer = ⟨machine.v op.x⟩ := by
  obtain ⟨-, -, instruction, decoded, -, ran⟩ := executes.cycle_eq
  have sets : Instruction.decode? op = some (.writeTimer op.x) := by
    refine Instruction.decode?_of_encodes ⟨family, rfl, ?_⟩
    rw [← op.nn_toNat, digits]
    rfl
  rw [sets] at decoded
  cases decoded
  rw [ran]
  rfl

theorem Step.SetsTimer.after_timer {step : Step} {value : UInt8} (sets : step.SetsTimer value) :
    step.after.timer = ⟨value⟩ := by
  rcases step with ⟨machine, operation⟩
  rcases sets with ⟨rfl, op, executes, family, digits, rfl⟩ | ⟨rom, rfl, fitted, rfl⟩
  · exact executes.cycle_timer family digits
  · rcases machine.loadRom_cases rom with
      ⟨memory, loaded, restarted⟩ | ⟨cause, observers, deliveries, refused, -⟩
    · rw [Step.after, Machine.after, restarted]
      rfl
    · rw [loadRom_of_error refused, Telling.answer] at fitted
      split at fitted <;> cases fitted

/-- As long as it is not set, the timer loses one with every tick until it is zero. -/
theorem run_timer_of_not_setsTimer {operations : List Operation}
    (unset : ∀ step ∈ machine.steps operations, ∀ value, ¬ step.SetsTimer value) :
    (machine.run operations).timer.value.toNat =
      machine.timer.value.toNat - operations.count .tick := by
  induction operations generalizing machine with
  | nil => rfl
  | cons operation rest ih =>
      obtain ⟨first, later⟩ := List.forall_mem_cons.mp unset
      rw [run_cons, ih later, after_timer_of_not_setsTimer first, List.count_cons]
      cases operation with
      | tick =>
          simp only [Operation.onTimer, DelayTimer.tick_toNat, beq_self_eq_true, if_true]
          omega
      | _ => rfl

/-! ## What does not depend on the timer -/

/-- The machine with its timer at zero, for comparing all the rest. -/
def stopped (machine : Machine) : Machine :=
  machine.adjusted (fun _ => ⟨0⟩) id

theorem eq_of_stopped_eq {first second : Machine} (rest : first.stopped = second.stopped)
    (timer : first.timer.value.toNat = second.timer.value.toNat) : first = second := by
  have same : first.timer = second.timer :=
    congrArg DelayTimer.mk (UInt8.toNat_inj.mp timer)
  calc first = { first.stopped with timer := first.timer } := rfl
    _ = { second.stopped with timer := second.timer } := by rw [rest, same]
    _ = second := rfl

/-- A cycle that does not use the timer does the same to the rest of the machine, whatever the timer
says. -/
theorem cycle_stopped (unused : ¬ Step.UsesTimer ⟨machine, .cycle⟩) :
    machine.stopped.cycle = (machine.cycle.1.stopped, machine.cycle.2) := by
  refine @Unseen.fetchExecute _ machine.drainKeys (unseen_adjusted (fun _ => ⟨0⟩) id) ?_
  intro instruction decoded awake succeeds
  refine effect_adjusted _ id ?_
  have executes : machine.Executes machine.nextOpcode := executes_nextOpcode awake succeeds
  intro x
  constructor
  · rintro rfl
    obtain ⟨family, -, digits⟩ := Instruction.encodes_of_decode? decoded
    exact unused ⟨rfl, _, executes, family, .inl (Opcode.nn_eq_of_toNat digits)⟩
  · rintro rfl
    obtain ⟨family, -, digits⟩ := Instruction.encodes_of_decode? decoded
    exact unused ⟨rfl, _, executes, family, .inr (Opcode.nn_eq_of_toNat digits)⟩

theorem usesTimer_stopped_iff (machine : Machine) :
    Step.UsesTimer ⟨machine.stopped, .cycle⟩ ↔ Step.UsesTimer ⟨machine, .cycle⟩ := by
  have unseen := unseen_adjusted (fun _ => ⟨0⟩) id
  rw [Step.usesTimer_iff, Step.usesTimer_iff]
  simp only [stopped, unseen.phase, unseen.cause?, unseen.word]

/-- None of the cycles of a run reads the timer or sets it. -/
def Untimed (machine : Machine) (operations : List Operation) : Prop :=
  ∀ step ∈ machine.steps operations, ¬ step.UsesTimer

/-- What the cycles of a run give back, in their order. -/
def cycleResults (machine : Machine) (operations : List Operation) : List CycleResult :=
  (machine.steps operations).filterMap fun step =>
    if step.operation = .cycle then some step.before.cycle.2 else none

/-- Only cycles and ticks. -/
def Driven (operations : List Operation) : Prop :=
  ∀ operation ∈ operations, operation = .cycle ∨ operation = .tick

instance (machine : Machine) (operations : List Operation) :
    Decidable (machine.Untimed operations) :=
  inferInstanceAs (Decidable (∀ step ∈ machine.steps operations, ¬ step.UsesTimer))

instance (operations : List Operation) : Decidable (Driven operations) :=
  inferInstanceAs (Decidable (∀ operation ∈ operations, operation = .cycle ∨ operation = .tick))

theorem untimed_cons_iff (machine : Machine) (operation : Operation) (rest : List Operation) :
    machine.Untimed (operation :: rest) ↔
      ¬ Step.UsesTimer ⟨machine, operation⟩ ∧ (machine.after operation).Untimed rest :=
  List.forall_mem_cons

/-- Whether a run uses the timer can be told without the ticks. -/
theorem untimed_iff_stopped {operations : List Operation} (driven : Driven operations) :
    machine.Untimed operations ↔
      machine.stopped.Untimed (List.replicate (operations.count .cycle) .cycle) := by
  induction operations generalizing machine with
  | nil => exact Iff.rfl
  | cons operation rest ih =>
      obtain ⟨first, later⟩ := List.forall_mem_cons.mp driven
      rw [untimed_cons_iff]
      rcases first with rfl | rfl
      · rw [List.count_cons_self, List.replicate_succ, untimed_cons_iff, usesTimer_stopped_iff]
        refine and_congr_right fun unused => ?_
        rw [ih later, Machine.after, Machine.after, cycle_stopped unused]
      · have quiet : ¬ Step.UsesTimer ⟨machine, .tick⟩ := fun uses => Operation.noConfusion uses.1
        rw [List.count_cons_of_ne Operation.noConfusion, ih later]
        exact and_iff_right quiet

theorem cycleResults_cons (machine : Machine) (operation : Operation) (rest : List Operation) :
    machine.cycleResults (operation :: rest) =
      (if operation = .cycle then [machine.cycle.2] else []) ++
        (machine.after operation).cycleResults rest := by
  rw [cycleResults, steps, List.filterMap_cons]
  split
  · rename_i absent
    rw [if_neg fun cycles => by simp [cycles] at absent]
    rfl
  · rename_i result present
    by_cases cycles : operation = .cycle
    · simp only [cycles, if_true, Option.some.injEq] at present
      rw [if_pos cycles, present]
      rfl
    · simp [cycles] at present

/-- Apart from the timer, a run that does not use it comes to what its cycles come to. -/
theorem run_stopped {operations : List Operation} (driven : Driven operations)
    (untimed : machine.Untimed operations) :
    (machine.run operations).stopped =
        machine.stopped.run (List.replicate (operations.count .cycle) .cycle) ∧
      machine.cycleResults operations =
        machine.stopped.cycleResults (List.replicate (operations.count .cycle) .cycle) := by
  induction operations generalizing machine with
  | nil => exact ⟨rfl, rfl⟩
  | cons operation rest ih =>
      obtain ⟨first, laterDriven⟩ := List.forall_mem_cons.mp driven
      obtain ⟨unused, laterUntimed⟩ := (untimed_cons_iff _ _ _).mp untimed
      obtain ⟨sameRun, sameResults⟩ := ih laterDriven laterUntimed
      rw [run_cons, sameRun, cycleResults_cons, sameResults]
      rcases first with rfl | rfl
      · have sameResult := congrArg Prod.snd (cycle_stopped unused)
        have sameAfter : machine.stopped.after .cycle = (machine.after .cycle).stopped :=
          congrArg Prod.fst (cycle_stopped unused)
        rw [List.count_cons_self, List.replicate_succ, run_cons, cycleResults_cons, sameAfter,
          sameResult]
        exact ⟨rfl, rfl⟩
      · rw [List.count_cons_of_ne Operation.noConfusion]
        exact ⟨rfl, rfl⟩

theorem not_setsTimer_of_untimed {operations : List Operation} (driven : Driven operations)
    (untimed : machine.Untimed operations) {step : Step} (member : step ∈ machine.steps operations)
    (value : UInt8) : ¬ step.SetsTimer value := by
  rintro (⟨cycles, op, executes, family, digits, -⟩ | ⟨rom, loads, -⟩)
  · exact untimed step member ⟨cycles, op, executes, family, .inr digits⟩
  · rcases driven _ (operation_mem_of_mem_steps member) with cycles | ticks
    · exact Operation.noConfusion (loads.symm.trans cycles)
    · exact Operation.noConfusion (loads.symm.trans ticks)

/-! ## The main result -/

/-- The rate of the timer and the rate of the instructions are independent.  A machine on which the
same numbers of cycles and ticks are done ends in the same state, and its cycles give back the same,
in whatever order they come, if the cycles of one order never use the timer.  In every run the timer
is what it was last set to, by an instruction or by the load of a program, less the ticks since
then; before that it is zero. -/
theorem cycles_and_ticks_independent :
    (∀ (machine : Machine) (first second : List Operation),
      Driven first → Driven second → first.count .cycle = second.count .cycle →
        first.count .tick = second.count .tick → machine.Untimed first →
          machine.run first = machine.run second ∧
            machine.cycleResults first = machine.cycleResults second) ∧
    ∀ (settings : Settings) (random : RandomSource),
      let machine := create settings random
      (∀ operations, (∀ step ∈ machine.steps operations, ∀ value, ¬ step.SetsTimer value) →
        (machine.run operations).timer.value = 0) ∧
      ∀ (earlier later : List Operation) (operation : Operation) (value : UInt8),
        Step.SetsTimer ⟨machine.run earlier, operation⟩ value →
        (∀ step ∈ (machine.run (earlier ++ [operation])).steps later,
          ∀ value, ¬ step.SetsTimer value) →
        ((machine.run (earlier ++ operation :: later)).timer.value.toNat : Int) =
          max 0 ((value.toNat : Int) - later.count .tick) := by
  refine ⟨?_, ?_⟩
  · intro machine first second firstDriven secondDriven cycles ticks untimed
    have otherUntimed : machine.Untimed second := by
      rwa [untimed_iff_stopped secondDriven, ← cycles, ← untimed_iff_stopped firstDriven]
    obtain ⟨firstRun, firstResults⟩ := run_stopped firstDriven untimed
    obtain ⟨secondRun, secondResults⟩ := run_stopped secondDriven otherUntimed
    have firstTimer := run_timer_of_not_setsTimer fun _ member =>
      not_setsTimer_of_untimed firstDriven untimed member
    have secondTimer := run_timer_of_not_setsTimer fun _ member =>
      not_setsTimer_of_untimed secondDriven otherUntimed member
    refine ⟨eq_of_stopped_eq ?_ ?_, ?_⟩
    · rw [firstRun, secondRun, cycles]
    · rw [firstTimer, secondTimer, ticks]
    · rw [firstResults, secondResults, cycles]
  · intro settings random machine
    refine ⟨?_, ?_⟩
    · intro operations unset
      have counted := run_timer_of_not_setsTimer unset
      exact UInt8.toNat_inj.mp (counted.trans (Nat.zero_sub _))
    · intro earlier later operation value sets unset
      have start : (machine.run (earlier ++ [operation])).timer.value = value := by
        rw [run_append]
        exact congrArg DelayTimer.value sets.after_timer
      have counted := run_timer_of_not_setsTimer unset
      rw [start, ← run_append, List.append_assoc, List.singleton_append] at counted
      omega

/-- The timer is set to five; then a counting loop runs into a fault while the timer ticks. -/
theorem cycles_and_ticks_independent_counting :
    let program := [0x60, 0x05, 0xF0, 0x15, 0x70, 0x01, 0x00, 0x00]
    let first := [.cycle, .tick, .cycle, .tick, .tick]
    let second := [.tick, .tick, .cycle, .tick, .cycle]
    let arrival := [.loadRom program, .cycle]
    ((create {} (RandomSource.cycling #[])).run (arrival ++ [.cycle])).Untimed first ∧
      ((create {} (RandomSource.cycling #[])).run (arrival ++ [.cycle])).run first =
        ((create {} (RandomSource.cycling #[])).run (arrival ++ [.cycle])).run second ∧
      ((create {} (RandomSource.cycling #[])).run (arrival ++ .cycle :: first)).timer.value.toNat =
        (2 : Int) := by
  intro program first second arrival
  obtain ⟨untimed, awake, succeeds, word, stored⟩ :
      ((create {} (RandomSource.cycling #[])).run (arrival ++ [.cycle])).Untimed first ∧
      ((create {} (RandomSource.cycling #[])).run arrival).phase ≠ .halted ∧
      ((create {} (RandomSource.cycling #[])).run arrival).cause? = none ∧
      ((create {} (RandomSource.cycling #[])).run arrival).nextOpcode = ⟨0xF015⟩ ∧
      ((create {} (RandomSource.cycling #[])).run arrival).v 0 = 5 := by
    decide +kernel
  have driven : Driven first := by decide
  obtain ⟨independent, counts⟩ := cycles_and_ticks_independent
  obtain ⟨same, -⟩ := independent _ first second driven (by decide) rfl rfl untimed
  have executes := executes_nextOpcode awake succeeds
  rw [word] at executes
  have counted := (counts {} (RandomSource.cycling #[])).2 arrival first .cycle 5
    (.inl ⟨rfl, _, executes, rfl, rfl, stored.symm⟩)
    (fun _ member => not_setsTimer_of_untimed driven untimed member)
  exact ⟨untimed, same, counted⟩

end Machine

end ChipEight
