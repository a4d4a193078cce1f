import ChipEight.Proofs.Machine.FrozenFault
import ChipEight.Proofs.Machine.Similar

/-!
# The ledger of faults and instructions

Every cycle of a machine that has not halted either executes an instruction or reports a fault, and
every load that is refused reports a fault, too.  The two counters of a machine therefore add up to
the number of these operations, as long as no load succeeds and sets them back.

What happened is told by the steps of a run: `Step.fault?` is the fault that a step reports, if it
does.  An observer that is registered throughout hears of exactly these faults, one after the other.
-/

namespace ChipEight

namespace Observer

end Observer

namespace Machine

variable {machine : Machine} {operation : Operation} {observer : Observer}

/-! ## The fault of an operation -/

/-- The fault that an operation reports, if it does.  A cycle adds its program counter. -/
def fault? (machine : Machine) : Operation → Option Fault
  | .cycle => machine.cause?.map fun cause => ⟨cause, some machine.registers.pc.toNat⟩
  | .loadRom rom =>
      if rom.length ≤ Memory.maxRomSize then none
      else some ⟨.romTooLarge rom.length (Memory.romLimit 4096), none⟩
  | _ => none

/-- The fault that a step reports, if it does. -/
def Step.fault? (step : Step) : Option Fault :=
  step.before.fault? step.operation

theorem fault?_of_peripheral (machine : Machine) (peripheral : operation.Peripheral) :
    machine.fault? operation = none := by
  cases operation with
  | loadRom rom => exact peripheral.elim
  | cycle => exact peripheral.elim
  | _ => rfl

theorem fault?_of_restarts (machine : Machine) {rom : List UInt8}
    (restarts : (Operation.loadRom rom).Restarts) : machine.fault? (.loadRom rom) = none :=
  if_pos restarts

theorem fault?_of_rejects (machine : Machine) {rom : List UInt8}
    (rejects : ¬ (Operation.loadRom rom).Restarts) :
    machine.fault? (.loadRom rom) =
      some ⟨.romTooLarge rom.length (Memory.romLimit 4096), none⟩ :=
  if_neg rejects

/-- Two machines agree on the record of faults and on who has been told of them. -/
structure SameRecord (first second : Machine) : Prop where
  faultCount : second.faultCount = first.faultCount
  lastFault : second.lastFault = first.lastFault
  observers : second.observers = first.observers
  deliveries : second.deliveries = first.deliveries

theorem SameRecord.settle {first second : Machine} (same : SameRecord first second) (pc : UInt16)
    (fetching : Bool) : SameRecord first (second.settle pc fetching) := by
  rw [settle_eq]
  exact ⟨same.faultCount, same.lastFault, same.observers, same.deliveries⟩

/-- What an operation enters into the record of faults: nothing, or it reports a fault on a machine
that the policy has settled.  Without a fault nobody can interrupt it. -/
inductive Entry (machine : Machine) (operation : Operation) : Prop
  | quiet (faultless : machine.fault? operation = none)
      (finished : ¬ (machine.answer operation).Interrupted)
      (same : SameRecord machine (machine.after operation))
  | fault {settled : Machine} {fault : Fault} (faults : machine.fault? operation = some fault)
      (same : SameRecord machine settled)
      (reported : machine.after operation = (settled.report fault).1)
      (silent : (settled.report fault).2 = none ∨ (machine.answer operation).Interrupted)

/-- A cycle that ends by a fault reports it on a machine that was settled. -/
theorem entry_of_fail {settled : Machine} {cause : Fault.Cause} {fetched : Option Opcode}
    (causes : machine.cause? = some cause) (same : SameRecord machine settled)
    (failed : machine.cycle = settled.fail cause machine.registers.pc fetched) :
    Entry machine .cycle := by
  obtain ⟨reported, silent⟩ := settled.fail_report cause machine.registers.pc fetched
  rw [← failed] at reported silent
  refine .fault ?_ (same.settle machine.registers.pc fetched.isNone) reported ?_
  · rw [fault?, causes, Option.map_some]
  · refine silent.imp_right ?_
    rintro ⟨interruption, broken⟩
    rw [answer, broken]
    rfl

theorem cycle_entry (machine : Machine) : Entry machine .cycle := by
  -- Draining the queue and fetching a word do not reach the record, nor the cause of a fault.
  have same : SameRecord machine machine.drainKeys := ⟨rfl, rfl, rfl, rfl⟩
  have outcome := machine.drainKeys.fetchExecute_outcome
  generalize ran : machine.drainKeys.fetchExecute = result at outcome
  have cycled : machine.cycle = result := ran
  cases outcome with
  | idle halted =>
      refine .quiet ?_ ?_ ?_
      · rw [fault?, cause?_of_halted (show machine.phase = .halted from halted), Option.map_none]
      · rw [answer, cycled]
        exact Bool.false_ne_true
      · rw [after, cycled]
        exact same
  | strayed awake beyond =>
      exact entry_of_fail (cause?_of_lt (show machine.phase ≠ .halted from awake) beyond) same
        cycled
  | refused awake within refuses =>
      have causes := cause?_of_le (show machine.phase ≠ .halted from awake) within
      have fetched : SameRecord machine (machine.drainKeys.fetched machine.nextOpcode) :=
        ⟨rfl, rfl, rfl, rfl⟩
      exact entry_of_fail (causes.trans refuses) fetched cycled
  | executed awake within decoded succeeds =>
      refine .quiet ?_ ?_ ?_
      · rw [fault?, cause?_of_le (show machine.phase ≠ .halted from awake) within,
          show machine.refusal? = _ from refusal?_of_decode? decoded,
          show machine.failure? _ = none from succeeds, Option.map_none]
      · rw [answer, cycled]
        exact Bool.false_ne_true
      · rw [after, cycled]
        simp only [executed]
        rw [effect_eq]
        exact ⟨rfl, rfl, rfl, rfl⟩

theorem loadRom_entry (machine : Machine) {rom : List UInt8}
    (rejects : ¬ (Operation.loadRom rom).Restarts) : Entry machine (.loadRom rom) := by
  have refused := machine.memory.loadRom_of_lt (Nat.lt_of_not_le rejects)
  refine .fault (machine.fault?_of_rejects rejects) ⟨rfl, rfl, rfl, rfl⟩ ?_ ?_
  · rw [after, loadRom_of_error refused, report_eq]
    rfl
  · rw [answer, loadRom_of_error refused, report_eq, Telling.answer]
    change (machine.rejection _).interruption? = none ∨ _
    cases (machine.rejection _).interruption? with
    | none => exact .inl rfl
    | some interruption => exact .inr rfl

/-- Unless a program is loaded, an operation reports a fault or leaves the record of faults as it
was. -/
theorem after_entry (machine : Machine) (unloaded : ¬ operation.Restarts) :
    Entry machine operation := by
  rcases operation.load_or_cycle_or_peripheral with ⟨rom, rfl⟩ | rfl | peripheral
  · exact machine.loadRom_entry unloaded
  · exact machine.cycle_entry
  · refine .quiet (machine.fault?_of_peripheral peripheral) ?_ ?_
    · cases operation with
      | loadRom rom => exact peripheral.elim
      | cycle => exact peripheral.elim
      | _ => exact Bool.false_ne_true
    · rw [machine.after_of_peripheral peripheral]
      exact ⟨rfl, rfl, rfl, rfl⟩

/-- Who interrupts an operation does so at a fault. -/
theorem fault?_of_interrupted (interrupted : (machine.answer operation).Interrupted) :
    ∃ fault, machine.fault? operation = some fault := by
  by_cases restarts : operation.Restarts
  · cases operation with
    | loadRom rom =>
        obtain ⟨memory, loaded⟩ := machine.memory.loadRom_of_le restarts
        rw [answer, loadRom_of_ok loaded] at interrupted
        exact absurd interrupted Bool.false_ne_true
    | _ => exact restarts.elim
  · cases machine.after_entry restarts with
    | quiet faultless finished same => exact absurd interrupted finished
    | fault faults same reported silent => exact ⟨_, faults⟩

/-! ## The counters -/

theorem after_faultCount (machine : Machine) (unloaded : ¬ operation.Restarts) :
    (machine.after operation).faultCount =
      machine.faultCount + (machine.fault? operation).isSome.toNat := by
  cases machine.after_entry unloaded with
  | quiet faultless finished same =>
      rw [faultless, same.faultCount]
      rfl
  | fault faults same reported silent =>
      rw [reported, report_eq, record_eq, faults, ← same.faultCount]
      rfl

/-- Whether a step executes an instruction. -/
def Step.executes (step : Step) : Bool :=
  step.operation = .cycle ∧ step.before.phase ≠ .halted ∧ step.before.cause? = none

namespace Step

/-- Whether a step is a cycle of a machine that has not halted. -/
def begins (step : Step) : Bool :=
  step.operation = .cycle ∧ step.before.phase ≠ .halted

/-- An observer interrupts the operation of a step. -/
def Interrupted (step : Step) : Prop :=
  (step.before.answer step.operation).Interrupted

instance (step : Step) : Decidable step.Interrupted :=
  inferInstanceAs (Decidable (step.before.answer step.operation).Interrupted)

end Step

/-- The faults that the steps of a run report, in their order. -/
def faults (machine : Machine) (operations : List Operation) : List Fault :=
  (machine.steps operations).filterMap Step.fault?

/-- Where none of the notices that were added is about a fault, none was reported. -/
theorem not_reports_of_silent {after : Machine} {notices : List Notice} {fault : Fault}
    (added : after.journal = notices ++ machine.journal)
    (silent : ∀ notice ∈ notices, ¬ notice.Announces fault) : ¬ machine.Reports after fault := by
  rw [reports_iff added]
  rintro ⟨notice, member, announces⟩
  exact silent notice member announces

theorem reports_loadRom_iff (machine : Machine) (rom : List UInt8) (fault : Fault) :
    machine.Reports (machine.after (.loadRom rom)) fault ↔
      machine.fault? (.loadRom rom) = some fault := by
  by_cases restarts : (Operation.loadRom rom).Restarts
  · obtain ⟨memory, loaded⟩ := machine.after_of_restarts restarts
    have added : (machine.after (.loadRom rom)).journal =
        [.romLoaded rom.length, .romCopied rom.length] ++ machine.journal := by
      rw [loaded]
      rfl
    rw [machine.fault?_of_restarts restarts]
    refine iff_of_false (not_reports_of_silent added ?_) (Option.some_ne_none fault).symm
    simp [Notice.Announces]
  · have added : (machine.after (.loadRom rom)).journal =
        [machine.noticeOf ⟨.romTooLarge rom.length (Memory.romLimit 4096), none⟩] ++
          machine.journal := by
      have refused := machine.memory.loadRom_of_lt (Nat.lt_of_not_le restarts)
      rw [after, loadRom_of_error refused, rejected, record_eq]
      rfl
    rw [machine.fault?_of_rejects restarts, reports_iff added]
    simp only [List.mem_singleton, exists_eq_left, noticeOf_announces_iff, Option.some.injEq,
      eq_comm]

/-- An operation reports the fault that it has, and nothing else. -/
theorem reports_after_iff (machine : Machine) (operation : Operation) (fault : Fault) :
    machine.Reports (machine.after operation) fault ↔ machine.fault? operation = some fault := by
  rcases operation.load_or_cycle_or_peripheral with ⟨rom, rfl⟩ | rfl | peripheral
  · exact machine.reports_loadRom_iff rom fault
  · rw [fault?, Option.map_eq_some_iff]
    simp only [eq_comm (b := fault)]
    exact machine.reports_cycle_iff fault
  · have added := congrArg journal (machine.after_of_peripheral peripheral)
    rw [machine.fault?_of_peripheral peripheral]
    refine iff_of_false (not_reports_of_silent added ?_) (Option.some_ne_none fault).symm
    simp [Notice.Announces]

/-! ## Faults of two machines -/

theorem Similar.fault? {like : Likeness} {first second : Machine}
    (similar : Similar like first second) (phase : first.phase = second.phase)
    (operation : Operation) : first.fault? operation = second.fault? operation := by
  cases operation with
  | cycle => simp only [Machine.fault?, similar.cause? phase, similar.registers]
  | _ => rfl

/-- Two machines give back the same, or they report the same fault, and an observer of one of them
interrupts the operation. -/
def Concurs (first second : Machine) (operation : Operation) : Prop :=
  first.answer operation = second.answer operation ∨
    ∃ fault, first.Reports (first.after operation) fault ∧
      second.Reports (second.after operation) fault ∧
        ((first.answer operation).Interrupted ∨ (second.answer operation).Interrupted)

theorem Similar.concurs {like : Likeness} {first second : Machine}
    (similar : Similar like first second) (phase : first.phase = second.phase)
    (flag : first.screen.redraw = second.screen.redraw) (operation : Operation) :
    Concurs first second operation := by
  rcases similar.answer_or_interrupted (fun _ => phase) (fun _ => flag) with same | interrupted
  · exact .inl same
  · have faults : ∃ fault, first.fault? operation = some fault := by
      rcases interrupted with interrupted | interrupted
      · exact fault?_of_interrupted interrupted
      · rw [similar.fault? phase]
        exact fault?_of_interrupted interrupted
    obtain ⟨fault, faults⟩ := faults
    refine .inr ⟨fault, (first.reports_after_iff operation fault).mpr faults, ?_, interrupted⟩
    rw [similar.fault? phase] at faults
    exact (second.reports_after_iff operation fault).mpr faults

/-! ## What observers hear -/

end Machine

end ChipEight
