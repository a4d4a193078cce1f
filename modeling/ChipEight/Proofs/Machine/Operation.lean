import ChipEight.Machine.Load
import ChipEight.Proofs.Machine.Action
import ChipEight.Proofs.Machine.Report
import ChipEight.Proofs.Memory.Loading

/-!
# Operating a machine

What can be done to a machine from outside, and runs as sequences of such operations.  A property
that every operation preserves holds throughout a run, and so does a relation between two machines
on which the same is done.  What happened on the way is told by the steps of a run.

Loading a program either restarts the machine or changes nothing but the record of faults.  The
operations besides loads and cycles are peripheral: they reach the keypad, the timer and the redraw
flag, and their common frame is `after_of_peripheral`.
-/

namespace ChipEight

theorem Memory.romLimit_capacity : romLimit 4096 = (maxRomSize : Int) := by
  decide

/-- A program that fits replaces the memory, whatever it held. -/
theorem Memory.loadRom_of_le (memory : Memory 4096) {rom : List UInt8}
    (fits : rom.length ≤ maxRomSize) : ∃ loaded, memory.loadRom rom = .ok loaded := by
  have limit : (rom.length : Int) ≤ romLimit 4096 := by
    rw [romLimit_capacity]
    exact Int.ofNat_le.mpr fits
  exact ⟨_, memory.loadRom_of_le_romLimit limit⟩

theorem Memory.loadRom_of_lt (memory : Memory 4096) {rom : List UInt8}
    (tooLarge : maxRomSize < rom.length) :
    memory.loadRom rom = .error (.romTooLarge rom.length (romLimit 4096)) := by
  apply memory.loadRom_of_romLimit_lt
  rw [romLimit_capacity]
  exact Int.ofNat_lt.mpr tooLarge

namespace Machine

/-- What can be done to a machine. -/
inductive Operation where
  | loadRom (rom : List UInt8)
  | cycle
  | tick
  | setKey (code : Int) (down : Bool)
  | postKey (code : Int) (down : Bool)
  | releaseAll
  | takeRedraw
deriving DecidableEq

/-- The machine after an operation.  A key code that is refused leaves it as it is. -/
def after (machine : Machine) : Operation → Machine
  | .loadRom rom => (machine.loadRom rom).1
  | .cycle => machine.cycle.1
  | .tick => machine.tick
  | .setKey code down =>
      match machine.setKey code down with
      | .ok (changed, _) => changed
      | .error _ => machine
  | .postKey code down =>
      match machine.postKey code down with
      | .ok changed => changed
      | .error _ => machine
  | .releaseAll => machine.releaseAll
  | .takeRedraw => machine.takeRedraw.2

/-- The machine after a sequence of operations. -/
def run (machine : Machine) (operations : List Operation) : Machine :=
  operations.foldl after machine

/-- What comes back from an operation. -/
inductive Answer where
  | loaded (result : Except Interruption Bool)
  | cycled (result : CycleResult)
  | keySet (result : Except KeyError Bool)
  | keyPosted (result : Except KeyError Unit)
  | redraw (raised : Bool)
  | done

/-- What an operation gives back. -/
def answer (machine : Machine) : Operation → Answer
  | .loadRom rom => .loaded (machine.loadRom rom).2
  | .cycle => .cycled machine.cycle.2
  | .tick => .done
  | .setKey code down => .keySet ((machine.setKey code down).map Prod.snd)
  | .postKey code down => .keyPosted ((machine.postKey code down).map fun _ => ())
  | .releaseAll => .done
  | .takeRedraw => .redraw machine.takeRedraw.1

/-- Whether an answer says that an observer interrupted the operation. -/
def Answer.isInterrupted : Answer → Bool
  | .loaded (.error _) => true
  | .cycled (.error _) => true
  | _ => false

/-- An observer interrupted the operation that gave back this answer. -/
def Answer.Interrupted (answer : Answer) : Prop :=
  answer.isInterrupted = true

instance (answer : Answer) : Decidable answer.Interrupted :=
  inferInstanceAs (Decidable (answer.isInterrupted = true))

theorem cycle_snd_ne_of_interrupted {first second : Machine}
    (interrupted : (first.answer .cycle).Interrupted)
    (finished : ¬ (second.answer .cycle).Interrupted) : first.cycle.2 ≠ second.cycle.2 := by
  intro same
  rw [answer, same] at interrupted
  exact finished interrupted

theorem loadRom_snd_ne_of_interrupted {machine : Machine} {rom : List UInt8}
    (interrupted : (machine.answer (.loadRom rom)).Interrupted) (fitted : Bool) :
    (machine.loadRom rom).2 ≠ .ok fitted := by
  intro loaded
  rw [answer, loaded] at interrupted
  exact Bool.false_ne_true interrupted

theorem run_cons (machine : Machine) (operation : Operation) (rest : List Operation) :
    machine.run (operation :: rest) = (machine.after operation).run rest :=
  rfl

theorem run_append (machine : Machine) (earlier later : List Operation) :
    machine.run (earlier ++ later) = (machine.run earlier).run later :=
  List.foldl_append

/-- What every operation preserves holds after every run. -/
theorem run_preserves {invariant : Machine → Prop}
    (preserved : ∀ machine operation, invariant machine → invariant (after machine operation))
    {machine : Machine} (holds : invariant machine) (operations : List Operation) :
    invariant (machine.run operations) := by
  induction operations generalizing machine with
  | nil => exact holds
  | cons operation rest ih => exact ih (preserved machine operation holds)

/-- Two machines on which the same is done stay in a relation that every operation preserves. -/
theorem run_relates {related : Machine → Machine → Prop}
    (preserved : ∀ first second operation, related first second →
      related (after first operation) (after second operation))
    {first second : Machine} (holds : related first second) (operations : List Operation) :
    related (first.run operations) (second.run operations) := by
  induction operations generalizing first second with
  | nil => exact holds
  | cons operation rest ih => exact ih (preserved first second operation holds)

/-! ## The steps of a run -/

/-- One operation of a run, with the machine on which it is done. -/
structure Step where
  before : Machine
  operation : Operation

/-- The machine after a step. -/
def Step.after (step : Step) : Machine :=
  step.before.after step.operation

/-- The steps of a run, one for each operation. -/
def steps (machine : Machine) : List Operation → List Step
  | [] => []
  | operation :: rest => ⟨machine, operation⟩ :: (machine.after operation).steps rest

theorem steps_append (machine : Machine) (earlier later : List Operation) :
    machine.steps (earlier ++ later) =
      machine.steps earlier ++ (machine.run earlier).steps later := by
  induction earlier generalizing machine with
  | nil => rfl
  | cons operation rest ih => exact congrArg _ (ih (machine.after operation))

theorem operation_mem_of_mem_steps {machine : Machine} {operations : List Operation} {step : Step}
    (member : step ∈ machine.steps operations) : step.operation ∈ operations := by
  induction operations generalizing machine with
  | nil => cases member
  | cons operation rest ih =>
      rcases List.mem_cons.mp member with rfl | later
      · exact List.mem_cons_self
      · exact List.mem_cons_of_mem operation (ih later)

/-! ## Single operations -/

theorem loadRom_of_ok {machine : Machine} {rom : List UInt8} {memory : Memory 4096}
    (loaded : machine.memory.loadRom rom = .ok memory) :
    machine.loadRom rom = (machine.restart memory rom.length, .ok true) := by
  rw [loadRom, loaded]

/-- What comes of telling the observers that a load was refused. -/
def rejection (machine : Machine) (cause : Fault.Cause) : Telling :=
  (machine.record ⟨cause, none⟩).told ⟨cause, none⟩

/-- The machine after a load that was refused.  The fault is recorded, and the observers have
acted. -/
def rejected (machine : Machine) (cause : Fault.Cause) : Machine :=
  { machine.record ⟨cause, none⟩ with
    observers := (machine.rejection cause).registered
    deliveries := (machine.rejection cause).deliveries }

theorem loadRom_of_error {machine : Machine} {rom : List UInt8} {cause : Fault.Cause}
    (refused : machine.memory.loadRom rom = .error cause) :
    machine.loadRom rom = (machine.rejected cause, (machine.rejection cause).answer false) := by
  have reported : machine.report ⟨cause, none⟩ =
      (machine.rejected cause, (machine.rejection cause).interruption?) :=
    machine.report_eq ⟨cause, none⟩
  simp only [loadRom, refused, reported, Telling.answer]
  cases (machine.rejection cause).interruption? <;> rfl

/-- Observers that do not interrupt let a load come to its end. -/
theorem Patient.answer_rejection {α : Type} {machine : Machine} (patient : machine.Patient)
    (cause : Fault.Cause) (value : α) : (machine.rejection cause).answer value = .ok value := by
  rw [rejection, record_eq]
  refine Patient.answer_told ?_ _ value
  exact patient.congr rfl rfl

/-- A program that fits restarts the machine.  Another one is recorded as a fault. -/
theorem loadRom_cases (machine : Machine) (rom : List UInt8) :
    (∃ memory, machine.memory.loadRom rom = .ok memory ∧
        (machine.loadRom rom).1 = machine.restart memory rom.length) ∨
      ∃ cause observers deliveries, machine.memory.loadRom rom = .error cause ∧
        (machine.loadRom rom).1 =
          { machine.record ⟨cause, none⟩ with
            observers := observers, deliveries := deliveries } := by
  cases loaded : machine.memory.loadRom rom with
  | ok memory => exact .inl ⟨memory, rfl, congrArg Prod.fst (loadRom_of_ok loaded)⟩
  | error cause =>
      exact .inr ⟨cause, _, _, rfl, congrArg Prod.fst (loadRom_of_error loaded)⟩

/-- Whether a program is loaded does not depend on the machine. -/
theorem loadRom_both (first second : Machine) (rom : List UInt8) :
    (∃ memory, first.loadRom rom = (first.restart memory rom.length, .ok true) ∧
        second.loadRom rom = (second.restart memory rom.length, .ok true)) ∨
      ∃ cause,
        first.loadRom rom = (first.rejected cause, (first.rejection cause).answer false) ∧
          second.loadRom rom =
            (second.rejected cause, (second.rejection cause).answer false) := by
  have same : first.memory.loadRom rom = second.memory.loadRom rom := rfl
  cases loaded : first.memory.loadRom rom with
  | ok memory => exact .inl ⟨memory, loadRom_of_ok loaded, loadRom_of_ok (same ▸ loaded)⟩
  | error cause =>
      exact .inr ⟨cause, loadRom_of_error loaded, loadRom_of_error (same ▸ loaded)⟩

/-- A load that succeeds.  Whether it does is a matter of the size of the program. -/
def Operation.Restarts : Operation → Prop
  | .loadRom rom => rom.length ≤ Memory.maxRomSize
  | _ => False

instance (operation : Operation) : Decidable operation.Restarts :=
  match operation with
  | .loadRom rom => inferInstanceAs (Decidable (rom.length ≤ Memory.maxRomSize))
  | .cycle | .tick | .setKey _ _ | .postKey _ _ | .releaseAll | .takeRedraw =>
      inferInstanceAs (Decidable False)

theorem after_of_restarts (machine : Machine) {rom : List UInt8}
    (restarts : (Operation.loadRom rom).Restarts) :
    ∃ memory, machine.after (.loadRom rom) = machine.restart memory rom.length := by
  obtain ⟨memory, loaded⟩ := machine.memory.loadRom_of_le restarts
  exact ⟨memory, congrArg Prod.fst (loadRom_of_ok loaded)⟩

/-- After a load the machine runs. -/
theorem after_phase_of_restarts (machine : Machine) {operation : Operation}
    (restarts : operation.Restarts) : (machine.after operation).phase = .running := by
  cases operation with
  | loadRom rom =>
      obtain ⟨memory, loaded⟩ := machine.after_of_restarts restarts
      rw [loaded]
      rfl
  | _ => exact restarts.elim

theorem after_of_rejects (machine : Machine) {rom : List UInt8}
    (rejects : ¬ (Operation.loadRom rom).Restarts) :
    ∃ cause, machine.after (.loadRom rom) = machine.rejected cause := by
  have refused := loadRom_of_error (machine.memory.loadRom_of_lt (Nat.lt_of_not_le rejects))
  exact ⟨_, congrArg Prod.fst refused⟩

/-- Without observers a load tells whether the program fitted. -/
theorem loadRom_snd_of_unobserved {machine : Machine} (unobserved : machine.observers = [])
    (rom : List UInt8) :
    (machine.loadRom rom).2 = .ok (decide (rom.length ≤ Memory.maxRomSize)) := by
  by_cases fits : rom.length ≤ Memory.maxRomSize
  · obtain ⟨memory, loaded⟩ := machine.memory.loadRom_of_le fits
    rw [loadRom_of_ok loaded, decide_eq_true fits]
  · rw [loadRom_of_error (machine.memory.loadRom_of_lt (Nat.lt_of_not_le fits)),
      decide_eq_false fits]
    exact (patient_of_unobserved unobserved).answer_rejection _ false

/-! ## Operations on the keys, the timer and the redraw flag -/

namespace Operation

/-- An operation on the keys, the timer or the redraw flag. -/
def Peripheral : Operation → Prop
  | .loadRom _ => False
  | .cycle => False
  | _ => True

theorem load_or_cycle_or_peripheral (operation : Operation) :
    (∃ rom, operation = .loadRom rom) ∨ operation = .cycle ∨ operation.Peripheral := by
  cases operation with
  | loadRom rom => exact .inl ⟨rom, rfl⟩
  | cycle => exact .inr (.inl rfl)
  | _ => exact .inr (.inr trivial)

/-- The keypad after a peripheral operation.  A code that names no key changes nothing. -/
def onKeypad (operation : Operation) (keypad : Keypad Key) : Keypad Key :=
  match operation with
  | .setKey code down =>
      match Key.ofCode code with
      | .ok key => keypad.apply ⟨key, down⟩
      | .error _ => keypad
  | .postKey code down =>
      match Key.ofCode code with
      | .ok key => keypad.post ⟨key, down⟩
      | .error _ => keypad
  | .releaseAll => keypad.releaseAll
  | _ => keypad

/-- The key events that a peripheral operation lets take effect, if they change the held keys. -/
def keyEvents (operation : Operation) (keypad : Keypad Key) : List (KeyEvent Key) :=
  match operation with
  | .setKey code down =>
      match Key.ofCode code with
      | .ok key => if keypad.changes ⟨key, down⟩ then [⟨key, down⟩] else []
      | .error _ => []
  | _ => []

/-- The timer after a peripheral operation. -/
def onTimer (operation : Operation) (timer : DelayTimer) : DelayTimer :=
  match operation with
  | .tick => timer.tick
  | _ => timer

/-- The screen after a peripheral operation. -/
def onScreen (operation : Operation) (screen : Screen 64 32) : Screen 64 32 :=
  match operation with
  | .takeRedraw => screen.takeRedraw.2
  | _ => screen

theorem onScreen_lit (operation : Operation) (screen : Screen 64 32) :
    (operation.onScreen screen).lit = screen.lit := by
  cases operation <;> rfl

theorem onScreen_pending (operation : Operation) (screen : Screen 64 32) :
    (operation.onScreen screen).pending = screen.pending := by
  cases operation <;> rfl

end Operation

/-- A peripheral operation reaches three devices, and it notes nothing but keys that change. -/
theorem after_of_peripheral (machine : Machine) {operation : Operation}
    (peripheral : operation.Peripheral) :
    machine.after operation =
      { machine with
        keypad := operation.onKeypad machine.keypad
        timer := operation.onTimer machine.timer
        screen := operation.onScreen machine.screen
        journal :=
          (operation.keyEvents machine.keypad).map Notice.keyChanged ++ machine.journal } := by
  cases operation with
  | loadRom rom => exact peripheral.elim
  | cycle => exact peripheral.elim
  | setKey code down =>
      simp only [after, setKey, Operation.onKeypad, Operation.keyEvents]
      cases Key.ofCode code with
      | error failure => rfl
      | ok key =>
          -- An event that changes nothing is not noted either.
          by_cases changes : machine.keypad.changes ⟨key, down⟩ = true
          · simp only [applyKey, if_pos changes]
            rfl
          · simp only [applyKey, Keypad.apply, if_neg changes]
            rfl
  | postKey code down =>
      simp only [after, postKey, Operation.onKeypad]
      cases Key.ofCode code <;> rfl
  | tick | releaseAll | takeRedraw => rfl

/-- What a peripheral operation gives back is a matter of the keypad or of the redraw flag. -/
theorem answer_of_peripheral {first second : Machine} {operation : Operation}
    (peripheral : operation.Peripheral) (keypad : first.keypad = second.keypad)
    (flag : operation = .takeRedraw → first.screen.redraw = second.screen.redraw) :
    first.answer operation = second.answer operation := by
  cases operation with
  | loadRom rom => exact peripheral.elim
  | cycle => exact peripheral.elim
  | tick | releaseAll => rfl
  | setKey code down =>
      simp only [answer, setKey]
      cases Key.ofCode code with
      | error failure => rfl
      | ok key =>
          simp only [applyKey]
          rw [keypad]
          split <;> rfl
  | postKey code down =>
      simp only [answer, postKey]
      cases Key.ofCode code <;> rfl
  | takeRedraw => exact congrArg Answer.redraw (flag rfl)

end Machine

end ChipEight
