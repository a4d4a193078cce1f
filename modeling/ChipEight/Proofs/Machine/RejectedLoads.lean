import ChipEight.Proofs.Machine.FaultLedger
import ChipEight.Snapshot

/-!
# Programs do not notice loads that fail

A program that is too large is rejected before anything of the machine is replaced, and so is a file
that cannot be read.  What such a load leaves behind are entries in the record of faults and in the
journal, and observers that have been told of one fault more.  None of that is read by an operation,
except that an observer who interrupts at a fault decides what comes back.  So a run goes the same
way with failing loads in it and without them, and only such observers can notice.
-/

namespace ChipEight

namespace Machine

/-- Something that happens to a machine: an operation, or a load that cannot succeed. -/
inductive Request where
  | perform (operation : Operation)
  | tooLarge (rom : List UInt8) (large : Memory.maxRomSize < rom.length)
  | unreadable (path : Text) (failure : FileError)

/-- The operation of a request, unless it is a load that cannot succeed. -/
def Request.operation? : Request → Option Operation
  | .perform operation => some operation
  | .tooLarge _ _ => none
  | .unreadable _ _ => none

/-- The machine after a request. -/
def handle (machine : Machine) : Request → Machine
  | .perform operation => machine.after operation
  | .tooLarge rom _ => (machine.loadRom rom).1
  | .unreadable path failure => (machine.loadFile path (.error failure)).1

/-- The machine after a sequence of requests. -/
def handleAll (machine : Machine) (requests : List Request) : Machine :=
  requests.foldl handle machine

/-- How many programs were too large since the last load that succeeded. -/
def Request.surplus (count : Nat) : Request → Nat
  | .perform operation => if operation.Restarts then 0 else count
  | .tooLarge _ _ => count + 1
  | .unreadable _ _ => count

variable {tried plain : Machine} {surplus : Nat}

/-- A machine with failing loads in its run beside one without them. -/
structure Beside (surplus : Nat) (tried plain : Machine) : Prop where
  twins : Twins Likeness.exact tried plain
  conduct : tried.conduct = plain.conduct
  faultCount : tried.faultCount = plain.faultCount + surplus

theorem Beside.refl (machine : Machine) : Beside 0 machine machine where
  twins := ⟨rfl, ⟨rfl, rfl, rfl, rfl, rfl, rfl, rfl, rfl, rfl, rfl, rfl⟩, rfl⟩
  conduct := rfl
  faultCount := rfl

/-! ## Operations on both machines -/

theorem Beside.after (beside : Beside surplus tried plain) (operation : Operation) :
    Beside (Request.surplus surplus (.perform operation))
      (tried.after operation) (plain.after operation) where
  twins := beside.twins.after operation
  conduct := by
    rw [(tried.after_keepsSetup operation).conduct, (plain.after_keepsSetup operation).conduct,
      beside.conduct]
  faultCount := by
    have ⟨⟨_, similar, phase⟩, _, faultCount⟩ := beside
    by_cases restarts : operation.Restarts
    · cases operation with
      | loadRom rom =>
          obtain ⟨memory, loaded⟩ := tried.after_of_restarts restarts
          obtain ⟨others, otherLoaded⟩ := plain.after_of_restarts restarts
          rw [loaded, otherLoaded, Request.surplus, if_pos restarts]
          rfl
      | _ => exact restarts.elim
    · rw [tried.after_faultCount restarts, plain.after_faultCount restarts,
        similar.fault? phase operation, faultCount, Request.surplus, if_neg restarts]
      exact Nat.add_right_comm _ _ _

/-! ## Loads that fail -/

theorem Beside.tooLarge (beside : Beside surplus tried plain) {rom : List UInt8}
    (large : Memory.maxRomSize < rom.length) :
    Beside (surplus + 1) (tried.loadRom rom).1 plain := by
  have ⟨⟨settings, similar, phase⟩, conduct, faultCount⟩ := beside
  rw [loadRom_of_error (tried.memory.loadRom_of_lt large), rejected, record_eq]
  exact ⟨⟨settings, { similar with }, phase⟩, conduct, congrArg (· + 1) faultCount⟩

/-- A file that cannot be read is noted, and nothing else comes of it. -/
theorem loadFile_fst_of_error (machine : Machine) (path : Text) (failure : FileError) :
    ∃ journal,
      (machine.loadFile path (.error failure)).1 = { machine with journal := journal } := by
  simp only [loadFile]
  split <;> exact ⟨_, rfl⟩

theorem Beside.unreadable (beside : Beside surplus tried plain) (path : Text)
    (failure : FileError) :
    Beside surplus (tried.loadFile path (.error failure)).1 plain := by
  have ⟨⟨settings, similar, phase⟩, conduct, faultCount⟩ := beside
  obtain ⟨journal, noted⟩ := tried.loadFile_fst_of_error path failure
  rw [noted]
  exact ⟨⟨settings, { similar with }, phase⟩, conduct, faultCount⟩

/-- A load that fails moves one machine, and the other can stay where it is. -/
theorem Beside.stay (beside : Beside surplus tried plain) {request : Request}
    (fails : request.operation? = none) :
    Beside (request.surplus surplus) (tried.handle request) plain := by
  cases request with
  | perform operation => cases fails
  | tooLarge rom large => exact beside.tooLarge large
  | unreadable path failure => exact beside.unreadable path failure

theorem Beside.handleAll (beside : Beside surplus tried plain) (requests : List Request) :
    Beside (requests.foldl Request.surplus surplus) (tried.handleAll requests)
      (plain.run (requests.filterMap Request.operation?)) := by
  -- Both machines vary: a load that fails takes one of them a step ahead.
  induction requests generalizing surplus tried plain with
  | nil => exact beside
  | cons request rest ih =>
      cases performs : request.operation? with
      | none =>
          rw [List.filterMap_cons_none performs]
          exact ih (beside.stay performs)
      | some operation =>
          rw [List.filterMap_cons_some performs]
          cases request with
          | perform performed =>
              cases performs
              exact ih (beside.after operation)
          | _ => cases performs

/-- The machine with failing loads in its run is the other one, but for the record of faults, the
journal and the observers. -/
theorem Beside.tried_eq (beside : Beside surplus tried plain) :
    tried =
      { plain with
        faultCount := tried.faultCount
        lastFault := tried.lastFault
        lastWarned := tried.lastWarned
        observers := tried.observers
        deliveries := tried.deliveries
        journal := tried.journal } := by
  have ⟨⟨settings, similar, phase⟩, conduct, _⟩ := beside
  have ⟨_, random, memory, registers, stack, screen, keypad, timer, romLoaded, count, opcode⟩ :=
    similar
  rw [← settings, ← random, ← memory, ← registers, ← stack, ← screen, ← keypad, ← timer, ← phase,
    ← romLoaded, ← count, ← opcode, ← conduct]

/-! ## Observers -/

theorem handle_patient {machine : Machine} (patient : machine.Patient) (request : Request) :
    (machine.handle request).Patient := by
  cases request with
  | perform operation => exact after_patient patient operation
  | tooLarge rom large => exact after_patient patient (.loadRom rom)
  | unreadable path failure =>
      obtain ⟨journal, noted⟩ := machine.loadFile_fst_of_error path failure
      rw [handle, noted]
      exact patient.congr rfl rfl

theorem handleAll_patient {machine : Machine} (patient : machine.Patient)
    (requests : List Request) : (machine.handleAll requests).Patient := by
  induction requests generalizing machine with
  | nil => exact patient
  | cons request rest ih => exact ih (handle_patient patient request)

/-- A load that is refused says so, unless one of those who are registered interrupts it. -/
theorem loadRom_snd_of_lt (machine : Machine) {rom : List UInt8}
    (large : Memory.maxRomSize < rom.length) :
    (machine.loadRom rom).2 = .ok false ∨
      ∃ observer ∈ machine.observers, (machine.loadRom rom).2 = .error ⟨observer⟩ := by
  rw [loadRom_of_error (machine.memory.loadRom_of_lt large), Telling.answer]
  cases told : (machine.rejection _).interruption? with
  | none => exact .inl rfl
  | some interruption =>
      refine .inr ⟨interruption.observer, ?_, rfl⟩
      rw [rejection, record_eq] at told
      exact Conduct.mem_of_interruption?_tell told

/-- Loads that fail, as many and whenever one likes, go unnoticed.  The machine is the same as
without them, but for the record of faults, the journal and the observers; and the faults are more
by the programs that were too large since the last load that succeeded.  Every later operation gives
back the same, unless it reports a fault and an observer interrupts it in one of the two runs.  A
load that fails says so, unless a program is too large and one of the observers interrupts the load.
Where nobody interrupts, every answer is the same. -/
theorem rejected_loads_unnoticed (machine : Machine) (requests : List Request) :
    let tried := machine.handleAll requests
    let plain := machine.run (requests.filterMap Request.operation?)
    tried.snapshot = plain.snapshot ∧
      (∀ operation, Concurs tried plain operation) ∧
      tried.romLoaded = plain.romLoaded ∧
      tried.lastOpcode = plain.lastOpcode ∧
      tried.faultCount = plain.faultCount + requests.foldl Request.surplus 0 ∧
      tried =
        { plain with
          faultCount := tried.faultCount
          lastFault := tried.lastFault
          lastWarned := tried.lastWarned
          observers := tried.observers
          deliveries := tried.deliveries
          journal := tried.journal } ∧
      (∀ rom, Memory.maxRomSize < rom.length →
        (tried.loadRom rom).2 = .ok false ∨
          ∃ observer ∈ tried.observers, (tried.loadRom rom).2 = .error ⟨observer⟩) ∧
      (∀ path failure, failure.isRefusal = true →
        (tried.loadFile path (.error failure)).2 = .ok false) ∧
      (machine.Patient →
        (∀ operation, tried.answer operation = plain.answer operation) ∧
          ∀ rom, Memory.maxRomSize < rom.length → (tried.loadRom rom).2 = .ok false) := by
  intro tried plain
  have beside : Beside _ tried plain := (Beside.refl machine).handleAll requests
  have ⟨⟨settings, similar, phase⟩, conduct, faultCount⟩ := beside
  have flag : tried.screen.redraw = plain.screen.redraw := congrArg Screen.redraw similar.screen
  refine ⟨?_, similar.concurs phase flag, similar.romLoaded, similar.lastOpcode, faultCount,
    beside.tried_eq, fun _ => tried.loadRom_snd_of_lt, ?_, ?_⟩
  · rw [beside.tried_eq]
    rfl
  · intro path failure refused
    simp only [loadFile, if_pos refused]
  · intro patient
    have calm : tried.Patient := handleAll_patient patient requests
    refine ⟨?_, ?_⟩
    · intro operation
      exact similar.answer_of_patient calm (run_patient patient _) (fun _ => phase) fun _ => flag
    · intro rom large
      rw [loadRom_of_error (tried.memory.loadRom_of_lt large)]
      exact calm.answer_rejection _ false

/-- An observer that interrupts the first time it is told of a fault, and never again, keeps a load
from saying that the program is too large.  A cycle after that load comes to its end, which it does
not without the load. -/
theorem rejected_load_interrupted :
    let alarm : Observer := ⟨"alarm"⟩
    let machine := ((create {} (RandomSource.cycling #[])).subscribe alarm).assign alarm
      fun deliveries registered => ⟨registered, deliveries.length == 1⟩
    let rom : List UInt8 := List.replicate 3585 0
    Memory.maxRomSize < rom.length ∧ (machine.loadRom rom).2 ≠ .ok false ∧
      (machine.loadRom rom).1.cycle.2 ≠ machine.cycle.2 := by
  intro alarm machine rom
  obtain ⟨large, refused, finished, interrupted⟩ :
      Memory.maxRomSize < rom.length ∧ (machine.answer (.loadRom rom)).Interrupted ∧
        ¬ ((machine.loadRom rom).1.answer .cycle).Interrupted ∧
        (machine.answer .cycle).Interrupted := by
    decide +kernel
  exact ⟨large, loadRom_snd_ne_of_interrupted refused false,
    (cycle_snd_ne_of_interrupted interrupted finished).symm⟩

end Machine

end ChipEight
