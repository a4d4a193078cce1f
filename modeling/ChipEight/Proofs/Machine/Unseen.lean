import ChipEight.Proofs.Machine.Operation
import ChipEight.Proofs.Machine.Outcome

/-!
# Changes that a cycle does not see

Two things reach a machine in the middle of its work: the timer ticks, and key events are queued.
Neither is looked at when a word is fetched, when a cycle fails or when the observers are told of
it.  Such a change may come before or after the main part of a cycle, as long as the instruction
that is executed does not look at it either.
-/

namespace ChipEight.Machine

/-- A change to a machine that does not show when a word is fetched or a cycle fails. -/
structure Unseen (change : Machine → Machine) : Prop where
  phase : ∀ machine, (change machine).phase = machine.phase
  counter : ∀ machine, (change machine).registers.pc = machine.registers.pc
  word : ∀ machine, (change machine).nextOpcode = machine.nextOpcode
  failure? : ∀ machine instruction,
    (change machine).failure? instruction = machine.failure? instruction
  fetched : ∀ machine op, (change machine).fetched op = change (machine.fetched op)
  fail : ∀ machine cause pc fetched,
    (change machine).fail cause pc fetched =
      (change (machine.fail cause pc fetched).1, (machine.fail cause pc fetched).2)
  counted : ∀ machine count,
    { change machine with instructionCount := count } =
      change { machine with instructionCount := count }

variable {change : Machine → Machine} {machine : Machine}

theorem Unseen.count (unseen : Unseen change) (machine : Machine) :
    (change machine).instructionCount = machine.instructionCount := by
  have same := congrArg instructionCount (unseen.counted machine machine.instructionCount)
  exact same.symm

theorem Unseen.refusal? (unseen : Unseen change) (machine : Machine) :
    (change machine).refusal? = machine.refusal? := by
  rw [Machine.refusal?, Machine.refusal?, unseen.word]
  cases Instruction.decode? machine.nextOpcode with
  | none => rfl
  | some instruction => exact unseen.failure? machine instruction

theorem Unseen.cause? (unseen : Unseen change) (machine : Machine) :
    (change machine).cause? = machine.cause? := by
  rw [Machine.cause?, Machine.cause?, unseen.phase, unseen.counter, unseen.refusal?]

/-- A change that the next instruction does not see, either, can be made after the main part of the
cycle as well as before it. -/
theorem Unseen.fetchExecute (unseen : Unseen change)
    (blind : ∀ instruction, Instruction.decode? machine.nextOpcode = some instruction →
      machine.phase ≠ .halted → machine.cause? = none →
        (change (machine.fetched machine.nextOpcode)).effect instruction =
          change ((machine.fetched machine.nextOpcode).effect instruction)) :
    (change machine).fetchExecute =
      (change machine.fetchExecute.1, machine.fetchExecute.2) := by
  have outcome := machine.fetchExecute_outcome
  generalize machine.fetchExecute = result at outcome ⊢
  cases outcome with
  | idle halted => exact fetchExecute_eq_of_halted ((unseen.phase machine).trans halted)
  | strayed awake beyond =>
      rw [← unseen.phase] at awake
      rw [← unseen.counter] at beyond
      rw [(Outcome.strayed awake beyond).fetchExecute_eq, unseen.counter]
      exact unseen.fail machine _ _ _
  | refused awake within refuses =>
      rw [← unseen.phase] at awake
      rw [← unseen.counter] at within
      rw [← unseen.refusal?] at refuses
      rw [(Outcome.refused awake within refuses).fetchExecute_eq, unseen.counter, unseen.word,
        unseen.fetched]
      exact unseen.fail (machine.fetched machine.nextOpcode) _ _ _
  | @executed awake within instruction decoded succeeds =>
      have quiet : machine.cause? = none := by
        rw [cause?_of_le awake within, refusal?_of_decode? decoded, succeeds]
      have seen := blind instruction decoded awake quiet
      rw [← unseen.phase] at awake
      rw [← unseen.counter] at within
      rw [← unseen.word] at decoded
      rw [← unseen.failure?] at succeeds
      rw [(Outcome.executed awake within decoded succeeds).fetchExecute_eq]
      simp only [executed]
      rw [unseen.word, unseen.fetched, seen, unseen.counted, unseen.count]

/-! ## Ticks and queued keys -/

/-- The machine with its timer and its key queue adjusted. -/
def adjusted (onTimer : DelayTimer → DelayTimer)
    (onQueue : List (KeyEvent Key) → List (KeyEvent Key)) (machine : Machine) : Machine :=
  { machine with
    timer := onTimer machine.timer
    keypad := { machine.keypad with queue := onQueue machine.keypad.queue } }

theorem unseen_adjusted (onTimer : DelayTimer → DelayTimer)
    (onQueue : List (KeyEvent Key) → List (KeyEvent Key)) :
    Unseen (adjusted onTimer onQueue) where
  phase := fun _ => rfl
  counter := fun _ => rfl
  word := fun _ => rfl
  failure? := fun _ instruction => by cases instruction <;> rfl
  fetched := fun _ _ => rfl
  fail := fun machine cause pc fetched => by
    rw [fail_eq, fail_eq]
    rfl
  counted := fun _ _ => rfl

/-- An instruction that leaves the timer alone does not see that it is adjusted, and no instruction
sees the queue. -/
theorem effect_adjusted (onTimer : DelayTimer → DelayTimer)
    (onQueue : List (KeyEvent Key) → List (KeyEvent Key)) {instruction : Instruction}
    (untimed : ∀ x, instruction ≠ .readTimer x ∧ instruction ≠ .writeTimer x) :
    (machine.adjusted onTimer onQueue).effect instruction =
      (machine.effect instruction).adjusted onTimer onQueue := by
  cases instruction with
  | readTimer x => exact absurd rfl (untimed x).1
  | writeTimer x => exact absurd rfl (untimed x).2
  | waitKey x =>
      have same : (machine.adjusted onTimer onQueue).keypad.last? = machine.keypad.last? := rfl
      simp only [effect, awaited, same]
      cases machine.keypad.last? <;> rfl
  | _ => rfl

theorem unseen_queueKey (event : KeyEvent Key) : Unseen (queueKey · event) :=
  unseen_adjusted id (· ++ [event])

theorem effect_queueKey (machine : Machine) (event : KeyEvent Key) (instruction : Instruction) :
    (machine.queueKey event).effect instruction =
      (machine.effect instruction).queueKey event := by
  cases instruction with
  | readTimer x | writeTimer x => rfl
  | _ =>
      refine effect_adjusted id (· ++ [event]) ?_
      exact fun _ => ⟨Instruction.noConfusion, Instruction.noConfusion⟩

theorem fetchExecute_queueKey (machine : Machine) (event : KeyEvent Key) :
    (machine.queueKey event).fetchExecute =
      (machine.fetchExecute.1.queueKey event, machine.fetchExecute.2) :=
  (unseen_queueKey event).fetchExecute fun instruction _ _ _ =>
    effect_queueKey _ event instruction

end ChipEight.Machine
