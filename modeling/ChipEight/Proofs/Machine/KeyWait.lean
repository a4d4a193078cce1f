import ChipEight.Proofs.Keypad.History
import ChipEight.Proofs.Machine.FaultCause
import ChipEight.Proofs.Machine.FrozenFault

/-!
# Waiting for a key

A machine waits for a key by stepping back over the instruction that asks for it, so that the next
cycle fetches the same instruction again.  That works because nothing moves the program counter, the
memory or the phase in the meantime: a machine that waits always stands before an instruction that
asks for a key, and it never runs into a fault.

The key that ends the wait is the one whose current press is the most recent.  This is said in terms
of the key events that have taken effect since the machine was new.
-/

namespace ChipEight.Machine

open Keypad

variable {machine : Machine} {x : Fin 16} {history : List (KeyEvent Key)}

/-! ## The history of the keys -/

/-- The key events that take effect with an operation, the newest first.  Letting go of every key is
an event for each of them. -/
def keysFelt (machine : Machine) : Operation → List (KeyEvent Key)
  | .setKey code down =>
      match Key.ofCode code with
      | .ok key => [⟨key, down⟩]
      | .error _ => []
  | .cycle => machine.keypad.queue.reverse
  | .releaseAll => (List.finRange 16).map (⟨·, false⟩)
  | _ => []

/-- The history of the keys after some operations. -/
def keyHistory (machine : Machine) (history : List (KeyEvent Key)) :
    List Operation → List (KeyEvent Key)
  | [] => history
  | operation :: rest =>
      (machine.after operation).keyHistory (machine.keysFelt operation ++ history) rest

/-- Once the key queue has been drained, a cycle leaves the keypad alone. -/
theorem fetchExecute_keypad (machine : Machine) :
    machine.fetchExecute.1.keypad = machine.keypad := by
  by_cases halted : machine.phase = .halted
  · rw [fetchExecute_eq_of_halted halted]
  · cases causes : machine.cause? with
    | some cause =>
        have ran := fetchExecute_eq_of_some causes
        rw [ran]
        rfl
    | none =>
        obtain ⟨instruction, -, ran⟩ := fetchExecute_eq_of_none halted causes
        rw [ran, executed, effect_eq]
        rfl

theorem recalls_after (recalls : Recalls machine.keypad.held history) (operation : Operation) :
    Recalls (machine.after operation).keypad.held (machine.keysFelt operation ++ history) := by
  cases operation with
  | loadRom rom =>
      rcases machine.loadRom_cases rom with
        ⟨memory, -, loaded⟩ | ⟨cause, observers, deliveries, -, refused⟩
      · rw [after, loaded]
        exact recalls
      · rw [after, refused, record_eq]
        exact recalls
  | cycle =>
      rw [after, cycle, fetchExecute_keypad]
      exact recalls.drain
  | setKey code down =>
      rw [machine.after_of_peripheral (show (Operation.setKey code down).Peripheral from trivial)]
      simp only [Operation.onKeypad, keysFelt]
      cases Key.ofCode code with
      | ok key => exact recalls.apply ⟨key, down⟩
      | error failure => exact recalls
  | postKey code down =>
      rw [machine.after_of_peripheral (show (Operation.postKey code down).Peripheral from trivial)]
      simp only [Operation.onKeypad, keysFelt]
      cases Key.ofCode code <;> exact recalls
  | releaseAll => exact recalls_of_releases List.mem_finRange
  | tick | takeRedraw => exact recalls

theorem recalls_run (recalls : Recalls machine.keypad.held history)
    (operations : List Operation) :
    Recalls (machine.run operations).keypad.held (machine.keyHistory history operations) := by
  induction operations generalizing machine history with
  | nil => exact recalls
  | cons operation rest ih => exact ih (recalls_after recalls operation)

/-! ## One cycle of a machine that waits -/

/-- The machine waits for a key that is to go into a register. -/
structure Waits (machine : Machine) (x : Fin 16) : Prop where
  phase : machine.phase = .waitKey
  within : machine.registers.pc.toNat ≤ lastFetch
  asks : Instruction.decode? machine.nextOpcode = some (.waitKey x)

/-- While no key is held, asking for one leaves the program counter where it was. -/
theorem executed_waitKey_of_none (unheld : machine.keypad.last? = none) :
    machine.executed (.waitKey x) =
      { machine with
        lastOpcode := some machine.nextOpcode
        phase := .waitKey
        instructionCount := machine.instructionCount + 1 } := by
  have unheld : (machine.fetched machine.nextOpcode).keypad.last? = none := unheld
  have back : machine.registers.advance.rewind = machine.registers := by
    simp only [Registers.advance, Registers.rewind, UInt16.add_sub_cancel]
  rw [executed, effect, awaited, unheld]
  simp only [fetched, back]

theorem executed_waitKey_of_some {key : Key} (held : machine.keypad.last? = some key) :
    machine.executed (.waitKey x) =
      { machine with
        registers := machine.registers.advance.set x (UInt8.ofNat key.val)
        lastOpcode := some machine.nextOpcode
        phase := .running
        instructionCount := machine.instructionCount + 1 } := by
  have held : (machine.fetched machine.nextOpcode).keypad.last? = some key := held
  rw [executed, effect, awaited, held]
  rfl

theorem Waits.awake (waits : machine.Waits x) : machine.phase ≠ .halted := by
  rw [waits.phase]
  exact Phase.noConfusion

theorem Waits.cause?_eq_none (waits : machine.Waits x) : machine.cause? = none := by
  rw [cause?_of_le waits.awake waits.within, refusal?_of_decode? waits.asks]
  rfl

/-- A cycle of a machine that waits asks again. -/
theorem Waits.fetchExecute_eq (waits : machine.Waits x) :
    machine.fetchExecute = (machine.executed (.waitKey x), .ok (some machine.nextOpcode)) := by
  obtain ⟨instruction, decoded, ran⟩ := fetchExecute_eq_of_none waits.awake waits.cause?_eq_none
  rw [waits.asks] at decoded
  cases decoded
  exact ran

/-- A machine that stands still goes on waiting. -/
theorem Waits.of_standsStill {later : Machine} (waits : machine.Waits x)
    (still : machine.StandsStill later) : later.Waits x := by
  have word : later.nextOpcode = machine.nextOpcode := by
    rw [nextOpcode, still.memory, still.registers]
    rfl
  refine ⟨still.phase.trans waits.phase, ?_, ?_⟩
  · rw [still.registers]
    exact waits.within
  · rw [word]
    exact waits.asks

theorem Waits.drainKeys (waits : machine.Waits x) : machine.drainKeys.Waits x :=
  ⟨waits.phase, waits.within, waits.asks⟩

/-- A cycle that starts while no key is held goes on waiting. -/
theorem Waits.cycle_of_none (waits : machine.Waits x)
    (unheld : machine.drainKeys.keypad.held = []) :
    machine.cycle.1 =
      { machine.drainKeys with
        lastOpcode := some machine.nextOpcode
        instructionCount := machine.instructionCount + 1 } := by
  have unheld := executed_waitKey_of_none (x := x) (List.getLast?_eq_none_iff.mpr unheld)
  rw [cycle, waits.drainKeys.fetchExecute_eq, unheld]
  simp only [← waits.drainKeys.phase]
  rfl

/-- A cycle that starts while a key is held takes the last one and goes on with the program. -/
theorem Waits.cycle_of_some (waits : machine.Waits x) {key : Key}
    (held : machine.drainKeys.keypad.last? = some key) :
    machine.cycle.1 =
      { machine.drainKeys with
        registers := machine.registers.advance.set x (UInt8.ofNat key.val)
        lastOpcode := some machine.nextOpcode
        phase := .running
        instructionCount := machine.instructionCount + 1 } := by
  rw [cycle, waits.drainKeys.fetchExecute_eq, executed_waitKey_of_some held]
  rfl

/-! ## Where a machine waits -/

/-- If the machine waits for a key, it stands before an instruction that asks for one. -/
def Poised (machine : Machine) : Prop :=
  machine.phase = .waitKey → ∃ x, machine.Waits x

theorem waitKey_of_effect_phase {instruction : Instruction}
    (waiting : (machine.effect instruction).phase = .waitKey) :
    machine.phase = .waitKey ∨ ∃ x, instruction = .waitKey x := by
  cases instruction with
  | waitKey x => exact .inr ⟨x, rfl⟩
  | _ => exact .inl waiting

theorem waitKey_of_phaseAfter {policy : FaultPolicy} {phase : Phase}
    (waiting : policy.phaseAfter phase = .waitKey) : phase = .waitKey := by
  unfold FaultPolicy.phaseAfter at waiting
  split at waiting
  · cases waiting
  · exact waiting

theorem Poised.fetchExecute (poised : machine.Poised) : machine.fetchExecute.1.Poised := by
  intro waiting
  cases causes : machine.cause? with
  | some cause =>
      -- The fault would have to strike a machine that waits, and there is none.
      have ran := fetchExecute_eq_of_some causes
      rw [ran] at waiting
      obtain ⟨x, waits⟩ := poised (waitKey_of_phaseAfter waiting)
      rw [waits.cause?_eq_none] at causes
      cases causes
  | none =>
      have outcome := machine.fetchExecute_outcome
      generalize machine.fetchExecute = result at outcome waiting ⊢
      cases outcome with
      | idle halted =>
          rw [halted] at waiting
          cases waiting
      | strayed awake beyond =>
          rw [cause?_of_lt awake beyond] at causes
          cases causes
      | refused awake within refuses =>
          rw [cause?_of_le awake within, refuses] at causes
          cases causes
      | @executed awake within instruction decoded succeeds =>
          obtain ⟨x, rfl⟩ : ∃ x, instruction = .waitKey x := by
            rcases waitKey_of_effect_phase waiting with before | asks
            · obtain ⟨x, waits⟩ := poised before
              rw [waits.asks] at decoded
              exact ⟨x, (Option.some.inj decoded).symm⟩
            · exact asks
          cases held : machine.keypad.last? with
          | none =>
              rw [executed_waitKey_of_none held]
              exact ⟨x, rfl, within, decoded⟩
          | some key =>
              rw [executed_waitKey_of_some held] at waiting
              cases waiting

theorem Poised.after (poised : machine.Poised) (operation : Operation) :
    (machine.after operation).Poised := by
  by_cases restarts : operation.Restarts
  · intro waiting
    rw [machine.after_phase_of_restarts restarts] at waiting
    cases waiting
  · by_cases cycles : operation = .cycle
    · subst cycles
      have drained : machine.drainKeys.Poised := by
        intro waiting
        obtain ⟨x, waits⟩ := poised waiting
        exact ⟨x, waits.drainKeys⟩
      exact drained.fetchExecute
    · have still := machine.standsStill_of_ne_cycle cycles restarts
      intro waiting
      obtain ⟨x, waits⟩ := poised (still.phase.symm.trans waiting)
      exact ⟨x, waits.of_standsStill still⟩

theorem poised_run (settings : Settings) (random : RandomSource) (operations : List Operation) :
    ((create settings random).run operations).Poised :=
  run_preserves (fun _ operation poised => poised.after operation)
    (show (create settings random).Poised from Phase.noConfusion) operations

/-! ## As long as no key is held -/

/-- Throughout some operations no program is loaded, and no cycle starts while a key is held. -/
def Unanswered (machine : Machine) : List Operation → Prop
  | [] => True
  | operation :: rest =>
      ¬ operation.Restarts ∧ (operation = .cycle → machine.drainKeys.keypad.held = []) ∧
        (machine.after operation).Unanswered rest

instance Unanswered.decidable (machine : Machine) :
    (operations : List Operation) → Decidable (machine.Unanswered operations)
  | [] => .isTrue trivial
  | operation :: rest =>
      have := Unanswered.decidable (machine.after operation) rest
      inferInstanceAs (Decidable (_ ∧ _ ∧ _))

theorem Waits.after (waits : machine.Waits x) {operation : Operation}
    (unloaded : ¬ operation.Restarts)
    (unheld : operation = .cycle → machine.drainKeys.keypad.held = []) :
    (machine.after operation).Waits x := by
  by_cases cycles : operation = .cycle
  · rw [cycles, Machine.after, waits.cycle_of_none (unheld cycles)]
    exact ⟨waits.phase, waits.within, waits.asks⟩
  · exact waits.of_standsStill (machine.standsStill_of_ne_cycle cycles unloaded)

theorem Waits.run (waits : machine.Waits x) {operations : List Operation}
    (unanswered : machine.Unanswered operations) : (machine.run operations).Waits x := by
  induction operations generalizing machine with
  | nil => exact waits
  | cons operation rest ih =>
      obtain ⟨unloaded, unheld, later⟩ := unanswered
      exact ih (waits.after unloaded unheld) later

/-- A machine that waits for a key, whatever has been done to it since it was new, stands before an
instruction that asks for one.  Until a program is loaded or a key is found to be held, each cycle
asks again: nothing changes but the keypad and the count of instructions.  The first cycle that
finds a key held takes the one that was pressed last and goes on behind the instruction. -/
theorem waits_until_key_held (settings : Settings) (random : RandomSource)
    (arrival : List Operation)
    (waiting : ((create settings random).run arrival).phase = .waitKey) :
    let machine := (create settings random).run arrival
    machine.registers.pc.toNat ≤ 4094 ∧
      ∃ x : Fin 16,
        (machine.wordAtCounter / 4096 = 0xF ∧ machine.wordAtCounter / 256 % 16 = x.val ∧
          machine.wordAtCounter % 256 = 0x0A) ∧
        ∀ meanwhile, machine.Unanswered meanwhile →
          let before := machine.run meanwhile
          let after := before.cycle.1
          (before.drainKeys.keypad.held = [] →
            after.registers = before.registers ∧ after.stack = before.stack ∧
              after.memory = before.memory ∧ after.timer = before.timer ∧
              after.screen = before.screen ∧ after.faultCount = before.faultCount ∧
              after.phase = before.phase ∧
              after.instructionCount = before.instructionCount + 1) ∧
          (before.drainKeys.keypad.held ≠ [] →
            ∃ key : Key,
              PressedLast ((create settings random).keyHistory []
                (arrival ++ (meanwhile ++ [.cycle]))) key ∧
              after.registers = (before.registers.set x (UInt8.ofNat key.val)).advance ∧
              after.registers.pc.toNat = before.registers.pc.toNat + 2 ∧
              after.phase = .running) := by
  intro machine
  obtain ⟨x, waits⟩ := poised_run settings random arrival waiting
  have encoded := Instruction.encodes_of_decode? waits.asks
  rw [nextOpcode_word_toNat] at encoded
  refine ⟨waits.within, x, encoded, ?_⟩
  intro meanwhile unanswered before after
  have stillWaits : before.Waits x := waits.run unanswered
  refine ⟨?_, ?_⟩
  · intro unheld
    have again : after = _ := stillWaits.cycle_of_none unheld
    rw [again]
    exact ⟨rfl, rfl, rfl, rfl, rfl, rfl, rfl, rfl⟩
  · intro someHeld
    obtain ⟨key, last⟩ : ∃ key, before.drainKeys.keypad.last? = some key :=
      ⟨_, List.getLast?_eq_some_getLast someHeld⟩
    have taken : after = _ := stillWaits.cycle_of_some last
    have drained : after = (create settings random).run (arrival ++ (meanwhile ++ [.cycle])) := by
      rw [run_append, run_append]
      rfl
    have recalls := recalls_run (show Recalls (create settings random).keypad.held [] from
      recalls_nil) (arrival ++ (meanwhile ++ [.cycle]))
    rw [← drained, taken] at recalls
    refine ⟨key, recalls.pressedLast last, ?_⟩
    rw [taken]
    have within := stillWaits.within
    exact ⟨rfl, toNat_add_two (by simp only [lastFetch] at within; omega), rfl⟩

/-- Two keys go down while the machine waits, one of them twice and the other by way of the
queue. -/
theorem waits_until_key_held_queued :
    let arrival := [.loadRom [0xF3, 0x0A], .cycle]
    let meanwhile := [.cycle, .setKey 2 true, .postKey 7 true, .tick, .setKey 2 true]
    ((create {} (RandomSource.cycling #[])).run arrival).phase = .waitKey ∧
      ∃ key : Key,
        PressedLast ((create {} (RandomSource.cycling #[])).keyHistory []
          (arrival ++ (meanwhile ++ [.cycle]))) key ∧
        (((create {} (RandomSource.cycling #[])).run arrival).run meanwhile).cycle.1.registers =
          ((((create {} (RandomSource.cycling #[])).run arrival).run meanwhile).registers.set 3
            (UInt8.ofNat key.val)).advance := by
  intro arrival meanwhile
  obtain ⟨waiting, digit, unanswered, held⟩ :
      ((create {} (RandomSource.cycling #[])).run arrival).phase = .waitKey ∧
      ((create {} (RandomSource.cycling #[])).run arrival).wordAtCounter / 256 % 16 = 3 ∧
      ((create {} (RandomSource.cycling #[])).run arrival).Unanswered meanwhile ∧
      (((create {} (RandomSource.cycling #[])).run arrival).run
        meanwhile).drainKeys.keypad.held ≠ [] := by
    decide +kernel
  obtain ⟨-, x, ⟨-, register, -⟩, law⟩ :=
    waits_until_key_held {} (RandomSource.cycling #[]) arrival waiting
  obtain ⟨key, pressed, stored, -⟩ := (law meanwhile unanswered).2 held
  have number : x.val = 3 := register.symm.trans digit
  obtain rfl : x = 3 := Fin.ext number
  exact ⟨waiting, key, pressed, stored⟩

end ChipEight.Machine
