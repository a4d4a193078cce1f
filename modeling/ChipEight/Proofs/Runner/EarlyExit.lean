import ChipEight.Proofs.Machine.KeyQueue
import ChipEight.Proofs.Machine.Similar
import ChipEight.Runner.Basic

/-!
# Frames that end early

A runner leaves a machine alone once it has halted, where a plain loop would go on with cycles that
still drain the key queue.  The two come to the same.  A machine halts in a cycle, a cycle drains
the queue before it does anything else, and so nothing is left to drain when the runner stops.  Only
a machine that has halted before the frame may have key events in its queue, and they stay there.

Several frames are one loop, which can be cut in two at any place.
-/

namespace ChipEight

namespace Machine

variable {machine : Machine}

/-! ## The key queue of a machine that halts -/

theorem cycle_queue (machine : Machine) : machine.cycle.1.keypad.queue = [] := by
  rw [cycle, fetchExecute_keypad]
  exact machine.keypad.drain_queue

/-- With no key event in its queue, a machine that has halted is not changed by a cycle. -/
theorem cycle_of_halted_of_queue_eq_nil (halted : machine.phase = .halted)
    (empty : machine.keypad.queue = []) : machine.cycle = (machine, .ok none) := by
  rw [cycle, drainKeys_of_queue_eq_nil empty, fetchExecute_eq_of_halted halted]

end Machine

namespace Runner

open Machine (Operation)

/-! ## The plain loop -/

/-- Cycles one after the other, whether or not the machine has halted.  An interruption ends
them. -/
def plainCycles : Nat → Machine → Machine × Except Interruption Unit
  | 0, machine => (machine, .ok ())
  | count + 1, machine =>
      match machine.cycle with
      | (after, .ok _) => plainCycles count after
      | (after, .error interruption) => (after, .error interruption)

/-- What a frame does to a machine, as a plain loop: cycles, a tick, and the redraw flag is taken
down. -/
def plainFrame (cycles : Nat) (machine : Machine) : Machine × Except Interruption Bool :=
  match plainCycles cycles machine with
  | (after, .ok ()) => (after.tick.takeRedraw.2, .ok after.tick.takeRedraw.1)
  | (after, .error interruption) => (after, .error interruption)

/-- Further cycles do nothing once the machine has halted and its key queue is empty. -/
theorem plainCycles_of_halted {machine : Machine} (halted : machine.phase = .halted)
    (empty : machine.keypad.queue = []) (count : Nat) :
    plainCycles count machine = (machine, .ok ()) := by
  induction count with
  | zero => rfl
  | succ count ih =>
      rw [plainCycles, Machine.cycle_of_halted_of_queue_eq_nil halted empty]
      exact ih

/-- The cycles that a runner leaves out would do nothing. -/
theorem runCycles_eq_plainCycles (count : Nat) {machine : Machine}
    (settled : machine.phase = .halted → machine.keypad.queue = []) :
    runCycles count machine = plainCycles count machine := by
  induction count generalizing machine with
  | zero => rfl
  | succ count ih =>
      unfold runCycles
      by_cases halted : machine.phase = .halted
      · rw [plainCycles_of_halted halted (settled halted)]
        exact if_pos halted
      · rw [if_neg (show ¬ (Cycled.machine machine).phase = .halted from halted), plainCycles]
        simp only [Cycled.cycle]
        -- A cycle that halts the machine has drained its queue first.
        have drained := machine.cycle_queue
        generalize machine.cycle = result at drained
        rcases result with ⟨after, failure | fetched⟩
        · rfl
        · exact ih fun _ => drained

theorem plainCycles_of_patient (count : Nat) {machine : Machine}
    (patient : machine.Patient) :
    plainCycles count machine = (machine.run (List.replicate count .cycle), .ok ()) := by
  induction count generalizing machine with
  | zero => rfl
  | succ count ih =>
      obtain ⟨fetched, returned⟩ := Machine.cycle_snd_of_patient patient
      have ran : machine.cycle = (machine.after .cycle, .ok fetched) := Prod.ext rfl returned
      rw [plainCycles, ran]
      exact ih (Machine.after_patient patient .cycle)

theorem plainFrame_of_patient (cycles : Nat) {machine : Machine}
    (patient : machine.Patient) :
    plainFrame cycles machine =
      (machine.run (List.replicate cycles .cycle ++ [.tick, .takeRedraw]),
        .ok (machine.run (List.replicate cycles .cycle)).screen.redraw) := by
  rw [plainFrame, plainCycles_of_patient cycles patient, Machine.run_append]
  rfl

/-! ## One frame -/

variable {runner : Runner Machine} {cycles : Nat}

/-- A frame of a machine that has not halted does what the plain loop does. -/
theorem runFrame_of_awake (rate : runner.settings.cyclesPerFrame = .ok cycles)
    (awake : runner.device.phase ≠ .halted) :
    runner.runFrame.1.device = (plainFrame cycles runner.device).1 ∧
      runner.runFrame.2 = (plainFrame cycles runner.device).2.mapError RunError.brokenOff := by
  have same := runCycles_eq_plainCycles cycles fun halted => absurd halted awake
  simp only [runFrame, rate, same, plainFrame]
  rcases plainCycles cycles runner.device with ⟨after, interruption | ⟨⟩⟩
  · exact ⟨rfl, rfl⟩
  · exact ⟨rfl, rfl⟩

/-- A frame of a machine that has halted is a tick and a look at the redraw flag. -/
theorem runFrame_of_halted (rate : runner.settings.cyclesPerFrame = .ok cycles)
    (halted : runner.device.phase = .halted) :
    runner.runFrame =
      ({ runner with
          device :=
            { runner.device with
              timer := runner.device.timer.tick
              screen := { runner.device.screen with redraw := false } }
          frameCount := runner.frameCount + 1
          delivered :=
            if runner.device.screen.redraw && runner.watched then
              runner.device.screen.lit :: runner.delivered
            else runner.delivered },
        .ok runner.device.screen.redraw) := by
  have idle : runCycles cycles runner.device = (runner.device, .ok ()) := by
    cases cycles with
    | zero => rfl
    | succ count => exact if_pos halted
  simp only [runFrame, rate, idle]
  rfl

/-! ## Several frames -/

section

variable {M E : Type} [Cycled M E]

/-- Frames in two parts, with the numbers of redrawn ones added.  The second part is left out if the
first one has not come to its end. -/
def runFramesTwice (runner : Runner M) (first second : Int) :
    Runner M × Except (RunError E) Nat :=
  match runner.runFrames first with
  | (between, .error failure) => (between, .error failure)
  | (between, .ok redrawn) =>
      match between.runFrames second with
      | (after, .error failure) => (after, .error failure)
      | (after, .ok more) => (after, .ok (redrawn + more))

/-- Frames that were counted before are added to the count. -/
theorem runFramesFrom_eq (earlier count : Nat) (runner : Runner M) :
    runFramesFrom earlier count runner =
      ((runFramesFrom 0 count runner).1, (runFramesFrom 0 count runner).2.map (earlier + ·)) := by
  induction count generalizing runner earlier with
  | zero => rfl
  | succ count ih =>
      unfold runFramesFrom
      rcases runner.runFrame with ⟨after, failure | redraw⟩
      · rfl
      · simp only
        rw [ih (earlier + redraw.toNat), ih (0 + redraw.toNat)]
        rcases runFramesFrom 0 count after with ⟨last, failure | redrawn⟩
        · rfl
        · simp only [Except.map, Nat.zero_add, Nat.add_assoc]

/-- Go on with more frames after some that have come to their end. -/
def resumeFrames (count : Nat) :
    Runner M × Except (RunError E) Nat → Runner M × Except (RunError E) Nat
  | (between, .ok redrawn) => runFramesFrom redrawn count between
  | (between, .error failure) => (between, .error failure)

theorem runFramesFrom_add (earlier first second : Nat) (runner : Runner M) :
    runFramesFrom earlier (first + second) runner =
      resumeFrames second (runFramesFrom earlier first runner) := by
  induction first generalizing runner earlier with
  | zero => rw [Nat.zero_add, runFramesFrom, resumeFrames]
  | succ first ih =>
      rw [Nat.succ_add]
      unfold runFramesFrom
      rcases runner.runFrame with ⟨after, failure | redraw⟩
      · rfl
      · exact ih (earlier + redraw.toNat) after

theorem runFramesTwice_eq_runFrames (runner : Runner M) (first second : Nat) :
    runner.runFramesTwice first second = runner.runFrames (first + second) := by
  have whole : runner.runFrames (first + second) =
      resumeFrames second (runFramesFrom 0 first runner) :=
    runFramesFrom_add 0 first second runner
  rw [whole, runFramesTwice, runFrames, Int.toNat_natCast]
  rcases runFramesFrom 0 first runner with ⟨between, failure | redrawn⟩
  · rfl
  · simp only [resumeFrames, runFrames, Int.toNat_natCast]
    rw [runFramesFrom_eq redrawn]
    rcases runFramesFrom 0 second between with ⟨after, failure | more⟩ <;> rfl

end

/-- Without interruptions a frame comes to its end, and so can the next one. -/
theorem runFrame_of_patient (rate : runner.settings.cyclesPerFrame = .ok cycles)
    (patient : runner.device.Patient) :
    ∃ after redrawn, runner.runFrame = (after, .ok redrawn) ∧ after.settings = runner.settings ∧
      after.device.Patient := by
  by_cases halted : runner.device.phase = .halted
  · exact ⟨_, _, runFrame_of_halted rate halted, rfl, patient⟩
  · have same := runCycles_eq_plainCycles cycles fun ended => absurd ended halted
    rw [plainCycles_of_patient cycles patient] at same
    have ran : runner.runFrame =
        ((runner.finishFrame (runner.device.run (List.replicate cycles .cycle))).1,
          .ok (runner.finishFrame (runner.device.run (List.replicate cycles .cycle))).2) := by
      simp only [runFrame, rate, same]
    refine ⟨_, _, ran, rfl, ?_⟩
    exact Machine.run_patient patient (List.replicate cycles .cycle)

theorem runFramesFrom_of_patient (rate : runner.settings.cyclesPerFrame = .ok cycles)
    (patient : runner.device.Patient) (earlier count : Nat) :
    ∃ redrawn, (runFramesFrom earlier count runner).2 = .ok redrawn := by
  induction count generalizing runner earlier with
  | zero => exact ⟨earlier, rfl⟩
  | succ count ih =>
      obtain ⟨after, redraw, ran, settings, calm⟩ := runFrame_of_patient rate patient
      rw [runFramesFrom, ran]
      exact ih (settings ▸ rate) calm (earlier + redraw.toNat)

/-- Let the settings give a number of cycles for a frame.  If the machine has not halted before the
frame, the frame leaves it as that number of cycles, a tick and a look at the redraw flag do, even
if it halts on the way; an interruption breaks off both in the same cycle.  If it has halted before,
the frame changes nothing but the timer and the redraw flag, and the keys and their queue stay as
they are.  Frames in two parts are the same frames in one, and where nobody interrupts, they all
come to their end. -/
theorem runFrame_agrees_with_plainFrame (runner : Runner Machine) (cycles : Nat)
    (rate : runner.settings.cyclesPerFrame = .ok cycles) :
    (runner.device.phase ≠ .halted →
        runner.runFrame.1.device = (plainFrame cycles runner.device).1 ∧
          runner.runFrame.2 = (plainFrame cycles runner.device).2.mapError RunError.brokenOff) ∧
      (runner.device.phase = .halted →
        runner.runFrame =
          ({ runner with
              device :=
                { runner.device with
                  timer := runner.device.timer.tick
                  screen := { runner.device.screen with redraw := false } }
              frameCount := runner.frameCount + 1
              delivered :=
                if runner.device.screen.redraw && runner.watched then
                  runner.device.screen.lit :: runner.delivered
                else runner.delivered },
            .ok runner.device.screen.redraw)) ∧
      (∀ first second : Nat,
        runner.runFramesTwice first second = runner.runFrames (first + second)) ∧
      (runner.device.Patient →
        plainFrame cycles runner.device =
            (runner.device.run (List.replicate cycles .cycle ++ [.tick, .takeRedraw]),
              .ok (runner.device.run (List.replicate cycles .cycle)).screen.redraw) ∧
          ∀ count, ∃ redrawn, (runner.runFrames count).2 = .ok redrawn) := by
  refine ⟨runFrame_of_awake rate, runFrame_of_halted rate, runner.runFramesTwice_eq_runFrames, ?_⟩
  intro patient
  refine ⟨plainFrame_of_patient cycles patient, ?_⟩
  intro count
  exact runFramesFrom_of_patient rate patient 0 count.toNat

/-- The second of three cycles halts the machine, and a key event is in the queue before the
frame. -/
theorem runFrame_agrees_with_plainFrame_halting :
    let settings : Settings := { policy := .known .halt }
    let before := [.loadRom [0x00, 0xE0, 0x00, 0x00], .postKey 5 true]
    let runner := create ((Machine.create settings (RandomSource.cycling #[])).run before)
      (some { cyclesPerSecond := 180 }) false
    runner.settings.cyclesPerFrame = .ok 3 ∧
      runner.device.phase = .running ∧
      runner.runFrame.1.device =
        runner.device.run (List.replicate 3 .cycle ++ [.tick, .takeRedraw]) ∧
      (runner.device.run [.cycle, .cycle]).phase = .halted := by
  intro settings before runner
  obtain ⟨rate, running, halted⟩ :
      (Settings.cyclesPerFrame { cyclesPerSecond := 180 }).toOption = some 3 ∧
        ((Machine.create settings (RandomSource.cycling #[])).run before).phase = .running ∧
        (((Machine.create settings (RandomSource.cycling #[])).run before).run
          [.cycle, .cycle]).phase = .halted := by
    decide +kernel
  have defined : runner.settings.cyclesPerFrame = .ok 3 := by
    change Settings.cyclesPerFrame { cyclesPerSecond := 180 } = .ok 3
    cases value : Settings.cyclesPerFrame { cyclesPerSecond := 180 } with
    | ok cycles =>
        rw [value] at rate
        exact congrArg Except.ok (Option.some.inj rate)
    | error failure =>
        rw [value] at rate
        cases rate
  have unobserved : runner.device.observers = [] := Machine.run_unobserved rfl before
  have patient : runner.device.Patient := Machine.patient_of_unobserved unobserved
  have awake : runner.device.phase ≠ .halted := by
    intro ended
    cases running.symm.trans ended
  obtain ⟨agrees, -, -, plain⟩ := runFrame_agrees_with_plainFrame runner 3 defined
  have moved := (agrees awake).1
  rw [(plain patient).1] at moved
  exact ⟨defined, running, moved, halted⟩

end Runner

end ChipEight
