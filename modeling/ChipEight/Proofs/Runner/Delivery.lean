import ChipEight.Proofs.Machine.Similar
import ChipEight.Proofs.Screen.RedrawFlag
import ChipEight.Runner.Basic

/-!
# Frames are never stale

Whoever watches a runner gets a frame only when the redraw flag is up at the end of a frame.  That
this is enough rests on the flag alone: it tells of every change of the visible grid, whatever
operation has made it, and nobody but the runner takes it down.  So where the flag is down, the
frame that was delivered last still shows what is visible.

The cycles of a frame are operations like any other.  They may be fewer than the frame has room for,
since a machine that has halted is left alone.
-/

namespace ChipEight

namespace Machine

variable {machine : Machine}

/-! ## The flag of a machine's screen -/

/-- Instructions reach the screen by clearing it and by drawing on it. -/
theorem effect_flagTells (machine : Machine) (instruction : Instruction) :
    machine.screen.FlagTells (machine.effect instruction).screen := by
  cases instruction with
  | clearScreen => exact machine.screen.flagTells_clear
  | draw x y rows => exact machine.screen.flagTells_draw _ _ _ _ _
  | waitKey x =>
      simp only [effect, awaited]
      cases machine.keypad.last? <;> exact Screen.FlagTells.refl _
  | _ => exact Screen.FlagTells.refl _

theorem fetchExecute_flagTells (machine : Machine) :
    machine.screen.FlagTells machine.fetchExecute.1.screen := by
  by_cases halted : machine.phase = .halted
  · rw [fetchExecute_eq_of_halted halted]
    exact Screen.FlagTells.refl _
  · cases causes : machine.cause? with
    | none =>
        obtain ⟨instruction, -, ran⟩ := fetchExecute_eq_of_none halted causes
        rw [ran]
        exact (machine.fetched machine.nextOpcode).effect_flagTells instruction
    | some cause =>
        have ran := fetchExecute_eq_of_some causes
        rw [ran]
        exact Screen.FlagTells.refl _

/-- Every operation but one keeps to the flag. -/
theorem after_flagTells (machine : Machine) {operation : Operation}
    (other : operation ≠ .takeRedraw) :
    machine.screen.FlagTells (machine.after operation).screen := by
  rcases operation.load_or_cycle_or_peripheral with ⟨rom, rfl⟩ | rfl | peripheral
  · simp only [after]
    rcases machine.loadRom_cases rom with
      ⟨memory, -, loaded⟩ | ⟨cause, observers, deliveries, -, refused⟩
    · rw [loaded]
      exact machine.screen.flagTells_initial
    · rw [refused, record_eq]
      exact Screen.FlagTells.refl _
  · exact machine.drainKeys.fetchExecute_flagTells
  · rw [machine.after_of_peripheral peripheral]
    cases operation with
    | takeRedraw => exact absurd rfl other
    | _ => exact Screen.FlagTells.refl _

theorem run_flagTells (machine : Machine) {operations : List Operation}
    (untaken : .takeRedraw ∉ operations) :
    machine.screen.FlagTells (machine.run operations).screen := by
  induction operations generalizing machine with
  | nil => exact Screen.FlagTells.refl _
  | cons operation rest ih =>
      rw [List.mem_cons, not_or] at untaken
      obtain ⟨other, restUntaken⟩ := untaken
      exact (machine.after_flagTells (Ne.symm other)).trans (ih _ restUntaken)

theorem cycle_snd_of_unobserved (unobserved : machine.observers = []) :
    ∃ fetched, machine.cycle.2 = .ok fetched :=
  cycle_snd_of_patient (patient_of_unobserved unobserved)

end Machine

namespace Runner

open Machine (Operation)

/-! ## The cycles of a frame -/

/-- The cycles of a frame run to their end where nobody interrupts them. -/
theorem runCycles_of_unobserved (count : Nat) {machine : Machine}
    (unobserved : machine.observers = []) :
    ∃ cycles ≤ count, runCycles count machine =
      (machine.run (List.replicate cycles .cycle), .ok ()) := by
  induction count generalizing machine with
  | zero => exact ⟨0, Nat.le_refl 0, rfl⟩
  | succ count ih =>
      unfold runCycles
      by_cases halted : machine.phase = .halted
      · exact ⟨0, Nat.zero_le _, if_pos halted⟩
      · obtain ⟨fetched, returned⟩ := Machine.cycle_snd_of_unobserved unobserved
        have ran : machine.cycle = (machine.after .cycle, .ok fetched) := Prod.ext rfl returned
        obtain ⟨cycles, bound, later⟩ := ih (Machine.after_unobserved unobserved .cycle)
        refine ⟨cycles + 1, Nat.succ_le_succ bound, ?_⟩
        rw [if_neg (show ¬ (Cycled.machine machine).phase = .halted from halted)]
        simp only [Cycled.cycle, ran]
        exact later

/-! ## Operating a runner -/

/-- What can be done to a runner and its machine. -/
inductive Task where
  | frame
  | frames (count : Int)
  | operate (operation : Machine.Operation)
  | pressKey (code : Int)
  | releaseKey (code : Int)
deriving DecidableEq

/-- Operate the machine of a runner. -/
def operate (runner : Runner Machine) (operation : Machine.Operation) : Runner Machine :=
  { runner with device := runner.device.after operation }

/-- The runner after a task.  Keys go into the queue of the machine. -/
def after (runner : Runner Machine) : Task → Runner Machine
  | .frame => runner.runFrame.1
  | .frames count => (runner.runFrames count).1
  | .operate operation => runner.operate operation
  | .pressKey code => runner.operate (.postKey code true)
  | .releaseKey code => runner.operate (.postKey code false)

/-- The runner after a sequence of tasks. -/
def perform (runner : Runner Machine) (tasks : List Task) : Runner Machine :=
  tasks.foldl after runner

/-- Between two moments a number of frames was delivered. -/
def Delivers (before after : Runner Machine) (count : Nat) : Prop :=
  ∃ frames, after.delivered = frames ++ before.delivered ∧ frames.length = count

/-- The frame that was delivered last shows what is visible. -/
def UpToDate (runner : Runner Machine) : Prop :=
  runner.delivered.head? = some runner.device.screen.lit

/-- What the tasks preserve: the runner is watched, nobody interrupts its machine, and where the
redraw flag is down, the last frame is up to date. -/
structure Faithful (runner : Runner Machine) : Prop where
  watched : runner.watched = true
  unobserved : runner.device.observers = []
  shown : runner.device.screen.redraw = false → runner.UpToDate

variable {runner : Runner Machine} {cycles : Nat}

theorem Faithful.operate (faithful : runner.Faithful) {operation : Machine.Operation}
    (other : operation ≠ .takeRedraw) : (runner.operate operation).Faithful where
  watched := faithful.watched
  unobserved := Machine.after_unobserved faithful.unobserved operation
  shown := by
    intro down
    obtain ⟨downBefore, same⟩ := runner.device.after_flagTells other down
    exact (faithful.shown downBefore).trans (congrArg some same.symm)

/-- The end of a frame, with the machine as the cycles leave it: a picture is delivered if the flag
is up, and otherwise none is needed. -/
theorem finishFrame_delivers (watched : runner.watched = true) {machine : Machine}
    (unobserved : machine.observers = [])
    (shown : machine.screen.redraw = false →
      runner.delivered.head? = some machine.screen.lit) :
    runner.Delivers (runner.finishFrame machine).1 machine.screen.redraw.toNat ∧
      (runner.finishFrame machine).1.UpToDate ∧ (runner.finishFrame machine).1.Faithful := by
  have delivered : (runner.finishFrame machine).1.delivered =
      if machine.screen.redraw then machine.screen.lit :: runner.delivered
      else runner.delivered := by
    have kept : (runner.finishFrame machine).1.delivered =
        if machine.screen.redraw && runner.watched then machine.screen.lit :: runner.delivered
        else runner.delivered := rfl
    rw [kept, watched, Bool.and_true]
  have current : (runner.finishFrame machine).1.delivered.head? = some machine.screen.lit := by
    rw [delivered]
    cases flag : machine.screen.redraw with
    | true => rfl
    | false => exact shown flag
  refine ⟨?_, current, watched, unobserved, fun _ => current⟩
  rw [Delivers, delivered]
  cases machine.screen.redraw with
  | true => exact ⟨[machine.screen.lit], rfl, rfl⟩
  | false => exact ⟨[], rfl, rfl⟩

/-- A frame whose number of cycles is defined comes to its end. -/
theorem Faithful.runFrame (faithful : runner.Faithful)
    (rate : runner.settings.cyclesPerFrame = .ok cycles) :
    ∃ after redrawn, runner.runFrame = (after, .ok redrawn) ∧ after.settings = runner.settings ∧
      runner.Delivers after redrawn.toNat ∧ after.UpToDate ∧ after.Faithful := by
  obtain ⟨count, -, ran⟩ := runCycles_of_unobserved cycles faithful.unobserved
  have untaken : Machine.Operation.takeRedraw ∉ List.replicate count .cycle := by
    intro member
    cases List.eq_of_mem_replicate member
  have told := runner.device.run_flagTells untaken
  have alone := Machine.run_unobserved faithful.unobserved (List.replicate count .cycle)
  generalize runner.device.run (List.replicate count .cycle) = machine at ran told alone
  refine ⟨(runner.finishFrame machine).1, machine.screen.redraw, ?_, rfl,
    finishFrame_delivers faithful.watched alone ?_⟩
  · simp only [Runner.runFrame, rate, ran]
    rfl
  · intro down
    obtain ⟨downBefore, same⟩ := told down
    rw [same]
    exact faithful.shown downBefore

theorem Delivers.trans {before between after : Runner Machine} {first second : Nat}
    (earlier : before.Delivers between first) (later : between.Delivers after second) :
    before.Delivers after (first + second) := by
  obtain ⟨frames, kept, length⟩ := earlier
  obtain ⟨newer, keptLater, newerLength⟩ := later
  refine ⟨newer ++ frames, ?_, ?_⟩
  · rw [keptLater, kept, List.append_assoc]
  · rw [List.length_append, newerLength, length, Nat.add_comm]

/-- Several frames deliver as many pictures as they count. -/
theorem Faithful.runFramesFrom (faithful : runner.Faithful)
    (rate : runner.settings.cyclesPerFrame = .ok cycles) (earlier count : Nat) :
    ∃ after redrawn, runFramesFrom earlier count runner = (after, .ok (earlier + redrawn)) ∧
      runner.Delivers after redrawn ∧ (runner.UpToDate ∨ 0 < count → after.UpToDate) ∧
      after.Faithful := by
  induction count generalizing runner earlier with
  | zero =>
      refine ⟨runner, 0, rfl, ⟨[], rfl, rfl⟩, ?_, faithful⟩
      rintro (current | impossible)
      · exact current
      · exact absurd impossible (Nat.lt_irrefl 0)
  | succ count ih =>
      obtain ⟨next, redraw, ran, settings, first, current, still⟩ := faithful.runFrame rate
      obtain ⟨after, redrawn, later, rest, currentLater, stillLater⟩ :=
        ih still (settings ▸ rate) (earlier + redraw.toNat)
      refine ⟨after, redraw.toNat + redrawn, ?_, first.trans rest,
        fun _ => currentLater (.inl current), stillLater⟩
      rw [Runner.runFramesFrom, ran]
      simp only [later, Nat.add_assoc]

/-- Without a number of cycles for a frame, nothing happens. -/
theorem runFrame_of_error {failure : RateError}
    (rate : runner.settings.cyclesPerFrame = .error failure) :
    runner.runFrame = (runner, .error (.rate failure)) := by
  rw [runFrame, rate]

theorem Faithful.runFrames (faithful : runner.Faithful) (count : Int) :
    (runner.runFrames count).1.Faithful := by
  cases rate : runner.settings.cyclesPerFrame with
  | ok cycles =>
      obtain ⟨after, redrawn, ran, -, -, still⟩ := faithful.runFramesFrom rate 0 count.toNat
      rw [Runner.runFrames, ran]
      exact still
  | error failure =>
      rw [Runner.runFrames]
      cases count.toNat with
      | zero => exact faithful
      | succ count =>
          rw [Runner.runFramesFrom, runFrame_of_error rate]
          exact faithful

theorem Faithful.after (faithful : runner.Faithful) {task : Task}
    (other : task ≠ .operate .takeRedraw) : (runner.after task).Faithful := by
  cases task with
  | frame =>
      cases rate : runner.settings.cyclesPerFrame with
      | ok cycles =>
          obtain ⟨after, redrawn, ran, -, -, -, still⟩ := faithful.runFrame rate
          rw [Runner.after, ran]
          exact still
      | error failure =>
          rw [Runner.after, runFrame_of_error rate]
          exact faithful
  | frames count => exact faithful.runFrames count
  | operate operation => exact faithful.operate fun same => other (congrArg Task.operate same)
  | pressKey code => exact faithful.operate Machine.Operation.noConfusion
  | releaseKey code => exact faithful.operate Machine.Operation.noConfusion

theorem Faithful.perform (faithful : runner.Faithful) {tasks : List Task}
    (untaken : .operate .takeRedraw ∉ tasks) : (runner.perform tasks).Faithful := by
  induction tasks generalizing runner with
  | nil => exact faithful
  | cons task rest ih =>
      rw [List.mem_cons, not_or] at untaken
      obtain ⟨other, restUntaken⟩ := untaken
      exact ih (faithful.after (Ne.symm other)) restUntaken

/-- A new machine asks to be drawn. -/
theorem faithful_create (settings : Settings) (random : RandomSource) (rate : Option Settings) :
    (create (Machine.create settings random) rate true).Faithful where
  watched := rfl
  unobserved := rfl
  shown := by
    intro down
    cases down

/-- Let frames of a new machine be watched, and let nobody but the runner take the redraw flag down.
After every frame the one that was delivered last shows what is visible, a frame gives back whether
it has delivered a picture, and several frames give back how many they have delivered.  Frames fail
only if the settings give no number of cycles for them, and then nothing changes. -/
theorem delivered_frames_current (settings : Settings) (random : RandomSource)
    (rate : Option Settings) (tasks : List Task) (untaken : .operate .takeRedraw ∉ tasks) :
    let runner := (create (Machine.create settings random) rate true).perform tasks
    (∀ cycles, runner.settings.cyclesPerFrame = .ok cycles →
        (∃ redrawn, runner.runFrame.2 = .ok redrawn ∧
          runner.Delivers runner.runFrame.1 redrawn.toNat ∧ runner.runFrame.1.UpToDate) ∧
        ∀ count, ∃ redrawn, (runner.runFrames count).2 = .ok redrawn ∧
          runner.Delivers (runner.runFrames count).1 redrawn ∧
          (0 < count → (runner.runFrames count).1.UpToDate)) ∧
      ∀ failure, runner.settings.cyclesPerFrame = .error failure →
        runner.runFrame = (runner, .error (.rate failure)) ∧
          ∀ count, 0 < count → runner.runFrames count = (runner, .error (.rate failure)) := by
  intro runner
  have faithful : runner.Faithful := (faithful_create settings random rate).perform untaken
  refine ⟨?_, ?_⟩
  · intro cycles defined
    refine ⟨?_, ?_⟩
    · obtain ⟨after, redrawn, ran, -, delivers, current, -⟩ := faithful.runFrame defined
      rw [ran]
      exact ⟨redrawn, rfl, delivers, current⟩
    · intro count
      obtain ⟨after, redrawn, ran, delivers, current, -⟩ :=
        faithful.runFramesFrom defined 0 count.toNat
      rw [Nat.zero_add] at ran
      rw [runFrames, ran]
      exact ⟨redrawn, rfl, delivers, fun positive => current (.inr (Int.lt_toNat.mpr positive))⟩
  · intro failure undefined
    refine ⟨runFrame_of_error undefined, ?_⟩
    intro count positive
    obtain ⟨rest, more⟩ : ∃ rest, count.toNat = rest + 1 :=
      Nat.exists_eq_add_one.mpr (Int.lt_toNat.mpr positive)
    rw [runFrames, more, runFramesFrom, runFrame_of_error undefined]

/-- A sprite is drawn in a first frame, and a key goes down before the next one. -/
theorem delivered_frames_current_sprite :
    let tasks := [.operate (.loadRom [0xD0, 0x05, 0x12, 0x02]), .frame, .pressKey 5]
    let rate : Settings := { cyclesPerSecond := 60 }
    .operate .takeRedraw ∉ tasks ∧
      ((create (Machine.create {} (RandomSource.cycling #[])) rate true).perform
        tasks).runFrame.1.UpToDate := by
  intro tasks rate
  have untaken : .operate .takeRedraw ∉ tasks := by decide
  refine ⟨untaken, ?_⟩
  have rated : ((create (Machine.create {} (RandomSource.cycling #[])) rate true).perform
      tasks).settings.cyclesPerFrame.isOk = true := by
    decide +kernel
  have law := delivered_frames_current {} (RandomSource.cycling #[]) rate tasks untaken
  cases defined : ((create (Machine.create {} (RandomSource.cycling #[])) rate true).perform
      tasks).settings.cyclesPerFrame with
  | ok cycles =>
      obtain ⟨⟨redrawn, -, -, current⟩, -⟩ := law.1 cycles defined
      exact current
  | error failure =>
      rw [defined] at rated
      cases rated

end Runner

end ChipEight
