import ChipEight.Proofs.CommandLine.Configuration
import ChipEight.Proofs.Runner.Course
import Mathlib.Algebra.Order.Ring.Rat
import Mathlib.Data.Rat.Floor
import Mathlib.Tactic.Linarith
import Mathlib.Tactic.Positivity

/-!
# Pacing in exact time

A paced run is never fast: counted from the first reading of the loop, no frame is started before
all the periods of the frames before it have passed.  Nor does its schedule stay far behind: after a
frame the next one is due no more than four periods before the reading that measured the lag.  All
that is asked of the clock is that its readings do not go back, and times are exact.

The invariant of the loop is that the next frame is due no earlier than its turn.  A frame moves
both by one period.  Giving up missed frames moves only the schedule, and only to a later time.
-/

namespace ChipEight

/-! ## Punctual frames -/

namespace FrameTimes

/-- Counted from `start`, the frame with number `k` is started after `k` periods at the earliest,
and after no frame is the next one due more than four periods before the reading that measured the
lag. -/
structure Punctual (frames : List (FrameTimes ℚ)) (start period : ℚ) : Prop where
  neverFast (k : ℕ) (frame : FrameTimes ℚ) (started : frames[k]? = some frame) :
    start + k * period ≤ frame.begun
  neverFarBehind (frame : FrameTimes ℚ) (started : frame ∈ frames) (sequel : Sequel ℚ)
    (followed : frame.sequel = some sequel) : sequel.tested - 4 * period ≤ sequel.next

variable {frames : List (FrameTimes ℚ)} {frame : FrameTimes ℚ} {start period : ℚ}

theorem punctual_nil : Punctual [] start period := by
  constructor
  · intro k frame started
    cases started
  · intro frame started
    cases started

/-- The frames after the first one are counted from one period later. -/
theorem Punctual.cons (begun : start ≤ frame.begun)
    (near : ∀ sequel, frame.sequel = some sequel → sequel.tested - 4 * period ≤ sequel.next)
    (later : Punctual frames (start + period) period) :
    Punctual (frame :: frames) start period := by
  constructor
  · intro k other started
    cases k with
    | zero =>
        cases started
        simpa using begun
    | succ k =>
        have passed := later.neverFast k other started
        push_cast
        linarith
  · intro other started
    rcases List.mem_cons.mp started with rfl | started
    · exact near
    · exact later.neverFarBehind other started

/-- Only so many punctual frames can be started before a deadline. -/
theorem Punctual.length_le {hz : ℤ} {duration : ℚ} (rate : 1 ≤ hz)
    (punctual : Punctual frames start (1 / hz))
    (early : ∀ frame ∈ frames, frame.begun < start + duration) :
    frames.length ≤ ⌈duration * hz⌉₊ := by
  rcases Nat.eq_zero_or_eq_succ_pred frames.length with none | more
  · rw [none]
    exact Nat.zero_le _
  · -- The last frame is started before the deadline, when the periods of all others have passed.
    have inside : frames.length.pred < frames.length := by omega
    have late := punctual.neverFast _ _ (List.getElem?_eq_getElem inside)
    have soon := early _ (List.getElem_mem inside)
    have positive : (0 : ℚ) < hz := by exact_mod_cast rate
    have passed : (frames.length.pred : ℚ) * (1 / hz) < duration := by linarith
    rw [mul_one_div, div_lt_iff₀ positive] at passed
    rw [more]
    exact Nat.lt_ceil.mpr passed

end FrameTimes

open FrameTimes (Punctual)

/-! ## Steady clocks -/

namespace Course

/-- The readings of the clock do not go back. -/
def Steady (course : Course ℚ) : Prop :=
  course.readings.Pairwise (· ≤ ·)

instance (course : Course ℚ) : Decidable course.Steady :=
  inferInstanceAs (Decidable (course.readings.Pairwise (· ≤ ·)))

variable {first second : Course ℚ}

theorem Steady.left (steady : (first.append second).Steady) : first.Steady :=
  (List.pairwise_append.mp steady).1

theorem Steady.right (steady : (first.append second).Steady) : second.Steady :=
  (List.pairwise_append.mp steady).2.1

end Course

/-! ## The loop -/

namespace Schedule

variable {schedule : Schedule ℚ} {now : ℚ}

theorem sub_le_next_of_near (near : schedule.lags now = false) :
    now - 4 * schedule.period ≤ schedule.next := by
  have within : ¬ schedule.period * 4 < now - schedule.next := of_decide_eq_false near
  linarith

theorem next_add_lt_of_far (far : schedule.lags now = true) :
    schedule.next + 4 * schedule.period < now := by
  have beyond : schedule.period * 4 < now - schedule.next := of_decide_eq_true far
  linarith

end Schedule

namespace PacedRun

variable {M E C : Type}

/-- The frames that the loop starts are punctual from any time at which the first one is not yet
due. -/
theorem Trace.punctual {schedule : Schedule ℚ} {run : PacedRun M C}
    {result : PacedRun M C × Except (RunError E) Unit} {course : Course ℚ}
    (trace : Trace schedule run result course) {start : ℚ} (forward : 0 ≤ schedule.period)
    (due : start ≤ schedule.next) (steady : course.Steady) :
    Punctual course.frames start schedule.period := by
  induction trace generalizing start with
  | cut schedule run => exact FrameTimes.punctual_nil
  | last turn =>
      cases turn with
      | stopped => exact FrameTimes.punctual_nil
      | expired now clock => exact FrameTimes.punctual_nil
      | brokenOff now after failure ready uncounted =>
          refine .cons (due.trans (not_lt.mp ready.2)) ?_ FrameTimes.punctual_nil
          intro sequel followed
          cases followed
  | next schedule turn rest ih =>
      have later : start + schedule.period ≤ schedule.advance.next := by
        rw [Schedule.advance]
        linarith
      cases turn with
      | waited now clock => exact ih forward due steady.right
      | kept now tested after ready counted near =>
          refine .cons (due.trans (not_lt.mp ready.2)) ?_ (ih forward later steady.right)
          rintro sequel ⟨⟩
          exact Schedule.sub_le_next_of_near near
      | resumed now tested restart after ready counted far =>
          -- The new start is read after the lag was measured, and so it is no earlier.
          have lagging : schedule.advance.next + 4 * schedule.period < tested :=
            Schedule.next_add_lt_of_far far
          have ordered : tested ≤ restart :=
            List.rel_of_pairwise_cons (List.pairwise_cons.mp steady.left).2
              (List.mem_singleton_self _)
          refine .cons (due.trans (not_lt.mp ready.2)) ?_ (ih forward ?_ steady.right)
          · rintro sequel ⟨⟩
            change tested - 4 * schedule.period ≤ restart
            linarith
          · change start + schedule.period ≤ restart
            linarith

/-! ## Whole runs -/

variable [Cycled M E] [Timekeeper C ℚ]

theorem startCourse_punctual (untilPicture : Bool) (turns : ℕ) (deadline : Option ℚ)
    (run : PacedRun M C) {period : ℚ} (forward : 0 ≤ period)
    (steady : (run.startCourse untilPicture turns period deadline).Steady) :
    Punctual (run.startCourse untilPicture turns period deadline).frames
      (Timekeeper.read run.clock).1 period :=
  (loop_trace untilPicture turns ⟨period, (Timekeeper.read run.clock).1, deadline⟩
    { run with clock := (Timekeeper.read run.clock).2 }).punctual forward (le_refl _) steady.right

theorem startCourse_inTime {untilPicture : Bool} {turns : ℕ} {period deadline : ℚ}
    {run : PacedRun M C} {frame : FrameTimes ℚ}
    (started : frame ∈ (run.startCourse untilPicture turns period (some deadline)).frames) :
    frame.begun < deadline := by
  have early := (loop_trace untilPicture turns
    ⟨period, (Timekeeper.read run.clock).1, some deadline⟩
    { run with clock := (Timekeeper.read run.clock).2 }).inTime started
  exact not_le.mp (of_decide_eq_false early)

section

variable {run : PacedRun M C} {turns : ℕ} (rate : 1 ≤ run.runner.settings.timerHz)
include rate

theorem pacedCourse_eq (untilPicture : Bool) (turns : ℕ) (deadline : Option ℚ) :
    run.pacedCourse untilPicture turns deadline =
      run.startCourse untilPicture turns (1 / (run.runner.settings.timerHz : ℚ)) deadline := by
  have period : run.runner.settings.period ℚ = .ok (1 / (run.runner.settings.timerHz : ℚ)) :=
    if_neg (by omega)
  rw [pacedCourse, period]

theorem pacedCourse_punctual {untilPicture : Bool} {deadline : Option ℚ}
    (steady : (run.pacedCourse untilPicture turns deadline).Steady) :
    Punctual (run.pacedCourse untilPicture turns deadline).frames (Timekeeper.read run.clock).1
      (1 / run.runner.settings.timerHz) := by
  have positive : (0 : ℚ) < run.runner.settings.timerHz := by exact_mod_cast rate
  rw [pacedCourse_eq rate] at steady ⊢
  exact startCourse_punctual untilPicture turns deadline run (by positivity) steady

variable (run) in
/-- The time that a run has is counted from a reading before the first one of the loop. -/
theorem pacedCourse_length_le {now duration : ℚ}
    (steady : ((Course.reading now).append
      (run.pacedCourse false turns (some (now + duration)))).Steady) :
    (run.pacedCourse false turns (some (now + duration))).frames.length ≤
      ⌈duration * run.runner.settings.timerHz⌉₊ := by
  have punctual := pacedCourse_punctual rate steady.right
  rw [pacedCourse_eq rate] at steady punctual ⊢
  have ordered : now ≤ (Timekeeper.read run.clock).1 :=
    (List.pairwise_append.mp steady).2.2 now (List.mem_singleton_self now) _ List.mem_cons_self
  apply punctual.length_le rate
  intro frame started
  exact (startCourse_inTime started).trans_le (add_le_add_left ordered duration)

theorem courseWithin_length_le {duration : ℚ} (steady : (run.courseWithin turns duration).Steady) :
    (run.courseWithin turns duration).frames.length ≤ ⌈duration * run.runner.settings.timerHz⌉₊ :=
  pacedCourse_length_le { run with clock := Timekeeper.goOn (Timekeeper.read run.clock).2 } rate
    steady

theorem runWithin_frameCount_le {duration : ℚ} (steady : (run.courseWithin turns duration).Steady) :
    (run.runWithin turns duration).1.runner.frameCount ≤
      run.runner.frameCount + ⌈duration * run.runner.settings.timerHz⌉₊ := by
  rw [runWithin_frameCount]
  exact Nat.add_le_add_left
    ((Course.finished_le_length _).trans (courseWithin_length_le rate steady)) _

end

end PacedRun

/-! ## The command -/

namespace Command

variable {depth : ℕ} {options : Options} {read : Text → Except FileError (List UInt8)}
  {random : RandomSource} {runner : Runner Machine}

theorem frameCount_of_prepare (prepared : prepare depth options read random = .ok runner) :
    runner.frameCount = 0 := by
  unfold prepare at prepared
  repeat' split at prepared
  all_goals cases prepared
  rfl

theorem timerHz_of_prepare (prepared : prepare depth options read random = .ok runner) :
    1 ≤ runner.settings.timerHz := by
  cases accepted : options.settings depth read with
  | error failure =>
      simp only [prepare, accepted] at prepared
      split at prepared <;> cases prepared
  | ok settings =>
      rcases prepare_of_ok accepted random with ⟨outcome, stopped, -⟩ | ⟨other, ready, kept, -⟩
      · rw [stopped] at prepared
        cases prepared
      · rw [ready] at prepared
        cases prepared
        rw [kept]
        have valid := Options.validate_of_settings accepted
        exact ((Settings.validate_eq_ok_iff settings).mp valid).2.1

theorem runPaced_runner {C : Type} [Timekeeper C ℚ] {time : ℚ}
    (known : duration ℚ options runner.settings = .ok time) (turns : ℕ) (clock : C) :
    (runPaced turns options runner clock).1 =
      (PacedRun.runWithin turns ⟨runner, clock⟩ time).1.runner := by
  rw [runPaced, known]
  rcases ran : PacedRun.runWithin turns ⟨runner, clock⟩ time with ⟨after, failure | ⟨⟩⟩
  · simp only [ran]
  · simp only [ran]

/-- The time that frames take at the timer rate is enough for that many frames and no more. -/
theorem runPaced_frameCount_le {C : Type} [Timekeeper C ℚ] {clock : C} {turns : ℕ} {count : ℤ}
    (prepared : prepare depth options read random = .ok runner)
    (given : options.frames = .value count)
    (steady : (PacedRun.courseWithin turns ⟨runner, clock⟩
      ((count : ℚ) / runner.settings.timerHz)).Steady) :
    ((runPaced turns options runner clock).1.frameCount : ℤ) ≤ max count 0 := by
  have rate := timerHz_of_prepare prepared
  have positive : (0 : ℚ) < runner.settings.timerHz := by exact_mod_cast rate
  have known :
      duration ℚ options runner.settings = .ok ((count : ℚ) / runner.settings.timerHz) := by
    rw [duration, given]
    exact if_neg (by omega)
  have bound := PacedRun.runWithin_frameCount_le rate steady
  rw [← runPaced_runner known turns clock, frameCount_of_prepare prepared, zero_add,
    div_mul_cancel₀ _ positive.ne', Nat.ceil_intCast] at bound
  omega

end Command

/-! ## Every paced run -/

namespace PacedRun

/-- Let times be exact and the readings of a clock not go back.  At a timer rate of at least one,
the frames that the loop starts are punctual from its first reading on, with or without a deadline,
and those that come to their end are the ones that the runner counts.  So a run for a time starts no
more frames than the time has periods, begun ones included, and none if there is no time.  The
command, whose settings have such a rate, does not run more frames than it is asked for. -/
theorem paced_runs_keep_schedule :
    (∀ {M E C : Type} [Cycled M E] [Timekeeper C ℚ] (run : PacedRun M C),
      1 ≤ run.runner.settings.timerHz →
        (∀ untilPicture turns deadline,
          (run.paced untilPicture turns deadline).1.runner.frameCount =
              run.runner.frameCount + (run.pacedCourse untilPicture turns deadline).finished ∧
            ((run.pacedCourse untilPicture turns deadline).Steady →
              Punctual (run.pacedCourse untilPicture turns deadline).frames
                (Timekeeper.read run.clock).1 (1 / (run.runner.settings.timerHz : ℚ)))) ∧
        ∀ turns duration, (run.courseWithin turns duration).Steady →
          (run.courseWithin turns duration).frames.length ≤
              ⌈duration * run.runner.settings.timerHz⌉₊ ∧
            (duration ≤ 0 → (run.courseWithin turns duration).frames = []) ∧
            (run.runWithin turns duration).1.runner.frameCount ≤
              run.runner.frameCount + ⌈duration * run.runner.settings.timerHz⌉₊) ∧
      ∀ {C : Type} [Timekeeper C ℚ] (depth : ℕ) (options : Options)
        (read : Text → Except FileError (List UInt8)) (random : RandomSource)
        (runner : Runner Machine) (clock : C) (turns : ℕ) (count : ℤ),
        Command.prepare depth options read random = .ok runner → options.frames = .value count →
          (courseWithin turns ⟨runner, clock⟩ ((count : ℚ) / runner.settings.timerHz)).Steady →
            ((Command.runPaced turns options runner clock).1.frameCount : ℤ) ≤ max count 0 := by
  constructor
  · intro M E C _ _ run rate
    constructor
    · intro untilPicture turns deadline
      exact ⟨run.paced_frameCount untilPicture turns deadline, pacedCourse_punctual rate⟩
    · intro turns duration steady
      have bound := courseWithin_length_le rate steady
      refine ⟨bound, fun spent => ?_, runWithin_frameCount_le rate steady⟩
      have positive : (0 : ℚ) < run.runner.settings.timerHz := by exact_mod_cast rate
      have nothing : ⌈duration * run.runner.settings.timerHz⌉₊ = 0 :=
        Nat.ceil_eq_zero.mpr (mul_nonpos_of_nonpos_of_nonneg spent positive.le)
      rw [nothing] at bound
      exact List.eq_nil_of_length_eq_zero (Nat.le_zero.mp bound)
  · intro C _ depth options read random runner clock turns count prepared given steady
    exact Command.runPaced_frameCount_le prepared given steady

/-- A clock on which every reading takes the same time and no wait is too long. -/
def evenClock (step : ℚ) : Clock ℚ := ⟨0, step, 0, 0, 0, [], false⟩

/-- Run two frames of one cycle each, at the pace of a clock. -/
def twoFrames : Options :=
  { rom := "rom.ch8", frames := .value 2, cyclesPerSecond := some (.value 60), realtime := true }

/-- Where a reading takes a second, every frame is late and the missed ones are given up.  Where it
takes the eighth part of a period, two frames are run and no third. -/
theorem paced_runs_keep_schedule_two_frames :
    ∃ runner, Command.prepare 0 twoFrames (fun _ => .ok [0x12, 0x00]) (RandomSource.cycling #[]) =
        .ok runner ∧
      (pacedCourse false 2 none ⟨runner, evenClock 1⟩).frames =
        [⟨1, some ⟨2, 3⟩⟩, ⟨4, some ⟨5, 6⟩⟩] ∧
      Punctual (pacedCourse false 2 none ⟨runner, evenClock 1⟩).frames 0 (1 / 60) ∧
      (Command.runPaced 9 twoFrames runner (evenClock (1 / 480))).1.frameCount = 2 ∧
      ((Command.runPaced 9 twoFrames runner (evenClock (1 / 480))).1.frameCount : ℤ) ≤ max 2 0 := by
  have evaluated : (Command.prepare 0 twoFrames (fun _ => .ok [0x12, 0x00])
      (RandomSource.cycling #[])).toOption.any fun runner =>
        decide (runner.settings.timerHz = 60 ∧
          (pacedCourse false 2 none ⟨runner, evenClock 1⟩).frames =
            [⟨1, some ⟨2, 3⟩⟩, ⟨4, some ⟨5, 6⟩⟩] ∧
          (pacedCourse false 2 none ⟨runner, evenClock 1⟩).Steady ∧
          (courseWithin 9 ⟨runner, evenClock (1 / 480)⟩ (((2 : ℤ) : ℚ) / (60 : ℤ))).Steady ∧
          (Command.runPaced 9 twoFrames runner (evenClock (1 / 480))).1.frameCount = 2) := by
    decide +kernel
  cases prepared : Command.prepare 0 twoFrames (fun _ => .ok [0x12, 0x00])
      (RandomSource.cycling #[]) with
  | error outcome =>
      rw [prepared] at evaluated
      cases evaluated
  | ok runner =>
      rw [prepared] at evaluated
      obtain ⟨rate, frames, slow, quick, both⟩ := of_decide_eq_true evaluated
      obtain ⟨runs, command⟩ := paced_runs_keep_schedule
      have positive : 1 ≤ runner.settings.timerHz := by
        rw [rate]
        decide
      have punctual := ((runs ⟨runner, evenClock 1⟩ positive).1 false 2 none).2 slow
      rw [rate] at punctual
      rw [← rate] at quick
      exact ⟨runner, rfl, frames, punctual, both, command _ _ _ _ runner _ 9 2 prepared rfl quick⟩

end PacedRun

end ChipEight
