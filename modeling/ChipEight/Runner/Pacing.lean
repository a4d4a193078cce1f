import ChipEight.Runner.Basic
import ChipEight.Runner.Clock
import ChipEight.Runner.Schedule

/-!
# Pacing

A paced run executes frames no faster than the timer rate.  It reads a clock, waits until the next
frame is due, and gives up missed frames when it lags more than four of them.  A run ends at its
deadline, when it is asked to stop, or, if it is to stop at a picture, after the first frame that
was redrawn.  A turn of the loop is the same for every kind of clock; that it ends is known where
the clock is passed along and the turns are counted.
-/

namespace ChipEight

/-- A kind of number that times are told in, with the times that follow from a timer rate. -/
class TimeScale (T : Type) where
  /-- The length of a period. -/
  period : Int → Except RateError T
  /-- How long a number of periods takes. -/
  span : Int → Int → Except RateError T

instance : TimeScale Float where
  period := fun hz => (Rate.toBinary hz).map fun rate => 1.0 / rate.toFloat
  span := fun count hz => (Rate.quotient count hz).map Binary64.toFloat

/-- Exact times, which nothing rounds. -/
instance : TimeScale Rat where
  period := fun hz => if hz = 0 then .error .floatDivisionByZero else .ok (1 / (hz : Rat))
  span := fun count hz => if hz = 0 then .error .divisionByZero else .ok ((count : Rat) / hz)

/-- The length of a frame. -/
def Settings.period (T : Type) [TimeScale T] (settings : Settings) : Except RateError T :=
  TimeScale.period settings.timerHz

/-- What one turn of the loop leads to: the end of the run, or another turn. -/
inductive Turn (R E T : Type) where
  | done (run : R) (result : Except (RunError E) Unit)
  | again (schedule : Schedule T) (run : R)

/-! ## Turns -/

namespace Pace

variable {m : Type → Type} [Monad m] {M E T : Type} [Cycled M E] [Timed m T] [Add T]

/-- The schedule of a run that starts at the next reading of the clock. -/
def start (period : T) (deadline : Option T) : m (Schedule T) := do
  return { period := period, next := ← Timed.read, deadline := deadline }

/-- The schedule of a run for a time.  The deadline is set first; a request to stop that came before
is withdrawn. -/
def startWithin [TimeScale T] (settings : Settings) (duration : T) :
    m (Except RateError (Schedule T)) := do
  let now ← Timed.read
  Timed.goOn
  match settings.period T with
  | .error failure => return .error failure
  | .ok period => return .ok (← start period (some (now + duration)))

variable [Sub T] [Mul T] [OfNat T 4] [LE T] [DecidableLE T] [LT T] [DecidableLT T]

/-- The schedule after a frame: the next frame is due a period later, or at once when the run lags
too far behind.  The lag is measured by one reading, and the new start by another. -/
def reschedule (schedule : Schedule T) : m (Schedule T) := do
  let advanced := schedule.advance
  if advanced.lags (← Timed.read) then return advanced.resume (← Timed.read)
  else return advanced

/-- Run one frame and set the time of the next. -/
def frame (untilPicture : Bool) (schedule : Schedule T) (runner : Runner M) :
    m (Turn (Runner M) E T) :=
  match runner.runFrame with
  | (after, .error failure) => return .done after (.error failure)
  | (after, .ok redrawn) => do
      Timed.stopIf (untilPicture && redrawn)
      return .again (← reschedule schedule) after

/-- One turn of the loop.  With `untilPicture` the first redrawn frame asks the run to stop. -/
def turn (untilPicture : Bool) (schedule : Schedule T) (runner : Runner M) :
    m (Turn (Runner M) E T) := do
  if ← Timed.stopped then return .done runner (.ok ())
  else
    match schedule.action (← Timed.read) with
    | .finish => return .done runner (.ok ())
    | .wait duration =>
        Timed.wait duration
        return .again schedule runner
    | .frame => frame untilPicture schedule runner

end Pace

/-! ## Runs with a clock that is passed along -/

/-- A runner together with the clock that paces it. -/
structure PacedRun (M C : Type) where
  runner : Runner M
  clock : C

/-- What the actions of a turn lead to, together with the clock. -/
def Turn.perform {M E C T : Type} (actions : StateM C (Turn (Runner M) E T)) (clock : C) :
    Turn (PacedRun M C) E T :=
  match Timed.perform actions clock with
  | (.done runner result, clock) => .done { runner := runner, clock := clock } result
  | (.again schedule runner, clock) => .again schedule { runner := runner, clock := clock }

namespace PacedRun

section Loop

variable {M E C T : Type} [Cycled M E] [Timekeeper C T] [Add T] [Sub T] [Mul T] [OfNat T 4]
  [LE T] [DecidableLE T] [LT T] [DecidableLT T]

/-- One turn of the loop. -/
def turn (untilPicture : Bool) (schedule : Schedule T) (run : PacedRun M C) :
    Turn (PacedRun M C) E T :=
  Turn.perform (Pace.turn untilPicture schedule run.runner) run.clock

/-- The loop, for at most `turns` turns. -/
def loop (untilPicture : Bool) :
    Nat → Schedule T → PacedRun M C → PacedRun M C × Except (RunError E) Unit
  | 0, _, run => (run, .ok ())
  | turns + 1, schedule, run =>
      match turn untilPicture schedule run with
      | .done after result => (after, result)
      | .again next after => loop untilPicture turns next after

/-- Start the loop at the next reading of the clock. -/
def start (untilPicture : Bool) (turns : Nat) (period : T) (deadline : Option T)
    (run : PacedRun M C) : PacedRun M C × Except (RunError E) Unit :=
  let (schedule, clock) := Timed.perform (Pace.start period deadline) run.clock
  loop untilPicture turns schedule { run with clock := clock }

end Loop

variable {M E C T : Type} [Cycled M E] [Timekeeper C T] [TimeScale T] [Add T] [Sub T] [Mul T]
  [OfNat T 4] [LE T] [DecidableLE T] [LT T] [DecidableLT T]

/-- Run frames at the pace that the settings give, until the deadline if there is one. -/
def paced (untilPicture : Bool) (turns : Nat) (deadline : Option T) (run : PacedRun M C) :
    PacedRun M C × Except (RunError E) Unit :=
  match run.runner.settings.period T with
  | .error failure => (run, .error (.rate failure))
  | .ok period => run.start untilPicture turns period deadline

/-- Run for a time, for at most `turns` turns of the loop. -/
def runWithin (turns : Nat) (run : PacedRun M C) (duration : T) :
    PacedRun M C × Except (RunError E) Unit :=
  match Timed.perform (Pace.startWithin run.runner.settings duration) run.clock with
  | (.error failure, clock) => ({ run with clock := clock }, .error (.rate failure))
  | (.ok schedule, clock) => loop false turns schedule { run with clock := clock }

/-- The greatest number of turns of the loop in one run.  The limit of the clock, or the deadline,
ends a run long before. -/
def horizon : Nat := 10000000

/-- Run for a time. -/
def runFor (run : PacedRun M C) (duration : T) : PacedRun M C × Except (RunError E) Unit :=
  run.runWithin horizon duration

/-- Run without a deadline until the run is asked to stop.  The journal has a notice at the
start. -/
def runFree (run : PacedRun M C) (untilPicture : Bool) :
    PacedRun M C × Except (RunError E) Unit :=
  paced untilPicture horizon (none : Option T)
    { runner := run.runner.note .loopStarted, clock := Timekeeper.goOn run.clock }

/-- A run in the background that the clock ends.  The journal has a notice at its end, unless it
broke off. -/
def background (run : PacedRun M C) : PacedRun M C :=
  match run.runFree false with
  | (after, .ok ()) => { after with runner := after.runner.note .loopStopped }
  | (after, .error _) => after

/-- A run in the background whose first picture is not taken away in time: whoever asks it to stop
within the given hundredths of a second waits in vain, and it ends after that picture.  The
result says whether there was a picture. -/
def stuck (run : PacedRun M C) (hundredths : Nat) : PacedRun M C × Bool :=
  let watched : PacedRun M C := { run with runner := { run.runner with watched := true } }
  let (after, result) := watched.runFree true
  let pictured := decide (run.runner.delivered.length < after.runner.delivered.length)
  let warned := if pictured then after.runner.note (.loopStuck hundredths) else after.runner
  let ended :=
    match result with
    | .ok () => warned.note .loopStopped
    | .error _ => warned
  ({ after with runner := { ended with watched := run.runner.watched } }, pictured)

end PacedRun

end ChipEight
