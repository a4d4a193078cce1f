/-!
# Schedules

When to run the next frame.  A schedule works with any kind of time that can be added, subtracted
and compared: exact rationals as well as the numbers of a clock.
-/

namespace ChipEight

/-- The length of a frame, when the next one is due, and when to stop. -/
structure Schedule (T : Type) where
  period : T
  next : T
  deadline : Option T

/-- What to do at a moment. -/
inductive Schedule.Action (T : Type) where
  | finish
  | wait (duration : T)
  | frame

namespace Schedule

variable {T : Type}

/-- Whether the deadline has come. -/
def expired [LE T] [DecidableLE T] (schedule : Schedule T) (now : T) : Bool :=
  match schedule.deadline with
  | some deadline => decide (deadline ≤ now)
  | none => false

/-- What to do at a reading of the clock: stop at the deadline, wait until the next frame is due, or
run it. -/
def action [LE T] [DecidableLE T] [LT T] [DecidableLT T] [Sub T] (schedule : Schedule T)
    (now : T) : Action T :=
  if schedule.expired now then .finish
  else if now < schedule.next then .wait (schedule.next - now)
  else .frame

/-- The schedule after a frame has been run. -/
def advance [Add T] (schedule : Schedule T) : Schedule T :=
  { schedule with next := schedule.next + schedule.period }

/-- Whether a reading is more than four periods past the time at which the next frame is due. -/
def lags [LT T] [DecidableLT T] [Sub T] [Mul T] [OfNat T 4] (schedule : Schedule T) (now : T) :
    Bool :=
  decide (schedule.period * 4 < now - schedule.next)

/-- Give up the frames that were missed: the next one is due now. -/
def resume (schedule : Schedule T) (now : T) : Schedule T :=
  { schedule with next := now }

end Schedule

end ChipEight
