import ChipEight.Runner.Pacing

/-!
# The course of a paced run

The course of a run has every reading of its clock, and the times of every frame that it starts.  A
turn of the loop can end in six ways, and `TurnCase` says what each of them leads to and what it
adds to the course.  `Trace` puts turns one after the other, and what holds of every run of the loop
is proved by induction on it.  The frames of the course that come to their end are the ones that the
runner counts.
-/

namespace ChipEight

/-- What follows a frame that came to its end: the reading that measures the lag, and the time at
which the next frame is then due. -/
structure Sequel (T : Type) where
  tested : T
  next : T
deriving DecidableEq

/-- The reading at which a frame is started, and what follows it unless it breaks off. -/
structure FrameTimes (T : Type) where
  begun : T
  sequel : Option (Sequel T)
deriving DecidableEq

/-- The readings of a run and the times of its frames, both in order. -/
structure Course (T : Type) where
  readings : List T
  frames : List (FrameTimes T)
deriving DecidableEq

namespace Course

variable {T : Type}

/-- Nothing has been read. -/
def empty : Course T := ⟨[], []⟩

/-- A single reading at which no frame is started. -/
def reading (now : T) : Course T := ⟨[now], []⟩

/-- One course after another. -/
def append (first second : Course T) : Course T :=
  ⟨first.readings ++ second.readings, first.frames ++ second.frames⟩

/-- The number of frames that came to their end. -/
def finished (course : Course T) : Nat :=
  course.frames.countP (·.sequel.isSome)

theorem finished_append (first second : Course T) :
    (first.append second).finished = first.finished + second.finished :=
  List.countP_append

theorem finished_reading_append (now : T) (course : Course T) :
    ((reading now).append course).finished = course.finished := by
  rw [finished_append]
  exact Nat.zero_add _

theorem finished_le_length (course : Course T) : course.finished ≤ course.frames.length :=
  List.countP_le_length

end Course

namespace Schedule

variable {T : Type} [LE T] [DecidableLE T] [LT T] [DecidableLT T]

/-- A frame is due, and the deadline has not come. -/
def Due (schedule : Schedule T) (now : T) : Prop :=
  schedule.expired now = false ∧ ¬ now < schedule.next

theorem due_of_action [Sub T] {schedule : Schedule T} {now : T}
    (framed : schedule.action now = .frame) : schedule.Due now := by
  unfold action at framed
  split at framed
  case isTrue => cases framed
  case isFalse early =>
    split at framed
    case isTrue => cases framed
    case isFalse due => exact ⟨Bool.eq_false_iff.mpr early, due⟩

end Schedule

/-! ## Actions on a clock -/

namespace Timed

variable {C T α β : Type}

theorem perform_bind (actions : StateM C α) (next : α → StateM C β) (clock : C) :
    perform (actions >>= next) clock =
      perform (next (perform actions clock).1) (perform actions clock).2 :=
  rfl

theorem perform_read [Timekeeper C T] (clock : C) :
    perform (read : StateM C T) clock = Timekeeper.read clock :=
  rfl

theorem perform_stopped [Timekeeper C T] (clock : C) :
    perform (stopped : StateM C Bool) clock = (Timekeeper.stopped clock, clock) :=
  rfl

theorem perform_stopIf [Timekeeper C T] (asked : Bool) (clock : C) :
    perform (stopIf asked : StateM C Unit) clock =
      ((), if asked then Timekeeper.stop clock else clock) := by
  cases asked <;> rfl

end Timed

theorem Turn.perform_bind {M E C T α : Type} (actions : StateM C α)
    (next : α → StateM C (Turn (Runner M) E T)) (clock : C) :
    perform (actions >>= next) clock =
      perform (next (Timed.perform actions clock).1) (Timed.perform actions clock).2 :=
  rfl

namespace PacedRun

section

variable {M E C T : Type} [Add T] [Sub T] [Mul T] [OfNat T 4] [LE T] [DecidableLE T] [LT T]
  [DecidableLT T]

/-! ## The ways in which a turn can end -/

/-- What a turn of the loop leads to, and its course. -/
inductive TurnCase (schedule : Schedule T) (run : PacedRun M C) :
    Turn (PacedRun M C) E T → Course T → Prop
  | stopped : TurnCase schedule run (.done run (.ok ())) .empty
  | expired (now : T) (clock : C) :
      TurnCase schedule run (.done { run with clock := clock } (.ok ())) (.reading now)
  | waited (now : T) (clock : C) :
      TurnCase schedule run (.again schedule { run with clock := clock }) (.reading now)
  | brokenOff (now : T) (after : PacedRun M C) (failure : RunError E) (due : schedule.Due now)
      (uncounted : after.runner.frameCount = run.runner.frameCount) :
      TurnCase schedule run (.done after (.error failure)) ⟨[now], [⟨now, none⟩]⟩
  | kept (now tested : T) (after : PacedRun M C) (due : schedule.Due now)
      (counted : after.runner.frameCount = run.runner.frameCount + 1)
      (near : schedule.advance.lags tested = false) :
      TurnCase schedule run (.again schedule.advance after)
        ⟨[now, tested], [⟨now, some ⟨tested, schedule.advance.next⟩⟩]⟩
  | resumed (now tested restart : T) (after : PacedRun M C) (due : schedule.Due now)
      (counted : after.runner.frameCount = run.runner.frameCount + 1)
      (far : schedule.advance.lags tested = true) :
      TurnCase schedule run (.again (schedule.advance.resume restart) after)
        ⟨[now, tested, restart], [⟨now, some ⟨tested, restart⟩⟩]⟩

/-! ## Turn after turn -/

/-- The loop leads from a schedule and a run to a result, and this is its course.  It may be cut off
after any number of turns. -/
inductive Trace : Schedule T → PacedRun M C → PacedRun M C × Except (RunError E) Unit → Course T →
    Prop
  | cut (schedule : Schedule T) (run : PacedRun M C) : Trace schedule run (run, .ok ()) .empty
  | last {schedule : Schedule T} {run after : PacedRun M C} {result : Except (RunError E) Unit}
      {course : Course T} (turn : TurnCase schedule run (.done after result) course) :
      Trace schedule run (after, result) course
  | next (schedule : Schedule T) {following : Schedule T} {run after : PacedRun M C}
      {result : PacedRun M C × Except (RunError E) Unit} {first later : Course T}
      (turn : TurnCase schedule run (.again following after : Turn (PacedRun M C) E T) first)
      (rest : Trace following after result later) :
      Trace schedule run result (first.append later)

variable {schedule : Schedule T} {run : PacedRun M C}
  {result : PacedRun M C × Except (RunError E) Unit} {course : Course T}

/-- The deadline has not come when a frame is started.  No turn moves it. -/
theorem Trace.inTime (trace : Trace schedule run result course) {frame : FrameTimes T}
    (started : frame ∈ course.frames) : schedule.expired frame.begun = false := by
  induction trace with
  | cut schedule run => cases started
  | last turn =>
      cases turn with
      | stopped => cases started
      | expired now clock => cases started
      | brokenOff now after failure due uncounted =>
          cases List.mem_singleton.mp started
          exact due.1
  | next schedule turn rest ih =>
      cases turn with
      | waited now clock => exact ih started
      | kept now tested after due counted near =>
          rcases List.mem_cons.mp started with rfl | started
          · exact due.1
          · exact ih started
      | resumed now tested restart after due counted far =>
          rcases List.mem_cons.mp started with rfl | started
          · exact due.1
          · exact ih started

theorem Trace.frameCount (trace : Trace schedule run result course) :
    result.1.runner.frameCount = run.runner.frameCount + course.finished := by
  induction trace with
  | cut schedule run => rfl
  | last turn =>
      cases turn with
      | stopped => rfl
      | expired now clock => rfl
      | brokenOff now after failure due uncounted => exact uncounted
  | next schedule turn rest ih =>
      cases turn with
      | waited now clock => rw [ih, Course.finished_reading_append]
      | kept now tested after due counted near =>
          rw [ih, counted, Course.finished_append]
          exact Nat.add_assoc _ 1 _
      | resumed now tested restart after due counted far =>
          rw [ih, counted, Course.finished_append]
          exact Nat.add_assoc _ 1 _

end

end PacedRun

theorem Runner.runFrame_frameCount {M E : Type} [Cycled M E] (runner : Runner M) :
    runner.runFrame.1.frameCount = runner.frameCount + runner.runFrame.2.isOk.toNat := by
  unfold runFrame
  cases runner.settings.cyclesPerFrame with
  | error failure => rfl
  | ok cycles =>
      simp only
      rcases runCycles cycles runner.device with ⟨device, failure | ⟨⟩⟩
      · rfl
      · rfl

namespace PacedRun

variable {M E C T : Type} [Cycled M E] [Timekeeper C T] [Add T] [Sub T] [Mul T] [OfNat T 4]
  [LE T] [DecidableLE T] [LT T] [DecidableLT T]

/-! ## Courses -/

/-- The readings by which the time of the next frame is set. -/
def rescheduleReadings (schedule : Schedule T) (clock : C) : List T :=
  let (now, clock) := Timekeeper.read clock
  if schedule.advance.lags now then [now, (Timekeeper.read clock).1] else [now]

/-- The course of a turn that runs a frame. -/
def frameCourse (untilPicture : Bool) (schedule : Schedule T) (runner : Runner M) (now : T)
    (clock : C) : Course T :=
  match runner.runFrame with
  | (_, .error _) => ⟨[now], [⟨now, none⟩]⟩
  | (_, .ok redrawn) =>
      let asked := if untilPicture && redrawn then Timekeeper.stop clock else clock
      let following := (Timed.perform (Pace.reschedule schedule) asked).1
      ⟨now :: rescheduleReadings schedule asked,
        [⟨now, some ⟨(Timekeeper.read asked).1, following.next⟩⟩]⟩

/-- The course of a turn. -/
def turnCourse (untilPicture : Bool) (schedule : Schedule T) (run : PacedRun M C) : Course T :=
  if Timekeeper.stopped run.clock then .empty
  else
    let (now, clock) := Timekeeper.read run.clock
    match schedule.action now with
    | .finish => .reading now
    | .wait _ => .reading now
    | .frame => frameCourse untilPicture schedule run.runner now clock

/-- The course of the loop. -/
def loopCourse (untilPicture : Bool) : Nat → Schedule T → PacedRun M C → Course T
  | 0, _, _ => .empty
  | turns + 1, schedule, run =>
      match turn untilPicture schedule run with
      | .done _ _ => turnCourse untilPicture schedule run
      | .again next after =>
          (turnCourse untilPicture schedule run).append (loopCourse untilPicture turns next after)

/-- The course of a run that starts the loop at the next reading of the clock. -/
def startCourse (untilPicture : Bool) (turns : Nat) (period : T) (deadline : Option T)
    (run : PacedRun M C) : Course T :=
  let (now, clock) := Timekeeper.read run.clock
  (Course.reading now).append
    (loopCourse untilPicture turns { period := period, next := now, deadline := deadline }
      { run with clock := clock })

/-! ## The course of the loop -/

theorem frame_case (untilPicture : Bool) {schedule : Schedule T} (run : PacedRun M C) {now : T}
    (clock : C) (due : schedule.Due now) :
    TurnCase schedule run (Turn.perform (Pace.frame untilPicture schedule run.runner) clock)
      (frameCourse untilPicture schedule run.runner now clock) := by
  have count := run.runner.runFrame_frameCount
  unfold Pace.frame frameCourse
  generalize run.runner.runFrame = result at count ⊢
  rcases result with ⟨after, failure | redrawn⟩
  · exact .brokenOff now _ failure due count
  · -- Whether a stop was asked for has no part in the times.
    simp only
    rw [Turn.perform_bind, Timed.perform_stopIf, Turn.perform_bind]
    generalize (if untilPicture && redrawn then Timekeeper.stop clock else clock) = asked
    unfold rescheduleReadings
    rw [Pace.reschedule, Timed.perform_bind, Timed.perform_read]
    rcases Timekeeper.read asked with ⟨tested, later⟩
    cases lag : schedule.advance.lags tested with
    | false =>
        simp only [lag, Bool.false_eq_true, if_false]
        exact .kept now tested _ due count lag
    | true =>
        simp only [lag, if_true]
        exact .resumed now tested _ _ due count lag

theorem turn_case (untilPicture : Bool) (schedule : Schedule T) (run : PacedRun M C) :
    TurnCase schedule run (turn untilPicture schedule run)
      (turnCourse untilPicture schedule run) := by
  unfold turn turnCourse
  -- The actions are carried out one by one, and each hands the clock on to the next.
  rw [Pace.turn, Turn.perform_bind, Timed.perform_stopped]
  cases Timekeeper.stopped run.clock with
  | true => exact .stopped
  | false =>
      simp only [Bool.false_eq_true, if_false]
      rw [Turn.perform_bind, Timed.perform_read]
      rcases Timekeeper.read run.clock with ⟨now, clock⟩
      cases action : schedule.action now with
      | finish => exact .expired now clock
      | wait duration => exact .waited now _
      | frame => exact frame_case untilPicture run clock (Schedule.due_of_action action)

theorem loop_trace (untilPicture : Bool) (turns : Nat) (schedule : Schedule T)
    (run : PacedRun M C) :
    Trace schedule run (loop untilPicture turns schedule run)
      (loopCourse untilPicture turns schedule run) := by
  induction turns generalizing schedule run with
  | zero => exact .cut schedule run
  | succ turns ih =>
      rw [loop, loopCourse]
      have step := turn_case untilPicture schedule run
      generalize turn untilPicture schedule run = outcome at step ⊢
      cases outcome with
      | done after result => exact .last step
      | again following after => exact .next schedule step (ih following after)

/-! ## Whole runs -/

section

variable [TimeScale T]

/-- The course of a run at the pace that the settings give. -/
def pacedCourse (untilPicture : Bool) (turns : Nat) (deadline : Option T) (run : PacedRun M C) :
    Course T :=
  match run.runner.settings.period T with
  | .error _ => .empty
  | .ok period => run.startCourse untilPicture turns period deadline

/-- The course of a run for a time.  The reading that sets the deadline is a part of it. -/
def courseWithin (turns : Nat) (run : PacedRun M C) (duration : T) : Course T :=
  let (now, clock) := Timekeeper.read run.clock
  (Course.reading now).append
    (pacedCourse false turns (some (now + duration)) { run with clock := Timekeeper.goOn clock })

theorem paced_frameCount (untilPicture : Bool) (turns : Nat) (deadline : Option T)
    (run : PacedRun M C) :
    (run.paced untilPicture turns deadline).1.runner.frameCount =
      run.runner.frameCount + (run.pacedCourse untilPicture turns deadline).finished := by
  unfold paced pacedCourse
  cases run.runner.settings.period T with
  | error failure => rfl
  | ok period =>
      unfold start startCourse
      rw [Course.finished_reading_append]
      exact (loop_trace untilPicture turns _ _).frameCount

theorem runWithin_eq (turns : Nat) (run : PacedRun M C) (duration : T) :
    run.runWithin turns duration =
      paced false turns (some ((Timekeeper.read run.clock).1 + duration))
        { run with clock := Timekeeper.goOn (Timekeeper.read run.clock).2 } := by
  unfold runWithin paced Pace.startWithin
  simp only [Timed.perform_bind, Timed.perform_read]
  cases run.runner.settings.period T with
  | error failure => rfl
  | ok period => rfl

theorem runWithin_frameCount (turns : Nat) (run : PacedRun M C) (duration : T) :
    (run.runWithin turns duration).1.runner.frameCount =
      run.runner.frameCount + (run.courseWithin turns duration).finished := by
  unfold courseWithin
  rw [runWithin_eq, Course.finished_reading_append]
  exact paced_frameCount false turns _ _

end

end PacedRun

end ChipEight
