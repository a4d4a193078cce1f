/-!
# Clocks

What a paced run asks of a clock, be it a clock of the world or one that is passed along as a state,
and a clock that is part of the model: every reading lets a fixed time pass, every wait overshoots
by a fixed time, and after a number of readings the clock asks the run to stop.
-/

namespace ChipEight

/-- Something that tells the time, lets time pass, and knows whether a run is to stop. -/
class Timekeeper (C : Type) (T : outParam Type) where
  /-- Read the time. -/
  read : C → T × C
  /-- Let a time pass. -/
  wait : C → T → C
  /-- Whether the run is to stop. -/
  stopped : C → Bool
  /-- Ask the run to stop. -/
  stop : C → C
  /-- Withdraw a request to stop. -/
  goOn : C → C

/-- Actions that tell the time, let time pass, and know whether a run is to stop. -/
class Timed (m : Type → Type) (T : outParam Type) where
  /-- Read the time. -/
  read : m T
  /-- Let a time pass. -/
  wait : T → m Unit
  /-- Whether the run is to stop. -/
  stopped : m Bool
  /-- Ask the run to stop. -/
  stop : m Unit
  /-- Withdraw a request to stop. -/
  goOn : m Unit

/-- Ask the run to stop, or not. -/
def Timed.stopIf {m : Type → Type} [Monad m] {T : Type} [Timed m T] (asked : Bool) : m Unit :=
  if asked then stop else pure ()

/-- The actions on a clock that is passed along. -/
instance {C T : Type} [Timekeeper C T] : Timed (StateM C) T where
  read := fun clock => Timekeeper.read clock
  wait := fun duration clock => ((), Timekeeper.wait clock duration)
  stopped := fun clock => (Timekeeper.stopped clock, clock)
  stop := fun clock => ((), Timekeeper.stop clock)
  goOn := fun clock => ((), Timekeeper.goOn clock)

/-- Carry out actions on a clock. -/
def Timed.perform {C α : Type} (actions : StateM C α) (clock : C) : α × C :=
  (actions.run clock).run

/-- A clock, what has been asked of it, and whether the run is to stop.  Waits have their newest
entry first. -/
structure Clock (T : Type) where
  now : T
  step : T
  overshoot : T
  limit : Int
  readings : Nat
  waits : List T
  stopped : Bool

namespace Clock

variable {T : Type}

/-- Read the time; the reading itself takes a step.  The limit is met when the number of readings
becomes equal to it. -/
def read [Add T] (clock : Clock T) : T × Clock T :=
  (clock.now,
    { clock with
      now := clock.now + clock.step
      readings := clock.readings + 1
      stopped := clock.stopped || decide ((clock.readings : Int) + 1 = clock.limit) })

/-- Wait for a time. -/
def wait [Add T] (clock : Clock T) (duration : T) : Clock T :=
  { clock with
    now := clock.now + duration + clock.overshoot
    waits := duration :: clock.waits }

/-- Forget what has been asked of the clock so far. -/
def rewound (clock : Clock T) : Clock T :=
  { clock with readings := 0, waits := [], stopped := false }

/-- Withdraw the request to stop. -/
def goOn (clock : Clock T) : Clock T :=
  { clock with stopped := false }

/-- Ask the run to stop. -/
def stop (clock : Clock T) : Clock T :=
  { clock with stopped := true }

instance [Add T] : Timekeeper (Clock T) T where
  read := Clock.read
  wait := Clock.wait
  stopped := Clock.stopped
  stop := Clock.stop
  goOn := Clock.goOn

end Clock

end ChipEight
