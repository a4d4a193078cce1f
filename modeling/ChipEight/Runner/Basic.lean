import ChipEight.Machine.Cycle
import ChipEight.Machine.Load
import ChipEight.Settings.Rate

/-!
# Runners

A runner drives a machine frame by frame: a number of cycles, one tick of the timer, and, if the
screen asks to be redrawn, a picture of it for whoever watches.  The machine may stand in a device
that has a say in what a cycle does.
-/

namespace ChipEight

/-- A picture of the screen at the end of a frame. -/
abbrev Frame := Grid 64 32

/-- A device with a machine in it that runs cycle by cycle.  A cycle may break off. -/
class Cycled (M : Type) (E : outParam Type) where
  /-- The machine in the device. -/
  machine : M → Machine
  /-- Put another machine into the device. -/
  replace : M → Machine → M
  /-- One cycle: the word that was fetched, if one was, or why the cycle broke off. -/
  cycle : M → M × Except E (Option Opcode)

instance : Cycled Machine Interruption where
  machine := fun machine => machine
  replace := fun _ machine => machine
  cycle := Machine.cycle

/-- A device with its frame rate, whether someone watches its frames, the number of frames run,
and the frames delivered, the newest first. -/
structure Runner (M : Type) where
  device : M
  settings : Settings
  watched : Bool
  frameCount : Nat
  delivered : List Frame

/-- Why a frame was not finished. -/
inductive RunError (E : Type) where
  | rate (failure : RateError)
  | brokenOff (failure : E)
deriving DecidableEq

namespace Runner

variable {M E : Type} [Cycled M E]

/-- The machine that runs. -/
def machine (runner : Runner M) : Machine :=
  Cycled.machine runner.device

/-- A runner that has not run a frame.  Without settings of its own it takes the machine's. -/
def create (device : M) (settings : Option Settings) (watched : Bool) : Runner M :=
  { device := device
    settings := settings.getD (Cycled.machine device).settings
    watched := watched
    frameCount := 0
    delivered := [] }

/-- Up to `count` cycles, ending early when the machine has halted. -/
def runCycles : Nat → M → M × Except E Unit
  | 0, device => (device, .ok ())
  | count + 1, device =>
      if (Cycled.machine device).phase = .halted then (device, .ok ())
      else
        match Cycled.cycle device with
        | (after, .ok _) => runCycles count after
        | (after, .error failure) => (after, .error failure)

/-- The end of a frame: a tick, and the picture if a redraw is due. -/
def finishFrame (runner : Runner M) (device : M) : Runner M × Bool :=
  let (redraw, settled) := (Cycled.machine device).tick.takeRedraw
  ({ runner with
      device := Cycled.replace device settled
      frameCount := runner.frameCount + 1
      delivered :=
        if redraw && runner.watched then settled.screen.lit :: runner.delivered
        else runner.delivered },
    redraw)

/-- One frame.  The result says whether the screen was redrawn. -/
def runFrame (runner : Runner M) : Runner M × Except (RunError E) Bool :=
  match runner.settings.cyclesPerFrame with
  | .error failure => (runner, .error (.rate failure))
  | .ok cycles =>
      match runCycles cycles runner.device with
      | (device, .error failure) =>
          ({ runner with device := device }, .error (.brokenOff failure))
      | (device, .ok ()) =>
          let (after, redrawn) := runner.finishFrame device
          (after, .ok redrawn)

/-- Several frames back to back, added to a count of redrawn frames. -/
def runFramesFrom (redrawn : Nat) : Nat → Runner M → Runner M × Except (RunError E) Nat
  | 0, runner => (runner, .ok redrawn)
  | count + 1, runner =>
      match runner.runFrame with
      | (after, .ok redraw) => runFramesFrom (redrawn + redraw.toNat) count after
      | (after, .error failure) => (after, .error failure)

/-- Several frames back to back.  The result is how many of them were redrawn. -/
def runFrames (runner : Runner M) (count : Int) : Runner M × Except (RunError E) Nat :=
  runFramesFrom 0 count.toNat runner

/-- Add to the journal of the machine. -/
def note (runner : Runner M) (notice : Notice) : Runner M :=
  { runner with device := Cycled.replace runner.device (runner.machine.note notice) }

end Runner

end ChipEight
