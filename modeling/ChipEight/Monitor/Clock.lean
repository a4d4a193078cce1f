import ChipEight.Monitor.Operand
import ChipEight.Runner.Clock

/-!
# Clocks under the monitor

Times are given in microseconds, as values.
-/

namespace ChipEight.Monitor

/-- Microseconds as a number of seconds. -/
def seconds (value : Json) : Except Refusal Float :=
  match value.numeric? with
  | some (.exact n) => ((Rate.quotient n 1000000).map Binary64.toFloat).mapError .rate
  | some (.binary x) => .ok (Rate.divide x (Binary64.ofInt 1000000)).toFloat
  | none => mismatched (.operands "/" value.kindName "int")

/-- The number of readings that meets a limit; there is none for a value that equals no integer. -/
def readingLimit (value : Json) : Int :=
  match value.toInt with
  | .ok n => if value.equalsInt n then n else -1
  | .error _ => -1

/-- A field of the description of a clock, or its usual value. -/
def clockField (description : Json) (name : Text) (usual : Int) : Json :=
  (part? description name).getD (.int usual)

/-- The clock that a value describes: its first reading, the time that a reading takes, the time by
which a wait is too long, and the number of readings after which it asks to stop. -/
def clock (description : Json) : Except Refusal (Clock Float) :=
  match description with
  | .obj _ => do
      let now ← seconds (clockField description "start_us" 0)
      let step ← seconds (clockField description "step_us" 0)
      let overshoot ← seconds (clockField description "over_us" 0)
      return {
        now := now
        step := step
        overshoot := overshoot
        limit := readingLimit (clockField description "max_calls" 100)
        readings := 0
        waits := []
        stopped := false }
  | _ => .error (.noField description.kindName "get")

end ChipEight.Monitor
