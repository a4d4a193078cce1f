/-!
# Delay timer

A byte that counts down to zero, once a tick, and stays there.
-/

namespace ChipEight

/-- The countdown. -/
structure DelayTimer where
  value : UInt8
deriving DecidableEq

namespace DelayTimer

/-- A timer set to the low eight bits of an integer. -/
def ofInt (n : Int) : DelayTimer :=
  ⟨UInt8.ofInt n⟩

/-- Whether the timer has not yet reached zero. -/
def running (timer : DelayTimer) : Bool :=
  decide (0 < timer.value)

/-- Count down by one; at zero nothing changes. -/
def tick (timer : DelayTimer) : DelayTimer :=
  if timer.running then ⟨timer.value - 1⟩ else timer

end DelayTimer

end ChipEight
