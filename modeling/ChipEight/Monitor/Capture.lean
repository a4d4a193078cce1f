import ChipEight.Monitor.Console
import ChipEight.Snapshot

/-!
# Captures

A capture is a snapshot of the machine of a console together with the held keys as they were given.
-/

namespace ChipEight.Monitor

/-- A snapshot with the codes of the held keys. -/
structure Capture where
  snapshot : Snapshot
  keys : List KeyCode

/-- What differs between two captures.  If the held keys differ, both lists of them are shown. -/
structure CaptureChange where
  state : StateChange
  keys : Option (List KeyCode × List KeyCode)

/-- The observable state of a console at this moment. -/
def Console.capture (console : Console) : Capture :=
  { snapshot := console.machine.snapshot, keys := console.keypad.held }

namespace Capture

/-- Whether two captures show the same state.  Codes of keys are compared as numbers. -/
def same (before after : Capture) : Bool :=
  decide (before.snapshot = after.snapshot) && before.keys == after.keys

/-- The differences from one capture to another.  The number of addresses that are listed may be
limited by a value. -/
def diff (before after : Capture) (limit : Json) : Except Refusal CaptureChange := do
  let bound ← match limit with
    | .null => pure none
    | _ => (rangeEnd limit).map some
  let state := before.snapshot.diff after.snapshot bound
  let unchanged := state.keypad.isEmpty && before.keys == after.keys
  return ⟨state, if unchanged then none else some (before.keys, after.keys)⟩

end Capture

/-- Whether nothing differs. -/
def CaptureChange.isEmpty (change : CaptureChange) : Bool :=
  change.state.isEmpty && change.keys.isNone

end ChipEight.Monitor
