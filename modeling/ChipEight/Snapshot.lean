import ChipEight.Machine.Basic

/-!
# Snapshots and their differences

A snapshot is the observable state of a machine at one moment, with the screen packed eight pixels
to a byte.  The difference of two snapshots names what changed from one to the other.
-/

namespace ChipEight

/-- Registers, stack and progress. -/
structure CpuState where
  v : List UInt8
  index : UInt16
  pc : UInt16
  stack : List UInt16
  phase : Phase
  instructionCount : Nat
deriving DecidableEq

/-- The two grids of the screen, packed, and the redraw flag. -/
structure ScreenState where
  lit : List UInt8
  pending : List UInt8
  redraw : Bool
deriving DecidableEq

/-- The observable state of a machine. -/
structure Snapshot where
  cpu : CpuState
  memory : List UInt8
  delay : UInt8
  screen : ScreenState
  keys : List Key
deriving DecidableEq

/-- The bits of a grid, row by row, eight to a byte. -/
def Grid.packed {width height : Nat} (grid : Grid width height) : List UInt8 :=
  packBits grid.toLists.flatten

/-- The observable state of a machine at this moment. -/
def Machine.snapshot (machine : Machine) : Snapshot :=
  { cpu :=
      { v := machine.registers.v.toList
        index := machine.registers.index
        pc := machine.registers.pc
        stack := machine.stack.toList
        phase := machine.phase
        instructionCount := machine.instructionCount }
    memory := machine.memory.toList
    delay := machine.timer.value
    screen :=
      { lit := machine.screen.lit.packed
        pending := machine.screen.pending.packed
        redraw := machine.screen.redraw }
    keys := machine.keypad.held }

/-- The value of a field that a difference names. -/
inductive FieldValue where
  | number (n : Nat)
  | numbers (list : List Nat)
  | word (text : String)
deriving DecidableEq

/-- A field that differs, with its two values. -/
structure FieldChange where
  name : String
  before : FieldValue
  after : FieldValue
deriving DecidableEq

/-- What differs between two snapshots. -/
structure StateChange where
  cpu : List FieldChange
  timers : List FieldChange
  keypad : List FieldChange
  memory : List Nat
  screen : Bool
deriving DecidableEq

namespace CpuState

/-- The fields of the processor state in their order. -/
def fields (state : CpuState) : List (String × FieldValue) :=
  [("cpu.v", .numbers (state.v.map UInt8.toNat)),
    ("cpu.i", .number state.index.toNat),
    ("cpu.pc", .number state.pc.toNat),
    ("cpu.stack", .numbers (state.stack.map UInt16.toNat)),
    ("cpu.state", .word state.phase.name),
    ("cpu.instruction_count", .number state.instructionCount)]

end CpuState

namespace Snapshot

/-- The fields of two lists that differ, taken place by place. -/
def changedFields :
    List (String × FieldValue) → List (String × FieldValue) → List FieldChange
  | (name, old) :: before, (_, new) :: after =>
      if old = new then changedFields before after
      else ⟨name, old, new⟩ :: changedFields before after
  | _, _ => []

/-- The addresses, from `address` on, at which two memories differ. -/
def changedAddresses (address : Nat) : List UInt8 → List UInt8 → List Nat
  | old :: before, new :: after =>
      if old = new then changedAddresses (address + 1) before after
      else address :: changedAddresses (address + 1) before after
  | _, _ => []

/-- The first entries of a list.  A negative limit drops that many from the end instead. -/
def limited (limit : Option Int) (list : List Nat) : List Nat :=
  match limit with
  | none => list
  | some n => if n < 0 then list.take (list.length - n.natAbs) else list.take n.toNat

/-- The differences from one snapshot to another, with at most `limit` addresses of memory. -/
def diff (before after : Snapshot) (limit : Option Int) : StateChange :=
  { cpu := changedFields before.cpu.fields after.cpu.fields
    timers :=
      changedFields [("timers.delay", .number before.delay.toNat)]
        [("timers.delay", .number after.delay.toNat)]
    keypad :=
      changedFields [("keypad.pressed_keys", .numbers (before.keys.map Fin.val))]
        [("keypad.pressed_keys", .numbers (after.keys.map Fin.val))]
    memory := limited limit (changedAddresses 0 before.memory after.memory)
    screen := decide (before.screen ≠ after.screen) }

end Snapshot

/-- Whether nothing differs. -/
def StateChange.isEmpty (change : StateChange) : Bool :=
  change.cpu.isEmpty && change.timers.isEmpty && change.keypad.isEmpty &&
    change.memory.isEmpty && !change.screen

end ChipEight
