import ChipEight.Machine.Execute

/-!
# Cycles

One cycle drains the key queue, fetches the word at the program counter and executes it.  A fault
ends the cycle: the policy settles the program counter and the phase, and only then is the fault
reported.
-/

namespace ChipEight.Machine

/-- The last address at which an instruction can be fetched whole. -/
def lastFetch : Nat := 4094

/-- Settle a machine after a fault in the cycle that began at `pc`.  A fetch that failed is never
skipped. -/
def settle (machine : Machine) (pc : UInt16) (fetching : Bool) : Machine :=
  match machine.settings.faultPolicy with
  | .freeze => machine.jump pc
  | .skip => machine.jump (if fetching then pc else pc + 2)
  | .halt => ({ machine.jump pc with phase := .halted } : Machine).note (.halted pc.toNat)

/-- What a cycle gives back: the word that was fetched, if one was, or who interrupted it. -/
abbrev CycleResult := Except Interruption (Option Opcode)

/-- End a cycle by a fault. -/
def fail (machine : Machine) (cause : Fault.Cause) (pc : UInt16) (fetched : Option Opcode) :
    Machine × CycleResult :=
  match (machine.settle pc fetched.isNone).report ⟨cause, some (pc.toNat : Int)⟩ with
  | (after, none) => (after, .ok fetched)
  | (after, some interruption) => (after, .error interruption)

/-- The machine on the way to execute a word that it has fetched. -/
def fetched (machine : Machine) (op : Opcode) : Machine :=
  { machine with registers := machine.registers.advance, lastOpcode := some op }

/-- The word at the program counter. -/
def nextOpcode (machine : Machine) : Opcode :=
  ⟨machine.memory.wordAt machine.registers.pc.toNat⟩

/-- The part of a cycle after the key queue has been drained. -/
def fetchExecute (machine : Machine) : Machine × CycleResult :=
  let pc := machine.registers.pc
  if machine.phase = .halted then (machine, .ok none)
  else if lastFetch < pc.toNat then machine.fail .fetchOutOfBounds pc none
  else
    let op := machine.nextOpcode
    match (execute op).on (machine.fetched op) with
    | (.ok (), after) =>
        ({ after with instructionCount := after.instructionCount + 1 }, .ok (some op))
    | (.error cause, after) => after.fail cause pc (some op)

/-- One cycle. -/
def cycle (machine : Machine) : Machine × CycleResult :=
  machine.drainKeys.fetchExecute

end ChipEight.Machine
