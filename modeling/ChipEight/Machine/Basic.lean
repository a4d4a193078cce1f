import ChipEight.Device.CallStack
import ChipEight.Device.DelayTimer
import ChipEight.Device.Keypad
import ChipEight.Device.Memory
import ChipEight.Device.RandomSource
import ChipEight.Device.Registers
import ChipEight.Device.Screen
import ChipEight.Instruction
import ChipEight.Journal
import ChipEight.Settings.Basic

/-!
# Machines

The state of a machine: its devices, the phase it is in, its counters, who observes its faults and
what it has noted so far.
-/

namespace ChipEight

/-- What a machine is doing. -/
inductive Phase where
  | running
  | waitKey
  | halted
deriving DecidableEq

/-- The phase as it is printed. -/
def Phase.name : Phase → String
  | .running => "running"
  | .waitKey => "wait_key"
  | .halted => "halted"

/-- Someone who is told of every fault. -/
structure Observer where
  name : Text
deriving DecidableEq

/-- That an observer was told of a fault, with the state it could see at that moment. -/
structure Delivery where
  observer : Observer
  fault : Fault
  pc : UInt16
  phase : Phase
  faultCount : Nat
deriving DecidableEq

/-- An operation did not finish because an observer interrupted it. -/
structure Interruption where
  observer : Observer
deriving DecidableEq

/-- What an observer does after it has been told of a fault: it settles who is registered from then
on, itself or others, and it may interrupt the operation in which the fault arose. -/
structure Reaction where
  registered : List Observer
  interrupts : Bool
deriving DecidableEq

/-- How observers react.  They may go by everything that was delivered so far, to whomever, with the
newest delivery first, and by who is registered.  So an observer may interrupt once and never again,
or withdraw and interrupt.  It does not operate the machine itself. -/
abbrev Conduct := Observer → List Delivery → List Observer → Reaction

/-- Everyone stays registered, and nobody interrupts. -/
def Conduct.plain : Conduct := fun _ _ registered => ⟨registered, false⟩

/-- The state of a machine.  Journal and deliveries have their newest entry first. -/
structure Machine where
  settings : Settings
  random : RandomSource
  memory : Memory 4096
  registers : Registers
  stack : CallStack 16
  screen : Screen 64 32
  keypad : Keypad Key
  timer : DelayTimer
  phase : Phase
  romLoaded : Bool
  instructionCount : Nat
  faultCount : Nat
  lastFault : Option Fault
  lastOpcode : Option Opcode
  lastWarned : Option (Fault.Kind × Option Int)
  observers : List Observer
  conduct : Conduct
  deliveries : List Delivery
  journal : List Notice

/-- The policy that the machine follows. -/
def Settings.faultPolicy (settings : Settings) : FaultPolicy :=
  match settings.policy with
  | .known policy => policy
  | .other _ => .freeze

namespace Machine

/-- The memory of a machine without a program: only the font is there. -/
def initialMemory : Memory 4096 :=
  ⟨Memory.overwrite (Memory.blank 4096).bytes 0 Memory.font⟩

/-- A machine that has just been switched on. -/
def create (settings : Settings) (random : RandomSource) : Machine :=
  { settings := settings
    random := random
    memory := initialMemory
    registers := Registers.initial
    stack := CallStack.empty
    screen := Screen.initial 64 32
    keypad := Keypad.empty
    timer := ⟨0⟩
    phase := .running
    romLoaded := false
    instructionCount := 0
    faultCount := 0
    lastFault := none
    lastOpcode := none
    lastWarned := none
    observers := []
    conduct := Conduct.plain
    deliveries := []
    journal := [] }

/-- Add to the journal. -/
def note (machine : Machine) (notice : Notice) : Machine :=
  { machine with journal := notice :: machine.journal }

/-! ## Observers -/

/-- Register an observer; one that is registered twice is told twice. -/
def subscribe (machine : Machine) (observer : Observer) : Machine :=
  { machine with observers := machine.observers ++ [observer] }

/-- Withdraw the first registration of an observer, if there is one. -/
def unsubscribe? (machine : Machine) (observer : Observer) : Option Machine :=
  if machine.observers.contains observer then
    some { machine with observers := machine.observers.erase observer }
  else none

/-- Let an observer react in a manner of its own from now on. -/
def assign (machine : Machine) (observer : Observer)
    (manner : List Delivery → List Observer → Reaction) : Machine :=
  { machine with
    conduct := fun other => if other = observer then manner else machine.conduct other }

/-- Tell observers of a fault, one after the other, until one interrupts. -/
def notify (machine : Machine) (fault : Fault) :
    List Observer → Machine × Option Interruption
  | [] => (machine, none)
  | observer :: rest =>
      let delivery : Delivery :=
        { observer := observer
          fault := fault
          pc := machine.registers.pc
          phase := machine.phase
          faultCount := machine.faultCount }
      let deliveries := delivery :: machine.deliveries
      let reaction := machine.conduct observer deliveries machine.observers
      let told : Machine :=
        { machine with observers := reaction.registered, deliveries := deliveries }
      if reaction.interrupts then (told, some ⟨observer⟩) else told.notify fault rest

/-- Count and note a fault.  It is warned of, unless the last warning was of the same kind at the
same program counter. -/
def record (machine : Machine) (fault : Fault) : Machine :=
  let counted : Machine :=
    { machine with faultCount := machine.faultCount + 1, lastFault := some fault }
  let topic := some (fault.kind, fault.pc)
  if machine.lastWarned = topic then counted.note (.faultRepeated fault)
  else ({ counted with lastWarned := topic } : Machine).note (.faulted fault)

/-- Record a fault and tell everyone who is registered at that moment. -/
def report (machine : Machine) (fault : Fault) : Machine × Option Interruption :=
  (machine.record fault).notify fault machine.observers

/-! ## Keys, timer and redraw flag -/

/-- Let a key event take effect at once.  The result says whether it changed the held keys. -/
def applyKey (machine : Machine) (event : KeyEvent Key) : Machine × Bool :=
  if machine.keypad.changes event then
    (({ machine with keypad := machine.keypad.apply event } : Machine).note (.keyChanged event),
      true)
  else (machine, false)

/-- Press or release the key with a code. -/
def setKey (machine : Machine) (code : Int) (down : Bool) :
    Except KeyError (Machine × Bool) :=
  match Key.ofCode code with
  | .ok key => .ok (machine.applyKey ⟨key, down⟩)
  | .error failure => .error failure

/-- Queue a key event for the start of the next cycle. -/
def queueKey (machine : Machine) (event : KeyEvent Key) : Machine :=
  { machine with keypad := machine.keypad.post event }

/-- Let the key with a code go down or up at the start of the next cycle. -/
def postKey (machine : Machine) (code : Int) (down : Bool) : Except KeyError Machine :=
  match Key.ofCode code with
  | .ok key => .ok (machine.queueKey ⟨key, down⟩)
  | .error failure => .error failure

/-- Let go of every key. -/
def releaseAll (machine : Machine) : Machine :=
  { machine with keypad := machine.keypad.releaseAll }

/-- Let the queued key events take effect. -/
def drainKeys (machine : Machine) : Machine :=
  let (keypad, changed) := machine.keypad.drain
  { machine with
    keypad := keypad
    journal := changed.reverse.map Notice.keyChanged ++ machine.journal }

/-- One tick of the timer. -/
def tick (machine : Machine) : Machine :=
  { machine with timer := machine.timer.tick }

/-- The redraw flag, and the machine with the flag taken down. -/
def takeRedraw (machine : Machine) : Bool × Machine :=
  let (redraw, screen) := machine.screen.takeRedraw
  (redraw, { machine with screen := screen })

end Machine

end ChipEight
