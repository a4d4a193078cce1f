import ChipEight.Files.Tree
import ChipEight.Monitor.KeyCode
import ChipEight.Monitor.Script
import ChipEight.Runner.Basic

/-!
# Consoles

A machine under the monitor.  Keys are pressed by codes of any kind of number, random numbers come
from a script, and observers have names of any kind.  Where the machine needs the bits or the
digits of a value that has none, it is broken off: a key may have changed by then, and an
instruction may have been fetched.
-/

namespace ChipEight.Monitor

/-- What a watcher does whenever it is told of a fault: nothing, or it withdraws one of its
registrations, or it interrupts. -/
inductive Habit where
  | record
  | withdraw
  | interrupt

/-- The reaction of an observer with a habit. -/
def Habit.manner (habit : Habit) (observer : Observer) (_ : List Delivery)
    (registered : List Observer) : Reaction :=
  match habit with
  | .record => ⟨registered, false⟩
  | .withdraw => ⟨registered.erase observer, false⟩
  | .interrupt => ⟨registered, true⟩

/-- An observer with the key under which it is kept and its name as it was given. -/
structure Watcher where
  key : String
  name : Json
  observer : Observer

/-- A machine under the monitor.  The keypad of the machine follows the keypad of the console, as
far as the codes name keys of the machine.  With `logging` the journal is read. -/
structure Console where
  machine : Machine
  keypad : Keypad KeyCode
  script : Script
  watchers : List Watcher
  logging : Bool

namespace Console

/-- A console with a new machine. -/
def create (settings : Settings) (script : Script) (logging : Bool) : Console :=
  { machine := Machine.create settings script.source
    keypad := Keypad.empty
    script := script
    watchers := []
    logging := logging }

/-- Put another machine into a console. -/
def replace (console : Console) (machine : Machine) : Console :=
  { console with machine := machine }

/-! ## Keys -/

/-- Queue events instead of those that are queued. -/
def queue (console : Console) (events : List (KeyEvent KeyCode)) : Console :=
  { console with
    keypad := { console.keypad with queue := events }
    machine :=
      { console.machine with
        keypad :=
          { console.machine.keypad with
            queue := events.filterMap KeyEvent.onMachine? } } }

/-- Let an event take effect on the machine.  The journal has no room for codes without digits. -/
def touch (machine : Machine) (event : KeyEvent KeyCode) : Machine :=
  match event.onMachine? with
  | none => machine
  | some felt =>
      if event.key.isWhole then (machine.applyKey felt).1
      else { machine with keypad := machine.keypad.apply felt }

/-- Let an event take effect.  The result says whether it changed the held keys.  A change of a key
whose code has no digits cannot be noted. -/
def setKey (console : Console) (event : KeyEvent KeyCode) : Console × Except Refusal Bool :=
  let changed := console.keypad.changes event
  let after : Console :=
    { console with
      keypad := console.keypad.apply event
      machine := touch console.machine event }
  if changed && console.logging && !event.key.isWhole then
    (after, mismatched (.noDigits event.key.value.kindName))
  else (after, .ok changed)

/-- Queue an event for the start of the next cycle. -/
def postKey (console : Console) (event : KeyEvent KeyCode) : Console :=
  { console with
    keypad := console.keypad.post event
    machine :=
      match event.onMachine? with
      | none => console.machine
      | some felt => console.machine.queueKey felt }

/-- Let go of every key. -/
def releaseAll (console : Console) : Console :=
  { console with
    keypad := console.keypad.releaseAll
    machine := console.machine.releaseAll }

/-- Let events take effect in order.  If one of them breaks off, those after it are queued. -/
def setKeys (console : Console) : List (KeyEvent KeyCode) → Console × Except Refusal Unit
  | [] => (console, .ok ())
  | event :: rest =>
      match console.setKey event with
      | (after, .ok _) => after.setKeys rest
      | (after, .error refusal) => (after.queue rest, .error refusal)

/-- Let the queued events take effect. -/
def drainKeys (console : Console) : Console × Except Refusal Unit :=
  if console.keypad.queue.all fun event => event.key.isWhole then
    ({ console with
        keypad := console.keypad.drain.1
        machine := console.machine.drainKeys },
      .ok ())
  else (console.queue []).setKeys console.keypad.queue

/-! ## Observers -/

/-- Why an operation was interrupted.  An observer interrupts with its name, which has to be a
text. -/
def interruption (console : Console) (failure : Interruption) : Refusal :=
  match console.watchers.find? fun watcher => watcher.observer == failure.observer with
  | some ⟨_, .str name, _⟩ => .interrupted name
  | some watcher => .mismatch (.noConcatenation watcher.name.kindName)
  | none => .interrupted failure.observer.name

/-- The watcher that is kept under a key. -/
def watcher? (console : Console) (key : String) : Option Watcher :=
  console.watchers.find? fun watcher => watcher.key == key

/-- Register the observer with a name; at its first registration it is given its habit. -/
def listen (console : Console) (name : Json) (habit : Habit) : Except Refusal Console := do
  let key ← tableKey name
  match console.watcher? key with
  | some watcher => return console.replace (console.machine.subscribe watcher.observer)
  | none =>
      let observer : Observer := ⟨key⟩
      return {
        console with
        watchers := ⟨key, name, observer⟩ :: console.watchers
        machine := (console.machine.subscribe observer).assign observer (habit.manner observer) }

/-- Withdraw a registration of the observer with a name. -/
def unlisten (console : Console) (name : Json) : Except Refusal Console := do
  let key ← tableKey name
  let watcher? := console.watcher? key
  match watcher?.bind fun watcher => console.machine.unsubscribe? watcher.observer with
  | some machine => return console.replace machine
  | none => unfit .notRegistered

/-- The name of an observer as it was given. -/
def nameOf (console : Console) (observer : Observer) : Json :=
  match console.watchers.find? fun watcher => watcher.observer == observer with
  | some watcher => watcher.name
  | none => .str observer.name

/-! ## Programs -/

/-- Load a program.  The result says whether it fitted. -/
def loadRom (console : Console) (rom : List UInt8) : Console × Except Refusal Bool :=
  let (after, result) := console.machine.loadRom rom
  (console.replace after, result.mapError console.interruption)

/-- The contents of the file that a value names.  A number stands for a file that is open, which
none is. -/
def contents (files : FileTree) (path : Json) :
    Except Refusal (Except FileError (List UInt8)) :=
  match path with
  | .str path => .ok (files.read path)
  | .int n => if n < 0 then unfit .negativeFile else .ok (.error .notOpen)
  | _ => mismatched (.noPath path.kindName)

/-- Load the program in a file. -/
def loadFile (console : Console) (files : FileTree) (path : Json) :
    Console × Except Refusal Bool :=
  match contents files path with
  | .error refusal =>
      (console.replace (console.machine.note (.romOpened path.plainText)), .error refusal)
  | .ok bytes =>
      let (after, result) := console.machine.loadFile path.plainText bytes
      (console.replace after, result.mapError fun failure =>
        match failure with
        | .badPath failure => .file failure
        | .interrupted interruption => console.interruption interruption)

/-! ## Cycles -/

/-- Why an instruction is broken off. -/
def obstacle (console : Console) : Instruction → Except Refusal Unit
  | .random _ _ => (console.script.draw console.machine.random.drawn).map fun _ => ()
  | .waitKey _ =>
      match console.keypad.last? with
      | some code => (bits "&" code.value).map fun _ => ()
      | none => .ok ()
  | _ => .ok ()

/-- The machine after an instruction has been broken off. -/
def brokenOff (machine : Machine) (op : Opcode) : Instruction → Machine
  | .random _ _ => { machine.fetched op with random := machine.random.draw.2 }
  | _ => machine.fetched op

/-- Why the instruction at the program counter is broken off, with the machine after that. -/
def obstacle? (console : Console) : Option (Machine × Refusal) :=
  let machine := console.machine
  if machine.phase = .halted ∨ Machine.lastFetch < machine.registers.pc.toNat then none
  else
    match Instruction.decode? machine.nextOpcode with
    | none => none
    | some instruction =>
        match console.obstacle instruction with
        | .ok () => none
        | .error refusal => some (brokenOff machine machine.nextOpcode instruction, refusal)

/-- The part of a cycle after the key queue has been drained. -/
def fetchExecute (console : Console) : Console × Except Refusal (Option Opcode) :=
  match console.obstacle? with
  | some (machine, refusal) => (console.replace machine, .error refusal)
  | none =>
      let (after, result) := console.machine.fetchExecute
      (console.replace after, result.mapError console.interruption)

/-- One cycle. -/
def cycle (console : Console) : Console × Except Refusal (Option Opcode) :=
  match console.drainKeys with
  | (drained, .ok ()) => drained.fetchExecute
  | (drained, .error refusal) => (drained, .error refusal)

/-- Several cycles, added to a count of those that fetched an instruction.  A cycle that is broken
off ends them. -/
def cycles (fetched : Nat) : Nat → Console → Console × Except Refusal Nat
  | 0, console => (console, .ok fetched)
  | count + 1, console =>
      match console.cycle with
      | (after, .ok op) => cycles (fetched + op.toList.length) count after
      | (after, .error refusal) => (after, .error refusal)

/-- Several ticks of the timer. -/
def ticks : Nat → Console → Console
  | 0, console => console
  | count + 1, console => ticks count (console.replace console.machine.tick)

end Console

instance : Cycled Console Refusal where
  machine := Console.machine
  replace := Console.replace
  cycle := Console.cycle

end ChipEight.Monitor
