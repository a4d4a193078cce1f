import ChipEight.Machine.Basic

/-!
# Loading programs

Loading a program resets the machine, except for its keys, its observers and its settings.  A
program that is too large is reported as a fault and changes nothing else.
-/

namespace ChipEight

/-- Why loading a file did not finish. -/
inductive LoadError where
  | badPath (failure : FileError)
  | interrupted (interruption : Interruption)
deriving DecidableEq

namespace Machine

/-- The machine with a program in its memory, ready to run it. -/
def restart (machine : Machine) (memory : Memory 4096) (size : Nat) : Machine :=
  { machine with
    memory := memory
    registers := Registers.initial
    stack := CallStack.empty
    timer := ⟨0⟩
    screen := Screen.initial 64 32
    phase := .running
    romLoaded := true
    instructionCount := 0
    faultCount := 0
    lastFault := none
    lastOpcode := none
    lastWarned := none
    journal := .romLoaded size :: .romCopied size :: machine.journal }

/-- Load a program.  The result says whether it fitted. -/
def loadRom (machine : Machine) (rom : List UInt8) : Machine × Except Interruption Bool :=
  match machine.memory.loadRom rom with
  | .ok memory => (machine.restart memory rom.length, .ok true)
  | .error cause =>
      match machine.report ⟨cause, none⟩ with
      | (after, none) => (after, .ok false)
      | (after, some interruption) => (after, .error interruption)

/-- Load the program in a file whose contents have been read, or could not be. -/
def loadFile (machine : Machine) (path : Text) (contents : Except FileError (List UInt8)) :
    Machine × Except LoadError Bool :=
  let opened := machine.note (.romOpened path)
  match contents with
  | .error failure =>
      if failure.isRefusal then (opened.note (.romUnreadable path failure), .ok false)
      else (opened, .error (.badPath failure))
  | .ok rom =>
      match opened.loadRom rom with
      | (after, .ok fitted) => (after, .ok fitted)
      | (after, .error interruption) => (after, .error (.interrupted interruption))

end Machine

end ChipEight
