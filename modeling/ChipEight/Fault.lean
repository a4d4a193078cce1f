import ChipEight.Number.Hexadecimal

/-!
# Faults

A fault is what goes wrong in one cycle or in one load, and the machine goes on after it.  The
devices give the cause; the machine adds the program counter of the cycle.
-/

namespace ChipEight

namespace Fault

/-- The kinds of faults. -/
inductive Kind where
  | general
  | romTooLarge
  | memoryOutOfBounds
  | fetchOutOfBounds
  | unmappedOpcode
  | stack
  | stackOverflow
  | stackUnderflow
deriving DecidableEq

/-- The name of a kind. -/
def Kind.name : Kind → String
  | .general => "Chip8Fault"
  | .romTooLarge => "RomTooLarge"
  | .memoryOutOfBounds => "MemoryOutOfBounds"
  | .fetchOutOfBounds => "FetchOutOfBounds"
  | .unmappedOpcode => "UnmappedOpcode"
  | .stack => "StackFault"
  | .stackOverflow => "StackOverflow"
  | .stackUnderflow => "StackUnderflow"

/-- All kinds. -/
def Kind.all : List Kind :=
  [.general, .romTooLarge, .memoryOutOfBounds, .fetchOutOfBounds, .unmappedOpcode, .stack,
    .stackOverflow, .stackUnderflow]

/-- A kind with the more general kinds that it belongs to. -/
def Kind.lineage : Kind → List Kind
  | .general => [.general]
  | .stackOverflow => [.stackOverflow, .stack, .general]
  | .stackUnderflow => [.stackUnderflow, .stack, .general]
  | kind => [kind, .general]

/-- What went wrong. -/
inductive Cause where
  | romTooLarge (size limit : Int)
  | memoryOutOfBounds (address count : Int)
  | fetchOutOfBounds
  | unmappedOpcode (opcode : Int)
  | stackOverflow (depth : Int)
  | stackUnderflow
deriving DecidableEq

/-- The kind of a cause. -/
def Cause.kind : Cause → Kind
  | .romTooLarge _ _ => .romTooLarge
  | .memoryOutOfBounds _ _ => .memoryOutOfBounds
  | .fetchOutOfBounds => .fetchOutOfBounds
  | .unmappedOpcode _ => .unmappedOpcode
  | .stackOverflow _ => .stackOverflow
  | .stackUnderflow => .stackUnderflow

/-- The cause in words. -/
def Cause.text : Cause → String
  | .romTooLarge size limit => s!"ROM is {size} bytes, limit is {limit}"
  | .memoryOutOfBounds address count =>
      if count = 1 then
        s!"memory access out of bounds at {Hexadecimal.address address}"
      else
        s!"memory access out of bounds: {Hexadecimal.address address}+{count} bytes"
  | .fetchOutOfBounds => "instruction fetch past end of memory"
  | .unmappedOpcode opcode => s!"unmapped opcode {Hexadecimal.address opcode}"
  | .stackOverflow depth => s!"call stack overflow (depth {depth})"
  | .stackUnderflow => "return with empty call stack"

end Fault

/-- A fault: its cause, and the program counter of the cycle if it arose in one. -/
structure Fault where
  cause : Fault.Cause
  pc : Option Int
deriving DecidableEq

namespace Fault

/-- The kind of a fault. -/
def kind (fault : Fault) : Kind :=
  fault.cause.kind

/-- The fault in words, with the program counter when it is known. -/
def text (fault : Fault) : String :=
  match fault.pc with
  | none => fault.cause.text
  | some pc => s!"{fault.cause.text} (pc={Hexadecimal.address pc})"

end Fault

end ChipEight
