import ChipEight.Number.Hexadecimal
import ChipEight.Number.Word

/-!
# Registers

Sixteen byte registers `V0` to `VF`, the index register and the program counter.  `VF` doubles as
the flag that arithmetic and drawing set.
-/

namespace ChipEight

/-- The register file. -/
structure Registers where
  v : Vector UInt8 16
  index : UInt16
  pc : UInt16
deriving DecidableEq

/-- Why a register cannot be reached by its number. -/
inductive RegisterError where
  | beyondEnd
  | beyondWord
  | missing (number : Int)
deriving DecidableEq

/-- The error in words. -/
def RegisterError.message : RegisterError → String
  | .beyondEnd => "list index out of range"
  | .beyondWord => Word.noIndex
  | .missing number => s!"register V{Hexadecimal.padded 0 number} does not exist"

namespace Registers

/-- The registers of a machine that has just been started. -/
def initial : Registers :=
  { v := Vector.replicate 16 0, index := 0, pc := 0x200 }

/-- The number of the flag register `VF`. -/
def flagNumber : Fin 16 :=
  ⟨15, Nat.lt_succ_self 15⟩

/-- The value of a byte register. -/
def get (registers : Registers) (x : Fin 16) : UInt8 :=
  registers.v[x]

/-- Replace the value of a byte register. -/
def set (registers : Registers) (x : Fin 16) (byte : UInt8) : Registers :=
  { registers with v := registers.v.set x byte }

/-- The flag register `VF`. -/
def flag (registers : Registers) : UInt8 :=
  registers.get flagNumber

/-- Set the flag register to one or zero. -/
def setFlag (registers : Registers) (raised : Bool) : Registers :=
  registers.set flagNumber (if raised then 1 else 0)

/-- Step the program counter over one instruction. -/
def advance (registers : Registers) : Registers :=
  { registers with pc := registers.pc + 2 }

/-- Step the program counter back over one instruction. -/
def rewind (registers : Registers) : Registers :=
  { registers with pc := registers.pc - 2 }

/-- Read by number; a negative number counts from the end. -/
def readNumbered (registers : Registers) (number : Int) : Except RegisterError UInt8 :=
  if -16 ≤ number ∧ number < 16 then
    .ok (registers.get (Hexadecimal.lastDigit (number % 16).toNat))
  else if Word.fits number then .error .beyondEnd
  else .error .beyondWord

/-- Write the low eight bits of a value by number. -/
def writeNumbered (registers : Registers) (number value : Int) :
    Except RegisterError Registers :=
  if 0 ≤ number ∧ number < 16 then
    .ok (registers.set (Hexadecimal.lastDigit number.toNat) (UInt8.ofInt value))
  else .error (.missing number)

/-- Write the first registers one after the other. -/
def loadFrom (registers : Registers) (start : Nat) : List UInt8 → Registers
  | [] => registers
  | byte :: rest => (registers.set (Hexadecimal.lastDigit start) byte).loadFrom (start + 1) rest

/-- The registers on one line. -/
def text (registers : Registers) : String :=
  let bytes := (List.finRange 16).map fun x =>
    s!"V{Hexadecimal.padded 0 x.val}={Hexadecimal.padded 2 (registers.get x).toNat}"
  let line := String.intercalate " " bytes
  let index := Hexadecimal.padded 4 registers.index.toNat
  let pc := Hexadecimal.padded 4 registers.pc.toNat
  s!"RegisterFile({line} I={index} PC={pc})"

end Registers

end ChipEight
