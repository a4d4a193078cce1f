import ChipEight.Device.CallStack
import ChipEight.Device.Registers
import ChipEight.Monitor.Operand

/-!
# Registers and call stack under the monitor

Numbers of registers, depths of the stack and what is stored there are given as values.
-/

namespace ChipEight.Monitor

/-! ## Registers -/

/-- Read a register by its number. -/
def readRegister (registers : Registers) (number : Json) : Except Refusal UInt8 := do
  let place ← position "list" number
  (registers.readNumbered place).mapError .register

/-- Fail unless a value is the number of a register. -/
def checkRegister (number : Json) : Except Refusal Unit :=
  match number.numeric?, whole? number with
  | none, _ => mismatched (.unordered "<=" "int" number.kindName)
  | some x, place =>
      if x.atLeast 0 && x.below 16 then .ok ()
      else
        match place with
        | some n => .error (.register (.missing n))
        | none => .error (.format (.unknownCode number.kindName))

/-- Write the low eight bits of a value to the register with a number. -/
def writeRegister (registers : Registers) (number value : Json) :
    Except Refusal Registers := do
  checkRegister number
  let byte ← bits "&" value
  let place ← position "list" number
  (registers.writeNumbered place byte).mapError .register

/-- Write bytes to the registers from a number on.  Those before the first that does not exist are
written. -/
def writeRegisters (registers : Registers) (number : Int) :
    List UInt8 → Registers × Except Refusal Unit
  | [] => (registers, .ok ())
  | byte :: rest =>
      match registers.writeNumbered number byte.toNat with
      | .ok after => writeRegisters after (number + 1) rest
      | .error failure => (registers, .error (.register failure))

/-- The low sixteen bits of a value. -/
def word (value : Json) : Except Refusal UInt16 :=
  (bits "&" value).map UInt16.ofInt

/-! ## Call stack -/

/-- The least integer that is not less than a binary64 number.  Nothing counts as far as the
greatest word, so it stands for a bound that is never reached. -/
def ceiling : Binary64 → Int
  | .nan => Word.greatest
  | .infinite negative => if negative then 0 else Word.greatest
  | .finite true mantissa exponent => -(Binary64.truncated mantissa exponent : Int)
  | .finite false mantissa exponent =>
      let (num, den) := Binary64.scaled mantissa 1 exponent
      ((num + den - 1) / den : Nat)

/-- How many return addresses a stack may hold.  A value that is no number allows none. -/
def depthLimit (value : Json) : Int :=
  match value.numeric? with
  | some (.exact n) => n
  | some (.binary x) => ceiling x
  | none => 0

/-- Put the low sixteen bits of a value on top of a stack whose limit is given as a value. -/
def push (limit : Json) (stack : CallStack (depthLimit limit)) (address : Json) :
    Except Refusal (CallStack (depthLimit limit)) :=
  match limit.numeric? with
  | none => mismatched (.unordered ">=" "int" limit.kindName)
  | some _ => do
      let _ ← (stack.push 0).mapError Refusal.ofCause
      let target ← word address
      (stack.push target).mapError .ofCause

end ChipEight.Monitor
