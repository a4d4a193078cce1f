import ChipEight.Machine.Basic

/-!
# Executing instructions

What one instruction does to a machine whose program counter already points behind it.  An
instruction is a sequence of actions.  When one of them fails, the instruction ends there, and what
the actions before it did to the machine stays done.
-/

namespace ChipEight

namespace Registers

/-- A register operation.  Operands are the values before it, the result is stored first and the
flag last, so that the flag stays when the target is the flag register.  Shifts take their operand
from `x`, or from `y` if `shiftUsesVy` is set. -/
def arithmetic (registers : Registers) (operation : Arithmetic) (shiftUsesVy : Bool)
    (x y : Fin 16) : Registers :=
  let a := registers.get x
  let b := registers.get y
  let source := if shiftUsesVy then b else a
  match operation with
  | .copy => registers.set x b
  | .or => registers.set x (a ||| b)
  | .and => registers.set x (a &&& b)
  | .xor => registers.set x (a ^^^ b)
  | .add => (registers.set x (a + b)).setFlag (decide (255 < a.toNat + b.toNat))
  | .subtract => (registers.set x (a - b)).setFlag (decide (b ≤ a))
  | .shiftRight => (registers.set x (source >>> 1)).setFlag (source.toNat % 2 == 1)
  | .subtractFrom => (registers.set y (b - a)).setFlag (decide (a ≤ b))
  | .shiftLeft => (registers.set x (source <<< 1)).setFlag (decide (128 ≤ source))

/-- The number of the register `V0`, which a jump can add to its target. -/
def baseNumber : Fin 16 :=
  ⟨0, Nat.succ_pos 15⟩

/-- Skip the next instruction under a condition. -/
def skipIf (registers : Registers) (condition : Bool) : Registers :=
  if condition then registers.advance else registers

end Registers

/-- The three decimal digits of a byte. -/
def decimalDigits (byte : UInt8) : List UInt8 :=
  [byte / 100 % 10, byte / 10 % 10, byte % 10]

namespace Machine

/-- The value of a byte register. -/
def v (machine : Machine) (x : Fin 16) : UInt8 :=
  machine.registers.get x

/-- Replace the register file. -/
def withRegisters (machine : Machine) (registers : Registers) : Machine :=
  { machine with registers := registers }

/-- Go on at an address. -/
def jump (machine : Machine) (target : UInt16) : Machine :=
  machine.withRegisters { machine.registers with pc := target }

/-- Point the index register at an address. -/
def point (machine : Machine) (address : UInt16) : Machine :=
  machine.withRegisters { machine.registers with index := address }

/-- The screen with a sprite drawn from a column and a row on, and whether a pixel was erased. -/
def stamped (machine : Machine) (startX startY : UInt8) (sprite : List UInt8) :
    Screen 64 32 × Bool :=
  machine.screen.draw (Nat.succ_pos 63) (Nat.succ_pos 31) startX.toNat startY.toNat sprite

/-! ## Actions -/

/-- A part of an instruction.  It acts on the machine and may fail; a failure keeps the machine as
it is at that moment. -/
abbrev Action (α : Type) : Type :=
  ExceptT Fault.Cause (StateM Machine) α

namespace Action

/-- What an action gives, and the machine after it. -/
def on {α : Type} (action : Action α) (machine : Machine) : Except Fault.Cause α × Machine :=
  (action.run.run machine).run

/-- The value of a byte register. -/
def readV (x : Fin 16) : Action UInt8 := do
  return (← get).v x

/-- Change the register file. -/
def updateRegisters (change : Registers → Registers) : Action Unit :=
  modify fun machine => machine.withRegisters (change machine.registers)

/-- Replace the value of a byte register. -/
def writeV (x : Fin 16) (byte : UInt8) : Action Unit :=
  updateRegisters fun registers => registers.set x byte

/-- Go on at an address. -/
def jumpTo (target : UInt16) : Action Unit :=
  modify fun machine => machine.jump target

/-- Skip the next instruction under a condition. -/
def skipIf (condition : Bool) : Action Unit :=
  updateRegisters fun registers => registers.skipIf condition

/-- Point the index register at an address. -/
def pointAt (address : UInt16) : Action Unit :=
  modify fun machine => machine.point address

/-- Set the delay timer. -/
def startTimer (value : UInt8) : Action Unit :=
  modify fun machine => { machine with timer := ⟨value⟩ }

/-- Change the phase. -/
def enter (phase : Phase) : Action Unit :=
  modify fun machine => { machine with phase := phase }

/-- Put a return address on the stack. -/
def pushFrame (address : UInt16) : Action Unit := do
  let stack ← (← get).stack.push address
  modify fun machine => { machine with stack := stack }

/-- Take the top return address from the stack. -/
def popFrame : Action UInt16 := do
  let (address, stack) ← (← get).stack.pop
  modify fun machine => { machine with stack := stack }
  return address

/-- Read bytes at the index register. -/
def readBlock (count : Nat) : Action (List UInt8) := do
  let machine ← get
  machine.memory.readBlock machine.registers.index.toNat count

/-- Write bytes at the index register. -/
def writeBlock (payload : List UInt8) : Action Unit := do
  let machine ← get
  let memory ← machine.memory.writeBlock machine.registers.index.toNat payload
  set { machine with memory := memory }

/-- Put out every pixel of the screen. -/
def clearScreen : Action Unit :=
  modify fun machine => { machine with screen := machine.screen.clear }

/-- Draw a sprite.  The result says whether a pixel was erased. -/
def paint (startX startY : UInt8) (sprite : List UInt8) : Action Bool :=
  modifyGet fun machine =>
    let (screen, collided) := machine.stamped startX startY sprite
    (collided, { machine with screen := screen })

/-- Draw a random byte. -/
def drawByte : Action UInt8 :=
  modifyGet fun machine =>
    let (byte, random) := machine.random.draw
    (byte, { machine with random := random })

/-- Whether the key whose code is in a register is held. -/
def keyHeld (x : Fin 16) : Action Bool := do
  let machine ← get
  return machine.keypad.isDown (machine.v x).toNat

end Action

/-! ## Instructions -/

open Machine.Action in
/-- Execute one instruction. -/
def perform : Instruction → Action Unit
  | .clearScreen => clearScreen
  | .ret => do
      jumpTo (← popFrame)
  | .jump target => jumpTo target
  | .call target => do
      pushFrame (← get).registers.pc
      jumpTo target
  | .skipIfByte x byte => do
      skipIf ((← readV x) == byte)
  | .skipUnlessByte x byte => do
      skipIf ((← readV x) != byte)
  | .skipIfSame x y => do
      skipIf ((← readV x) == (← readV y))
  | .skipUnlessSame x y => do
      skipIf ((← readV x) != (← readV y))
  | .loadByte x byte => writeV x byte
  | .addByte x byte => do
      writeV x ((← readV x) + byte)
  | .arithmetic operation x y => do
      let settings := (← get).settings
      updateRegisters fun registers =>
        registers.arithmetic operation settings.shiftUsesVy x y
  | .loadIndex address => pointAt address
  | .jumpFromV0 base => do
      jumpTo (base + (← readV Registers.baseNumber).toUInt16)
  | .random x mask => do
      writeV x ((← drawByte) &&& mask)
  | .draw x y rows => do
      let sprite ← readBlock rows
      let collided ← paint (← readV x) (← readV y) sprite
      updateRegisters fun registers => registers.setFlag collided
  | .skipIfKey x => do
      skipIf (← keyHeld x)
  | .skipUnlessKey x => do
      skipIf !(← keyHeld x)
  | .readTimer x => do
      writeV x (← get).timer.value
  | .waitKey x => do
      match (← get).keypad.last? with
      | some key =>
          writeV x (UInt8.ofNat key.val)
          enter .running
      | none =>
          updateRegisters Registers.rewind
          enter .waitKey
  | .writeTimer x => do
      startTimer (← readV x)
  | .writeSound _ => return
  | .addIndex x => do
      pointAt ((← get).registers.index + (← readV x).toUInt16)
  | .pointGlyph x => do
      pointAt (5 * (← readV x).toUInt16)
  | .storeDecimal x => do
      writeBlock (decimalDigits (← readV x))
  | .storeRegisters x => do
      writeBlock ((← get).registers.v.toList.take (x.val + 1))
  | .loadRegisters x => do
      let bytes ← readBlock (x.val + 1)
      updateRegisters fun registers => registers.loadFrom 0 bytes

/-- Execute the instruction of a word. -/
def execute (op : Opcode) : Action Unit :=
  match Instruction.decode? op with
  | some instruction => perform instruction
  | none => throw (.unmappedOpcode op.word.toNat)

end Machine

end ChipEight
