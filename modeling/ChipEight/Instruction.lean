import ChipEight.Opcode

/-!
# Instructions

What each instruction word asks for.  Words that no instruction is mapped to decode to nothing.
-/

namespace ChipEight

/-- The register operations of family 8, told apart by the last digit. -/
inductive Arithmetic where
  | copy
  | or
  | and
  | xor
  | add
  | subtract
  | shiftRight
  | subtractFrom
  | shiftLeft
deriving DecidableEq

/-- A decoded instruction with its operands. -/
inductive Instruction where
  | clearScreen
  | ret
  | jump (target : UInt16)
  | call (target : UInt16)
  | skipIfByte (x : Fin 16) (byte : UInt8)
  | skipUnlessByte (x : Fin 16) (byte : UInt8)
  | skipIfSame (x y : Fin 16)
  | skipUnlessSame (x y : Fin 16)
  | loadByte (x : Fin 16) (byte : UInt8)
  | addByte (x : Fin 16) (byte : UInt8)
  | arithmetic (operation : Arithmetic) (x y : Fin 16)
  | loadIndex (address : UInt16)
  | jumpFromV0 (base : UInt16)
  | random (x : Fin 16) (mask : UInt8)
  | draw (x y : Fin 16) (rows : Nat)
  | skipIfKey (x : Fin 16)
  | skipUnlessKey (x : Fin 16)
  | readTimer (x : Fin 16)
  | waitKey (x : Fin 16)
  | writeTimer (x : Fin 16)
  | writeSound (x : Fin 16)
  | addIndex (x : Fin 16)
  | pointGlyph (x : Fin 16)
  | storeDecimal (x : Fin 16)
  | storeRegisters (x : Fin 16)
  | loadRegisters (x : Fin 16)
deriving DecidableEq

/-- The register operation that a last digit selects. -/
def Arithmetic.ofDigit? : Nat → Option Arithmetic
  | 0x0 => some .copy
  | 0x1 => some .or
  | 0x2 => some .and
  | 0x3 => some .xor
  | 0x4 => some .add
  | 0x5 => some .subtract
  | 0x6 => some .shiftRight
  | 0x7 => some .subtractFrom
  | 0xE => some .shiftLeft
  | _ => none

namespace Instruction

/-- Family 0: screen and return.  Only the last two digits count. -/
def decodeSystem? (op : Opcode) : Option Instruction :=
  match op.nn.toNat with
  | 0xE0 => some .clearScreen
  | 0xEE => some .ret
  | _ => none

/-- Family E: skips on the state of a key. -/
def decodeKeys? (op : Opcode) : Option Instruction :=
  match op.nn.toNat with
  | 0x9E => some (.skipIfKey op.x)
  | 0xA1 => some (.skipUnlessKey op.x)
  | _ => none

/-- Family F: timers, the index register and block transfers. -/
def decodeTransfer? (op : Opcode) : Option Instruction :=
  match op.nn.toNat with
  | 0x07 => some (.readTimer op.x)
  | 0x0A => some (.waitKey op.x)
  | 0x15 => some (.writeTimer op.x)
  | 0x18 => some (.writeSound op.x)
  | 0x1E => some (.addIndex op.x)
  | 0x29 => some (.pointGlyph op.x)
  | 0x33 => some (.storeDecimal op.x)
  | 0x55 => some (.storeRegisters op.x)
  | 0x65 => some (.loadRegisters op.x)
  | _ => none

/-- The instruction of a word, if one is mapped to it.  The last digit is ignored in families 5
and 9. -/
def decode? (op : Opcode) : Option Instruction :=
  match op.family with
  | 0x0 => decodeSystem? op
  | 0x1 => some (.jump op.nnn)
  | 0x2 => some (.call op.nnn)
  | 0x3 => some (.skipIfByte op.x op.nn)
  | 0x4 => some (.skipUnlessByte op.x op.nn)
  | 0x5 => some (.skipIfSame op.x op.y)
  | 0x6 => some (.loadByte op.x op.nn)
  | 0x7 => some (.addByte op.x op.nn)
  | 0x8 => (Arithmetic.ofDigit? op.n).map fun operation => .arithmetic operation op.x op.y
  | 0x9 => some (.skipUnlessSame op.x op.y)
  | 0xA => some (.loadIndex op.nnn)
  | 0xB => some (.jumpFromV0 op.nnn)
  | 0xC => some (.random op.x op.nn)
  | 0xD => some (.draw op.x op.y op.n)
  | 0xE => decodeKeys? op
  | _ => decodeTransfer? op

end Instruction

end ChipEight
