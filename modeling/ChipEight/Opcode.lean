import ChipEight.Number.Hexadecimal

/-!
# Instruction words

An opcode is a 16-bit word, written as four hexadecimal digits `F X Y N`.  The fields overlap:
`x` and `y` name registers, `n`, `nn` and `nnn` are the last one, two and three digits.
-/

namespace ChipEight

/-- A 16-bit instruction word. -/
structure Opcode where
  word : UInt16
deriving DecidableEq

namespace Opcode

/-- The low sixteen bits of an integer. -/
def ofInt (n : Int) : Opcode :=
  ⟨UInt16.ofInt n⟩

/-- The first digit, which selects the family of instructions. -/
def family (op : Opcode) : Nat :=
  op.word.toNat / 4096

/-- The last three digits, an address. -/
def nnn (op : Opcode) : UInt16 :=
  UInt16.ofNat (op.word.toNat % 4096)

/-- The last two digits, a byte. -/
def nn (op : Opcode) : UInt8 :=
  UInt8.ofNat (op.word.toNat % 256)

/-- The last digit. -/
def n (op : Opcode) : Nat :=
  op.word.toNat % 16

/-- The second digit, a register. -/
def x (op : Opcode) : Fin 16 :=
  Hexadecimal.lastDigit (op.word.toNat / 256)

/-- The third digit, a register. -/
def y (op : Opcode) : Fin 16 :=
  Hexadecimal.lastDigit (op.word.toNat / 16)

/-- The word as messages show it. -/
def text (op : Opcode) : String :=
  Hexadecimal.address op.word.toNat

end Opcode

end ChipEight
