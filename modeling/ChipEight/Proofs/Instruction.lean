import ChipEight.Instruction

/-!
# Which words are instructions

The table of instructions as a relation between numbers below 2¹⁶ and instructions, in terms of the
digits of the number.  Decoding a word gives exactly the instruction that the table has for it, and
fails exactly on the words of four families whose last digits name nothing.
-/

namespace ChipEight

namespace Opcode

theorem family_lt (op : Opcode) : op.family < 16 := by
  have bound := op.word.toNat_lt
  unfold family
  omega

theorem nn_toNat (op : Opcode) : op.nn.toNat = op.word.toNat % 256 := by
  simp [nn]

theorem nn_eq_of_toNat {op : Opcode} {byte : UInt8}
    (digits : op.word.toNat % 256 = byte.toNat) : op.nn = byte :=
  UInt8.toNat_inj.mp (op.nn_toNat.trans digits)

theorem nnn_toNat (op : Opcode) : op.nnn.toNat = op.word.toNat % 4096 := by
  simp only [nnn, UInt16.toNat_ofNat']
  omega

theorem x_val (op : Opcode) : op.x.val = op.word.toNat / 256 % 16 :=
  rfl

theorem y_val (op : Opcode) : op.y.val = op.word.toNat / 16 % 16 :=
  rfl

end Opcode

/-- The last digit of a register operation. -/
def Arithmetic.digit : Arithmetic → Nat
  | .copy => 0x0
  | .or => 0x1
  | .and => 0x2
  | .xor => 0x3
  | .add => 0x4
  | .subtract => 0x5
  | .shiftRight => 0x6
  | .subtractFrom => 0x7
  | .shiftLeft => 0xE

theorem Arithmetic.ofDigit?_digit (operation : Arithmetic) :
    ofDigit? operation.digit = some operation := by
  cases operation <;> rfl

theorem Arithmetic.eq_digit_of_ofDigit? {digit : Nat} {operation : Arithmetic}
    (selected : ofDigit? digit = some operation) : digit = operation.digit := by
  unfold ofDigit? at selected
  split at selected <;> cases selected <;> rfl

theorem Arithmetic.ofDigit?_eq_none_iff (digit : Nat) :
    ofDigit? digit = none ↔ digit ∉ [0x0, 0x1, 0x2, 0x3, 0x4, 0x5, 0x6, 0x7, 0xE] := by
  unfold ofDigit?
  split <;> simp_all

namespace Instruction

/-- The table of instructions: the digits of a word that stands for an instruction. -/
def Encodes (word : Nat) : Instruction → Prop
  | .clearScreen => word / 4096 = 0x0 ∧ word % 256 = 0xE0
  | .ret => word / 4096 = 0x0 ∧ word % 256 = 0xEE
  | .jump target => word / 4096 = 0x1 ∧ word % 4096 = target.toNat
  | .call target => word / 4096 = 0x2 ∧ word % 4096 = target.toNat
  | .skipIfByte x byte => word / 4096 = 0x3 ∧ word / 256 % 16 = x ∧ word % 256 = byte.toNat
  | .skipUnlessByte x byte => word / 4096 = 0x4 ∧ word / 256 % 16 = x ∧ word % 256 = byte.toNat
  | .skipIfSame x y => word / 4096 = 0x5 ∧ word / 256 % 16 = x ∧ word / 16 % 16 = y
  | .loadByte x byte => word / 4096 = 0x6 ∧ word / 256 % 16 = x ∧ word % 256 = byte.toNat
  | .addByte x byte => word / 4096 = 0x7 ∧ word / 256 % 16 = x ∧ word % 256 = byte.toNat
  | .arithmetic operation x y =>
      word / 4096 = 0x8 ∧ word / 256 % 16 = x ∧ word / 16 % 16 = y ∧ word % 16 = operation.digit
  | .skipUnlessSame x y => word / 4096 = 0x9 ∧ word / 256 % 16 = x ∧ word / 16 % 16 = y
  | .loadIndex address => word / 4096 = 0xA ∧ word % 4096 = address.toNat
  | .jumpFromV0 base => word / 4096 = 0xB ∧ word % 4096 = base.toNat
  | .random x mask => word / 4096 = 0xC ∧ word / 256 % 16 = x ∧ word % 256 = mask.toNat
  | .draw x y rows =>
      word / 4096 = 0xD ∧ word / 256 % 16 = x ∧ word / 16 % 16 = y ∧ word % 16 = rows
  | .skipIfKey x => word / 4096 = 0xE ∧ word / 256 % 16 = x ∧ word % 256 = 0x9E
  | .skipUnlessKey x => word / 4096 = 0xE ∧ word / 256 % 16 = x ∧ word % 256 = 0xA1
  | .readTimer x => word / 4096 = 0xF ∧ word / 256 % 16 = x ∧ word % 256 = 0x07
  | .waitKey x => word / 4096 = 0xF ∧ word / 256 % 16 = x ∧ word % 256 = 0x0A
  | .writeTimer x => word / 4096 = 0xF ∧ word / 256 % 16 = x ∧ word % 256 = 0x15
  | .writeSound x => word / 4096 = 0xF ∧ word / 256 % 16 = x ∧ word % 256 = 0x18
  | .addIndex x => word / 4096 = 0xF ∧ word / 256 % 16 = x ∧ word % 256 = 0x1E
  | .pointGlyph x => word / 4096 = 0xF ∧ word / 256 % 16 = x ∧ word % 256 = 0x29
  | .storeDecimal x => word / 4096 = 0xF ∧ word / 256 % 16 = x ∧ word % 256 = 0x33
  | .storeRegisters x => word / 4096 = 0xF ∧ word / 256 % 16 = x ∧ word % 256 = 0x55
  | .loadRegisters x => word / 4096 = 0xF ∧ word / 256 % 16 = x ∧ word % 256 = 0x65

/-- A word for which the table has no instruction. -/
def Unmapped (word : Nat) : Prop :=
  (word / 4096 = 0x0 ∧ word % 256 ∉ [0xE0, 0xEE]) ∨
    (word / 4096 = 0x8 ∧ word % 16 ∉ [0x0, 0x1, 0x2, 0x3, 0x4, 0x5, 0x6, 0x7, 0xE]) ∨
    (word / 4096 = 0xE ∧ word % 256 ∉ [0x9E, 0xA1]) ∨
    (word / 4096 = 0xF ∧
      word % 256 ∉ [0x07, 0x0A, 0x15, 0x18, 0x1E, 0x29, 0x33, 0x55, 0x65])

theorem decodeSystem?_eq_none_iff (op : Opcode) :
    decodeSystem? op = none ↔ op.word.toNat % 256 ∉ [0xE0, 0xEE] := by
  unfold decodeSystem?
  rw [op.nn_toNat]
  split <;> simp_all

theorem decodeKeys?_eq_none_iff (op : Opcode) :
    decodeKeys? op = none ↔ op.word.toNat % 256 ∉ [0x9E, 0xA1] := by
  unfold decodeKeys?
  rw [op.nn_toNat]
  split <;> simp_all

theorem decodeTransfer?_eq_none_iff (op : Opcode) :
    decodeTransfer? op = none ↔
      op.word.toNat % 256 ∉ [0x07, 0x0A, 0x15, 0x18, 0x1E, 0x29, 0x33, 0x55, 0x65] := by
  unfold decodeTransfer?
  rw [op.nn_toNat]
  split <;> simp_all

theorem decode?_eq_none_iff (op : Opcode) :
    decode? op = none ↔ Unmapped op.word.toNat := by
  have bound := op.family_lt
  have digit : op.word.toNat / 4096 = op.family := rfl
  rw [Unmapped, digit]
  unfold decode?
  split
  case h_16 =>
    -- What is left over is the last of the sixteen families.
    have family : op.family = 0xF := by grind
    simp only [family, decodeTransfer?_eq_none_iff]
    simp
  all_goals
    rename_i family
    simp [family, decodeSystem?_eq_none_iff, decodeKeys?_eq_none_iff,
      Arithmetic.ofDigit?_eq_none_iff, Opcode.n]

theorem encodes_of_decodeSystem? {op : Opcode} {instruction : Instruction}
    (family : op.family = 0x0) (decoded : decodeSystem? op = some instruction) :
    instruction.Encodes op.word.toNat := by
  unfold decodeSystem? at decoded
  rw [op.nn_toNat] at decoded
  split at decoded <;> cases decoded <;> exact ⟨family, by assumption⟩

theorem encodes_of_decodeKeys? {op : Opcode} {instruction : Instruction}
    (family : op.family = 0xE) (decoded : decodeKeys? op = some instruction) :
    instruction.Encodes op.word.toNat := by
  unfold decodeKeys? at decoded
  rw [op.nn_toNat] at decoded
  split at decoded <;> cases decoded <;> exact ⟨family, rfl, by assumption⟩

theorem encodes_of_decodeTransfer? {op : Opcode} {instruction : Instruction}
    (family : op.family = 0xF) (decoded : decodeTransfer? op = some instruction) :
    instruction.Encodes op.word.toNat := by
  unfold decodeTransfer? at decoded
  rw [op.nn_toNat] at decoded
  split at decoded <;> cases decoded <;> exact ⟨family, rfl, by assumption⟩

/-- Decoding follows the table. -/
theorem encodes_of_decode? {op : Opcode} {instruction : Instruction}
    (decoded : decode? op = some instruction) : instruction.Encodes op.word.toNat := by
  have bound := op.family_lt
  unfold decode? at decoded
  split at decoded
  case h_1 family => exact encodes_of_decodeSystem? family decoded
  case h_9 family =>
    obtain ⟨operation, selected, rfl⟩ := Option.map_eq_some_iff.mp decoded
    exact ⟨family, rfl, rfl, Arithmetic.eq_digit_of_ofDigit? selected⟩
  case h_15 family => exact encodes_of_decodeKeys? family decoded
  case h_16 => exact encodes_of_decodeTransfer? (by grind) decoded
  case h_2 | h_3 | h_11 | h_12 =>
    cases decoded
    exact ⟨by assumption, op.nnn_toNat.symm⟩
  case h_4 | h_5 | h_7 | h_8 | h_13 =>
    cases decoded
    exact ⟨by assumption, rfl, op.nn_toNat.symm⟩
  case h_6 | h_10 =>
    cases decoded
    exact ⟨by assumption, rfl, rfl⟩
  case h_14 =>
    cases decoded
    exact ⟨by assumption, rfl, rfl, rfl⟩

/-- Every word of the table decodes to its instruction. -/
theorem decode?_of_encodes {op : Opcode} {instruction : Instruction}
    (encoded : instruction.Encodes op.word.toNat) : decode? op = some instruction := by
  have head : ∀ {digit : Nat}, op.word.toNat / 4096 = digit → op.family = digit := id
  have tail : ∀ {digits : Nat}, op.word.toNat % 256 = digits → op.nn.toNat = digits :=
    op.nn_toNat.trans
  have target : ∀ {address : UInt16}, op.word.toNat % 4096 = address.toNat → op.nnn = address :=
    fun same => UInt16.toNat_inj.mp (op.nnn_toNat.trans same)
  have operand : ∀ {byte : UInt8}, op.word.toNat % 256 = byte.toNat → op.nn = byte :=
    fun same => UInt8.toNat_inj.mp (op.nn_toNat.trans same)
  have first : ∀ {x : Fin 16}, op.word.toNat / 256 % 16 = x → op.x = x :=
    fun same => Fin.ext (op.x_val.trans same)
  have second : ∀ {y : Fin 16}, op.word.toNat / 16 % 16 = y → op.y = y :=
    fun same => Fin.ext (op.y_val.trans same)
  cases instruction with
  | clearScreen | ret =>
      obtain ⟨family, digits⟩ := encoded
      simp only [decode?, decodeSystem?, head family, tail digits]
  | jump | call | loadIndex | jumpFromV0 =>
      obtain ⟨family, address⟩ := encoded
      simp only [decode?, head family, target address]
  | skipIfByte | skipUnlessByte | loadByte | addByte | random =>
      obtain ⟨family, x, byte⟩ := encoded
      simp only [decode?, head family, first x, operand byte]
  | skipIfSame | skipUnlessSame =>
      obtain ⟨family, x, y⟩ := encoded
      simp only [decode?, head family, first x, second y]
  | arithmetic operation =>
      obtain ⟨family, x, y, digit⟩ := encoded
      simp only [decode?, head family, first x, second y, Opcode.n, digit,
        operation.ofDigit?_digit, Option.map_some]
  | draw =>
      obtain ⟨family, x, y, rows⟩ := encoded
      simp only [decode?, head family, first x, second y, Opcode.n, rows]
  | skipIfKey | skipUnlessKey =>
      obtain ⟨family, x, digits⟩ := encoded
      simp only [decode?, decodeKeys?, head family, tail digits, first x]
  | readTimer | waitKey | writeTimer | writeSound | addIndex | pointGlyph | storeDecimal
  | storeRegisters | loadRegisters =>
      obtain ⟨family, x, digits⟩ := encoded
      simp only [decode?, decodeTransfer?, head family, tail digits, first x]

/-- A word decodes to the instruction that the table has for it. -/
theorem decode?_eq_some_iff (op : Opcode) (instruction : Instruction) :
    decode? op = some instruction ↔ instruction.Encodes op.word.toNat :=
  ⟨encodes_of_decode?, decode?_of_encodes⟩

end Instruction

end ChipEight
