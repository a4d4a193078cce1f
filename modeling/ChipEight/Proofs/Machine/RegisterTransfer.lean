import ChipEight.Proofs.Instruction
import ChipEight.Proofs.Machine.Effect
import ChipEight.Proofs.Registers

/-!
# Registers in memory

The words `FX55` and `FX65` copy registers to memory and back, and `FX33` leaves the decimal digits
of one register there.  `Restores` says what a program gets back that dumps its registers, goes on
to overwrite them, and loads some of them again; `ShowsDecimal` says what the digits are.  Nothing
in between is assumed about the values, and the last byte may be the last one of the memory.
-/

namespace ChipEight

namespace Opcode

/-- The word `FXNN`. -/
def transfer (x : Fin 16) (nn : UInt8) : Opcode :=
  ⟨UInt16.ofNat (0xF000 + 0x100 * x.val + nn.toNat)⟩

theorem transfer_word (x : Fin 16) (nn : UInt8) :
    (transfer x nn).word.toNat = 0xF000 + 0x100 * x.val + nn.toNat := by
  have byte := nn.toNat_lt
  apply UInt16.toNat_ofNat_of_lt
  simp only [UInt16.size]
  omega

/-- The digits of `FXNN`, as the table of instructions asks for them. -/
theorem transfer_digits (x : Fin 16) (nn : UInt8) :
    (transfer x nn).word.toNat / 4096 = 0xF ∧ (transfer x nn).word.toNat / 256 % 16 = x ∧
      (transfer x nn).word.toNat % 256 = nn.toNat := by
  have byte := nn.toNat_lt
  rw [transfer_word]
  omega

/-- The words `6XNN`, `7XNN`, `CXNN`, `FX07` and the mapped ones among `8XYN`, which write byte
registers. -/
def Clobbers (op : Opcode) : Prop :=
  op.family ∈ [0x6, 0x7, 0xC] ∨
    op.family = 0x8 ∧ op.n ∈ [0x0, 0x1, 0x2, 0x3, 0x4, 0x5, 0x6, 0x7, 0xE] ∨
    op.family = 0xF ∧ op.nn = 0x07

instance (op : Opcode) : Decidable op.Clobbers :=
  inferInstanceAs (Decidable (_ ∨ _ ∨ _))

end Opcode

/-- The instructions that write byte registers and need neither memory nor stack. -/
def Instruction.Clobbers : Instruction → Prop
  | .loadByte _ _ | .addByte _ _ | .arithmetic _ _ _ | .random _ _ | .readTimer _ => True
  | _ => False

theorem Opcode.Clobbers.exists_decode? {op : Opcode} (clobbers : op.Clobbers) :
    ∃ instruction, Instruction.decode? op = some instruction ∧ instruction.Clobbers := by
  rcases clobbers with family | ⟨family, mapped⟩ | ⟨family, nn⟩
  · simp only [List.mem_cons, List.not_mem_nil, or_false] at family
    rcases family with family | family | family
    · exact ⟨.loadByte op.x op.nn, by simp only [Instruction.decode?, family], trivial⟩
    · exact ⟨.addByte op.x op.nn, by simp only [Instruction.decode?, family], trivial⟩
    · exact ⟨.random op.x op.nn, by simp only [Instruction.decode?, family], trivial⟩
  · cases selected : Arithmetic.ofDigit? op.n with
    | none => exact absurd mapped ((Arithmetic.ofDigit?_eq_none_iff op.n).mp selected)
    | some operation =>
        refine ⟨.arithmetic operation op.x op.y, ?_, trivial⟩
        simp only [Instruction.decode?, family, selected, Option.map_some]
  · have digits : op.word.toNat % 256 = 0x07 := by rw [← op.nn_toNat, nn]; rfl
    have encoded : (Instruction.readTimer op.x).Encodes op.word.toNat := ⟨family, rfl, digits⟩
    exact ⟨.readTimer op.x, Instruction.decode?_of_encodes encoded, trivial⟩

namespace Machine

variable {machine : Machine}

/-! ## Overwriting registers -/

/-- Execute words one after the other. -/
def executeAll : List Opcode → Action Unit
  | [] => return
  | op :: rest => do
      execute op
      executeAll rest

/-- Two machines that differ at most in their byte registers and in the position of their random
source. -/
def Scrambled (before after : Machine) : Prop :=
  after =
    { before with
      registers := { before.registers with v := after.registers.v }
      random := after.random }

namespace Scrambled

theorem trans {first second third : Machine} (left : first.Scrambled second)
    (right : second.Scrambled third) : first.Scrambled third := by
  unfold Scrambled at left right ⊢
  rw [left] at right
  exact right

variable {before after : Machine}

theorem index (scrambled : before.Scrambled after) :
    after.registers.index = before.registers.index := by
  rw [scrambled]

theorem memory (scrambled : before.Scrambled after) : after.memory = before.memory := by
  rw [scrambled]

end Scrambled

theorem scrambled_effect {instruction : Instruction} (clobbers : instruction.Clobbers) :
    machine.Scrambled (machine.effect instruction) := by
  cases instruction with
  | loadByte | addByte | random | readTimer => rfl
  | arithmetic operation x y => cases operation <;> rfl
  | _ => exact clobbers.elim

/-- A word that overwrites registers succeeds and does only that. -/
theorem execute_clobbers {op : Opcode} (clobbers : op.Clobbers) (machine : Machine) :
    ∃ after, (execute op).on machine = (.ok (), after) ∧ machine.Scrambled after := by
  obtain ⟨instruction, decoded, writes⟩ := clobbers.exists_decode?
  have succeeds : machine.failure? instruction = none := by
    cases instruction with
    | loadByte | addByte | arithmetic | random | readTimer => rfl
    | _ => exact writes.elim
  exact ⟨_, on_execute_of_succeeds decoded succeeds, scrambled_effect writes⟩

/-- Any number of words that overwrite registers succeed one after the other. -/
theorem executeAll_clobbers {ops : List Opcode} (clobbers : ∀ op ∈ ops, op.Clobbers)
    (machine : Machine) :
    ∃ after, (executeAll ops).on machine = (.ok (), after) ∧ machine.Scrambled after := by
  induction ops generalizing machine with
  | nil => exact ⟨machine, rfl, rfl⟩
  | cons op rest ih =>
      rw [List.forall_mem_cons] at clobbers
      obtain ⟨middle, first, scrambled⟩ := execute_clobbers clobbers.1 machine
      obtain ⟨after, others, further⟩ := ih clobbers.2 middle
      refine ⟨after, ?_, scrambled.trans further⟩
      rw [executeAll, Action.on_bind_of_ok first]
      exact others

/-! ## Dumping and loading -/

theorem decode?_dump (x : Fin 16) :
    Instruction.decode? (Opcode.transfer x 0x55) = some (.storeRegisters x) :=
  Instruction.decode?_of_encodes (Opcode.transfer_digits x 0x55)

theorem decode?_load (x : Fin 16) :
    Instruction.decode? (Opcode.transfer x 0x65) = some (.loadRegisters x) :=
  Instruction.decode?_of_encodes (Opcode.transfer_digits x 0x65)

theorem decode?_decimal (x : Fin 16) :
    Instruction.decode? (Opcode.transfer x 0x33) = some (.storeDecimal x) :=
  Instruction.decode?_of_encodes (Opcode.transfer_digits x 0x33)

/-- The bytes that `FX55` writes. -/
theorem getElem?_take_registers (machine : Machine) {x k : Fin 16} (low : k ≤ x) :
    (machine.registers.v.toList.take (x.val + 1))[k.val]? = some (machine.v k) := by
  have bound : k.val < machine.registers.v.toList.length := by
    rw [Vector.length_toList]
    exact k.isLt
  rw [List.getElem?_take_of_lt (Nat.lt_succ_of_le low), List.getElem?_eq_getElem bound,
    Vector.getElem_toList]
  rfl

/-- After `FX55` the registers up to `x` stand in memory from the index on. -/
theorem get_effect_storeRegisters {x k : Fin 16}
    (fits : machine.registers.index.toNat + (x.val + 1) ≤ 4096) (low : k ≤ x) :
    (machine.effect (.storeRegisters x)).memory.get (machine.registers.index.toNat + k.val) =
      machine.v k := by
  rw [← length_take_registers machine x] at fits
  rw [effect, overwriteAtIndex, Memory.get_overwrite _ fits, if_pos (Nat.le_add_right _ _),
    Nat.add_sub_cancel_left, getElem?_take_registers machine low]
  rfl

/-- `FX65` fills the registers up to `x` from memory and leaves the others alone. -/
theorem effect_loadRegisters_v (machine : Machine) (x k : Fin 16) :
    (machine.effect (.loadRegisters x)).v k =
      if k ≤ x then machine.memory.get (machine.registers.index.toNat + k.val)
      else machine.v k := by
  have length : (machine.bytesAtIndex (x.val + 1)).length = x.val + 1 := by simp [bytesAtIndex]
  rw [effect, v, withRegisters, Registers.get_loadFrom _ (by omega), if_pos (Nat.zero_le _),
    Nat.sub_zero]
  by_cases low : k ≤ x
  · have within : k.val < x.val + 1 := Nat.lt_succ_of_le low
    rw [if_pos low]
    simp [bytesAtIndex, within]
  · have beyond : x.val + 1 ≤ k.val := Nat.lt_of_not_le low
    rw [if_neg low, List.getElem?_eq_none (by omega)]
    rfl

/-- What a program has after it has dumped the registers up to `x`, overwritten registers, and
loaded those up to `z`. -/
structure Restores (before : Machine) (x z : Fin 16) (clobbered after : Machine) : Prop where
  loaded (k : Fin 16) (low : k ≤ z) : after.v k = before.v k
  kept (k : Fin 16) (high : z < k) : after.v k = clobbered.v k
  index : after.registers.index = before.registers.index
  memory (address : Nat)
    (outside : address < before.registers.index.toNat ∨
      before.registers.index.toNat + x.val < address) :
    after.memory.get address = before.memory.get address

theorem restores_effect {x z : Fin 16} {clobbered : Machine}
    (fits : machine.registers.index.toNat + (x.val + 1) ≤ 4096) (within : z ≤ x)
    (scrambled : (machine.effect (.storeRegisters x)).Scrambled clobbered) :
    machine.Restores x z clobbered (clobbered.effect (.loadRegisters z)) where
  loaded k low := by
    rw [effect_loadRegisters_v, if_pos low, scrambled.memory, scrambled.index]
    exact get_effect_storeRegisters fits (Fin.le_trans low within)
  kept k high := by
    rw [effect_loadRegisters_v, if_neg (Fin.not_le.mpr high)]
  index := (Registers.loadFrom_index _ _ _).trans scrambled.index
  memory address outside := by
    have written := length_take_registers machine x
    change clobbered.memory.get address = _
    rw [scrambled.memory]
    apply Memory.get_overwrite_of_notMem machine.memory.bytes
    · omega
    · omega

/-! ## Decimal digits -/

/-- What `FX33` leaves: three digits of the value of register `x`, and everything else as before. -/
structure ShowsDecimal (before : Machine) (x : Fin 16) (after : Machine) : Prop where
  digit (place : Nat) (inside : place < 3) :
    (after.memory.get (before.registers.index.toNat + place)).toNat ≤ 9
  value : 100 * (after.memory.get before.registers.index.toNat).toNat +
      10 * (after.memory.get (before.registers.index.toNat + 1)).toNat +
      (after.memory.get (before.registers.index.toNat + 2)).toNat = (before.v x).toNat
  memory (address : Nat)
    (outside : address < before.registers.index.toNat ∨
      before.registers.index.toNat + 2 < address) :
    after.memory.get address = before.memory.get address
  rest : after = { before with memory := after.memory }

theorem get_effect_storeDecimal {x : Fin 16}
    (fits : machine.registers.index.toNat + 3 ≤ 4096) {place : Nat} (inside : place < 3) :
    (machine.effect (.storeDecimal x)).memory.get (machine.registers.index.toNat + place) =
      (decimalDigits (machine.v x)).get ⟨place, inside⟩ := by
  have bound : place < (decimalDigits (machine.v x)).length := inside
  rw [effect, overwriteAtIndex, Memory.get_overwrite _ fits, if_pos (Nat.le_add_right _ _),
    Nat.add_sub_cancel_left, List.getElem?_eq_getElem bound]
  rfl

theorem showsDecimal_effect {x : Fin 16} (fits : machine.registers.index.toNat + 3 ≤ 4096) :
    machine.ShowsDecimal x (machine.effect (.storeDecimal x)) where
  digit place inside := by
    have remainder (byte : UInt8) : (byte % 10).toNat ≤ 9 := by
      rw [UInt8.toNat_mod]
      exact Nat.le_of_lt_succ (Nat.mod_lt _ (Nat.succ_pos 9))
    rw [get_effect_storeDecimal fits inside]
    rcases place with _ | _ | _ | place
    · exact remainder _
    · exact remainder _
    · exact remainder _
    · omega
  value := by
    have byte := (machine.v x).toNat_lt
    have first := get_effect_storeDecimal (x := x) fits (Nat.succ_pos 2)
    rw [Nat.add_zero] at first
    rw [first, get_effect_storeDecimal fits (by decide), get_effect_storeDecimal fits (by decide)]
    simp only [decimalDigits, List.get, UInt8.toNat_mod, UInt8.toNat_div]
    change 100 * ((machine.v x).toNat / 100 % 10) + 10 * ((machine.v x).toNat / 10 % 10) +
      (machine.v x).toNat % 10 = (machine.v x).toNat
    omega
  memory address outside :=
    Memory.get_overwrite_of_notMem machine.memory.bytes fits fun inside => by
      simp only [decimalDigits, List.length_cons, List.length_nil] at inside
      omega
  rest := rfl

/-! ## Whole sequences -/

theorem execute_dump_isOk_iff (machine : Machine) (x : Fin 16) :
    ((execute (Opcode.transfer x 0x55)).on machine).1 = .ok () ↔
      machine.registers.index.toNat + x.val + 1 ≤ 4096 := by
  cases fails : machine.failure? (.storeRegisters x) with
  | none =>
      rw [on_execute_of_succeeds (decode?_dump x) fails]
      exact iff_of_true rfl (transferFailure?_eq_none_iff.mp fails)
  | some cause =>
      rw [on_execute_of_fails (decode?_dump x) fails]
      have beyond := (transferFailure?_eq_some_iff.mp fails).1
      exact iff_of_false (fun ended => by cases ended) (Nat.not_le.mpr beyond)

/-- `FX55` succeeds exactly if the registers up to `x` fit between the index and the end of the
memory.  Then any words that overwrite registers may follow, and `FZ65` with `z` up to `x` brings
the first registers back, leaves the others as they were overwritten, and finds index and memory in
order.  `FX33` leaves three decimal digits if they fit. -/
theorem registers_dumped_and_restored (machine : Machine) {x z : Fin 16} (within : z ≤ x)
    {ops : List Opcode} (clobbers : ∀ op ∈ ops, op.Clobbers) :
    (((execute (Opcode.transfer x 0x55)).on machine).1 = .ok () ↔
      machine.registers.index.toNat + x.val + 1 ≤ 4096) ∧
    (machine.registers.index.toNat + x.val + 1 ≤ 4096 →
      ∃ dumped clobbered after,
        (execute (Opcode.transfer x 0x55)).on machine = (.ok (), dumped) ∧
        (executeAll ops).on dumped = (.ok (), clobbered) ∧
        (execute (Opcode.transfer z 0x65)).on clobbered = (.ok (), after) ∧
        machine.Restores x z clobbered after) ∧
    (machine.registers.index.toNat + 3 ≤ 4096 →
      ∃ after, (execute (Opcode.transfer x 0x33)).on machine = (.ok (), after) ∧
        machine.ShowsDecimal x after) := by
  refine ⟨execute_dump_isOk_iff machine x, fun fits => ?_, fun fits => ?_⟩
  · have dumps : machine.failure? (.storeRegisters x) = none :=
      transferFailure?_eq_none_iff.mpr fits
    obtain ⟨clobbered, ran, scrambled⟩ :=
      executeAll_clobbers clobbers (machine.effect (.storeRegisters x))
    have loads : clobbered.failure? (.loadRegisters z) = none := by
      apply transferFailure?_eq_none_iff.mpr
      rw [scrambled.index]
      exact Nat.le_trans (Nat.add_le_add_left (Nat.succ_le_succ within) _) fits
    exact ⟨_, clobbered, _, on_execute_of_succeeds (decode?_dump x) dumps, ran,
      on_execute_of_succeeds (decode?_load z) loads, restores_effect fits within scrambled⟩
  · have succeeds : machine.failure? (.storeDecimal x) = none :=
      transferFailure?_eq_none_iff.mpr fits
    exact ⟨_, on_execute_of_succeeds (decode?_decimal x) succeeds, showsDecimal_effect fits⟩

/-- Three registers just fit into the last three bytes of the memory, and two of them are loaded
again after all of them have been overwritten. -/
theorem registers_dumped_and_restored_brimful :
    Hexadecimal.lastDigit 1 ≤ Hexadecimal.lastDigit 2 ∧
    (∀ op ∈ [⟨0x60FF⟩, ⟨0x7105⟩, ⟨0x8124⟩, ⟨0xC20F⟩, ⟨0xF007⟩], Opcode.Clobbers op) ∧
    ∃ dumped clobbered after,
      (execute (Opcode.transfer (Hexadecimal.lastDigit 2) 0x55)).on
        (((create {} (RandomSource.cycling #[9])).withRegisters
          (Registers.initial.loadFrom 0 [3, 141, 59])).point 4093) = (.ok (), dumped) ∧
      (executeAll [⟨0x60FF⟩, ⟨0x7105⟩, ⟨0x8124⟩, ⟨0xC20F⟩, ⟨0xF007⟩]).on dumped =
        (.ok (), clobbered) ∧
      (execute (Opcode.transfer (Hexadecimal.lastDigit 1) 0x65)).on clobbered = (.ok (), after) ∧
      (((create {} (RandomSource.cycling #[9])).withRegisters
        (Registers.initial.loadFrom 0 [3, 141, 59])).point 4093).Restores
          (Hexadecimal.lastDigit 2) (Hexadecimal.lastDigit 1) clobbered after := by
  have within : Hexadecimal.lastDigit 1 ≤ Hexadecimal.lastDigit 2 := by decide
  have clobbers : ∀ op ∈ [⟨0x60FF⟩, ⟨0x7105⟩, ⟨0x8124⟩, ⟨0xC20F⟩, ⟨0xF007⟩],
      Opcode.Clobbers op := by decide
  refine ⟨within, clobbers, ?_⟩
  exact (registers_dumped_and_restored _ within clobbers).2.1 (by decide +kernel)

end Machine

end ChipEight
