import ChipEight.Proofs.Memory.Loading
import ChipEight.Proofs.Memory.Store

/-!
# Memories recall what was written last

A memory is known by its history.  Whatever was written to it, in bytes and in blocks that overlap
in any way, an address holds the low eight bits of the value that the last write there has put, or
its first byte if there was none.  Writes outside the memory are no part of the history: they fail
and leave no trace.  Reads of one byte, of a word and of a block all give what the history tells.
-/

namespace ChipEight.Monitor

variable {size : Nat}

/-- A write of one integer, or of integers one after the other from an address on. -/
inductive Write where
  | byte (address value : Int)
  | block (address : Int) (values : List Int)
deriving DecidableEq

namespace Write

/-- Where a write starts. -/
def address : Write → Int
  | .byte address _ => address
  | .block address _ => address

/-- What is written, one value for each address. -/
def values : Write → List Int
  | .byte _ value => [value]
  | .block _ values => values

/-- All addresses of a write lie inside a memory of `size` bytes. -/
def Lands (size : Nat) (write : Write) : Prop :=
  0 ≤ write.address ∧ write.address + write.values.length ≤ size
deriving Decidable

/-- The value that a write has for an address. -/
def valueAt? (write : Write) (address : Nat) : Option Int :=
  if write.address ≤ address then write.values[(address - write.address).toNat]? else none

/-- The value that a write leaves at an address of a memory of `size` bytes. -/
def leaves? (size : Nat) (address : Nat) (write : Write) : Option Int :=
  if write.Lands size then write.valueAt? address else none

end Write

/-- The value that was written last to an address, among the writes that lie inside the memory. -/
def lastValue? (size : Nat) (writes : List Write) (address : Nat) : Option Int :=
  writes.reverse.findSome? (Write.leaves? size address)

/-- The low eight bits of an integer. -/
def lowBits (value : Int) : UInt8 :=
  UInt8.ofNat (value % 256).toNat

/-- The byte that an address holds after writes to a memory. -/
def recalled (first : Memory size) (writes : List Write) (address : Nat) : UInt8 :=
  ((lastValue? size writes address).map lowBits).getD (first.get address)

namespace Store

/-- The store with something written, unless that is refused. -/
def attempt (store : Store size) : Write → Except Refusal (Store size)
  | .byte address value => store.writeByte (.int address) (.int value)
  | .block address values => store.writeValues (.int address) (.arr (values.map .int))

/-- The store after a write, refused or not. -/
def after (store : Store size) (write : Write) : Store size :=
  match store.attempt write with
  | .ok written => written
  | .error _ => store

/-- The store after writes one after the other. -/
def afterAll (store : Store size) (writes : List Write) : Store size :=
  writes.foldl after store

/-! ## One write -/

section

variable {store : Store size} (limited : store.limit = .int size) (write : Write)

include limited

theorem attempt_eq :
    store.attempt write =
      ((store.memory.writeBlock write.address (write.values.map lowBits)).map
        store.holding).mapError .ofCause := by
  cases write with
  | byte address value => exact writeByte_int limited address value
  | block address values => exact writeValues_int limited address values

/-- A write inside the memory is carried out. -/
theorem attempt_of_lands (lands : write.Lands size) :
    store.attempt write =
      .ok (store.holding ⟨Memory.overwrite store.memory.bytes write.address.toNat
        (write.values.map lowBits)⟩) := by
  have inside : Memory.InRange size write.address (write.values.map lowBits).length := by
    rw [List.length_map]
    exact ⟨lands.1, Int.natCast_nonneg _, lands.2⟩
  rw [attempt_eq limited, Memory.writeBlock, if_pos inside]
  rfl

/-- Any other write fails, with its range in the fault. -/
theorem attempt_of_not_lands (beyond : ¬ write.Lands size) :
    store.attempt write =
      .error (.ofCause (.memoryOutOfBounds write.address write.values.length)) := by
  have outside : ¬ Memory.InRange size write.address (write.values.map lowBits).length := by
    rw [List.length_map]
    exact fun inside => beyond ⟨inside.1, inside.2.2⟩
  rw [attempt_eq limited, Memory.writeBlock, if_neg outside, List.length_map]
  rfl

theorem isOk_attempt_iff : (store.attempt write).isOk = true ↔ write.Lands size := by
  by_cases lands : write.Lands size
  · rw [attempt_of_lands limited write lands]
    exact ⟨fun _ => lands, fun _ => rfl⟩
  · rw [attempt_of_not_lands limited write lands]
    exact ⟨fun done => Bool.noConfusion done, fun inside => absurd inside lands⟩

theorem after_of_lands (lands : write.Lands size) :
    store.after write =
      store.holding ⟨Memory.overwrite store.memory.bytes write.address.toNat
        (write.values.map lowBits)⟩ := by
  rw [after, attempt_of_lands limited write lands]

theorem after_of_not_lands (beyond : ¬ write.Lands size) : store.after write = store := by
  rw [after, attempt_of_not_lands limited write beyond]

theorem after_limit : (store.after write).limit = .int size := by
  by_cases lands : write.Lands size
  · rw [after_of_lands limited write lands]
    exact limited
  · rw [after_of_not_lands limited write lands]
    exact limited

/-- After a write an address holds what the write leaves there, or what it held before. -/
theorem get_after (address : Nat) :
    (store.after write).memory.get address =
      ((write.leaves? size address).map lowBits).getD (store.memory.get address) := by
  by_cases lands : write.Lands size
  · obtain ⟨lower, upper⟩ := id lands
    have fits : write.address.toNat + (write.values.map lowBits).length ≤ size := by
      rw [List.length_map]
      omega
    rw [after_of_lands limited write lands, Write.leaves?, if_pos lands, Write.valueAt?]
    refine (Memory.get_overwrite store.memory.bytes fits address).trans ?_
    by_cases reached : write.address ≤ address
    · have place : ((address : Int) - write.address).toNat = address - write.address.toNat := by
        omega
      rw [if_pos reached, if_pos (by omega), place, List.getElem?_map]
    · rw [if_neg reached, if_neg (by omega)]
      rfl
  · rw [after_of_not_lands limited write lands, Write.leaves?, if_neg lands]
    rfl

end

/-! ## Whole histories -/

theorem afterAll_limit {store : Store size} (limited : store.limit = .int size)
    (writes : List Write) : (store.afterAll writes).limit = .int size := by
  induction writes generalizing store with
  | nil => exact limited
  | cons write rest ih => exact ih (after_limit limited write)

/-- Every address holds what was written there last. -/
theorem get_afterAll {store : Store size} (limited : store.limit = .int size)
    (writes : List Write) (address : Nat) :
    (store.afterAll writes).memory.get address = recalled store.memory writes address := by
  induction writes generalizing store with
  | nil => rfl
  | cons write rest ih =>
      -- The first write counts where no later one has been.
      have last : lastValue? size (write :: rest) address =
          (lastValue? size rest address).or (write.leaves? size address) := by
        rw [lastValue?, List.reverse_cons, List.findSome?_append, List.findSome?_singleton]
        rfl
      have step : (store.afterAll (write :: rest)) = (store.after write).afterAll rest := rfl
      rw [step, ih (after_limit limited write), recalled, recalled, last,
        get_after limited write address]
      cases lastValue? size rest address <;> rfl

/-! ## Reads -/

/-- A read that answers inside a range gives its answer, or the fault in the words of a refusal. -/
theorem mapError_ite {α : Type} {inside within : Prop} [Decidable inside] [Decidable within]
    (same : inside ↔ within) {given told : α} (agree : given = told) (cause : Fault.Cause) :
    (if inside then Except.ok given else .error cause).mapError Refusal.ofCause =
      if within then .ok told else .error (.ofCause cause) := by
  by_cases holds : within
  · rw [if_pos holds, if_pos (same.mpr holds), agree]
    rfl
  · rw [if_neg holds, if_neg (mt same.mp holds)]
    rfl

section

variable {store : Store size} (limited : store.limit = .int size) {told : Nat → UInt8}
  (held : ∀ address, store.memory.get address = told address)

include limited held

theorem readByte_of_held (address : Int) :
    store.readByte (.int address) =
      if 0 ≤ address ∧ address < size then .ok (told address.toNat)
      else .error (.ofCause (.memoryOutOfBounds address 1)) := by
  rw [readByte_int limited]
  apply mapError_ite
  · unfold Memory.InRange
    omega
  · exact held address.toNat

theorem readWord_of_held (address : Int) :
    store.readWord (.int address) =
      if 0 ≤ address ∧ address + 1 < size then
        .ok (UInt16.ofNat (256 * (told address.toNat).toNat + (told (address.toNat + 1)).toNat))
      else .error (.ofCause (.memoryOutOfBounds address 2)) := by
  rw [readWord_int limited]
  apply mapError_ite
  · unfold Memory.InRange
    omega
  · rw [Memory.wordAt, held, held]

theorem readBlock_of_held (address count : Int) :
    readBlock store.limit store.memory (.int address) (.int count) =
      if 0 ≤ address ∧ 0 ≤ count ∧ address + count ≤ size then
        .ok ((List.range count.toNat).map fun offset => told (address.toNat + offset))
      else .error (.ofCause (.memoryOutOfBounds address count)) := by
  rw [readBlock_int limited]
  apply mapError_ite Iff.rfl
  exact List.map_congr_left fun offset _ => held (address.toNat + offset)

end

/-- A memory is a faithful store.  Let anything have been written to one of any size, whatever it
held at first.  Another write is carried out exactly if it lies inside the memory; otherwise it
fails with its range and leaves the memory as it was.  The number of bytes is the same as ever.  A
read of one byte, of a word or of a block gives what the history of writes tells, the high byte of a
word first, and fails exactly if its range does not lie inside the memory. -/
theorem memory_recalls_last_writes (first : Memory size) (writes : List Write) :
    let store := (create (.int size) first).afterAll writes
    (∀ write : Write,
      ((store.attempt write).isOk = true ↔
        0 ≤ write.address ∧ write.address + write.values.length ≤ size) ∧
      (¬ (0 ≤ write.address ∧ write.address + write.values.length ≤ size) →
        store.attempt write =
            .error (.ofCause (.memoryOutOfBounds write.address write.values.length)) ∧
          store.after write = store)) ∧
    store.length = .ok size ∧
    store.memory.toList = (List.range size).map (recalled first writes) ∧
    (∀ address : Int, store.readByte (.int address) =
      if 0 ≤ address ∧ address < size then .ok (recalled first writes address.toNat)
      else .error (.ofCause (.memoryOutOfBounds address 1))) ∧
    (∀ address : Int, store.readWord (.int address) =
      if 0 ≤ address ∧ address + 1 < size then
        .ok (UInt16.ofNat (256 * (recalled first writes address.toNat).toNat +
          (recalled first writes (address.toNat + 1)).toNat))
      else .error (.ofCause (.memoryOutOfBounds address 2))) ∧
    ∀ address count : Int, readBlock store.limit store.memory (.int address) (.int count) =
      if 0 ≤ address ∧ 0 ≤ count ∧ address + count ≤ size then
        .ok ((List.range count.toNat).map fun offset =>
          recalled first writes (address.toNat + offset))
      else .error (.ofCause (.memoryOutOfBounds address count)) := by
  intro store
  have limited : store.limit = .int size := afterAll_limit rfl writes
  have held : ∀ address, store.memory.get address = recalled first writes address :=
    get_afterAll rfl writes
  refine ⟨?_, ?_, ?_, ?_, ?_, ?_⟩
  · intro write
    refine ⟨isOk_attempt_iff limited write, fun beyond => ?_⟩
    exact ⟨attempt_of_not_lands limited write beyond, after_of_not_lands limited write beyond⟩
  · rw [Store.length, limited]
    rfl
  · rw [Memory.toList_eq_map_get]
    exact List.map_congr_left fun address _ => held address
  · exact readByte_of_held limited held
  · exact readWord_of_held limited held
  · exact readBlock_of_held limited held

/-- Four bytes under writes that overlap, one that starts before the memory and one that is empty at
its end: of the values the low bits are read, and a write behind the end changes nothing. -/
theorem memory_recalls_last_writes_overlapping :
    let first : Memory 4 := ⟨#v[1, 2, 3, 4]⟩
    let writes : List Write :=
      [.block 1 [300, -1, 7], .byte 3 511, .block (-1) [9, 9], .block 4 []]
    let store := (create (.int (4 : Nat)) first).afterAll writes
    (List.range 4).map (recalled first writes) = [1, 44, 255, 255] ∧
      store.memory.toList = [1, 44, 255, 255] ∧
      store.readWord (.int 1) = .ok 0x2CFF ∧
      store.attempt (.byte 4 0) = .error (.ofCause (.memoryOutOfBounds 4 1)) ∧
      store.after (.byte 4 0) = store := by
  intro first writes store
  obtain ⟨attempts, -, dump, -, word, -⟩ := memory_recalls_last_writes first writes
  have told : (List.range 4).map (recalled first writes) = [1, 44, 255, 255] := by decide +kernel
  obtain ⟨failed, same⟩ := (attempts (.byte 4 0)).2 (by decide)
  refine ⟨told, dump.trans told, (word 1).trans ?_, failed, same⟩
  rw [if_pos (by decide)]
  refine congrArg Except.ok ?_
  decide +kernel

end Store

end ChipEight.Monitor
