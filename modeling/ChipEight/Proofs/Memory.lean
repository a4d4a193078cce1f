import ChipEight.Device.Memory

/-!
# Reading memories

Bytes that are put into a memory one after the other are read back from where they were put, and
every other address keeps its byte.  A block is read or written exactly if it ends inside the
memory.
-/

namespace ChipEight.Memory

variable {size : Nat}

theorem get_of_lt (memory : Memory size) {address : Nat} (inside : address < size) :
    memory.get address = memory.bytes[address] := by
  simp [get, inside]

theorem get_setIfInBounds (bytes : Vector UInt8 size) {place : Nat} (inside : place < size)
    (byte : UInt8) (address : Nat) :
    (⟨bytes.setIfInBounds place byte⟩ : Memory size).get address =
      if address = place then byte else (⟨bytes⟩ : Memory size).get address := by
  simp only [get, Vector.getElem?_setIfInBounds]
  by_cases here : place = address
  · simp [here, here ▸ inside]
  · simp [here, Ne.symm here]

/-- What is read after bytes have been put one after the other from `start` on. -/
theorem get_overwrite (bytes : Vector UInt8 size) {start : Nat} {payload : List UInt8}
    (fits : start + payload.length ≤ size) (address : Nat) :
    (⟨overwrite bytes start payload⟩ : Memory size).get address =
      if start ≤ address then payload[address - start]?.getD ((⟨bytes⟩ : Memory size).get address)
      else (⟨bytes⟩ : Memory size).get address := by
  induction payload generalizing bytes start with
  | nil => simp [overwrite]
  | cons byte rest ih =>
      rw [List.length_cons] at fits
      rw [overwrite, ih _ (by omega), get_setIfInBounds _ (by omega)]
      rcases Nat.lt_trichotomy address start with below | rfl | above
      · rw [if_neg (by omega), if_neg (by omega), if_neg (by omega)]
      · rw [if_neg (by omega), if_pos rfl, if_pos (Nat.le_refl address), Nat.sub_self]
        rfl
      · obtain ⟨offset, rfl⟩ := Nat.exists_eq_add_of_le above
        rw [if_pos (by omega), if_neg (by omega), if_pos (by omega), Nat.succ_add,
          Nat.succ_sub_succ, Nat.add_sub_cancel_left, ← Nat.add_succ, Nat.add_sub_cancel_left,
          List.getElem?_cons_succ]

/-- Every address before or behind the bytes that are put keeps its byte. -/
theorem get_overwrite_of_notMem (bytes : Vector UInt8 size) {start : Nat} {payload : List UInt8}
    (fits : start + payload.length ≤ size) {address : Nat}
    (outside : ¬ (start ≤ address ∧ address < start + payload.length)) :
    (⟨overwrite bytes start payload⟩ : Memory size).get address =
      (⟨bytes⟩ : Memory size).get address := by
  rw [get_overwrite bytes fits]
  split
  · rw [List.getElem?_eq_none (by omega), Option.getD_none]
  · rfl

theorem inRange_natCast_iff (address count : Nat) :
    InRange size address count ↔ address + count ≤ size := by
  unfold InRange
  omega

theorem readBlock_of_le (memory : Memory size) {address count : Nat}
    (fits : address + count ≤ size) :
    memory.readBlock address count =
      .ok ((List.range count).map fun offset => memory.get (address + offset)) := by
  rw [readBlock, if_pos ((inRange_natCast_iff address count).mpr fits)]
  rfl

theorem readBlock_of_lt (memory : Memory size) {address count : Nat}
    (beyond : size < address + count) :
    memory.readBlock address count = .error (.memoryOutOfBounds address count) := by
  rw [readBlock, if_neg (mt (inRange_natCast_iff address count).mp (Nat.not_le.mpr beyond))]

theorem writeBlock_of_le (memory : Memory size) {address : Nat} {payload : List UInt8}
    (fits : address + payload.length ≤ size) :
    memory.writeBlock address payload = .ok ⟨overwrite memory.bytes address payload⟩ := by
  rw [writeBlock, if_pos ((inRange_natCast_iff address payload.length).mpr fits)]
  rfl

theorem writeBlock_of_lt (memory : Memory size) {address : Nat} {payload : List UInt8}
    (beyond : size < address + payload.length) :
    memory.writeBlock address payload =
      .error (.memoryOutOfBounds address payload.length) := by
  rw [writeBlock,
    if_neg (mt (inRange_natCast_iff address payload.length).mp (Nat.not_le.mpr beyond))]

end ChipEight.Memory
