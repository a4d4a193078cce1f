import ChipEight.Monitor.Memory

/-!
# Stores under integers

A store takes addresses, counts and values of any kind.  Where all of them are integers it does what
its memory does: the ranges that are let through are the same, the faults read the same, and of a
value the low eight bits are written.
-/

namespace ChipEight

theorem Text.ofString_append (left right : String) :
    Text.ofString (left ++ right) = Text.ofString left ++ Text.ofString right := by
  change Text.mk _ = Text.mk _
  rw [String.toList_append, List.map_append]
  rfl

namespace Monitor

variable {size : Nat}

/-- The fault of a range that integers name has the words of the memory's own fault. -/
theorem outOfBounds_int (address count : Int) :
    outOfBounds (.int address) (.int count) =
      .ofCause (.memoryOutOfBounds address count) := by
  have place : Fault.Draft.address (.int address) =
      .ok (Text.ofString (Hexadecimal.address address)) := rfl
  have single : (Json.int count).equalsInt 1 = decide (count = 1) := by
    have split : (count = 1) ↔ (1 ≤ count ∧ count ≤ 1) := by omega
    simp only [Json.equalsInt, Json.numeric?, Json.Numeric.atLeast, Json.Numeric.atMost, split,
      Bool.decide_and]
  have made : outOfBounds (.int address) (.int count) =
      .fault .memoryOutOfBounds
        (if (Json.int count).equalsInt 1 then
          Text.ofString "memory access out of bounds at " ++
            Text.ofString (Hexadecimal.address address)
        else
          Text.ofString "memory access out of bounds: " ++
            Text.ofString (Hexadecimal.address address) ++ Text.ofString "+" ++
            (Json.int count).plainText ++ Text.ofString " bytes") := rfl
  rw [made, single]
  by_cases one : count = 1
  · have words : (Fault.Cause.memoryOutOfBounds address count).text =
        "memory access out of bounds at " ++ Hexadecimal.address address := if_pos one
    rw [Refusal.ofCause, words, Text.ofString_append, if_pos (decide_eq_true one)]
    rfl
  · have words : (Fault.Cause.memoryOutOfBounds address count).text =
        "memory access out of bounds: " ++ Hexadecimal.address address ++ "+" ++ toString count ++
          " bytes" := if_neg one
    rw [Refusal.ofCause, words, Text.ofString_append, Text.ofString_append, Text.ofString_append,
      Text.ofString_append, if_neg (by rw [decide_eq_true_eq]; exact one)]
    rfl

theorem checkRange_int (address count : Int) :
    checkRange (.int size) (.int address) (.int count) =
      if Memory.InRange size address count then .ok ()
      else .error (.ofCause (.memoryOutOfBounds address count)) := by
  have checked : checkRange (.int size) (.int address) (.int count) =
      if decide (address < 0) then .error (outOfBounds (.int address) (.int count))
      else if decide (count < 0) then .error (outOfBounds (.int address) (.int count))
      else if decide ((size : Int) < address + count) then
        .error (outOfBounds (.int address) (.int count))
      else .ok () := rfl
  simp only [decide_eq_true_eq] at checked
  rw [checked, outOfBounds_int]
  by_cases inside : Memory.InRange size address count
  · rw [if_pos inside]
    obtain ⟨lower, length, upper⟩ := inside
    rw [if_neg (Int.not_lt.mpr lower), if_neg (Int.not_lt.mpr length),
      if_neg (Int.not_lt.mpr upper)]
  · rw [if_neg inside]
    unfold Memory.InRange at inside
    split
    · rfl
    · split
      · rfl
      · rw [if_pos (by omega)]

/-- After the range has been checked, an access to the memory is refused exactly as by the check. -/
theorem checkRange_then {α : Type} (address count : Int) (result : Except Fault.Cause α)
    (refused : ¬ Memory.InRange size address count →
      result = .error (.memoryOutOfBounds address count)) :
    (checkRange (.int size) (.int address) (.int count) >>= fun _ => result.mapError .ofCause) =
      result.mapError .ofCause := by
  rw [checkRange_int]
  split
  · rfl
  · rename_i outside
    rw [refused outside]
    rfl

theorem writeBlock_int (memory : Memory size) (address : Int) (payload : List UInt8) :
    writeBlock (.int size) memory (.int address) payload =
      (memory.writeBlock address payload).mapError .ofCause :=
  checkRange_then address payload.length _ fun outside => if_neg outside

/-- Integers have their bits, one after the other. -/
theorem mapM_bits_int (values : List Int) :
    (values.map Json.int).mapM (bits "&") = .ok values := by
  induction values with
  | nil => rfl
  | cons value rest ih =>
      rw [List.map_cons, List.mapM_cons, ih]
      rfl

namespace Store

variable {store : Store size} (limited : store.limit = .int size)

include limited

theorem readByte_int (address : Int) :
    store.readByte (.int address) = (store.memory.readByte address).mapError .ofCause := by
  rw [readByte, limited]
  exact checkRange_then address 1 _ fun outside => if_neg outside

theorem readWord_int (address : Int) :
    store.readWord (.int address) = (store.memory.readWord address).mapError .ofCause := by
  rw [readWord, limited]
  exact checkRange_then address 2 _ fun outside => if_neg outside

theorem readBlock_int (address count : Int) :
    readBlock store.limit store.memory (.int address) (.int count) =
      (store.memory.readBlock address count).mapError .ofCause := by
  rw [readBlock, limited]
  exact checkRange_then address count _ fun outside => if_neg outside

theorem writeByte_int (address value : Int) :
    store.writeByte (.int address) (.int value) =
      ((store.memory.writeBlock address [UInt8.ofInt value]).map store.holding).mapError
        .ofCause := by
  rw [writeByte, limited]
  refine checkRange_then address 1 ((store.memory.writeBlock address _).map store.holding) ?_
  intro outside
  rw [Memory.writeBlock, if_neg (show ¬ Memory.InRange size address [_].length from outside)]
  rfl

theorem writeValues_int (address : Int) (values : List Int) :
    store.writeValues (.int address) (.arr (values.map .int)) =
      ((store.memory.writeBlock address (values.map UInt8.ofInt)).map store.holding).mapError
        .ofCause := by
  have written : store.writeValues (.int address) (.arr (values.map .int)) =
      ((values.map Json.int).mapM (bits "&") >>= fun payload =>
        (writeBlock store.limit store.memory (.int address) (payload.map UInt8.ofInt)).map
          store.holding) := rfl
  rw [written, mapM_bits_int, limited]
  change (writeBlock (.int size) store.memory (.int address) (values.map UInt8.ofInt)).map
    store.holding = _
  rw [writeBlock_int]
  cases store.memory.writeBlock address (values.map UInt8.ofInt) <;> rfl

end Store

end Monitor

end ChipEight
