import ChipEight.Device.Memory
import ChipEight.Monitor.Operand

/-!
# Memory under the monitor

Addresses, counts and bytes are given as values.  The range is checked first, whatever numbers name
it; only then the values have to be positions.
-/

namespace ChipEight.Monitor

variable {size : Nat}

/-- The fault of an access to a range that values name. -/
def outOfBounds (address count : Json) : Refusal :=
  match Fault.Draft.ofValues .memoryOutOfBounds [address, count] none with
  | .ok fault => .fault fault.kind fault.message
  | .error failure => .draft failure

/-- Fail unless the range that values name lies below a limit. -/
def checkRange (limit address count : Json) : Except Refusal Unit := do
  if ← below address 0 then .error (outOfBounds address count)
  else if ← below count 0 then .error (outOfBounds address count)
  else if ← sumAbove address count limit then .error (outOfBounds address count)
  else .ok ()

/-- Read a range of bytes from a memory with a limit. -/
def readBlock (limit : Json) (memory : Memory size) (address count : Json) :
    Except Refusal (List UInt8) := do
  checkRange limit address count
  let place ← rangeEnd address
  let length ← rangeEnd count
  (memory.readBlock place length).mapError .ofCause

/-- Write a range of bytes to a memory with a limit. -/
def writeBlock (limit : Json) (memory : Memory size) (address : Json) (payload : List UInt8) :
    Except Refusal (Memory size) := do
  checkRange limit address (.int payload.length)
  let place ← rangeEnd address
  (memory.writeBlock place payload).mapError .ofCause

/-! ## Memories of a given size -/

/-- A memory with the limit of its addresses as it was given, and the memory to which it is reset.
The limit is a whole number, or the contents that the memory had at first. -/
structure Store (size : Nat) where
  limit : Json
  first : Memory size
  memory : Memory size

namespace Store

/-- The low byte of a value among the contents of a memory. -/
def byte (value : Json) : Except Refusal UInt8 := do
  let n ← integer value
  if n < 0 ∨ 255 < n then unfit .noByte else return UInt8.ofInt n

/-- The memory that is made for a size.  The size may also be given by the contents. -/
def firstMemory (room : Nat) (limit : Json) : Except Refusal ((size : Nat) × Memory size) :=
  match limit with
  | .int n =>
      ((Extent.ofMemory room n).map fun size => ⟨size, Memory.blank size⟩).mapError .extent
  | .bool truth => .ok ⟨truth.toNat, Memory.blank truth.toNat⟩
  | .str _ => mismatched .textAsMemory
  | _ => do
      let bytes ← (← itemsOr (.noMemorySize limit.kindName) limit).mapM byte
      return ⟨bytes.length, ⟨⟨bytes.toArray, rfl⟩⟩⟩

/-- The store with a limit that holds a memory at first. -/
def create (limit : Json) (memory : Memory size) : Store size :=
  { limit := limit, first := memory, memory := memory }

/-- The store with other contents. -/
def holding (store : Store size) (memory : Memory size) : Store size :=
  { store with memory := memory }

/-- Read one byte. -/
def readByte (store : Store size) (address : Json) : Except Refusal UInt8 := do
  checkRange store.limit address (.int 1)
  let place ← position "bytearray" address
  (store.memory.readByte place).mapError .ofCause

/-- Read two bytes as a word. -/
def readWord (store : Store size) (address : Json) : Except Refusal UInt16 := do
  checkRange store.limit address (.int 2)
  let place ← position "bytearray" address
  (store.memory.readWord place).mapError .ofCause

/-- Write the low eight bits of a value. -/
def writeByte (store : Store size) (address value : Json) : Except Refusal (Store size) := do
  checkRange store.limit address (.int 1)
  let low ← bits "&" value
  let place ← position "bytearray" address
  ((store.memory.writeByte place (UInt8.ofInt low)).map store.holding).mapError .ofCause

/-- Write the low eight bits of the items of a value to a range. -/
def writeValues (store : Store size) (address values : Json) : Except Refusal (Store size) := do
  let payload ← (← items values).mapM (bits "&")
  (writeBlock store.limit store.memory address (payload.map UInt8.ofInt)).map store.holding

/-- Write glyphs from address zero on. -/
def loadFont (store : Store size) (glyphs : List UInt8) : Except Refusal (Store size) := do
  checkRange store.limit (.int 0) (.int glyphs.length)
  ((store.memory.loadFont glyphs).map store.holding).mapError .ofCause

/-- Replace the whole contents by a program and the font. -/
def loadRom (store : Store size) (rom : List UInt8) : Except Refusal (Store size) := do
  let _ ← bits "-" store.limit
  ((store.memory.loadRom rom).map store.holding).mapError .ofCause

/-- The number of bytes. -/
def length (store : Store size) : Except Refusal Int :=
  integer store.limit

end Store

end ChipEight.Monitor
