import ChipEight.Fault

/-!
# Memory

A memory of `size` bytes.  Every access names a range of addresses and fails, without touching the
memory, unless the range lies inside it.
-/

namespace ChipEight

/-- A byte-addressed store. -/
structure Memory (size : Nat) where
  bytes : Vector UInt8 size
deriving DecidableEq

namespace Memory

variable {size : Nat}

/-- The number of bytes that a machine addresses. -/
abbrev capacity : Nat := 4096

/-- Where programs are loaded and start. -/
def programStart : Nat := 512

/-- The number of bytes from the program start to the end of a machine's memory. -/
def maxRomSize : Nat := 3584

/-- The glyphs of the sixteen hexadecimal digits, five rows each, four pixels wide. -/
def font : List UInt8 :=
  [ 0xF0, 0x90, 0x90, 0x90, 0xF0,
    0x20, 0x60, 0x20, 0x20, 0x70,
    0xF0, 0x10, 0xF0, 0x80, 0xF0,
    0xF0, 0x10, 0xF0, 0x10, 0xF0,
    0x90, 0x90, 0xF0, 0x10, 0x10,
    0xF0, 0x80, 0xF0, 0x10, 0xF0,
    0xF0, 0x80, 0xF0, 0x90, 0xF0,
    0xF0, 0x10, 0x20, 0x40, 0x40,
    0xF0, 0x90, 0xF0, 0x90, 0xF0,
    0xF0, 0x90, 0xF0, 0x10, 0xF0,
    0xF0, 0x90, 0xF0, 0x90, 0x90,
    0xE0, 0x90, 0xE0, 0x90, 0xE0,
    0xF0, 0x80, 0x80, 0x80, 0xF0,
    0xE0, 0x90, 0x90, 0x90, 0xE0,
    0xF0, 0x80, 0xF0, 0x80, 0xF0,
    0xF0, 0x80, 0xF0, 0x80, 0x80 ]

/-- The memory that holds zero everywhere. -/
def blank (size : Nat) : Memory size :=
  ⟨Vector.replicate size 0⟩

/-- The byte at an address; zero beyond the end. -/
def get (memory : Memory size) (address : Nat) : UInt8 :=
  memory.bytes[address]?.getD 0

/-- The bytes from the lowest address up. -/
def toList (memory : Memory size) : List UInt8 :=
  memory.bytes.toList

/-- The range of `count` addresses from `address` on lies inside a memory of `size` bytes. -/
def InRange (size : Nat) (address count : Int) : Prop :=
  0 ≤ address ∧ 0 ≤ count ∧ address + count ≤ size

instance (size : Nat) (address count : Int) : Decidable (InRange size address count) :=
  inferInstanceAs (Decidable (_ ∧ _ ∧ _))

/-- Fail unless a range lies inside the memory. -/
def checkRange (_memory : Memory size) (address count : Int) : Except Fault.Cause Unit :=
  if InRange size address count then .ok () else .error (.memoryOutOfBounds address count)

/-- Read one byte. -/
def readByte (memory : Memory size) (address : Int) : Except Fault.Cause UInt8 :=
  if InRange size address 1 then .ok (memory.get address.toNat)
  else .error (.memoryOutOfBounds address 1)

/-- The two bytes from an address on as a word, the high byte first. -/
def wordAt (memory : Memory size) (address : Nat) : UInt16 :=
  UInt16.ofNat (256 * (memory.get address).toNat + (memory.get (address + 1)).toNat)

/-- Read two bytes as a word. -/
def readWord (memory : Memory size) (address : Int) : Except Fault.Cause UInt16 :=
  if InRange size address 2 then .ok (memory.wordAt address.toNat)
  else .error (.memoryOutOfBounds address 2)

/-- Read a range of bytes. -/
def readBlock (memory : Memory size) (address count : Int) : Except Fault.Cause (List UInt8) :=
  if InRange size address count then
    .ok ((List.range count.toNat).map fun offset => memory.get (address.toNat + offset))
  else .error (.memoryOutOfBounds address count)

/-- Put bytes one after the other from an address on. -/
def overwrite (bytes : Vector UInt8 size) (address : Nat) : List UInt8 → Vector UInt8 size
  | [] => bytes
  | byte :: rest => overwrite (bytes.setIfInBounds address byte) (address + 1) rest

/-- Write a range of bytes. -/
def writeBlock (memory : Memory size) (address : Int) (payload : List UInt8) :
    Except Fault.Cause (Memory size) :=
  if InRange size address payload.length then
    .ok ⟨overwrite memory.bytes address.toNat payload⟩
  else .error (.memoryOutOfBounds address payload.length)

/-- Write one byte. -/
def writeByte (memory : Memory size) (address : Int) (byte : UInt8) :
    Except Fault.Cause (Memory size) :=
  memory.writeBlock address [byte]

/-- Write glyphs from address zero on. -/
def loadFont (memory : Memory size) (glyphs : List UInt8) : Except Fault.Cause (Memory size) :=
  memory.writeBlock 0 glyphs

/-- The greatest number of bytes that a program may have in a memory of `size` bytes. -/
def romLimit (size : Nat) : Int :=
  min (maxRomSize : Int) ((size : Int) - programStart)

/-- Replace the whole contents by a program at the program start and the font at zero.  A program
that is too large is refused before anything changes. -/
def loadRom (_memory : Memory size) (rom : List UInt8) : Except Fault.Cause (Memory size) :=
  if romLimit size < rom.length then
    .error (.romTooLarge rom.length (romLimit size))
  else
    match (blank size).writeBlock programStart rom with
    | .ok loaded => loaded.loadFont font
    | .error cause => .error cause

end Memory

end ChipEight
