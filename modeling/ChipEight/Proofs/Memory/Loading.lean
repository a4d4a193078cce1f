import ChipEight.Proofs.Memory

/-!
# Placing programs

A load wipes the memory and then writes to it twice, and each of the two writes checks its range.
The one test before them is enough for both, whatever the size of the memory: a program is refused
while nothing has been touched, or it is placed in full.

Loads in place are described by `inPlace`, where a step that fails leaves what the steps before it
have done.
-/

namespace ChipEight.Memory

variable {size : Nat}

@[simp]
theorem get_blank (address : Nat) : (blank size).get address = 0 := by
  simp only [get, blank, Vector.getElem?_replicate]
  split <;> rfl

theorem toList_eq_map_get (memory : Memory size) :
    memory.toList = (List.range size).map memory.get := by
  apply List.ext_getElem
  · simp [toList]
  · intro address inside _
    rw [List.getElem_map, List.getElem_range, get_of_lt memory (by simpa [toList] using inside)]
    rfl

/-! ## Loads in place -/

/-- Steps one after the other on one memory.  The first that fails ends them, and the memory stays
as the steps before it have left it. -/
def inPlace (memory : Memory size) :
    List (Memory size → Except Fault.Cause (Memory size)) →
      Memory size × Except Fault.Cause Unit
  | [] => (memory, .ok ())
  | step :: rest =>
      match step memory with
      | .ok after => after.inPlace rest
      | .error cause => (memory, .error cause)

theorem inPlace_cons_of_ok {memory after : Memory size}
    {step : Memory size → Except Fault.Cause (Memory size)} (done : step memory = .ok after)
    (rest : List (Memory size → Except Fault.Cause (Memory size))) :
    memory.inPlace (step :: rest) = after.inPlace rest := by
  rw [inPlace, done]

theorem inPlace_cons_of_error {memory : Memory size}
    {step : Memory size → Except Fault.Cause (Memory size)} {cause : Fault.Cause}
    (failed : step memory = .error cause)
    (rest : List (Memory size → Except Fault.Cause (Memory size))) :
    memory.inPlace (step :: rest) = (memory, .error cause) := by
  rw [inPlace, failed]

/-- Refuse a program that is too large. -/
def checkRom (rom : List UInt8) (memory : Memory size) : Except Fault.Cause (Memory size) :=
  if romLimit size < rom.length then .error (.romTooLarge rom.length (romLimit size))
  else .ok memory

/-- Put zero everywhere. -/
def wipe (_memory : Memory size) : Except Fault.Cause (Memory size) :=
  .ok (blank size)

/-- What a load does, step by step: look at the size, wipe the memory, write the program, write the
font. -/
def loadSteps (rom : List UInt8) : List (Memory size → Except Fault.Cause (Memory size)) :=
  [checkRom rom, wipe, fun memory => memory.writeBlock programStart rom,
    fun memory => memory.loadFont font]

/-! ## The two cases of a load -/

theorem loadRom_of_romLimit_lt (memory : Memory size) {rom : List UInt8}
    (tooLarge : romLimit size < rom.length) :
    memory.loadRom rom = .error (.romTooLarge rom.length (romLimit size)) := by
  rw [loadRom, if_pos tooLarge]

theorem inPlace_of_romLimit_lt (memory : Memory size) {rom : List UInt8}
    (tooLarge : romLimit size < rom.length) :
    memory.inPlace (loadSteps rom) =
      (memory, .error (.romTooLarge rom.length (romLimit size))) :=
  inPlace_cons_of_error (if_pos tooLarge) _

/-- The memory after a load: the font from zero on, the program from its start on. -/
def placed (size : Nat) (rom : List UInt8) : Memory size :=
  ⟨overwrite (overwrite (blank size).bytes programStart rom) 0 font⟩

section Fitting

variable {rom : List UInt8} (fits : (rom.length : Int) ≤ romLimit size)

include fits

/-- A program that is let in ends inside the memory, and the font ends before it starts. -/
theorem program_inside : programStart + rom.length ≤ size := by
  simp only [romLimit, programStart] at fits ⊢
  omega

theorem font_inside : 0 + font.length ≤ size := by
  have program := program_inside fits
  have short : font.length ≤ programStart := by decide
  omega

theorem writeBlock_program :
    (blank size).writeBlock programStart rom =
      .ok ⟨overwrite (blank size).bytes programStart rom⟩ :=
  writeBlock_of_le _ (program_inside fits)

theorem loadFont_program :
    (⟨overwrite (blank size).bytes programStart rom⟩ : Memory size).loadFont font =
      .ok (placed size rom) :=
  writeBlock_of_le _ (font_inside fits)

theorem loadRom_of_le_romLimit (memory : Memory size) :
    memory.loadRom rom = .ok (placed size rom) := by
  rw [loadRom, if_neg (Int.not_lt.mpr fits), writeBlock_program fits]
  exact loadFont_program fits

theorem inPlace_of_le_romLimit (memory : Memory size) :
    memory.inPlace (loadSteps rom) = (placed size rom, .ok ()) := by
  have accepted : checkRom rom memory = .ok memory := if_neg (Int.not_lt.mpr fits)
  have wiped : wipe memory = .ok (blank size) := rfl
  rw [loadSteps, inPlace_cons_of_ok accepted, inPlace_cons_of_ok wiped,
    inPlace_cons_of_ok (writeBlock_program fits), inPlace_cons_of_ok (loadFont_program fits)]
  rfl

/-- What a load leaves at an address: the font below 80, the program from 512 on, zero elsewhere. -/
theorem get_placed (address : Nat) :
    (placed size rom).get address =
      if address < 80 then font.getD address 0
      else if 512 ≤ address ∧ address < 512 + rom.length then rom.getD (address - 512) 0
      else 0 := by
  have glyphs : font.length = 80 := by decide
  have start : programStart = 512 := rfl
  rw [placed, get_overwrite _ (font_inside fits), if_pos (Nat.zero_le address), Nat.sub_zero,
    get_overwrite _ (program_inside fits), start]
  by_cases low : address < 80
  · rw [if_pos low, List.getD_eq_getElem?_getD, List.getElem?_eq_getElem (by omega)]
    rfl
  · rw [if_neg low, List.getElem?_eq_none (by omega), Option.getD_none]
    by_cases inProgram : 512 ≤ address ∧ address < 512 + rom.length
    · rw [if_pos inProgram, if_pos inProgram.1, List.getD_eq_getElem?_getD,
        List.getElem?_eq_getElem (by omega)]
      rfl
    · rw [if_neg inProgram]
      by_cases behind : 512 ≤ address
      · rw [if_pos behind, List.getElem?_eq_none (by omega), Option.getD_none]
        exact get_blank address
      · rw [if_neg behind]
        exact get_blank address

end Fitting

/-- Programs are placed exactly and as a whole, in memories of every size and with any contents.  A
program over the limit is refused, also in place, with the memory as it was.  Every other one is let
in, and the two writes after the wipe do not fail: the memory keeps its size and holds the font, the
program and zeros. -/
theorem rom_placed_or_refused (memory : Memory size) (rom : List UInt8) :
    (min 3584 ((size : Int) - 512) < rom.length →
      memory.loadRom rom = .error (.romTooLarge rom.length (min 3584 (size - 512))) ∧
        memory.inPlace (loadSteps rom) =
          (memory, .error (.romTooLarge rom.length (min 3584 (size - 512))))) ∧
      ((rom.length : Int) ≤ min 3584 ((size : Int) - 512) →
        ∃ loaded : Memory size, memory.loadRom rom = .ok loaded ∧
          memory.inPlace (loadSteps rom) = (loaded, .ok ()) ∧
          loaded.toList.length = size ∧
          loaded.toList = (List.range size).map fun address =>
            if address < 80 then font.getD address 0
            else if 512 ≤ address ∧ address < 512 + rom.length then rom.getD (address - 512) 0
            else 0) := by
  constructor
  · intro tooLarge
    exact ⟨memory.loadRom_of_romLimit_lt tooLarge, memory.inPlace_of_romLimit_lt tooLarge⟩
  · intro fits
    refine ⟨placed size rom, memory.loadRom_of_le_romLimit fits, memory.inPlace_of_le_romLimit fits,
      ?_, ?_⟩
    · rw [toList_eq_map_get, List.length_map, List.length_range]
    · rw [toList_eq_map_get]
      exact List.map_congr_left fun address _ => get_placed fits address

/-- A memory that ends with the program is filled to its last byte, and one byte more is refused. -/
theorem rom_placed_or_refused_brimful :
    ((2 : Int) ≤ min 3584 (514 - 512) ∧
        ∃ loaded : Memory 514, (blank 514).loadRom [0x12, 0x34] = .ok loaded ∧
          loaded.toList.length = 514) ∧
      min 3584 ((514 : Int) - 512) < 3 ∧
        (blank 514).inPlace (loadSteps [0x12, 0x34, 0x56]) =
          (blank 514, .error (.romTooLarge 3 2)) := by
  refine ⟨⟨by decide, ?_⟩, by decide, ?_⟩
  · obtain ⟨loaded, done, -, length, -⟩ :=
      (rom_placed_or_refused (blank 514) [0x12, 0x34]).2 (by decide)
    exact ⟨loaded, done, length⟩
  · exact ((rom_placed_or_refused (blank 514) [0x12, 0x34, 0x56]).1 (by decide)).2

end ChipEight.Memory
