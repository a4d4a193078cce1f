import ChipEight.Proofs.Memory
import ChipEight.Proofs.Registers
import ChipEight.Proofs.Screen.Packing

/-!
# Differences of snapshots

A snapshot shows a machine in packed form, and the difference of two snapshots is taken part by
part.  The main statement reads such a difference off the two machines: which fields it names and
with which values, which addresses it lists, and that it is empty exactly if the machines agree.
-/

namespace ChipEight

namespace Machine

/-- Two machines show the same state. -/
structure Agrees (first second : Machine) : Prop where
  v : ∀ k, first.v k = second.v k
  index : first.registers.index = second.registers.index
  pc : first.registers.pc = second.registers.pc
  stack : first.stack.toList = second.stack.toList
  phase : first.phase = second.phase
  instructionCount : first.instructionCount = second.instructionCount
  memory : ∀ address < 4096, first.memory.get address = second.memory.get address
  timer : first.timer.value = second.timer.value
  lit : ∀ x y, first.screen.lit.get x y = second.screen.lit.get x y
  pending : ∀ x y, first.screen.pending.get x y = second.screen.pending.get x y
  redraw : first.screen.redraw = second.screen.redraw
  held : first.keypad.held = second.keypad.held

/-- A field that a difference can name. -/
inductive Field where
  | v
  | index
  | pc
  | stack
  | phase
  | instructionCount
  | delay
  | held
deriving DecidableEq

namespace Field

/-- The fields of the processor, of the timers and of the keypad. -/
def cpu : List Field :=
  [.v, .index, .pc, .stack, .phase, .instructionCount]

@[inherit_doc cpu]
def timers : List Field :=
  [.delay]

@[inherit_doc cpu]
def keypad : List Field :=
  [.held]

/-- The name of a field. -/
def name : Field → String
  | .v => "cpu.v"
  | .index => "cpu.i"
  | .pc => "cpu.pc"
  | .stack => "cpu.stack"
  | .phase => "cpu.state"
  | .instructionCount => "cpu.instruction_count"
  | .delay => "timers.delay"
  | .held => "keypad.pressed_keys"

/-- The value of a field of a machine. -/
def value (machine : Machine) : Field → FieldValue
  | .v => .numbers (machine.registers.v.toList.map UInt8.toNat)
  | .index => .number machine.registers.index.toNat
  | .pc => .number machine.registers.pc.toNat
  | .stack => .numbers (machine.stack.toList.map UInt16.toNat)
  | .phase => .word machine.phase.name
  | .instructionCount => .number machine.instructionCount
  | .delay => .number machine.timer.value.toNat
  | .held => .numbers (machine.keypad.held.map Fin.val)

/-- Two machines differ in a field. -/
def Differs (first second : Machine) : Field → Prop
  | .v => ∃ k, first.v k ≠ second.v k
  | .index => first.registers.index ≠ second.registers.index
  | .pc => first.registers.pc ≠ second.registers.pc
  | .stack => first.stack.toList ≠ second.stack.toList
  | .phase => first.phase ≠ second.phase
  | .instructionCount => first.instructionCount ≠ second.instructionCount
  | .delay => first.timer.value ≠ second.timer.value
  | .held => first.keypad.held ≠ second.keypad.held

/-- A field with its values on two machines. -/
def change (first second : Machine) (field : Field) : FieldChange :=
  ⟨field.name, field.value first, field.value second⟩

/-- A list of changes names exactly the fields of a part in which two machines differ, each of them
once and with its values on both. -/
def Listed (first second : Machine) (part : List Field) (changes : List FieldChange) : Prop :=
  (changes.map FieldChange.name).Nodup ∧
    ∀ entry, entry ∈ changes ↔
      ∃ field ∈ part, field.Differs first second ∧ entry = field.change first second

end Field

end Machine

open Machine (Field)

namespace Snapshot

/-! ## Fields -/

theorem numbers_ne_iff {α : Type} {number : α → Nat}
    (injective : ∀ a b, number a = number b → a = b) (first second : List α) :
    FieldValue.numbers (first.map number) ≠ .numbers (second.map number) ↔ first ≠ second := by
  rw [ne_eq, FieldValue.numbers.injEq, List.map_inj_right injective]

theorem toList_v_ne_iff (first second : Machine) :
    first.registers.v.toList ≠ second.registers.v.toList ↔ ∃ k, first.v k ≠ second.v k := by
  rw [ne_eq, Vector.toList_inj, ← Classical.not_forall]
  apply not_congr
  constructor
  · intro same k
    simp only [Machine.v, Registers.get, same]
  · intro same
    apply Vector.ext
    intro k bound
    exact same ⟨k, bound⟩

/-- The values of a field are shown differently exactly if the machines differ in it. -/
theorem value_ne_iff (first second : Machine) (field : Field) :
    field.value first ≠ field.value second ↔ field.Differs first second := by
  cases field with
  | v =>
      exact (numbers_ne_iff (fun _ _ => UInt8.toNat_inj.mp) _ _).trans
        (toList_v_ne_iff first second)
  | stack => exact numbers_ne_iff (fun _ _ => UInt16.toNat_inj.mp) _ _
  | held => exact numbers_ne_iff (fun _ _ => Fin.ext) _ _
  | index | pc => simp [Field.value, Field.Differs, UInt16.toNat_inj]
  | delay => simp [Field.value, Field.Differs, UInt8.toNat_inj]
  | instructionCount => simp [Field.value, Field.Differs]
  | phase =>
      simp only [Field.value, Field.Differs]
      cases first.phase <;> cases second.phase <;> decide

/-- Fields of a machine under their names. -/
def shown (machine : Machine) (part : List Field) : List (String × FieldValue) :=
  part.map fun field => (field.name, field.value machine)

theorem mem_changedFields_iff (first second : Machine) (part : List Field) (entry : FieldChange) :
    entry ∈ changedFields (shown first part) (shown second part) ↔
      ∃ field ∈ part, field.value first ≠ field.value second ∧
        entry = field.change first second := by
  induction part with
  | nil => simp [shown, changedFields]
  | cons field rest ih =>
      simp only [shown, List.map_cons, changedFields] at ih ⊢
      split
      · rename_i same
        simp [ih, same]
      · rename_i differs
        simp [ih, differs, Field.change]

theorem names_changedFields (first second : Machine) (part : List Field) :
    List.Sublist ((changedFields (shown first part) (shown second part)).map FieldChange.name)
      (part.map Field.name) := by
  induction part with
  | nil => exact .slnil
  | cons field rest ih =>
      simp only [shown, List.map_cons, changedFields] at ih ⊢
      split
      · exact ih.cons _
      · exact ih.cons_cons _

theorem listed_changedFields (first second : Machine) {part : List Field}
    (distinct : (part.map Field.name).Nodup) :
    Field.Listed first second part (changedFields (shown first part) (shown second part)) := by
  constructor
  · exact (names_changedFields first second part).nodup distinct
  · intro entry
    simp only [mem_changedFields_iff, value_ne_iff]

/-- Nothing is listed exactly if the machines differ in none of the fields. -/
theorem isEmpty_iff_of_listed {first second : Machine} {part : List Field}
    {changes : List FieldChange} (listed : Field.Listed first second part changes) :
    changes.isEmpty = true ↔ ∀ field ∈ part, ¬ field.Differs first second := by
  rw [List.isEmpty_iff, List.eq_nil_iff_forall_not_mem]
  simp only [listed.2]
  constructor
  · intro unlisted field member differs
    exact unlisted _ ⟨field, member, differs, rfl⟩
  · rintro same entry ⟨field, member, differs, -⟩
    exact same field member differs

/-! ## Addresses -/

/-- The addresses at which two memories differ. -/
def differing (first second : Memory 4096) : List Nat :=
  (List.range 4096).filter fun address => first.get address != second.get address

theorem changedAddresses_eq (start : Nat) {before after : List UInt8}
    (lengths : before.length = after.length) :
    changedAddresses start before after =
      (List.range' start before.length).filter fun address =>
        before[address - start]? != after[address - start]? := by
  induction before generalizing start after with
  | nil => rfl
  | cons old before ih =>
      cases after with
      | nil => cases lengths
      | cons new after =>
          -- The addresses behind the first one are those of the rests, one place earlier in them.
          have later : (List.range' (start + 1) before.length).filter (fun address =>
              (old :: before)[address - start]? != (new :: after)[address - start]?) =
              changedAddresses (start + 1) before after := by
            rw [ih (start + 1) (Nat.succ.inj lengths)]
            apply List.filter_congr
            intro address member
            rw [List.mem_range'_1] at member
            obtain ⟨offset, rfl⟩ := Nat.exists_eq_add_of_le member.1
            rw [Nat.add_sub_cancel_left, Nat.add_assoc, Nat.add_sub_cancel_left,
              Nat.add_comm 1 offset, List.getElem?_cons_succ, List.getElem?_cons_succ]
          rw [List.length_cons, List.range'_succ, List.filter_cons, later, changedAddresses,
            Nat.sub_self]
          by_cases same : old = new
          · simp [same]
          · simp [same]

theorem changedAddresses_memory (first second : Memory 4096) :
    changedAddresses 0 first.toList second.toList = differing first second := by
  have lengths : first.toList.length = second.toList.length := by
    simp [Memory.toList]
  rw [changedAddresses_eq 0 lengths, differing, List.range_eq_range']
  have length : first.toList.length = 4096 := by simp [Memory.toList]
  rw [length]
  apply List.filter_congr
  intro address member
  have inside : address < 4096 := by simpa using (List.mem_range'_1.mp member).2
  rw [Memory.get_of_lt first inside, Memory.get_of_lt second inside, Memory.toList, Memory.toList,
    Nat.sub_zero, Vector.getElem?_toList, Vector.getElem?_toList,
    Vector.getElem?_eq_getElem inside, Vector.getElem?_eq_getElem inside]
  rfl

theorem pairwise_differing (first second : Memory 4096) :
    (differing first second).Pairwise (· < ·) :=
  List.Pairwise.filter _ List.pairwise_lt_range

theorem differing_eq_nil_iff (first second : Memory 4096) :
    differing first second = [] ↔
      ∀ address < 4096, first.get address = second.get address := by
  simp [differing, List.filter_eq_nil_iff]

theorem limited_some {n : Int} (least : 1 ≤ n) (list : List Nat) :
    limited (some n) list = list.take n.toNat := by
  rw [limited, if_neg (by omega)]

theorem limited_sublist (limit : Option Int) (list : List Nat) :
    List.Sublist (limited limit list) list := by
  cases limit with
  | none => exact List.Sublist.refl list
  | some n =>
      simp only [limited]
      split <;> exact List.take_sublist _ list

/-- A limit of at least one entry hides no difference altogether. -/
theorem limited_eq_nil_iff {limit : Option Int} (positive : ∀ n, limit = some n → 1 ≤ n)
    (list : List Nat) : limited limit list = [] ↔ list = [] := by
  cases limit with
  | none => rfl
  | some n =>
      have least := positive n rfl
      rw [limited_some least, List.take_eq_nil_iff]
      constructor
      · rintro (none | empty)
        · omega
        · exact empty
      · exact .inr

/-! ## Screens -/

theorem screen_eq_iff (first second : Machine) :
    first.snapshot.screen = second.snapshot.screen ↔
      (∀ x y, first.screen.lit.get x y = second.screen.lit.get x y) ∧
      (∀ x y, first.screen.pending.get x y = second.screen.pending.get x y) ∧
      first.screen.redraw = second.screen.redraw := by
  have bits : ∀ {one other : Grid 64 32}, one = other ↔ ∀ x y, one.get x y = other.get x y :=
    ⟨fun same x y => by rw [same], Grid.ext_get⟩
  simp only [Machine.snapshot, ScreenState.mk.injEq, Grid.packed_inj, bits]

/-! ## The whole difference -/

/-- Two machines agree if they differ in no field, at no address and nowhere on the screen. -/
theorem agrees_iff (first second : Machine) :
    first.Agrees second ↔
      (∀ field ∈ Field.cpu, ¬ field.Differs first second) ∧
      (∀ field ∈ Field.timers, ¬ field.Differs first second) ∧
      (∀ field ∈ Field.keypad, ¬ field.Differs first second) ∧
      differing first.memory second.memory = [] ∧
      first.snapshot.screen = second.snapshot.screen := by
  rw [differing_eq_nil_iff, screen_eq_iff]
  simp only [Field.cpu, Field.timers, Field.keypad, List.forall_mem_cons, Field.Differs,
    List.not_mem_nil, false_implies, implies_true, and_true, not_exists, Classical.not_not]
  constructor
  · rintro ⟨v, index, pc, stack, phase, count, memory, timer, lit, pending, redraw, held⟩
    exact ⟨⟨v, index, pc, stack, phase, count⟩, timer, held, memory, lit, pending, redraw⟩
  · rintro ⟨⟨v, index, pc, stack, phase, count⟩, timer, held, memory, lit, pending, redraw⟩
    exact ⟨v, index, pc, stack, phase, count, memory, timer, lit, pending, redraw, held⟩

/-- The difference of the snapshots of two machines is empty exactly if the machines agree.  It
lists the addresses at which their memories differ, in ascending order and up to the limit, and the
fields in which they differ, with the values of both. -/
theorem snapshot_diff_exact (first second : Machine) (limit : Option Int)
    (positive : ∀ n, limit = some n → 1 ≤ n) :
    let change := first.snapshot.diff second.snapshot limit
    (change.isEmpty = true ↔ first.Agrees second) ∧
      change.memory.Pairwise (· < ·) ∧
      (limit = none → change.memory = differing first.memory second.memory) ∧
      (∀ n, limit = some n →
        change.memory = (differing first.memory second.memory).take n.toNat) ∧
      Field.Listed first second Field.cpu change.cpu ∧
      Field.Listed first second Field.timers change.timers ∧
      Field.Listed first second Field.keypad change.keypad := by
  intro change
  have cpu : Field.Listed first second Field.cpu change.cpu :=
    listed_changedFields first second (by decide)
  have timers : Field.Listed first second Field.timers change.timers :=
    listed_changedFields first second (by decide)
  have keypad : Field.Listed first second Field.keypad change.keypad :=
    listed_changedFields first second (by decide)
  have memory : change.memory = limited limit (differing first.memory second.memory) :=
    congrArg (limited limit) (changedAddresses_memory first.memory second.memory)
  have screen : (!change.screen) = true ↔ first.snapshot.screen = second.snapshot.screen := by
    simp [change, diff]
  constructor
  · simp only [StateChange.isEmpty, Bool.and_eq_true, isEmpty_iff_of_listed cpu,
      isEmpty_iff_of_listed timers, isEmpty_iff_of_listed keypad, screen, memory,
      List.isEmpty_iff, limited_eq_nil_iff positive, agrees_iff, and_assoc]
  constructor
  · rw [memory]
    exact (pairwise_differing first.memory second.memory).sublist (limited_sublist limit _)
  constructor
  · rintro rfl
    exact memory
  constructor
  · rintro n rfl
    rw [memory, limited_some (positive n rfl)]
  exact ⟨cpu, timers, keypad⟩

/-- A limit of two cuts the listing of three altered bytes, and the machines do not agree. -/
theorem snapshot_diff_exact_altered :
    let first := Machine.create {} (RandomSource.cycling #[])
    let second :=
      { first with
        phase := .halted
        memory := ⟨Memory.overwrite first.memory.bytes 0x200 [1, 2, 3]⟩ }
    (first.snapshot.diff second.snapshot (some 2)).memory =
        (differing first.memory second.memory).take 2 ∧
      ¬ first.Agrees second := by
  intro first second
  have exact := snapshot_diff_exact first second (some 2) (by rintro n ⟨⟩; decide)
  constructor
  · exact exact.2.2.2.1 2 rfl
  · rw [← exact.1]
    decide +kernel

end Snapshot

end ChipEight
